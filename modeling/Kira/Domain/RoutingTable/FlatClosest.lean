import Kira.Domain.RoutingTable.FlatInvariant

/-!
# The search for the closest contacts

`closest` visits the buckets group by group: the target's own bucket, the other buckets of its level
with the deeper levels as one of them, and then level after level upwards.  It stops after the first
group with which it has enough.

* **No assertion fails and no index is out of range** (`closest_selected`): the groups, which are
  computations, all return, and `groups` is the list of what they return.
* **The groups are all the valid contacts** (`groups_flatten_perm`), each bucket once.
* **The groups come in the order of the shared prefix with the target** (`groups_pairwise`).  For
  the buckets of the target's level this is the order of the sorted offsets, which compares the
  leading digits of the distances; the deeper levels all have the same leading digits; and on the
  levels above, the first digit that differs from the target's comes earlier and earlier.

Only the last part needs the table to be tidy.  Together they give `closest_answer`: what the search
returns answers the query.
-/

set_option autoImplicit false

namespace Kira

open Run XorMetric

namespace FlatRoutingTable

variable {k acc : Nat}

/-! ## Where the search starts -/

theorem firstBucketOnLevel_eq (index : Nat) :
    firstBucketOnLevel acc index = index / levelWidth acc * levelWidth acc := by
  have h := Nat.div_add_mod index (levelWidth acc)
  rw [firstBucketOnLevel, Nat.mul_comm]
  omega

section Search

variable (self : FlatRoutingTable k acc) (target : NodeId) (g : Nat)

theorem search_targetLevelStartIndex :
    (self.search target g).targetLevelStartIndex =
      (self.search target g).targetLevel * levelWidth acc := by
  have hw := levelWidth_pos self.acc_pos
  simp only [search, firstBucketOnLevel_eq, Nat.mul_div_cancel _ hw]

theorem search_targetLevel :
    (self.search target g).targetLevel = self.getBucketIndex target / levelWidth acc := by
  have hw := levelWidth_pos self.acc_pos
  simp only [search, firstBucketOnLevel_eq, Nat.mul_div_cancel _ hw]

theorem search_targetBucketIndex :
    (self.search target g).targetLevel * levelWidth acc ≤ self.getBucketIndex target ∧
      self.getBucketIndex target < ((self.search target g).targetLevel + 1) * levelWidth acc := by
  have hw := levelWidth_pos self.acc_pos
  rw [search_targetLevel, Nat.succ_mul]
  exact ⟨Nat.div_mul_le_self _ _, Nat.lt_div_mul_add hw⟩

theorem search_targetLevel_le : (self.search target g).targetLevel ≤ self.levels := by
  have hlt := self.getBucketIndex_lt target
  have hnum := self.numBuckets_eq
  have hw := levelWidth_pos self.acc_pos
  rw [numBuckets] at hnum
  rw [search_targetLevel]
  exact Nat.le_of_lt_succ ((Nat.div_lt_iff_lt_mul hw).2 (by rw [Nat.succ_mul]; omega))

theorem search_targetLevel_lt (h : self.getBucketIndex target ≠ self.buckets.length - 1) :
    (self.search target g).targetLevel < self.levels := by
  have hle := self.search_targetLevel_le target g
  have hidx := (self.search_targetBucketIndex target g).1
  have hlt := self.getBucketIndex_lt target
  have hnum := self.numBuckets_eq
  rw [numBuckets] at hnum
  rcases Nat.lt_or_eq_of_le hle with hl | heq
  · exact hl
  · rw [heq] at hidx
    omega

theorem digits_target_eq_zero {l : Nat} (h : l ≤ (self.search target g).targetLevel) :
    self.digits l target = 0 := by
  have hle := h.trans (self.search_targetLevel_le target g)
  rw [digits_eq_zero_iff_le_index self hle]
  exact (Nat.mul_le_mul_right _ h).trans (self.search_targetBucketIndex target g).1

end Search

/-! ## The groups return -/

theorem levelContent_eq (s : Search) (level offset : Nat) (buckets : List (Bucket k))
    (h : ∀ j < buckets.length, level * levelWidth acc + (offset + j) ≠ s.targetBucketIndex) :
    levelContent acc s level offset buckets = .ok (buckets.flatMap s.validOf) := by
  induction buckets generalizing offset with
  | nil => rfl
  | cons b buckets ih =>
    have h0 := h 0 (by simp)
    have hrest : ∀ j < buckets.length,
        level * levelWidth acc + (offset + 1 + j) ≠ s.targetBucketIndex := by
      intro j hj
      have := h (j + 1) (by simpa using hj)
      rwa [Nat.add_assoc, Nat.add_comm 1 j]
    rw [levelContent, ih (offset + 1) hrest, assert_of (by simpa using h0)]
    rfl

def deeperContents (self : FlatRoutingTable k acc) (s : Search) : List (List PrefixContact) :=
  (Iter.chunks (levelWidth acc)
    (self.buckets.drop (s.targetLevelStartIndex + levelWidth acc))).map
      fun buckets ↦ buckets.flatMap s.validOf

def contentsAbove (self : FlatRoutingTable k acc) (s : Search) : List (List PrefixContact) :=
  (Iter.rchunksExact (levelWidth acc) (self.buckets.take s.targetLevelStartIndex)).map
    fun buckets ↦ buckets.flatMap s.validOf

def contentsFromLevel (self : FlatRoutingTable k acc) (s : Search) (offsets : List (Nat × Nat)) :
    List (List PrefixContact) :=
  offsets.flatMap fun offset ↦
    if offset.1 = levelWidth acc then self.deeperContents s
    else [(self.buckets[s.targetLevelStartIndex + offset.1]?).toList.flatMap s.validOf]

section Groups

variable (self : FlatRoutingTable k acc) (target : NodeId) (g : Nat)

/-- The source collects the last bucket apart only under a condition that no table meets. -/
theorem last_not_on_level (level : Nat) :
    ¬ (level * levelWidth acc + 1 = self.buckets.length - 1 ∧ acc > 1) := by
  rintro ⟨heq, hacc⟩
  have hnum := self.numBuckets_eq
  rw [numBuckets] at hnum
  have hw : 3 ≤ levelWidth acc := by
    have := Nat.pow_le_pow_right (show 0 < 2 by decide) hacc
    simp only [levelWidth]
    omega
  rw [hnum, Nat.add_sub_cancel] at heq
  have h1 := congrArg (· % levelWidth acc) heq
  simp only [Nat.mul_mod_left] at h1
  rw [Nat.add_comm, Nat.add_mul_mod_self_right, Nat.mod_eq_of_lt (by omega)] at h1
  omega

theorem deeperGroups_eq :
    self.deeperGroups (self.search target g) =
      (self.deeperContents (self.search target g)).map Run.ok := by
  have hidx := (self.search_targetBucketIndex target g).2
  rw [deeperGroups, deeperContents, List.map_map]
  apply Iter.map_zipIdx_of_forall
  rintro ⟨buckets, j⟩ -
  have hlevel : ∀ i < buckets.length,
      ((self.search target g).targetLevel + j + 1) * levelWidth acc + (0 + i) ≠
        (self.search target g).targetBucketIndex := by
    intro i _ heq
    have : ((self.search target g).targetLevel + 1) * levelWidth acc ≤
        ((self.search target g).targetLevel + j + 1) * levelWidth acc :=
      Nat.mul_le_mul_right _ (by omega)
    have htarget : (self.search target g).targetBucketIndex = self.getBucketIndex target := rfl
    omega
  have hlast := self.last_not_on_level ((self.search target g).targetLevel + j + 1)
  simp only [deeperGroup, levelContent_eq _ _ _ _ hlevel, ok_bind]
  rw [if_neg (fun h ↦ hlast ⟨h.1, h.2.2⟩)]
  rfl

theorem groupsAbove_eq :
    self.groupsAbove (self.search target g) =
      (self.contentsAbove (self.search target g)).map Run.ok := by
  have hidx := (self.search_targetBucketIndex target g).1
  have hlt := self.getBucketIndex_lt target
  have hw := levelWidth_pos self.acc_pos
  rw [groupsAbove, contentsAbove, List.map_map]
  apply Iter.map_zipIdx_of_forall
  rintro ⟨buckets, j⟩ hmem
  obtain ⟨hj, hbuckets⟩ := Iter.of_mem_zipIdx_rchunksExact hmem
  rw [search_targetLevelStartIndex, List.length_take, Nat.min_eq_left (by omega),
    Nat.mul_div_cancel _ hw] at hj
  have hlen : buckets.length ≤ levelWidth acc := by
    rw [hbuckets]
    exact List.length_take_le _ _
  refine levelContent_eq _ _ _ _ ?_
  intro i hi heq
  have hstep : ((self.search target g).targetLevel - j - 1) * levelWidth acc + levelWidth acc ≤
      (self.search target g).targetLevel * levelWidth acc := by
    rw [← Nat.succ_mul]
    exact Nat.mul_le_mul_right _ (by omega)
  have htarget : (self.search target g).targetBucketIndex = self.getBucketIndex target := rfl
  omega

theorem bits_eq_digit {l : Nat} (h : (l + 1) * acc ≤ NodeId.BITS) (x : NodeId) :
    x.bits (NodeId.BITS - (l + 1) * acc) acc = some (digit (l * acc) acc x) := by
  have hle : ¬ NodeId.BITS - (l + 1) * acc + acc > NodeId.BITS := by
    rw [Nat.succ_mul] at h ⊢
    omega
  rw [NodeId.bits, if_neg hle, digit, top, Nat.shiftRight_eq_div_pow, Nat.succ_mul]

theorem offsetsAtLevel_eq (h : self.getBucketIndex target ≠ self.buckets.length - 1) :
    self.offsetsAtLevel (self.search target g) =
      .ok (sortedOffsets acc (self.digits ((self.search target g).targetLevel + 1) target)) := by
  have hl := self.search_targetLevel_lt target g h
  have hb := self.levels_mul_le hl
  have hzero := self.digits_target_eq_zero target g (Nat.le_refl _)
  rw [offsetsAtLevel, if_pos hb, expect_some, ok_bind, bits_eq_digit hb, expect_some,
    ok_bind]
  have htarget : (self.search target g).target = target := rfl
  rw [htarget, bits_eq_digit hb, expect_some, ok_bind, ← digit_xor,
    digits_succ self hb, hzero]
  simp

end Groups

/-! ## The order of the offsets -/

theorem mem_sortedOffsets {d : Nat} {p : Nat × Nat} :
    p ∈ sortedOffsets acc d ↔ p.1 ≤ levelWidth acc ∧ p.2 = (levelWidth acc - p.1) ^^^ d := by
  rw [sortedOffsets, List.mem_insertionSort, List.mem_map]
  constructor
  · rintro ⟨off, hoff, rfl⟩
    exact ⟨Nat.le_of_lt_succ (List.mem_range.1 hoff), rfl⟩
  · rintro ⟨hle, heq⟩
    exact ⟨p.1, List.mem_range.2 (Nat.lt_succ_of_le hle), by rw [← heq]⟩

theorem xor_right_inj {a b d : Nat} (h : a ^^^ d = b ^^^ d) : a = b := by
  have := congrArg (· ^^^ d) h
  simpa [Nat.xor_assoc] using this

/-- **The offsets come in strictly increasing distance to the target.** -/
theorem sortedOffsets_pairwise (acc d : Nat) :
    (sortedOffsets acc d).Pairwise fun p q ↦ p.2 < q.2 := by
  have hsorted : (sortedOffsets acc d).Pairwise fun p q ↦ p.2 ≤ q.2 := by
    have : Std.Total fun p q : Nat × Nat ↦ p.2 ≤ q.2 := ⟨fun p q ↦ Nat.le_total p.2 q.2⟩
    have : IsTrans (Nat × Nat) fun p q ↦ p.2 ≤ q.2 := ⟨fun _ _ _ ↦ Nat.le_trans⟩
    exact List.pairwise_insertionSort _ _
  have hne : (sortedOffsets acc d).Pairwise fun p q ↦ p.2 ≠ q.2 := by
    rw [← List.pairwise_map (f := Prod.snd) (R := (· ≠ ·))]
    refine (((List.perm_insertionSort _ _).map Prod.snd).nodup_iff).2 ?_
    rw [List.map_map]
    refine List.Nodup.map_on ?_ List.nodup_range
    intro x hx y hy hxy
    have := xor_right_inj hxy
    have hx' := List.mem_range.1 hx
    have hy' := List.mem_range.1 hy
    omega
  exact (hsorted.and hne).imp fun h ↦ Nat.lt_of_le_of_ne h.1 h.2

theorem sortedOffsets_head? {d : Nat} (h : d ≤ levelWidth acc) :
    (sortedOffsets acc d).head? = some (levelWidth acc - d, 0) := by
  have hmem : (levelWidth acc - d, 0) ∈ sortedOffsets acc d := by
    rw [mem_sortedOffsets]
    refine ⟨Nat.sub_le _ _, ?_⟩
    rw [Nat.sub_sub_self h, Nat.xor_self]
  have hpw := sortedOffsets_pairwise acc d
  cases hs : sortedOffsets acc d with
  | nil => simp [hs] at hmem
  | cons p rest =>
    rw [hs] at hmem hpw
    rcases List.mem_cons.1 hmem with heq | hm
    · rw [List.head?_cons, heq]
    · exact absurd ((List.pairwise_cons.1 hpw).1 _ hm) (Nat.not_lt_zero _)

/-! ## What a search comes down to -/

/-- The contents of the buckets in the order in which the search for a target visits them. -/
def groups (self : FlatRoutingTable k acc) (target : NodeId) (g : Nat) :
    List (List PrefixContact) :=
  let s := self.search target g
  (if self.getBucketIndex target = self.buckets.length - 1 then [s.validOf (self.bucket target)]
    else self.contentsFromLevel s
      (sortedOffsets acc (self.digits (s.targetLevel + 1) target))) ++ self.contentsAbove s

theorem groupsFromLevel_eq (self : FlatRoutingTable k acc) (target : NodeId) (g : Nat)
    (h : self.getBucketIndex target ≠ self.buckets.length - 1) (d : Nat) :
    self.groupsFromLevel (self.search target g) (sortedOffsets acc d) =
      (self.contentsFromLevel (self.search target g) (sortedOffsets acc d)).map Run.ok := by
  have hl := self.search_targetLevel_lt target g h
  have hnum := self.numBuckets_eq
  rw [numBuckets] at hnum
  rw [groupsFromLevel, contentsFromLevel, List.map_flatMap]
  apply List.flatMap_congr
  rintro ⟨off, key⟩ hmem
  have hoff := (mem_sortedOffsets.1 hmem).1
  by_cases heq : off = levelWidth acc
  · simp only [heq, if_true]
    exact self.deeperGroups_eq target g
  · simp only [heq, if_false, List.map_cons, List.map_nil]
    have hlt : (self.search target g).targetLevelStartIndex + off < self.buckets.length := by
      have hmul : ((self.search target g).targetLevel + 1) * levelWidth acc ≤
          self.levels * levelWidth acc := Nat.mul_le_mul_right _ hl
      rw [Nat.succ_mul] at hmul
      rw [search_targetLevelStartIndex]
      simp only at hoff
      omega
    rw [List.getElem?_eq_getElem hlt]
    simp

/-- `res` comes from a first part of the groups: without the last group taken there was not enough,
and what was not taken was not needed.  The contents of the groups taken are returned in order; if
only one group was taken, possibly cut down to the first `n`. -/
def SelectedFrom (groups : List (List PrefixContact)) (n : Nat) (res : List PrefixContact) : Prop :=
  ∃ taken rest full, groups = taken ++ rest ∧
    (rest ≠ [] → n ≤ taken.flatten.length) ∧
    (∀ init last, taken = init ++ [last] → init ≠ [] → init.flatten.length < n) ∧
    full.Perm taken.flatten ∧ full.Pairwise sorterXor ∧
    (res = full ∨ (taken.length = 1 ∧ res = full.take n))

section Selected

variable (self : FlatRoutingTable k acc) (target : NodeId) (n : Nat) {g : NonZeroU8}
  (hg : g.get ≤ NodeId.BITS)

theorem search_start_mod :
    ((self.search target g.get).targetLevelStartIndex % levelWidth acc == 0) = true := by
  rw [search_targetLevelStartIndex, Nat.mul_mod_left]
  rfl

include hg

theorem closest_of_last (hlast : self.getBucketIndex target = self.buckets.length - 1) :
    ∃ res, self.closest target n g = .ok (.ok res) ∧
      SelectedFrom (self.groups target g.get) n res := by
  have htarget : (self.search target g.get).targetBucketIndex = self.getBucketIndex target := rfl
  have hgroups : self.groups target g.get =
      (self.search target g.get).validOf (self.bucket target) ::
        self.contentsAbove (self.search target g.get) := by
    rw [groups, if_pos hlast]
    rfl
  rw [closest, NodeId.sharedPrefixLen_of_le _ _ hg]
  simp only [assert_of (self.search_start_mod target), ok_bind, htarget, hlast, if_true]
  rw [← hlast, buckets_getBucketIndex, expect_some, ok_bind]
  generalize hb : (self.search target g.get).validOf (self.bucket target) = content at hgroups ⊢
  have hperm := sortXor_perm content
  by_cases hstop : n ≤ ((sortXor content).take n).length ∨ self.buckets.length = 1
  · rw [if_pos hstop]
    refine ⟨_, rfl, [content], self.contentsAbove (self.search target g.get), sortXor content,
      hgroups, ?_, ?_, by simpa using hperm, sortXor_pairwise content, .inr ⟨rfl, rfl⟩⟩
    · intro hrest
      rcases hstop with hn | hone
      · rw [List.length_take, hperm.length_eq] at hn
        simp only [List.flatten_cons, List.flatten_nil, List.append_nil]
        omega
      · -- a single bucket has no levels above it
        refine absurd ?_ hrest
        have h0 : self.getBucketIndex target = 0 := by omega
        have hs : (self.search target g.get).targetLevelStartIndex = 0 := by
          rw [search_targetLevelStartIndex, search_targetLevel, h0, Nat.zero_div, Nat.zero_mul]
        simp [contentsAbove, Iter.rchunksExact, hs]
    · intro init last heq hne
      cases init with
      | nil => exact absurd rfl hne
      | cons => simp at heq
  · rw [if_neg hstop, not_or] at *
    have hlen : content.length < n := by
      have := hstop.1
      rw [List.length_take, hperm.length_eq] at this
      omega
    have hall : (sortXor content).take n = sortXor content :=
      List.take_of_length_le (by rw [hperm.length_eq]; exact Nat.le_of_lt hlen)
    obtain ⟨taken, rest, hsplit, hcol, henough, hbefore⟩ :=
      Iter.collect_ok n (self.contentsAbove (self.search target g.get)) (sortXor content)
    have hp : (sortXor content ++ taken.flatten).Perm (content ++ taken.flatten) :=
      hperm.append_right _
    rw [hall, groupsAbove_eq, hcol, ok_bind]
    refine ⟨_, rfl, content :: taken, rest, _, by rw [hgroups, hsplit]; rfl, ?_, ?_,
      (sortXor_perm _).trans hp, sortXor_pairwise _, .inl rfl⟩
    · intro hrest
      have := henough hrest
      rwa [hp.length_eq] at this
    · intro init last heq hne
      cases init with
      | nil => exact absurd rfl hne
      | cons c init =>
        rw [List.cons_append, List.cons.injEq] at heq
        obtain ⟨rfl, heq⟩ := heq
        by_cases hinit : init = []
        · subst hinit
          simpa using hlen
        · have := hbefore init last heq hinit
          rw [List.length_append, hperm.length_eq] at this
          simpa using this

theorem closest_of_not_last (hlast : self.getBucketIndex target ≠ self.buckets.length - 1) :
    ∃ res, self.closest target n g = .ok (.ok res) ∧
      SelectedFrom (self.groups target g.get) n res := by
  have htarget : (self.search target g.get).targetBucketIndex = self.getBucketIndex target := rfl
  have hgroups : self.groups target g.get =
      self.contentsFromLevel (self.search target g.get) (sortedOffsets acc
        (self.digits ((self.search target g.get).targetLevel + 1) target)) ++
        self.contentsAbove (self.search target g.get) := by
    rw [groups, if_neg hlast]
  have hl := self.search_targetLevel_lt target g.get hlast
  obtain ⟨hlo, hhi⟩ := self.search_targetBucketIndex target g.get
  rw [Nat.succ_mul] at hhi
  -- the first of the sorted offsets is the target's own
  have hd : self.digits ((self.search target g.get).targetLevel + 1) target =
      levelWidth acc -
        (self.getBucketIndex target - (self.search target g.get).targetLevel * levelWidth acc) := by
    rw [← getBucketIndex_eq_iff self hl (by omega)]
    omega
  have hfirst : (self.search target g.get).targetLevel * levelWidth acc +
      (levelWidth acc - self.digits ((self.search target g.get).targetLevel + 1) target) =
        self.getBucketIndex target := by
    rw [hd]
    omega
  rw [closest, NodeId.sharedPrefixLen_of_le _ _ hg]
  simp only [assert_of (self.search_start_mod target), ok_bind, htarget, hlast, if_false]
  rw [offsetsAtLevel_eq self target g.get hlast, ok_bind,
    sortedOffsets_head? (by rw [hd]; exact Nat.sub_le _ _), expect_some, ok_bind,
    assert_of (by simpa using hfirst), ok_bind, groupsAbove_eq,
    groupsFromLevel_eq self target g.get hlast, ← List.map_append, ← hgroups]
  obtain ⟨taken, rest, hsplit, hcol, henough, hbefore⟩ :=
    Iter.collect_ok n (self.groups target g.get) []
  rw [hcol, ok_bind]
  exact ⟨_, rfl, taken, rest, _, hsplit, by simpa using henough, by simpa using hbefore,
    sortXor_perm _, sortXor_pairwise _, .inl rfl⟩

/-- **What a search returns** comes from a first part of the groups, for a grouping that is
accepted. -/
theorem closest_selected :
    ∃ res, self.closest target n g = .ok (.ok res) ∧
      SelectedFrom (self.groups target g.get) n res := by
  by_cases hlast : self.getBucketIndex target = self.buckets.length - 1
  · exact self.closest_of_last target n hg hlast
  · exact self.closest_of_not_last target n hg hlast

end Selected

/-! ## The groups are all the valid contacts -/

theorem candidatesOf_iter (self : FlatRoutingTable k acc) (target : NodeId) (g : Nat) :
    candidatesOf self.iter target g = self.buckets.flatMap (self.search target g).validOf := by
  rw [candidatesOf, iter, List.filter_flatMap, List.map_flatMap]
  rfl

theorem contentsAbove_flatten_perm (self : FlatRoutingTable k acc) (target : NodeId) (g : Nat) :
    (self.contentsAbove (self.search target g)).flatten.Perm
      ((self.buckets.take (self.search target g).targetLevelStartIndex).flatMap
        (self.search target g).validOf) := by
  rw [contentsAbove, Iter.flatten_map_flatMap]
  refine (Iter.rchunksExact_flatten_perm ?_).flatMap_right _
  have hidx := (self.search_targetBucketIndex target g).1
  have hlt := self.getBucketIndex_lt target
  rw [search_targetLevelStartIndex, List.length_take, Nat.min_eq_left (by omega)]
  exact Nat.dvd_mul_left _ _

theorem contentsFromLevel_flatten_perm (self : FlatRoutingTable k acc) (s : Search) (d : Nat) :
    (self.contentsFromLevel s (sortedOffsets acc d)).flatten.Perm
      ((self.buckets.drop s.targetLevelStartIndex).flatMap s.validOf) := by
  have hw := levelWidth_pos self.acc_pos
  have hdeeper : (self.deeperContents s).flatten =
      (self.buckets.drop (s.targetLevelStartIndex + levelWidth acc)).flatMap s.validOf := by
    rw [deeperContents, Iter.flatten_map_flatMap, Iter.chunks_flatten hw]
  have hlevel : ((List.range (levelWidth acc)).flatMap fun off ↦
      (self.buckets[s.targetLevelStartIndex + off]?).toList.flatMap s.validOf) =
        ((self.buckets.drop s.targetLevelStartIndex).take (levelWidth acc)).flatMap s.validOf := by
    rw [← Iter.flatMap_range_getElem?]
    simp only [List.getElem?_drop]
  rw [contentsFromLevel, Iter.flatten_flatMap, sortedOffsets]
  refine ((List.perm_insertionSort _ _).flatMap_right _).trans ?_
  rw [List.flatMap_map, List.range_succ, List.flatMap_append]
  simp only [List.flatMap_cons, List.flatMap_nil, List.append_nil, if_true, hdeeper]
  rw [← List.drop_drop, ← List.take_append_drop (levelWidth acc)
    (self.buckets.drop s.targetLevelStartIndex), List.flatMap_append, List.take_append_drop,
    ← hlevel]
  refine List.Perm.append_right _ (List.Perm.of_eq (List.flatMap_congr ?_))
  intro off hoff
  have hne : off ≠ levelWidth acc := Nat.ne_of_lt (List.mem_range.1 hoff)
  simp [hne]

/-- **Every bucket is visited once.** -/
theorem groups_flatten_perm (self : FlatRoutingTable k acc) (target : NodeId) (g : Nat) :
    (self.groups target g).flatten.Perm (candidatesOf self.iter target g) := by
  rw [candidatesOf_iter, groups, List.flatten_append]
  conv =>
    rhs
    rw [← List.take_append_drop (self.search target g).targetLevelStartIndex self.buckets]
  rw [List.flatMap_append]
  refine List.perm_append_comm.trans ((self.contentsAbove_flatten_perm target g).append ?_)
  by_cases h : self.getBucketIndex target = self.buckets.length - 1
  · rw [if_pos h]
    -- the last bucket is a level of its own
    have hw := levelWidth_pos self.acc_pos
    have hnum := self.numBuckets_eq
    rw [numBuckets] at hnum
    have hstart : (self.search target g).targetLevelStartIndex = self.getBucketIndex target := by
      rw [search_targetLevelStartIndex, search_targetLevel, h, hnum, Nat.add_sub_cancel,
        Nat.mul_div_cancel _ hw]
    have hlt := self.getBucketIndex_lt target
    have hrest : self.buckets.drop (self.getBucketIndex target + 1) = [] :=
      List.drop_of_length_le (by omega)
    have hb := buckets_getBucketIndex self target
    rw [List.getElem?_eq_getElem hlt] at hb
    rw [hstart, List.drop_eq_getElem_cons hlt, hrest, Option.some.inj hb]
    simp
  · rw [if_neg h]
    exact self.contentsFromLevel_flatten_perm _ _

/-- A search returns valid contacts with their shared prefix, and only for a grouping that is
accepted. -/
theorem mem_closest {self : FlatRoutingTable k acc} {target : NodeId} {n : Nat} {g : NonZeroU8}
    {res : List PrefixContact} (h : self.closest target n g = .ok (.ok res)) :
    g.get ≤ NodeId.BITS ∧ ∀ x ∈ res, x ∈ candidatesOf self.iter target g.get := by
  by_cases hg : g.get ≤ NodeId.BITS
  · refine ⟨hg, fun x hx ↦ ?_⟩
    obtain ⟨res', hres, taken, rest, full, hgroups, -, -, hperm, -, hfull⟩ :=
      self.closest_selected target n hg
    obtain rfl : res = res' := Except.ok.inj (ok.inj (h.symm.trans hres))
    rw [← (self.groups_flatten_perm target g.get).mem_iff, hgroups, List.flatten_append]
    refine List.mem_append_left _ (hperm.mem_iff.1 ?_)
    rcases hfull with rfl | ⟨-, rfl⟩
    · exact hx
    · exact List.mem_of_mem_take hx
  · rw [closest, NodeId.sharedPrefixLen_of_lt _ _ (Nat.not_le.1 hg)] at h
    simp at h

/-! ## The groups come in the order of the shared prefix -/

theorem mem_validOf {self : FlatRoutingTable k acc} {target : NodeId} {g : Nat} {b : Bucket k}
    {a : PrefixContact} :
    a ∈ (self.search target g).validOf b ↔
      a.2 ∈ b.contacts ∧ a.2.isValid = true ∧ a.1 = target.sharedPrefix a.2.id g :=
  mem_candidatesOf

/-- The leading digits of a distance to the target, from those of the distances to the root. -/
theorem top_target_xor (self : FlatRoutingTable k acc) (m : Nat) (target x : NodeId) :
    top (m * acc) (target ^^^ x) = self.digits m target ^^^ self.digits m x := by
  rw [digits, digits, ← top_xor]
  congr 1
  rw [BitVec.xor_comm self.root target, BitVec.xor_assoc, ← BitVec.xor_assoc self.root,
    BitVec.xor_self, BitVec.zero_xor]

/-- Going up, the prefixes shared with the target get shorter. -/
theorem sharedBits_le_of_index (self : FlatRoutingTable k acc) (target : NodeId) (g : Nat) {m : Nat}
    (hm : m ≤ (self.search target g).targetLevel) {x y : NodeId}
    (hx : m * levelWidth acc ≤ self.getBucketIndex x)
    (hy : self.getBucketIndex y < m * levelWidth acc) :
    sharedBits target y ≤ sharedBits target x := by
  have hlev := hm.trans (self.search_targetLevel_le target g)
  have hb := self.levels_mul_le hlev
  have ht := self.digits_target_eq_zero target g hm
  have hdx := (digits_eq_zero_iff_le_index self hlev x).2 hx
  have hdy : self.digits m y ≠ 0 := by
    rw [ne_eq, digits_eq_zero_iff_le_index self hlev]
    omega
  have h1 : m * acc ≤ sharedBits target x := by
    rw [sharedBits, ← top_eq_zero_iff hb, top_target_xor, ht, hdx]
    rfl
  have h2 : ¬ m * acc ≤ sharedBits target y := by
    rw [sharedBits, ← top_eq_zero_iff hb, top_target_xor, ht, Nat.zero_xor]
    exact hdy
  omega

section Order

variable {self : FlatRoutingTable k acc} (ht : self.Tidy) (target : NodeId) (g : Nat)

include ht

variable {a : PrefixContact}

theorem getBucketIndex_of_mem_validOf {i : Nat} {b : Bucket k} (hb : self.buckets[i]? = some b)
    (ha : a ∈ (self.search target g).validOf b) :
    self.getBucketIndex a.2.id = i :=
  ht.home i b hb a.2 (mem_validOf.1 ha).1

/-- A contact of the target's level or below: the leading digits of its distance to the target are
the ones its offset was sorted by. -/
theorem top_of_mem_contentsFromLevel
    (hlast : self.getBucketIndex target ≠ self.buckets.length - 1) {p : Nat × Nat}
    (hp : p ∈ sortedOffsets acc (self.digits ((self.search target g).targetLevel + 1) target))
    {content : List PrefixContact}
    (hc : content ∈ if p.1 = levelWidth acc then self.deeperContents (self.search target g)
      else [(self.buckets[(self.search target g).targetLevelStartIndex + p.1]?).toList.flatMap
        (self.search target g).validOf]) (ha : a ∈ content) :
    top (((self.search target g).targetLevel + 1) * acc) (target ^^^ a.2.id) = p.2 ∧
      (self.search target g).targetLevel * levelWidth acc ≤ self.getBucketIndex a.2.id := by
  have hl := self.search_targetLevel_lt target g hlast
  obtain ⟨hoff, hkey⟩ := mem_sortedOffsets.1 hp
  rw [top_target_xor self, hkey, Nat.xor_comm]
  by_cases heq : p.1 = levelWidth acc
  · rw [if_pos heq, deeperContents, List.mem_map] at hc
    obtain ⟨chunk, hchunk, rfl⟩ := hc
    obtain ⟨b, hb, hab⟩ := List.mem_flatMap.1 ha
    have hdrop : b ∈ self.buckets.drop
        ((self.search target g).targetLevelStartIndex + levelWidth acc) := by
      rw [← Iter.chunks_flatten (levelWidth_pos self.acc_pos) (self.buckets.drop _)]
      exact List.mem_flatten.2 ⟨chunk, hchunk, hb⟩
    obtain ⟨j, hj⟩ := List.mem_iff_getElem?.1 hdrop
    rw [List.getElem?_drop, search_targetLevelStartIndex, ← Nat.succ_mul] at hj
    have hidx := getBucketIndex_of_mem_validOf ht target g hj hab
    have hzero : self.digits ((self.search target g).targetLevel + 1) a.2.id = 0 := by
      rw [digits_eq_zero_iff_le_index self hl, hidx]
      exact Nat.le_add_right _ _
    refine ⟨by rw [hzero, heq, Nat.sub_self], ?_⟩
    rw [hidx, Nat.succ_mul]
    omega
  · rw [if_neg heq, List.mem_singleton] at hc
    subst hc
    obtain ⟨b, hb, hab⟩ := List.mem_flatMap.1 ha
    rw [Option.mem_toList, search_targetLevelStartIndex] at hb
    have hidx := getBucketIndex_of_mem_validOf ht target g hb hab
    have hdig := (getBucketIndex_eq_iff self hl (by omega) a.2.id).1 hidx
    exact ⟨by rw [hdig], by rw [hidx]; exact Nat.le_add_right _ _⟩

theorem getBucketIndex_of_mem_above {j : Nat} (hj : j < (self.search target g).targetLevel)
    (ha : a ∈ (((self.buckets.take (self.search target g).targetLevelStartIndex).drop
      ((self.search target g).targetLevelStartIndex - (j + 1) * levelWidth acc)).take
        (levelWidth acc)).flatMap (self.search target g).validOf) :
    ((self.search target g).targetLevel - j - 1) * levelWidth acc ≤ self.getBucketIndex a.2.id ∧
      self.getBucketIndex a.2.id < ((self.search target g).targetLevel - j) * levelWidth acc := by
  obtain ⟨b, hb, hab⟩ := List.mem_flatMap.1 ha
  obtain ⟨i, hlo, hhi, hi⟩ := Iter.exists_of_mem_take_drop hb
  rw [List.getElem?_take] at hi
  split at hi
  · have hidx := getBucketIndex_of_mem_validOf ht target g hi hab
    rw [search_targetLevelStartIndex, ← Nat.sub_mul, Nat.sub_add_eq] at hlo hhi
    have hstep : ((self.search target g).targetLevel - j - 1) * levelWidth acc + levelWidth acc =
        ((self.search target g).targetLevel - j) * levelWidth acc := by
      rw [← Nat.succ_mul]
      congr 1
      omega
    rw [hidx]
    omega
  · simp at hi

theorem contentsAbove_pairwise :
    (self.contentsAbove (self.search target g)).Pairwise fun c d ↦
      ∀ a ∈ c, ∀ b ∈ d, sharedBits target b.2.id ≤ sharedBits target a.2.id := by
  have hidx := (self.search_targetBucketIndex target g).1
  have hlt := self.getBucketIndex_lt target
  have hw := levelWidth_pos self.acc_pos
  have hlen : (self.buckets.take (self.search target g).targetLevelStartIndex).length =
      (self.search target g).targetLevelStartIndex := by
    rw [search_targetLevelStartIndex, List.length_take, Nat.min_eq_left (by omega)]
  rw [contentsAbove, Iter.rchunksExact, hlen, List.map_map, List.pairwise_map]
  refine List.pairwise_lt_range.imp_of_mem ?_
  intro i j hi hj hij a ha b hb
  rw [List.mem_range, search_targetLevelStartIndex, Nat.mul_div_cancel _ hw] at hi hj
  have h1 := getBucketIndex_of_mem_above ht target g hi ha
  have h2 := getBucketIndex_of_mem_above ht target g hj hb
  refine self.sharedBits_le_of_index target g (show _ - i - 1 ≤ _ by omega) h1.1
    (Nat.lt_of_lt_of_le h2.2 (Nat.mul_le_mul_right _ (by omega)))

theorem getBucketIndex_lt_of_mem_contentsAbove {c : List PrefixContact}
    (hc : c ∈ self.contentsAbove (self.search target g)) (ha : a ∈ c) :
    self.getBucketIndex a.2.id <
      (self.search target g).targetLevel * levelWidth acc := by
  have hperm := self.contentsAbove_flatten_perm target g
  have hmem := hperm.mem_iff.1 (List.mem_flatten.2 ⟨c, hc, ha⟩)
  obtain ⟨b, hb, hab⟩ := List.mem_flatMap.1 hmem
  obtain ⟨i, hi⟩ := List.mem_iff_getElem?.1 hb
  rw [List.getElem?_take] at hi
  split at hi
  · rename_i hlt
    rwa [getBucketIndex_of_mem_validOf ht target g hi hab, ← search_targetLevelStartIndex]
  · simp at hi

/-- **The groups come in the order of the shared prefix**: no contact of a later group shares more
bits with the target than one of an earlier group. -/
theorem groups_pairwise :
    (self.groups target g).Pairwise fun c d ↦
      ∀ a ∈ c, ∀ b ∈ d, sharedBits target b.2.id ≤ sharedBits target a.2.id := by
  rw [groups, List.pairwise_append]
  refine ⟨?_, contentsAbove_pairwise ht target g, ?_⟩
  · by_cases hlast : self.getBucketIndex target = self.buckets.length - 1
    · rw [if_pos hlast]
      exact List.pairwise_singleton _ _
    · rw [if_neg hlast, contentsFromLevel, List.pairwise_flatMap]
      have hl : (self.search target g).targetLevel + 1 ≤ self.levels :=
        self.search_targetLevel_lt target g hlast
      have hb := self.levels_mul_le hl
      refine ⟨?_, ?_⟩
      · intro p hp
        by_cases heq : p.1 = levelWidth acc
        · -- the deeper levels all leave the target at the same bit
          have hne : p.2 ≠ 0 := by
            obtain ⟨-, hkey⟩ := mem_sortedOffsets.1 hp
            rw [hkey, heq, Nat.sub_self, Nat.zero_xor, ne_eq,
              digits_eq_zero_iff_le_index self hl]
            have := (self.search_targetBucketIndex target g).2
            omega
          refine List.pairwise_of_forall_mem_list ?_
          intro c hc d hd x hx y hy
          have hx' := (top_of_mem_contentsFromLevel ht target g hlast hp hc hx).1
          have hy' := (top_of_mem_contentsFromLevel ht target g hlast hp hd hy).1
          exact leadingZeros_anti_of_top hb (by rw [hx', hy']) (by rwa [hy'])
        · rw [if_neg heq]
          exact List.pairwise_singleton _ _
      · refine (sortedOffsets_pairwise acc _).imp_of_mem ?_
        intro p q hp hq hpq c hc d hd x hx y hy
        have hx' := (top_of_mem_contentsFromLevel ht target g hlast hp hc hx).1
        have hy' := (top_of_mem_contentsFromLevel ht target g hlast hq hd hy).1
        exact leadingZeros_anti_of_top hb (by omega) (by omega)
  · intro c hc d hd a ha b hbd
    refine self.sharedBits_le_of_index target g (Nat.le_refl _) ?_
      (getBucketIndex_lt_of_mem_contentsAbove ht target g hd hbd)
    by_cases hlast : self.getBucketIndex target = self.buckets.length - 1
    · rw [if_pos hlast, List.mem_singleton] at hc
      subst hc
      rw [getBucketIndex_of_mem_validOf ht target g (buckets_getBucketIndex self target) ha]
      exact (self.search_targetBucketIndex target g).1
    · rw [if_neg hlast, contentsFromLevel, List.mem_flatMap] at hc
      obtain ⟨p, hp, hc⟩ := hc
      exact (top_of_mem_contentsFromLevel ht target g hlast hp hc ha).2

/-- **What a search returns is an answer**: sorted, with at least as many contacts as asked for if
there are as many, and nothing that is left out shares a longer prefix with the target than the
first `n` contacts returned. -/
theorem closest_answer (n : Nat) {g : NonZeroU8} (hg : g.get ≤ NodeId.BITS) :
    ∃ res omitted, self.closest target n g = .ok (.ok res) ∧
      Answer (candidatesOf self.iter target g.get) n res omitted := by
  obtain ⟨res, hres, taken, rest, full, hgroups, henough, -, hperm, hsorted, hfull⟩ :=
    self.closest_selected target n hg
  have hpairwise := groups_pairwise ht target g.get
  have hall := self.groups_flatten_perm target g.get
  rw [hgroups, List.pairwise_append] at hpairwise
  rw [hgroups, List.flatten_append] at hall
  have hanswer : Answer (candidatesOf self.iter target g.get) n full rest.flatten := by
    refine ⟨(hperm.append_right _).trans hall, hsorted, ?_, ?_⟩
    · intro hne
      rw [hperm.length_eq]
      refine henough ?_
      rintro rfl
      exact hne rfl
    · intro x hx y hy
      obtain ⟨c, hc, hxc⟩ := List.mem_flatten.1 (hperm.mem_iff.1 (List.mem_of_mem_take hx))
      obtain ⟨d, hd, hyd⟩ := List.mem_flatten.1 hy
      have hxall : x ∈ candidatesOf self.iter target g.get :=
        hall.mem_iff.1 (List.mem_append_left _ (List.mem_flatten.2 ⟨c, hc, hxc⟩))
      have hyall : y ∈ candidatesOf self.iter target g.get :=
        hall.mem_iff.1 (List.mem_append_right _ hy)
      rw [(mem_candidatesOf.1 hxall).2.2, (mem_candidatesOf.1 hyall).2.2]
      exact Nat.div_le_div_right (hpairwise.2.2 c hc d hd x hxc y hyd)
  rcases hfull with rfl | ⟨-, rfl⟩
  · exact ⟨_, _, hres, hanswer⟩
  · exact ⟨_, _, hres, hanswer.truncate⟩

end Order

end FlatRoutingTable

end Kira
