import Kira.Domain.RoutingTable.FlatClosest

/-!
# Asking a flat table for the nearest contact

A table that splits by single bits (`acc = 1`) has one bucket per level, and bucket `i` holds the
contacts that leave the root at bit `i`; only the last bucket is mixed.  Asked for one contact, the
search starts in the target's bucket, goes down to the last one, then up from the target's bucket to
the first, and stops at the first bucket with a valid contact (`closest_one`).

Which contacts are closer to the target than the root depends on a single bit: where the contact
leaves the root, the target has to leave it too (`closer_iff`).  Bucket by bucket:

* above the target's bucket no contact is closer;
* in the target's bucket every contact is closer, unless it is the last one;
* below, all contacts of a bucket are closer or none of them is, unless it is the last one.

So the search can stop at a bucket without a closer contact although there is one further down.
`Overlooks` describes these tables, and by `overlooks_iff` there is no other way not to find a
closer contact.
-/

set_option autoImplicit false

namespace Kira

open XorMetric

/-! ## Closer than the root -/

/-- The target leaves the root at the bit where the contact does. -/
def TurnsOffWith (target root id : NodeId) : Prop :=
  target.getMsbD (sharedBits root id) ≠ root.getMsbD (sharedBits root id)

instance (target root id : NodeId) : Decidable (TurnsOffWith target root id) :=
  inferInstanceAs (Decidable (_ ≠ _))

theorem closer_iff {target root id : NodeId} (h : id ≠ root) :
    dist target id < dist target root ↔ TurnsOffWith target root id := by
  have hne := getMsbD_ne_of_ne h
  rw [dist_lt_dist_iff_getMsbD h, TurnsOffWith, sharedBits_comm root id]
  -- there are only two values a bit can have
  cases ht : target.getMsbD (sharedBits id root) <;> cases hi : id.getMsbD (sharedBits id root) <;>
    cases hr : root.getMsbD (sharedBits id root) <;> simp_all

theorem sharedBits_le_of_turnsOffWith {target root id : NodeId} (h : TurnsOffWith target root id) :
    sharedBits root target ≤ sharedBits root id := by
  by_contra hlt
  exact h (getMsbD_eq_of_lt_sharedBits (Nat.not_le.1 hlt)).symm

theorem turnsOffWith_of_sharedBits_eq {target root id : NodeId} (hne : target ≠ root)
    (h : sharedBits root id = sharedBits root target) : TurnsOffWith target root id := by
  rw [TurnsOffWith, h, sharedBits_comm]
  exact getMsbD_ne_of_ne hne

namespace FlatRoutingTable

variable {k : Nat}

theorem getBucketIndex_one (self : FlatRoutingTable k 1) (id : NodeId) :
    self.getBucketIndex id = min (sharedBits self.root id) (self.numBuckets - 1) := by
  by_cases h : sharedBits self.root id + 1 ≤ NodeId.BITS
  · have hmin := self.getBucketIndex_eq_min id (by simpa using h)
    have hpos := self.digit_pos id (by simpa using h)
    rw [levelWidth_one] at hmin
    rw [hmin, Nat.div_one]
    rw [Nat.div_one] at hpos
    omega
  · have hle := self.levels_le
    have hnum := self.numBuckets_eq
    rw [levelWidth_one] at hnum
    have : self.getBucketIndex id = self.numBuckets - 1 := by
      rw [getBucketIndex, if_pos]
      show NodeId.BITS < (sharedBits self.root id / 1 + 1) * 1
      omega
    omega

/-! ## Where the search stops -/

/-- The order in which a search for a target in bucket `start` visits the buckets. -/
def visitOrder (start num : Nat) : List Nat :=
  start :: (List.range (num - (start + 1))).map (start + 1 + ·) ++
    (List.range start).map fun j ↦ start - (j + 1)

theorem mem_visitOrder {start num i : Nat} (hstart : start < num) :
    i ∈ visitOrder start num ↔ i < num := by
  simp only [visitOrder, List.cons_append, List.mem_cons, List.mem_append, List.mem_map,
    List.mem_range]
  constructor
  · rintro (rfl | ⟨j, hj, rfl⟩ | ⟨j, hj, rfl⟩)
    · exact hstart
    · omega
    · omega
  · intro hi
    rcases Nat.lt_trichotomy i start with h | h | h
    · exact .inr (.inr ⟨start - i - 1, by omega, by omega⟩)
    · exact .inl h
    · exact .inr (.inl ⟨i - (start + 1), by omega, by omega⟩)

/-- Downwards first, then up. -/
def VisitedBefore (start i j : Nat) : Prop :=
  (start ≤ i ∧ (j < start ∨ i < j)) ∨ (i < start ∧ j < i)

theorem visitOrder_pairwise (start num : Nat) :
    (visitOrder start num).Pairwise (VisitedBefore start) := by
  rw [visitOrder, List.cons_append, List.pairwise_cons, List.pairwise_append, List.pairwise_map,
    List.pairwise_map]
  refine ⟨?_, ?_, ?_, ?_⟩
  · intro j hj
    rw [List.mem_append, List.mem_map, List.mem_map] at hj
    rcases hj with ⟨i, -, rfl⟩ | ⟨i, hi, rfl⟩
    · exact .inl ⟨Nat.le_refl _, .inr (by omega)⟩
    · rw [List.mem_range] at hi
      exact .inl ⟨Nat.le_refl _, .inl (by omega)⟩
  · exact List.pairwise_lt_range.imp fun h ↦ .inl ⟨by omega, .inr (by omega)⟩
  · refine List.pairwise_lt_range.imp_of_mem ?_
    intro i j hi hj hij
    rw [List.mem_range] at hi hj
    exact .inr ⟨by omega, by omega⟩
  · intro i hi j hj
    obtain ⟨i, -, rfl⟩ := List.mem_map.1 hi
    obtain ⟨j, hlt, rfl⟩ := List.mem_map.1 hj
    rw [List.mem_range] at hlt
    exact .inl ⟨by omega, .inl (by omega)⟩

/-- The valid contacts of the bucket at an index, as candidates of a search. -/
def validAt (self : FlatRoutingTable k 1) (s : Search) (i : Nat) : List PrefixContact :=
  (self.buckets[i]?).toList.flatMap s.validOf

theorem take_one_drop {α : Type} (l : List α) (j : Nat) : (l.drop j).take 1 = (l[j]?).toList := by
  rw [List.take_one, List.head?_drop]

section Visits

variable (self : FlatRoutingTable k 1) (target : NodeId) (g : Nat)

theorem search_one_start :
    (self.search target g).targetLevelStartIndex = self.getBucketIndex target := by
  rw [search_targetLevelStartIndex, search_targetLevel, levelWidth_one, Nat.div_one, Nat.mul_one]

theorem contentsAbove_one : self.contentsAbove (self.search target g) =
    ((List.range (self.getBucketIndex target)).map fun j ↦ self.getBucketIndex target - (j + 1)).map
      (self.validAt (self.search target g)) := by
  have hlt := self.getBucketIndex_lt target
  have hlen : (self.buckets.take (self.getBucketIndex target)).length =
      self.getBucketIndex target := by
    rw [List.length_take]
    omega
  rw [contentsAbove, Iter.rchunksExact, search_one_start, hlen, levelWidth_one, Nat.div_one,
    List.map_map, List.map_map]
  refine List.map_congr_left ?_
  intro j hj
  rw [List.mem_range] at hj
  simp only [Function.comp_apply, Nat.mul_one, take_one_drop, validAt]
  rw [List.getElem?_take_of_lt (by omega)]

theorem deeperContents_one : self.deeperContents (self.search target g) =
    ((List.range (self.numBuckets - (self.getBucketIndex target + 1))).map
      (self.getBucketIndex target + 1 + ·)).map (self.validAt (self.search target g)) := by
  rw [deeperContents, Iter.chunks, search_one_start, levelWidth_one, Nat.div_one,
    Nat.add_sub_cancel, List.length_drop, List.map_map, List.map_map, numBuckets]
  refine List.map_congr_left ?_
  intro j hj
  simp only [Function.comp_apply, Nat.mul_one, take_one_drop, validAt, List.getElem?_drop]

/-- **The search visits the buckets one by one.** -/
theorem groups_one : self.groups target g =
    (visitOrder (self.getBucketIndex target) self.numBuckets).map
      (self.validAt (self.search target g)) := by
  have hown : self.validAt (self.search target g) (self.getBucketIndex target) =
      (self.search target g).validOf (self.bucket target) := by
    rw [validAt, buckets_getBucketIndex, Option.toList_some, List.flatMap_singleton]
  rw [groups, visitOrder, List.map_append, List.map_cons, ← contentsAbove_one, hown,
    ← deeperContents_one]
  congr 1
  by_cases hlast : self.getBucketIndex target = self.buckets.length - 1
  · rw [if_pos hlast, deeperContents_one, numBuckets, hlast]
    have : self.buckets.length - (self.buckets.length - 1 + 1) = 0 := by omega
    rw [this]
    rfl
  · -- the digit of the target is one, so its own bucket comes first
    have hl := self.search_targetLevel_lt target g hlast
    have hd : self.digits ((self.search target g).targetLevel + 1) target = 1 := by
      refine (getBucketIndex_eq_iff self hl (levelWidth_pos self.acc_pos) target).1 ?_
      rw [Nat.add_zero, ← search_targetLevelStartIndex, search_one_start]
    have hsorted : sortedOffsets 1 1 = [(0, 0), (1, 1)] := by decide
    rw [if_neg hlast, hd, hsorted, contentsFromLevel]
    simp only [List.flatMap_cons, List.flatMap_nil, List.append_nil, levelWidth_one, if_true,
      Nat.add_zero, search_one_start, buckets_getBucketIndex, Option.toList_some]
    rfl

end Visits

theorem SelectedFrom.first {groups : List (List PrefixContact)} {res : List PrefixContact}
    (h : SelectedFrom groups 1 res) : (groups.flatten = [] ∧ res = []) ∨
      ∃ init first rest, groups = init ++ first :: rest ∧ init.flatten = [] ∧ first ≠ [] ∧
        (∀ x ∈ res, x ∈ first) ∧ ∀ y ∈ first, ∃ x ∈ res, sorterXor x y := by
  obtain ⟨taken, rest, full, rfl, henough, hbefore, hperm, hsorted, hfull⟩ := h
  by_cases hempty : taken.flatten = []
  · have hrest : rest = [] := by
      by_contra hne
      have := henough hne
      simp [hempty] at this
    obtain rfl : full = [] := List.Perm.eq_nil (hempty ▸ hperm)
    refine .inl ⟨by rw [hrest, List.append_nil, hempty], ?_⟩
    rcases hfull with rfl | ⟨-, rfl⟩
    · rfl
    · rfl
  · have hne : taken ≠ [] := fun h ↦ hempty (by rw [h]; rfl)
    obtain ⟨init, last, rfl⟩ : ∃ init last, taken = init ++ [last] :=
      ⟨taken.dropLast, taken.getLast hne, (List.dropLast_append_getLast hne).symm⟩
    have hinit : init.flatten = [] := by
      by_cases hi : init = []
      · rw [hi]
        rfl
      · exact List.length_eq_zero_iff.1 (Nat.lt_one_iff.1 (hbefore init last rfl hi))
    rw [List.flatten_append, hinit, List.nil_append, List.flatten_singleton] at hempty hperm
    refine .inr ⟨init, last, rest, by simp, hinit, hempty, ?_, ?_⟩
    · intro x hx
      refine hperm.mem_iff.1 ?_
      rcases hfull with rfl | ⟨-, rfl⟩
      · exact hx
      · exact List.mem_of_mem_take hx
    · intro y hy
      -- the first of the sorted contacts is returned in any case
      cases hf : full with
      | nil => simp [hf] at hperm; exact absurd hperm hempty
      | cons x xs =>
        refine ⟨x, ?_, ?_⟩
        · rcases hfull with rfl | ⟨-, rfl⟩ <;> simp [hf]
        · have hmem : y ∈ x :: xs := hf ▸ hperm.mem_iff.2 hy
          rcases List.mem_cons.1 hmem with rfl | hmem
          · exact Std.Refl.refl y
          · exact (List.pairwise_cons.1 (hf ▸ hsorted)).1 y hmem

section Nearest

variable {self : FlatRoutingTable k 1} (ht : self.Tidy) (target : NodeId)

include ht

theorem mem_validAt {g : Nat} {i : Nat} {a : PrefixContact} :
    a ∈ self.validAt (self.search target g) i ↔
      a ∈ candidatesOf self.iter target g ∧ self.getBucketIndex a.2.id = i := by
  rw [candidatesOf_iter, List.mem_flatMap, validAt, List.mem_flatMap]
  constructor
  · rintro ⟨b, hb, ha⟩
    rw [Option.mem_toList] at hb
    exact ⟨⟨b, List.mem_of_getElem? hb, ha⟩, getBucketIndex_of_mem_validOf ht target g hb ha⟩
  · rintro ⟨⟨b, hb, ha⟩, rfl⟩
    obtain ⟨j, hj⟩ := List.mem_iff_getElem?.1 hb
    have hidx := getBucketIndex_of_mem_validOf ht target g hj ha
    exact ⟨b, Option.mem_toList.2 (hidx ▸ hj), ha⟩

/-- **The search for one contact** returns contacts of the first bucket with a valid contact, among
them one that is closest in that bucket. -/
theorem closest_one {g : NonZeroU8} (hg : g.get ≤ NodeId.BITS) :
    ∃ res, self.closest target 1 g = .ok (.ok res) ∧
      ((res = [] ∧ candidatesOf self.iter target g.get = []) ∨
      ∃ i, (∃ a ∈ candidatesOf self.iter target g.get, self.getBucketIndex a.2.id = i) ∧
        (∀ a ∈ candidatesOf self.iter target g.get, self.getBucketIndex a.2.id ≠ i →
          VisitedBefore (self.getBucketIndex target) i (self.getBucketIndex a.2.id)) ∧
        (∀ x ∈ res, x ∈ candidatesOf self.iter target g.get ∧ self.getBucketIndex x.2.id = i) ∧
        ∀ a ∈ candidatesOf self.iter target g.get, self.getBucketIndex a.2.id = i →
          ∃ x ∈ res, sorterXor x a) := by
  obtain ⟨res, hres, hsel⟩ := self.closest_selected target 1 hg
  refine ⟨res, hres, ?_⟩
  rcases hsel.first with ⟨hnone, hempty⟩ | ⟨init, first, rest, hgroups, hinit, hfirst, hsub, hmin⟩
  · refine .inl ⟨hempty, ?_⟩
    exact List.Perm.eq_nil (hnone ▸ (self.groups_flatten_perm target g.get).symm)
  · rw [groups_one] at hgroups
    obtain ⟨pre, tail, horder, rfl, htail⟩ := List.map_eq_append_iff.1 hgroups
    obtain ⟨i, post, rfl, rfl, rfl⟩ := List.map_eq_cons_iff.1 htail
    refine .inr ⟨i, ?_, ?_, ?_, ?_⟩
    · obtain ⟨a, ha⟩ := List.exists_mem_of_ne_nil _ hfirst
      exact ⟨a, (mem_validAt ht target).1 ha⟩
    · intro a ha hne
      have hlt := self.getBucketIndex_lt a.2.id
      have hmem := (mem_visitOrder (self.getBucketIndex_lt target)).2 hlt
      have hpw := visitOrder_pairwise (self.getBucketIndex target) self.numBuckets
      rw [horder] at hpw
      change self.getBucketIndex a.2.id ∈ visitOrder _ self.numBuckets at hmem
      rw [horder, List.mem_append, List.mem_cons] at hmem
      rcases hmem with hpre | heq | hpost
      · -- the buckets visited before are empty
        have : a ∈ (pre.map (self.validAt (self.search target g.get))).flatten :=
          List.mem_flatten.2 ⟨_, List.mem_map.2 ⟨_, hpre, rfl⟩, (mem_validAt ht target).2 ⟨ha, rfl⟩⟩
        rw [hinit] at this
        exact absurd this List.not_mem_nil
      · exact absurd heq hne
      · exact (List.pairwise_cons.1 (List.pairwise_append.1 hpw).2.1).1 _ hpost
    · exact fun x hx ↦ (mem_validAt ht target).1 (hsub x hx)
    · exact fun a ha hidx ↦ hmin a ((mem_validAt ht target).2 ⟨ha, hidx⟩)

end Nearest

/-! ## What the search overlooks -/

/-- The search for the nearest contact stops too early: the target's bucket has no valid contact,
the first one below that has (bucket `d`) leaves the root where the target does not, and still
further down is a contact that leaves the root together with the target. -/
def Overlooks (self : FlatRoutingTable k 1) (target : NodeId) : Prop :=
  ∃ d, self.getBucketIndex target < d ∧ d < self.numBuckets - 1 ∧
    (∃ c ∈ self.iter, c.isValid = true ∧ self.getBucketIndex c.id = d) ∧
    (∀ c ∈ self.iter, c.isValid = true →
      ¬ (self.getBucketIndex target ≤ self.getBucketIndex c.id ∧ self.getBucketIndex c.id < d)) ∧
    target.getMsbD d = self.root.getMsbD d ∧
    ∃ c ∈ self.iter, c.isValid = true ∧ d < self.getBucketIndex c.id ∧
      TurnsOffWith target self.root c.id

section Overlooks

variable {self : FlatRoutingTable k 1} (ht : self.Tidy)
  (hroot : ∀ c ∈ self.iter, c.id ≠ self.root) {target : NodeId} {g : NonZeroU8}
  (hg : g.get ≤ NodeId.BITS) {res : List PrefixContact}
  (hres : self.closest target 1 g = .ok (.ok res))

include ht hroot hg hres

theorem not_closer_of_overlooks (h : self.Overlooks target) :
    ∀ x ∈ res, dist target self.root ≤ dist target x.2.id := by
  obtain ⟨res', hres', hone⟩ := closest_one ht target hg
  obtain rfl : res = res' := Except.ok.inj (Run.ok.inj (hres.symm.trans hres'))
  obtain ⟨d, hlo, hhi, ⟨c, hc, hvalid, hidx⟩, hbetween, hbit, -⟩ := h
  rcases hone with ⟨rfl, -⟩ | ⟨i, ⟨a, ha, hai⟩, hbefore, hin, -⟩
  · simp
  · -- the search stops at bucket `d`
    have hi : i = d := by
      by_contra hne
      have h1 := hbefore _ (mk_mem_candidatesOf hc hvalid target g.get)
        (fun h ↦ hne (h.symm.trans hidx))
      have h2 := hbetween a.2 (mem_candidatesOf.1 ha).1 (mem_candidatesOf.1 ha).2.1
      simp only [hidx, VisitedBefore] at h1
      omega
    intro x hx
    obtain ⟨hcand, hxi⟩ := hin x hx
    have hmem := (mem_candidatesOf.1 hcand).1
    rw [← Nat.not_lt, closer_iff (hroot _ hmem), TurnsOffWith, not_ne_iff]
    have hbits : sharedBits self.root x.2.id = d := by
      rw [getBucketIndex_one] at hxi
      omega
    rw [hbits, hbit]

theorem overlooks_of_not_found (hnone : ∀ x ∈ res, dist target self.root ≤ dist target x.2.id)
    {c : Contact} (hc : c ∈ self.iter) (hvalid : c.isValid = true)
    (hcloser : dist target c.id < dist target self.root) : self.Overlooks target := by
  obtain ⟨res', hres', hone⟩ := closest_one ht target hg
  obtain rfl : res = res' := Except.ok.inj (Run.ok.inj (hres.symm.trans hres'))
  have hturn := (closer_iff (hroot c hc)).1 hcloser
  have hle := sharedBits_le_of_turnsOffWith hturn
  have hcand := mk_mem_candidatesOf hc hvalid target g.get
  have hci := self.getBucketIndex_one c.id
  have hti := self.getBucketIndex_one target
  rcases hone with ⟨-, hempty⟩ | ⟨i, ⟨a, ha, hai⟩, hbefore, hin, hmin⟩
  · rw [hempty] at hcand
    exact absurd hcand List.not_mem_nil
  · obtain ⟨hamem, havalid, -⟩ := mem_candidatesOf.1 ha
    -- the closer contact is further down than the bucket where the search stops
    have hne : self.getBucketIndex c.id ≠ i := by
      intro heq
      obtain ⟨x, hx, hle⟩ := hmin _ hcand heq
      have hxp := (mem_candidatesOf.1 (hin x hx).1).2.2
      rw [sorterXor, hxp, NodeId.sharedPrefix_le_iff] at hle
      have := hnone x hx
      omega
    have hvisit := hbefore _ hcand hne
    simp only [VisitedBefore] at hvisit
    -- so that bucket is not the last, and its contacts leave the root where the target does not
    obtain ⟨x, hx, -⟩ := hmin a ha hai
    obtain ⟨hxcand, hxi⟩ := hin x hx
    have hxmem := (mem_candidatesOf.1 hxcand).1
    have hxnot := hnone x hx
    rw [← Nat.not_lt, closer_iff (hroot _ hxmem)] at hxnot
    have hxbits : sharedBits self.root x.2.id = i := by
      rw [getBucketIndex_one] at hxi
      omega
    have hstart : self.getBucketIndex target ≠ i := by
      intro heq
      have hbits : sharedBits self.root x.2.id = sharedBits self.root target := by omega
      refine hxnot (turnsOffWith_of_sharedBits_eq ?_ hbits)
      rintro rfl
      rw [sharedBits_self] at hbits
      exact hroot _ hxmem ((sharedBits_eq_width_iff _ _).1 hbits).symm
    have hxbit := not_ne_iff.1 hxnot
    rw [hxbits] at hxbit
    refine ⟨i, by omega, by omega, ⟨a.2, hamem, havalid, hai⟩, ?_, hxbit, c, hc, hvalid, by omega,
      hturn⟩
    intro e he hevalid hbetween
    have := hbefore _ (mk_mem_candidatesOf he hevalid target g.get) (Nat.ne_of_lt hbetween.2)
    simp only [VisitedBefore] at this
    omega

/-- **A closer contact is not found exactly if the search overlooks it.** -/
theorem overlooks_iff : self.Overlooks target ↔
    (∀ x ∈ res, dist target self.root ≤ dist target x.2.id) ∧
      ∃ c ∈ self.iter, c.isValid = true ∧ dist target c.id < dist target self.root := by
  constructor
  · intro h
    have hnone := not_closer_of_overlooks ht hroot hg hres h
    obtain ⟨-, -, -, -, -, -, c, hc, hvalid, -, hturn⟩ := h
    exact ⟨hnone, c, hc, hvalid, (closer_iff (hroot c hc)).2 hturn⟩
  · rintro ⟨hnone, c, hc, hvalid, hcloser⟩
    exact overlooks_of_not_found ht hroot hg hres hnone hc hvalid hcloser

end Overlooks

end FlatRoutingTable

end Kira
