import Kira.Domain.InsertionStrategy
import Kira.Domain.RoutingTable.NextHop
import Kira.Domain.RoutingTable.UnlimitedULNLawful

/-!
# Asking the table

Whether a table is empty, how many contacts it has and what they are should be three ways to ask the
same thing.  But a table counts as empty only as long as it has a single bucket; the buckets of
splits stay when the contacts are removed.  And the flat table cannot be asked for a random contact
if there is none.  `CountsAgree` fails in these cases and in no other (`counts_agree_iff`).

The checks that a search makes pass in every table whose contacts are in their places
(`checks_pass`), with one exception: the choice of a next hop compares the contents of buckets where
it means the buckets (`buckets_confused`).  `Confused` says when that makes a difference.
-/

set_option autoImplicit false

namespace Kira

open Run RoutingTable XorMetric

/-- The answers of a table agree with what it stores. -/
structure CountsAgree (isEmpty : Bool) (len : Nat) (iter : List Contact)
    (randomId : (Nat → Nat) → Run (Option NodeId)) : Prop where
  isEmpty_iff : isEmpty = true ↔ len = 0
  len_iff : len = 0 ↔ iter = []
  random : ∀ draw, ∃ drawn, randomId draw = .ok drawn ∧ (drawn = none ↔ iter = []) ∧
    ∀ id, drawn = some id → ∃ c ∈ iter, c.id = id

theorem Bucket.isEmpty_iff {k : Nat} (self : Bucket k) :
    self.isEmpty = true ↔ self.contacts = [] := by
  simp [isEmpty, contacts, List.reduceOption, List.filterMap_eq_nil_iff]

theorem exists_drawn {iter : List Contact} (hne : iter ≠ []) (draw : Nat → Nat) :
    ∃ i c, randomRange draw iter.length = .ok i ∧ iter[i]? = some c ∧
      (some c.id = none ↔ iter = []) ∧ ∀ id, some c.id = some id → ∃ c ∈ iter, c.id = id := by
  have hpos : 0 < iter.length := List.length_pos_iff.2 hne
  have hlt : draw iter.length % iter.length < iter.length := Nat.mod_lt _ hpos
  refine ⟨_, _, ?_, List.getElem?_eq_getElem hlt, iff_of_false (Option.some_ne_none _) hne,
    fun id hid ↦ ⟨_, List.getElem_mem hlt, Option.some.inj hid⟩⟩
  rw [randomRange, assert_of (by simpa using hne)]
  rfl

namespace FlatRoutingTable

variable {k acc : Nat}

theorem isEmpty_iff (self : FlatRoutingTable k acc) :
    self.isEmpty = true ↔ self.iter = [] ∧ self.numBuckets = 1 := by
  rw [isEmpty, Bool.and_eq_true, beq_iff_eq, and_comm]
  refine and_congr_left fun hone ↦ ?_
  obtain ⟨bucket, hbucket⟩ := List.length_eq_one_iff.1 hone
  simp [iter, hbucket, Bucket.isEmpty_iff]

end FlatRoutingTable

theorem UnlimitedULNRoutingTable.isEmpty_iff {k acc : Nat} (self : UnlimitedULNRoutingTable k acc) :
    self.isEmpty = true ↔ self.iter = [] ∧ self.inner.numBuckets = 1 := by
  rw [isEmpty, Bool.and_eq_true, List.isEmpty_iff, FlatRoutingTable.isEmpty_iff, iter,
    List.append_eq_nil_iff, and_assoc]

/-- **When the answers of a table agree with what it stores.**  For the flat table this is the case
if and only if it stores something; for the table with a map of neighbors, if and only if it stores
something or has never been split. -/
theorem counts_agree_iff {k acc k' acc' : Nat} (flat : FlatRoutingTable k acc)
    (t : UnlimitedULNRoutingTable k' acc') :
    (CountsAgree flat.isEmpty flat.len flat.iter flat.randomId ↔ flat.iter ≠ []) ∧
      (CountsAgree t.isEmpty t.len t.iter t.randomId ↔ t.iter ≠ [] ∨ t.inner.numBuckets = 1) := by
  refine ⟨⟨fun h hnil ↦ ?_, fun hne ↦ ⟨?_, List.length_eq_zero_iff, fun draw ↦ ?_⟩⟩, ?_⟩
  · obtain ⟨drawn, hdrawn, -⟩ := h.random id
    rw [FlatRoutingTable.randomId, FlatRoutingTable.len, hnil] at hdrawn
    cases hdrawn
  · rw [FlatRoutingTable.isEmpty_iff, FlatRoutingTable.len, List.length_eq_zero_iff]
    exact iff_of_false (fun h ↦ hne h.1) hne
  · obtain ⟨i, c, hi, hc, hdrawn⟩ := exists_drawn hne draw
    refine ⟨some c.id, ?_, hdrawn⟩
    rw [FlatRoutingTable.randomId, FlatRoutingTable.len, hi, ok_bind, hc]
    rfl
  · have hlen : t.len = t.iter.length := by
      rw [UnlimitedULNRoutingTable.len, UnlimitedULNRoutingTable.iter, List.length_append]
      rfl
    have hlen_iff : t.len = 0 ↔ t.iter = [] := by rw [hlen, List.length_eq_zero_iff]
    refine ⟨fun h ↦ ?_, fun h ↦ ⟨?_, hlen_iff, fun draw ↦ ?_⟩⟩
    · by_cases hnil : t.iter = []
      · exact .inr (t.isEmpty_iff.1 (h.isEmpty_iff.2 (hlen_iff.2 hnil))).2
      · exact .inl hnil
    · rw [hlen_iff, UnlimitedULNRoutingTable.isEmpty_iff, and_iff_left_iff_imp]
      exact fun hnil ↦ h.resolve_left (not_not.2 hnil)
    · by_cases hnil : t.iter = []
      · have hempty : t.isEmpty = true :=
          t.isEmpty_iff.2 ⟨hnil, h.resolve_left (not_not.2 hnil)⟩
        exact ⟨none, by rw [UnlimitedULNRoutingTable.randomId, if_pos hempty, pure_eq],
          iff_of_true rfl hnil, fun _ hid ↦ by cases hid⟩
      · have hempty : ¬ t.isEmpty = true := fun hempty ↦ hnil (t.isEmpty_iff.1 hempty).1
        obtain ⟨i, c, hi, hc, hdrawn⟩ := exists_drawn hnil draw
        refine ⟨some c.id, ?_, hdrawn⟩
        rw [UnlimitedULNRoutingTable.randomId, if_neg hempty, hlen, hi, ok_bind, hc]
        rfl

/-- **A table that does not know it is empty.**  The new flat table cannot be asked for a contact.
Neither can the other one after its bucket was split: it has no contacts and does not count as
empty. -/
theorem empty_table_asked :
    (FlatRoutingTable.new 0 (by decide) (by decide) : FlatRoutingTable 20 1).randomId id =
      .panic "cannot sample empty range" ∧
    ∃ t : UnlimitedULNRoutingTable 20 1,
      runAll TableOp.apply (.new 0 (by decide) (by decide)) [.splitBucket 0] = .ok t ∧
      t.isEmpty = false ∧ t.len = 0 ∧ t.randomId id = .panic "cannot sample empty range" :=
  ⟨rfl, _, rfl, by decide +kernel, by decide +kernel, by decide +kernel⟩

/-! ## Searching a table

In a debug build `nextHop` asserts that the nearest contact is without alternatives if it is in the
last bucket.  Whether it is, is decided by comparing the contents of two buckets; for a neighbor,
which is in no bucket at all, both may be empty.  Then the assertion fails as soon as another
contact is close enough to the neighbor (`Confused`). -/

/-- The operation leaves every contact in its place. -/
def Operation.Orderly {T : Type} {k : Nat} [RoutingTable T k]
    (replaceable : T → NodeId → Contact → Prop) (t : T) : Operation → Prop
  | .table op => op.WellBehaved replaceable t
  | .strategy _ => True

section

variable {T : Type} {k : Nat} [RoutingTable T k] {t t' : T}

open LawfulRoutingTable in
theorem Operation.Orderly.tidy [LawfulRoutingTable T k] {op : Operation}
    {replaceable : T → NodeId → Contact → Prop}
    (hreplace : ∀ t id c, Tidy t → replaceable t id c → Tidy (replace t id c).2)
    (hop : op.Orderly replaceable t) (ht : Tidy t) (h : op.apply t = .ok t') : Tidy t' := by
  cases op with
  | table op => exact TableOp.tidy_apply (fun t id c ht h ↦ hreplace t id c ht h) ht hop h
  | strategy call =>
    obtain ⟨res, hins⟩ := UNSStrategy.Call.apply_eq_ok h
    exact UNSStrategy.insert_tidy ht hins

/-- No check fails on the way to the contacts closest to a target. -/
structure SearchesPass (t : T) (checkedIndex : NodeId → Run Nat) : Prop where
  index : ∀ id, checkedIndex id = .ok (getBucketIndex t id)
  closest : ∀ target n (g : NonZeroU8), g.get ≤ NodeId.BITS →
    ∃ res, closest t target n g = .ok (.ok res)

/-- No check fails on the way to a next hop.  Only that a valid contact has a path is not known. -/
def NextHopsPass (t : T) : Prop :=
  ∀ debug target (g : NonZeroU8), g.get ≤ NodeId.BITS → ∀ msg,
    nextHop debug t target g = .panic msg → msg = "called `Option::unwrap()` on a `None` value"

/-- The answer to a search fails the assertion of a debug build: the nearest contact makes progress
and its bucket looks like the last one, but the second contact makes the same progress. -/
def Rejected (t : T) (target : NodeId) (g : Nat) : List PrefixContact → Prop
  | nearest :: second :: _ =>
    (bucket t (root t)).eq (bucket t nearest.2.id) = true ∧
      sharedBits target (root t) / g < sharedBits target nearest.2.id / g ∧
      sharedBits target nearest.2.id / g ≤ sharedBits target second.2.id / g
  | _ => False

theorem proximityNeighborSelection_eq_panic {a b : PrefixContact} {msg : String}
    (h : proximityNeighborSelection false a b = .panic msg) :
    msg = "called `Option::unwrap()` on a `None` value" := by
  rw [proximityNeighborSelection, assertSameLength, Bool.not_false, Bool.true_or, assert_true,
    ok_bind] at h
  cases ha : a.2.path with
  | none =>
    rw [ha] at h
    exact (panic.inj h).symm
  | some pathA =>
    cases hb : b.2.path with
    | none =>
      rw [ha, hb] at h
      exact (panic.inj h).symm
    | some pathB =>
      rw [ha, hb, unwrap_some, unwrap_some, ok_bind, ok_bind] at h
      split at h <;> cases h

section

variable {target : NodeId} {g : NonZeroU8} {res : List PrefixContact}
  (hg : g.get ≤ NodeId.BITS) (hres : closest t target 1 g = .ok (.ok res))
  (hshared : ∀ x ∈ res, x.1 = target.sharedPrefix x.2.id g.get)

include hg hres hshared

/-- A next hop fails only for a path that is missing or an answer that is rejected. -/
theorem rejected_of_nextHop_panic {debug : Bool} {msg : String}
    (h : nextHop debug t target g = .panic msg) :
    msg = "called `Option::unwrap()` on a `None` value" ∨ Rejected t target g.get res := by
  rw [RoutingTable.nextHop, hres, ok_bind] at h
  cases hlist : res with
  | nil => simp [hlist] at h
  | cons nearest rest =>
    simp only [hlist, NodeId.sharedPrefixLen_of_le _ _ hg, minByM_strictXorMetric, ok_bind,
      minByM_proximityNeighborSelection debug, NodeId.sharedPrefix_comm (root t) target] at h
    have hnear := hshared nearest (by simp [hlist])
    split at h
    · simp at h
    · rename_i hlen
      split at h
      · split at h <;> cases h
      · rename_i hne
        rcases bind_eq_panic.1 h with hassert | ⟨_, -, h⟩
        · -- the assertion fails only if a second contact makes the same progress
          rw [nextHopAssertion] at hassert
          split at hassert
          · rename_i hbuckets
            cases hrest : rest with
            | nil => simp [hrest] at hassert
            | cons second rest =>
              have hsecond := hshared second (by simp [hlist, hrest])
              have hfail : ¬ second.1.length < nearest.1.length := by
                intro hlt
                simp [hrest, assert_of (decide_eq_true hlt)] at hassert
              rw [hnear] at hlen hne hfail
              rw [hsecond] at hfail
              simp only [NodeId.sharedPrefix] at hlen hne hfail
              rw [Bool.and_eq_true] at hbuckets
              exact .inr ⟨hbuckets.2, by omega, by omega⟩
          · simp at hassert
        · rcases bind_eq_panic.1 h with h | ⟨_, -, h⟩
          · obtain ⟨a, b, h⟩ := Iter.exists_of_minByM_eq_panic h
            exact .inl (proximityNeighborSelection_eq_panic h)
          · cases h

/-- A rejected answer fails the assertion. -/
theorem nextHop_panic_of_rejected (h : Rejected t target g.get res) :
    nextHop true t target g =
      .panic ("No alternative contacts with equal shared prefix length in last bucket; " ++
        "strictly select by XOR-metric") := by
  match res, hres, hshared, h with
  | nearest :: second :: rest, hres, hshared, ⟨hbuckets, hprogress, hsame⟩ =>
    have hnear : nearest.1.length = sharedBits target nearest.2.id / g.get := by
      rw [hshared nearest List.mem_cons_self]
      rfl
    have hsecond : second.1.length = sharedBits target second.2.id / g.get := by
      rw [hshared second (List.mem_cons_of_mem _ List.mem_cons_self)]
      rfl
    have hroot : (target.sharedPrefix (root t) g.get).length =
        sharedBits target (root t) / g.get := rfl
    have hassert : nextHopAssertion true t nearest.1 nearest.2 (nearest :: second :: rest) =
        .panic ("No alternative contacts with equal shared prefix length in last bucket; " ++
          "strictly select by XOR-metric") := by
      have hlt : ¬ second.1.length < nearest.1.length := by omega
      rw [nextHopAssertion, Bool.true_and, if_pos hbuckets]
      simp [assert, hlt]
    rw [RoutingTable.nextHop, hres, ok_bind]
    simp only [NodeId.sharedPrefixLen_of_le _ _ hg, NodeId.sharedPrefix_comm (root t) target]
    rw [if_neg (by omega), if_neg (by omega), hassert, panic_bind]

end

/-- **The checks of a next hop pass** exactly if no answer of the search is rejected. -/
theorem nextHopsPass_iff
    (hsearch : ∀ target (g : NonZeroU8), g.get ≤ NodeId.BITS →
      ∃ res, closest t target 1 g = .ok (.ok res) ∧
        ∀ x ∈ res, x.1 = target.sharedPrefix x.2.id g.get) :
    NextHopsPass t ↔ ∀ target (g : NonZeroU8), g.get ≤ NodeId.BITS → ∀ res,
      closest t target 1 g = .ok (.ok res) → ¬ Rejected t target g.get res := by
  constructor
  · intro hpass target g hg res hres hrejected
    obtain ⟨res', hres', hshared⟩ := hsearch target g hg
    obtain rfl := Except.ok.inj (ok.inj (hres.symm.trans hres'))
    have hmsg := hpass true target g hg _ (nextHop_panic_of_rejected hg hres hshared hrejected)
    exact absurd hmsg (by decide)
  · intro h debug target g hg msg hpanic
    obtain ⟨res, hres, hshared⟩ := hsearch target g hg
    exact (rejected_of_nextHop_panic hg hres hshared hpanic).resolve_right (h target g hg res hres)

end

theorem Bucket.map_id_of_eq {k : Nat} {self other : Bucket k} (h : self.eq other = true) :
    self.contacts.map Contact.id = other.contacts.map Contact.id := by
  obtain ⟨slots, hslots⟩ := self
  obtain ⟨others, hothers⟩ := other
  subst hslots
  rw [eq] at h
  simp only [contacts] at h ⊢
  induction slots generalizing others with
  | nil => simp [List.length_eq_zero_iff.1 hothers]
  | cons slot slots ih =>
    cases others with
    | nil => simp at hothers
    | cons other others =>
      rw [List.zip_cons_cons, List.all_cons, Bool.and_eq_true] at h
      have hrest := ih others (by simpa using hothers) h.2
      cases slot with
      | none =>
        cases other with
        | none => simpa using hrest
        | some b => exact absurd h.1 (by simp)
      | some a =>
        cases other with
        | none => exact absurd h.1 (by simp)
        | some b =>
          have hid : a.destId = b.destId := by
            have := h.1
            simp only [Contact.eq, Bool.and_eq_true, beq_iff_eq] at this
            exact this.1.1.1.1
          simpa [Contact.id, hid] using hrest

theorem Bucket.eq_of_empty {k : Nat} {self other : Bucket k} (h : self.contacts = [])
    (hother : other.contacts = []) : self.eq other = true := by
  simp only [contacts, List.reduceOption, List.filterMap_eq_nil_iff, id] at h hother
  rw [eq, List.all_eq_true]
  rintro ⟨a, b⟩ hab
  obtain ⟨ha, hb⟩ := List.of_mem_zip hab
  rw [h a ha, hother b hb]

namespace FlatRoutingTable

variable {k acc : Nat} {self : FlatRoutingTable k acc}

theorem closest_of_last_valid {target : NodeId} {g : NonZeroU8} (hg : g.get ≤ NodeId.BITS)
    (hlast : self.getBucketIndex target = self.buckets.length - 1) {c : Contact}
    (hc : c ∈ (self.bucket target).contacts) (hvalid : c.isValid = true) :
    ∃ x, self.closest target 1 g = .ok (.ok [x]) := by
  have htarget : (self.search target g.get).targetBucketIndex = self.getBucketIndex target := rfl
  have hmem : (target.sharedPrefix c.id g.get, c) ∈
      (self.search target g.get).validOf (self.bucket target) :=
    mk_mem_candidatesOf hc hvalid target g.get
  rw [closest, NodeId.sharedPrefixLen_of_le _ _ hg]
  simp only [assert_of (self.search_start_mod target), ok_bind, htarget, hlast, if_true]
  rw [← hlast, buckets_getBucketIndex, expect_some, ok_bind]
  cases hsorted : sortXor ((self.search target g.get).validOf (self.bucket target)) with
  | nil =>
    have hsortedMem := (sortXor_perm _).mem_iff.2 hmem
    exact absurd (hsorted ▸ hsortedMem) List.not_mem_nil
  | cons x rest => exact ⟨x, by simp⟩

theorem getBucketIndex_root (self : FlatRoutingTable k acc) :
    self.getBucketIndex self.root = self.numBuckets - 1 := by
  rw [numBuckets_eq, Nat.add_sub_cancel, getBucketIndex_eq_last_iff,
    digits_eq_zero_iff self (self.levels_mul_le (Nat.le_refl _)), XorMetric.sharedBits_self]
  exact self.levels_le

theorem Tidy.last_of_eq (ht : self.Tidy) {id : NodeId} {c : Contact}
    (hc : c ∈ (self.bucket id).contacts)
    (h : (self.bucket self.root).eq (self.bucket id) = true) :
    self.getBucketIndex id = self.numBuckets - 1 := by
  have hids : c.id ∈ (self.bucket self.root).contacts.map Contact.id := by
    rw [Bucket.map_id_of_eq h]
    exact List.mem_map_of_mem hc
  obtain ⟨d, hd, hid⟩ := List.mem_map.1 hids
  have hlast := ((ht.mem_bucket_iff self.root d).1 hd).2
  rw [hid, ((ht.mem_bucket_iff id c).1 hc).2] at hlast
  exact hlast.trans self.getBucketIndex_root

theorem Tidy.nextHopsPass (ht : self.Tidy) : NextHopsPass self := by
  have hstored (target : NodeId) (g : NonZeroU8) (hg : g.get ≤ NodeId.BITS) :
      ∃ res, self.closest target 1 g = .ok (.ok res) ∧ ∀ x ∈ res, x.2 ∈ self.iter ∧
        x.2.isValid = true ∧ x.1 = target.sharedPrefix x.2.id g.get := by
    obtain ⟨res, omitted, hres, hanswer⟩ := closest_answer ht target 1 hg
    exact ⟨res, hres, fun x hx ↦
      mem_candidatesOf.1 (hanswer.perm.subset (List.mem_append_left _ hx))⟩
  rw [nextHopsPass_iff fun target g hg ↦ (hstored target g hg).imp fun _ h ↦
    ⟨h.1, fun x hx ↦ (h.2 x hx).2.2⟩]
  intro target g hg res hres hrejected
  obtain ⟨res', hres', hmem⟩ := hstored target g hg
  obtain rfl := Except.ok.inj (ok.inj (hres.symm.trans hres'))
  match res, hmem, hres', hrejected with
  | nearest :: second :: rest, hmem, hres', ⟨heq, hprogress, _⟩ =>
    have hnear := Nat.lt_of_div_lt_div hprogress
    obtain ⟨hiter, hvalid, -⟩ := hmem nearest List.mem_cons_self
    have hlast := ht.last_of_eq ((ht.mem_bucket_iff nearest.2.id nearest.2).2 ⟨hiter, rfl⟩) heq
    have htarget := (self.getBucketIndex_eq_last_congr hnear).1 hlast
    obtain ⟨x, hx⟩ := closest_of_last_valid hg htarget
      ((ht.mem_bucket_iff target nearest.2).2 ⟨hiter, hlast.trans htarget.symm⟩) hvalid
    have hone := Except.ok.inj (ok.inj (hres'.symm.trans hx))
    cases hone

end FlatRoutingTable

namespace UnlimitedULNRoutingTable

variable {k acc : Nat} {t : UnlimitedULNRoutingTable k acc}

/-- A neighbor whose bucket is as empty as the last one, and another contact close enough to it that
both make the same progress towards some target. -/
structure Confused (t : UnlimitedULNRoutingTable k acc) (a b : Contact) : Prop where
  stored : a ∈ t.iter ∧ b ∈ t.iter
  valid : a.isValid = true ∧ b.isValid = true
  ne : b.id ≠ a.id
  outside : t.inner.getBucketIndex a.id ≠ t.inner.numBuckets - 1
  empty : (t.inner.bucket a.id).contacts = []
  lastEmpty : (t.inner.bucket t.inner.root).contacts = []
  closer : sharedBits a.id t.inner.root < sharedBits a.id b.id
  two : 2 ≤ sharedBits a.id b.id

/-- Where the answer to a search for one contact comes from: neighbors and contacts of the inner
table, closest first.  If the second of them is in the last bucket, only the first is returned. -/
structure Merged (t : UnlimitedULNRoutingTable k acc) (target : NodeId) (g : Nat)
    (res merged : List PrefixContact) : Prop where
  stored : ∀ x ∈ merged, x.2 ∈ t.iter ∧ x.2.isValid = true ∧ x.1 = target.sharedPrefix x.2.id g
  nodup : (merged.map fun x ↦ x.2.id).Nodup
  sorted : merged.Pairwise sorterXor
  neighbor : ∀ c ∈ t.unContacts.values, c.isValid = true →
    (target.sharedPrefix c.id g, c) ∈ merged
  inner : ∀ c ∈ t.inner.iter, c.isValid = true → ∃ x ∈ merged, x.2 ∈ t.inner.iter ∧
    (target.sharedPrefix c.id g).length ≤ x.1.length
  whole : (∀ second, merged[1]? = some second →
    t.inner.getBucketIndex second.2.id ≠ t.inner.numBuckets - 1) → res = merged
  cut : ∀ second, merged[1]? = some second →
    t.inner.getBucketIndex second.2.id = t.inner.numBuckets - 1 → res.length ≤ 1

theorem exists_merged (ht : t.Tidy) (target : NodeId) {g : NonZeroU8} (hg : g.get ≤ NodeId.BITS) :
    ∃ res merged, t.closest target 1 g = .ok (.ok res) ∧ t.Merged target g.get res merged := by
  obtain ⟨found, omitted, hfound, hanswer⟩ := FlatRoutingTable.closest_answer ht.inner target 1 hg
  have hmerged := (hanswer.merge (candidatesOf t.unContacts.values target g.get)).of_perm
    (show List.Perm _ (candidatesOf t.iter target g.get) by
      rw [iter, candidatesOf_append]
      exact List.perm_append_comm)
  have hclose := hmerged.closestContacts ht.nodup_iter
  have hmem {x : PrefixContact} :
      x ∈ sortXor (found ++ candidatesOf t.unContacts.values target g.get) ↔
        x ∈ found ∨ x ∈ candidatesOf t.unContacts.values target g.get := by
    rw [(sortXor_perm _).mem_iff, List.mem_append]
  have hinner {x : PrefixContact} (hx : x ∈ found) : x.2 ∈ t.inner.iter :=
    (mem_candidatesOf.1 (hanswer.perm.subset (List.mem_append_left _ hx))).1
  -- what is in the list does not depend on whether it is cut
  have hof (res : List PrefixContact) (whole cut) : t.Merged target g.get res
      (sortXor (found ++ candidatesOf t.unContacts.values target g.get)) :=
    { stored := hclose.valid
      nodup := hclose.nodup
      sorted := hclose.sorted
      neighbor := fun c hc hvalid ↦ hmem.2 (.inr (mk_mem_candidatesOf hc hvalid target g.get))
      inner := by
        intro c hc hvalid
        rcases List.mem_append.1 (hanswer.perm.mem_iff.2
          (mk_mem_candidatesOf hc hvalid target g.get)) with hin | hout
        · exact ⟨_, hmem.2 (.inl hin), hc, le_rfl⟩
        · obtain ⟨x, rest, rfl⟩ := List.exists_cons_of_length_pos
            (hanswer.enough (List.ne_nil_of_mem hout))
          exact ⟨x, hmem.2 (.inl List.mem_cons_self), hinner List.mem_cons_self,
            hanswer.shorter x (by simp) _ hout⟩
      whole := whole
      cut := cut }
  rw [closest, hfound]
  simp only [ok_bind]
  split
  · rename_i hnone
    exact ⟨_, _, rfl, hof _ (fun _ ↦ rfl) fun second hsecond ↦ by simp [hnone] at hsecond⟩
  · rename_i second hsecond
    split
    · rename_i hlast
      exact ⟨_, _, rfl, hof _ (fun h ↦ absurd hlast (h _ hsecond)) fun _ _ _ ↦ by simp⟩
    · rename_i hother
      refine ⟨_, _, rfl, hof _ (fun _ ↦ rfl) fun x hx hlast ↦ absurd hlast ?_⟩
      rwa [← Option.some.inj (hsecond.symm.trans hx)]

/-- A rejected answer has its reason in two contacts that are confused. -/
theorem exists_confused (ht : t.Tidy) {target : NodeId} {g : NonZeroU8}
    {res merged : List PrefixContact} (hmerged : t.Merged target g.get res merged)
    (h : Rejected t target g.get res) : ∃ a b, t.Confused a b := by
  match res, hmerged, h with
  | nearest :: second :: rest, hmerged, ⟨heq, hprogress, hsame⟩ =>
    have houtside : ∀ x, merged[1]? = some x →
        t.inner.getBucketIndex x.2.id ≠ t.inner.numBuckets - 1 := by
      intro x hx hlast
      have := hmerged.cut x hx hlast
      simp at this
    have hlist := hmerged.whole houtside
    have hsecond : t.inner.getBucketIndex second.2.id ≠ t.inner.numBuckets - 1 :=
      houtside second (by rw [← hlist]; rfl)
    obtain ⟨hnearIter, hnearValid, hnearShared⟩ := hmerged.stored nearest (by simp [← hlist])
    obtain ⟨hsecondIter, hsecondValid, hsecondShared⟩ := hmerged.stored second (by simp [← hlist])
    have hnodup := hmerged.nodup
    have hsorted := hmerged.sorted
    rw [← hlist] at hnodup hsorted
    have hne : second.2.id ≠ nearest.2.id := by
      intro hid
      simp [hid] at hnodup
    have hnear := Nat.lt_of_div_lt_div hprogress
    have hnext := Nat.lt_of_div_lt_div (Nat.lt_of_lt_of_le hprogress hsame)
    have hroot : sharedBits nearest.2.id t.inner.root = sharedBits target t.inner.root := by
      rw [sharedBits_comm, sharedBits_comm target, sharedBits_eq_of_lt (by rwa [sharedBits_comm])]
    have hshared := min_sharedBits_le nearest.2.id target second.2.id
    rw [sharedBits_comm nearest.2.id] at hshared
    have houtsideNear : t.inner.getBucketIndex nearest.2.id ≠ t.inner.numBuckets - 1 := by
      rwa [Ne, t.inner.getBucketIndex_eq_last_congr hnear,
        ← t.inner.getBucketIndex_eq_last_congr hnext]
    have hempty : (t.inner.bucket nearest.2.id).contacts = [] :=
      List.eq_nil_iff_forall_not_mem.2 fun c hc ↦ houtsideNear (ht.inner.last_of_eq hc heq)
    refine ⟨nearest.2, second.2, ⟨hnearIter, hsecondIter⟩, ⟨hnearValid, hsecondValid⟩, hne,
      houtsideNear, hempty, ?_, ?_, ?_⟩
    · exact List.map_eq_nil_iff.1 ((Bucket.map_id_of_eq heq).trans (List.map_eq_nil_iff.2 hempty))
    · rw [hroot]
      exact Nat.lt_of_lt_of_le (Nat.lt_min.2 ⟨hnear, hnext⟩) hshared
    · have hle := sorterXor_length ((List.pairwise_cons.1 hsorted).1 second List.mem_cons_self)
      rw [hnearShared, hsecondShared] at hle
      exact two_le_sharedBits_of_div_eq (by decide) (le_antisymm hsame hle)
        (Nat.zero_lt_of_lt hprogress)

/-- A contact is confused with the closest of all others, if it is with any. -/
theorem Confused.exists_closest {a b : Contact} (h : t.Confused a b) :
    ∃ b, t.Confused a b ∧ ∀ c ∈ t.iter, c.isValid = true → c.id ≠ a.id →
      sharedBits a.id c.id ≤ sharedBits a.id b.id := by
  have hmem : b ∈ t.iter.filter fun c ↦ c.isValid && c.id != a.id := by
    simp [h.stored.2, h.valid.2, h.ne]
  obtain ⟨best, hbest⟩ := Iter.exists_maxByKey (fun c ↦ sharedBits a.id c.id)
    (List.ne_nil_of_mem hmem)
  obtain ⟨hbest, hmax⟩ := Iter.maxByKey_spec hbest
  obtain ⟨hstored, hvalid, hne⟩ : best ∈ t.iter ∧ best.isValid = true ∧ best.id ≠ a.id := by
    simpa using hbest
  have hle := hmax b hmem
  refine ⟨best, { h with
    stored := ⟨h.stored.1, hstored⟩
    valid := ⟨h.valid.1, hvalid⟩
    ne := hne
    closer := Nat.lt_of_lt_of_le h.closer hle
    two := h.two.trans hle }, fun c hc hvalid hne ↦ hmax c ?_⟩
  simp [hc, hvalid, hne]

/-- The first of them is a neighbor: the inner table has no contact where it belongs. -/
theorem Confused.mem_values (ht : t.Tidy) {a b : Contact} (h : t.Confused a b) :
    a ∈ t.unContacts.values ∧ ∀ c ∈ t.inner.iter, c.id ≠ a.id := by
  have hinner : ∀ c ∈ t.inner.iter, c.id ≠ a.id := by
    intro c hc hid
    have := (ht.inner.mem_bucket_iff a.id c).2 ⟨hc, by rw [hid]⟩
    simp [h.empty] at this
  exact ⟨(List.mem_append.1 h.stored.1).resolve_right fun hin ↦ hinner a hin rfl, hinner⟩

section

variable {target : NodeId} {g : Nat} {res merged : List PrefixContact} {a : Contact}

/-- A neighbor that is closer to the target than all other contacts comes first. -/
theorem Merged.first {nearest : PrefixContact} {rest : List PrefixContact}
    (hmerged : t.Merged target g res (nearest :: rest)) (ha : a ∈ t.unContacts.values)
    (hvalid : a.isValid = true)
    (hclosest : ∀ c ∈ t.iter, c.isValid = true → c.id ≠ a.id →
      dist target a.id < dist target c.id) : nearest.2.id = a.id := by
  by_contra hne
  obtain ⟨hstored, hnear, hshared⟩ := hmerged.stored nearest List.mem_cons_self
  have hrest := (List.mem_cons.1 (hmerged.neighbor a ha hvalid)).resolve_left
    fun heq ↦ hne (congrArg (fun x ↦ x.2.id) heq).symm
  have hle := (List.pairwise_cons.1 hmerged.sorted).1 _ hrest
  rw [sorterXor, hshared, NodeId.sharedPrefix_le_iff] at hle
  exact absurd (hclosest nearest.2 hstored hnear hne) (Nat.not_lt.2 hle)

/-- If such a neighbor makes progress and another contact makes no less, its bucket must not look
like the last one. -/
theorem Merged.rejected (hmerged : t.Merged target g res merged) (ha : a ∈ t.unContacts.values)
    (hvalid : a.isValid = true)
    (hclosest : ∀ c ∈ t.iter, c.isValid = true → c.id ≠ a.id →
      dist target a.id < dist target c.id)
    (hprogress : sharedBits target t.inner.root / g < sharedBits target a.id / g)
    (hsame : ∃ x ∈ merged, x.2.id ≠ a.id ∧ sharedBits target a.id / g ≤ x.1.length)
    (houtside : t.inner.getBucketIndex a.id ≠ t.inner.numBuckets - 1)
    (heq : (t.inner.bucket t.inner.root).eq (t.inner.bucket a.id) = true) :
    Rejected t target g res := by
  obtain ⟨x, hx, hne, hlen⟩ := hsame
  match merged with
  | [] => exact absurd hx List.not_mem_nil
  | [nearest] =>
    obtain rfl := List.mem_singleton.1 hx
    exact absurd (hmerged.first ha hvalid hclosest) hne
  | nearest :: second :: rest =>
    have hnear := hmerged.first ha hvalid hclosest
    have hrest : x ∈ second :: rest :=
      (List.mem_cons.1 hx).resolve_left fun h ↦ hne (h ▸ hnear)
    have hsecond : sharedBits target a.id / g ≤ sharedBits target second.2.id / g := by
      have hshared := (hmerged.stored second (by simp)).2.2
      have hle : x.1.length ≤ second.1.length := by
        rcases List.mem_cons.1 hrest with rfl | hrest
        · exact le_rfl
        · exact sorterXor_length
            ((List.pairwise_cons.1 (List.pairwise_cons.1 hmerged.sorted).2).1 x hrest)
      rw [hshared] at hle
      exact hlen.trans hle
    -- the second contact is outside of the last bucket as well, and the answer is not cut
    have hother : t.inner.getBucketIndex second.2.id ≠ t.inner.numBuckets - 1 := by
      rwa [Ne, t.inner.getBucketIndex_eq_last_congr
          (Nat.lt_of_div_lt_div (hprogress.trans_le hsecond)),
        ← t.inner.getBucketIndex_eq_last_congr (Nat.lt_of_div_lt_div hprogress)]
    obtain rfl := hmerged.whole fun y hy ↦ by rwa [← Option.some.inj hy]
    rw [← hnear] at heq hprogress hsecond
    exact ⟨heq, hprogress, hsecond⟩

end

/-- Of two contacts that are confused, the answer to some search is rejected.  It is asked for a
target that leaves the one just after the other does, in groups as long as what the two share. -/
theorem Confused.exists_rejected (ht : t.Tidy) {a b : Contact} (h : t.Confused a b) :
    ∃ target, ∃ g : NonZeroU8, g.get ≤ NodeId.BITS ∧
      ∃ res, t.closest target 1 g = .ok (.ok res) ∧ Rejected t target g.get res := by
  obtain ⟨b, h, hmax⟩ := h.exists_closest
  obtain ⟨hneighbor, hinner⟩ := h.mem_values ht
  have htwo := h.two
  have hcloser := h.closer
  have hlt : sharedBits a.id b.id < NodeId.BITS :=
    Nat.lt_of_le_of_ne (sharedBits_le _ _) fun heq ↦ h.ne ((sharedBits_eq_width_iff _ _).1 heq).symm
  generalize hd : sharedBits a.id b.id = d at *
  obtain ⟨target, htarget⟩ := exists_sharedBits_eq a.id (show d + 1 ≤ NodeId.BITS from hlt)
  have hother {x : NodeId} (hx : sharedBits a.id x ≤ d) :
      sharedBits target x = sharedBits a.id x := by
    rw [sharedBits_comm, sharedBits_comm a.id, sharedBits_eq_of_lt]
    rw [sharedBits_comm x]
    omega
  have hnearLen : sharedBits target a.id / d = 1 := by
    rw [sharedBits_comm, htarget]
    exact Nat.div_eq_of_lt_le (by omega) (by omega)
  obtain ⟨res, merged, hres, hmerged⟩ :=
    exists_merged ht target (g := ⟨d, by omega, hlt.trans (by decide)⟩) hlt.le
  refine ⟨target, ⟨d, by omega, hlt.trans (by decide)⟩, hlt.le, res, hres,
    hmerged.rejected hneighbor h.valid.1 (fun c hc hvalid hne ↦ ?_) ?_ ?_ h.outside
      (Bucket.eq_of_empty h.lastEmpty h.empty)⟩
  · have hle := hmax c hc hvalid hne
    refine dist_lt_of_sharedBits_lt ?_
    rw [hother hle, sharedBits_comm target, htarget]
    omega
  · rw [hnearLen, hother hcloser.le, Nat.div_eq_of_lt hcloser]
    exact Nat.one_pos
  · have hlen : sharedBits target a.id / d ≤ (NodeId.sharedPrefix target b.id d).length := by
      rw [NodeId.sharedPrefix, hnearLen, hother hd.le, hd, Nat.div_self (by omega)]
    rcases List.mem_append.1 h.stored.2 with hin | hin
    · exact ⟨_, hmerged.neighbor b hin h.valid.2, h.ne, hlen⟩
    · obtain ⟨x, hx, hxin, hle⟩ := hmerged.inner b hin h.valid.2
      exact ⟨x, hx, hinner x.2 hxin, hlen.trans hle⟩

theorem Tidy.nextHopsPass_iff (ht : t.Tidy) : NextHopsPass t ↔ ∀ a b, ¬ t.Confused a b := by
  have hsearch (target : NodeId) (g : NonZeroU8) (hg : g.get ≤ NodeId.BITS) :
      ∃ res, t.closest target 1 g = .ok (.ok res) ∧
        ∀ x ∈ res, x.1 = target.sharedPrefix x.2.id g.get := by
    obtain ⟨res, omitted, hres, hanswer⟩ := closest_answer ht.inner target 1 hg
    exact ⟨res, hres, fun x hx ↦
      (mem_candidatesOf.1 (hanswer.perm.subset (List.mem_append_left _ hx))).2.2⟩
  rw [Kira.nextHopsPass_iff hsearch]
  constructor
  · intro hpass a b hconfused
    obtain ⟨target, g, hg, res, hres, hrejected⟩ := hconfused.exists_rejected ht
    exact hpass target g hg res hres hrejected
  · intro h target g hg res hres hrejected
    obtain ⟨res', merged, hres', hmerged⟩ := exists_merged ht target hg
    obtain rfl := Except.ok.inj (ok.inj (hres.symm.trans hres'))
    obtain ⟨a, b, hconfused⟩ := exists_confused ht hmerged hrejected
    exact h a b hconfused

end UnlimitedULNRoutingTable

/-- **Searching a table does not fail.**  In a table whose contacts are in their places no check
fails that is made for an index or a search.  Nor does one fail for a next hop, if the table has no
map of neighbors; if it has one, this is so exactly if no two of its contacts are confused. -/
theorem checks_pass {k acc : Nat} (root : NodeId) (acc_pos : 0 < acc) (acc_lt : acc < 64) :
    (∀ t : FlatRoutingTable k acc,
      Reachable Operation.apply (Operation.Orderly FlatRoutingTable.Replaceable)
        (.new root acc_pos acc_lt) t →
      SearchesPass t (FlatRoutingTable.checkedBucketIndex t.root t.numBuckets acc) ∧
        NextHopsPass t) ∧
    ∀ t : UnlimitedULNRoutingTable k acc,
      Reachable Operation.apply (Operation.Orderly UnlimitedULNRoutingTable.Replaceable)
        (.new root acc_pos acc_lt) t →
      SearchesPass t (FlatRoutingTable.checkedBucketIndex t.inner.root t.inner.numBuckets acc) ∧
        (NextHopsPass t ↔ ∀ a b, ¬ t.Confused a b) := by
  refine ⟨fun t hrun ↦ ?_, fun t hrun ↦ ?_⟩
  · have ht : t.Tidy := hrun.invariant (FlatRoutingTable.tidy_new root acc_pos acc_lt)
      fun _ _ _ ht hop h ↦ hop.tidy (fun _ _ _ ht h ↦ FlatRoutingTable.Tidy.replace ht h) ht h
    refine ⟨⟨t.checkedBucketIndex_eq, fun target n g hg ↦ ?_⟩, ht.nextHopsPass⟩
    obtain ⟨res, -, hres, -⟩ := FlatRoutingTable.closest_answer ht target n hg
    exact ⟨res, hres⟩
  · have ht : t.Tidy := hrun.invariant (UnlimitedULNRoutingTable.tidy_new root acc_pos acc_lt)
      fun _ _ _ ht hop h ↦
        hop.tidy (fun _ _ _ ht h ↦ UnlimitedULNRoutingTable.Tidy.replace ht h) ht h
    refine ⟨⟨t.inner.checkedBucketIndex_eq, fun target n g hg ↦ ?_⟩, ht.nextHopsPass_iff⟩
    obtain ⟨res, -, hres, -⟩ := UnlimitedULNRoutingTable.closest_answer ht.inner target n hg
    exact ⟨res, hres⟩

/-- Two neighbors that start with the same bit. -/
def farNeighbors : List Operation :=
  [.table (.add (.ofIds [.ofNat 112 (2 ^ 111 + 1)] (by decide) .MIN)),
    .table (.add (.ofIds [.ofNat 112 (2 ^ 111 + 2)] (by decide) .MIN))]

/-- With a contact in the last bucket they are not confused, although the bucket was split. -/
theorem checks_pass_last_filled : ∃ t : UnlimitedULNRoutingTable 20 1,
    runAll Operation.apply (.new 0 (by decide) (by decide)) (.table (.splitBucket 0) ::
      .table (.add (.ofIds [.ofNat 112 (2 ^ 111 + 1), 1] (by decide) .MIN)) :: farNeighbors) =
        .ok t ∧
      (t.inner.numBuckets = 2 ∧ (t.inner.bucket t.inner.root).contacts ≠ []) ∧ NextHopsPass t := by
  refine exists_ok (p := fun t ↦ t.inner.numBuckets = 2 ∧
    (t.inner.bucket t.inner.root).contacts ≠ []) ⟨_, rfl, by decide +kernel⟩ ?_
  intro t hrun hlast
  refine ⟨hlast, ((checks_pass 0 (by decide) (by decide)).2 t (.runAll .start ?_ hrun)).2.2
    fun _ _ h ↦ hlast.2 h.lastEmpty⟩
  simp [farNeighbors, Operation.Orderly, TableOp.WellBehaved]

/-- **Two empty buckets look alike.**  After the bucket was split the assertion takes the bucket of
the nearest neighbor for the last one and fails, because the other neighbor makes the same progress.
-/
theorem buckets_confused : ∃ t : UnlimitedULNRoutingTable 20 1,
    runAll Operation.apply (.new 0 (by decide) (by decide))
      (.table (.splitBucket 0) :: farNeighbors) = .ok t ∧
    nextHop true t (.ofNat 112 (2 ^ 111 + 4)) .MIN =
      .panic ("No alternative contacts with equal shared prefix length in last bucket; " ++
        "strictly select by XOR-metric") :=
  ⟨_, rfl, by decide +kernel⟩

end Kira
