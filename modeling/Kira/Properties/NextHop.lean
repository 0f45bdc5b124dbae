import Kira.Domain.RoutingTable.FlatNearest
import Kira.Domain.RoutingTable.NextHop
import Kira.Domain.RoutingTable.UnlimitedULNLawful

/-!
# When there is no next hop

`nextHop` is meant to return nothing exactly if the node itself is the closest one to the target, as
far as its table knows.  It asks the table for a single contact, and the search for that contact
stops at the first bucket that has one, closer or not.  So the table may know a closer contact and
`nextHop` may still return nothing (`nextHop_overlooks`).

`nextHop_none_iff_no_closer` says when that is so: exactly if the search overlooks a contact, in the
sense of `FlatRoutingTable.Overlooks`, and no neighbor makes up for it.
-/

set_option autoImplicit false

namespace Kira

open XorMetric RoutingTable

/-- No valid contact of the table is closer to the target than the root. -/
def NoCloser {T : Type} {k : Nat} [RoutingTable T k] (t : T) (target : NodeId) : Prop :=
  ∀ c ∈ iter t, c.isValid = true → ¬ dist target c.id < dist target (root t)

/-- The search overlooks a contact of the inner table, and no neighbor is closer than the root. -/
def UnlimitedULNRoutingTable.Overlooks {k : Nat} (self : UnlimitedULNRoutingTable k 1)
    (target : NodeId) : Prop :=
  self.inner.Overlooks target ∧ ∀ c ∈ self.unContacts.values, c.isValid = true →
    ¬ TurnsOffWith target self.root c.id

/-- Asked for one contact, the table with a neighbor map returns a contact at least as close as any
neighbor and as any contact the inner table has found. -/
theorem UnlimitedULNRoutingTable.closest_merged {k : Nat} {self : UnlimitedULNRoutingTable k 1}
    {target : NodeId} {g : NonZeroU8} {found : List PrefixContact}
    (h : self.inner.closest target 1 g = .ok (.ok found)) :
    ∃ res, self.closest target 1 g = .ok (.ok res) ∧ res.Pairwise sorterXor ∧
      (∀ x ∈ res, x ∈ found ++ candidatesOf self.unContacts.values target g.get) ∧
      ∀ y ∈ found ++ candidatesOf self.unContacts.values target g.get, ∃ x ∈ res,
        sorterXor x y := by
  rw [closest, h]
  simp only [Run.ok_bind]
  have hperm := sortXor_perm (found ++ candidatesOf self.unContacts.values target g.get)
  have hsorted := sortXor_pairwise (found ++ candidatesOf self.unContacts.values target g.get)
  generalize sortXor (found ++ candidatesOf self.unContacts.values target g.get) = merged at *
  have hall : ∀ y ∈ found ++ candidatesOf self.unContacts.values target g.get,
      ∃ x ∈ merged, sorterXor x y := fun y hy ↦ ⟨y, hperm.mem_iff.2 hy, Std.Refl.refl y⟩
  split
  · exact ⟨merged, rfl, hsorted, fun x hx ↦ hperm.mem_iff.1 hx, hall⟩
  · split
    · refine ⟨merged.take 1, rfl, hsorted.sublist (List.take_sublist 1 merged),
        fun x hx ↦ hperm.mem_iff.1 (List.mem_of_mem_take hx), ?_⟩
      intro y hy
      cases hm : merged with
      | nil => exact absurd (hperm.mem_iff.2 hy) (by simp [hm])
      | cons x xs =>
        refine ⟨x, by simp, ?_⟩
        have hmem := hperm.mem_iff.2 hy
        rw [hm] at hmem hsorted
        rcases List.mem_cons.1 hmem with rfl | hmem
        · exact Std.Refl.refl y
        · exact (List.pairwise_cons.1 hsorted).1 y hmem
    · exact ⟨merged, rfl, hsorted, fun x hx ↦ hperm.mem_iff.1 hx, hall⟩

section

variable {k : Nat} {target : NodeId} {g : NonZeroU8}

theorem FlatRoutingTable.nextHop_none_iff {t : FlatRoutingTable k 1} (ht : TableOp.Healthy t)
    (hg : g.get ≤ NodeId.BITS) (debug : Bool) :
    (nextHop debug t target g = .ok (.ok none) ↔ NoCloser t target) ↔ ¬ t.Overlooks target := by
  obtain ⟨res, omitted, hres, hanswer⟩ := FlatRoutingTable.closest_answer ht.tidy target 1 hg
  have hmem : ∀ x ∈ res, x ∈ candidatesOf t.iter target g.get :=
    fun x hx ↦ hanswer.perm.mem_iff.1 (List.mem_append_left _ hx)
  have hshared : ∀ x ∈ res, x.1 = target.sharedPrefix x.2.id g.get :=
    fun x hx ↦ (mem_candidatesOf.1 (hmem x hx)).2.2
  have hroot : ∀ x ∈ res, x.2.id ≠ root t :=
    fun x hx ↦ ht.rootFree _ (mem_candidatesOf.1 (hmem x hx)).1
  rw [nextHop_eq_none_iff hg hres hshared hroot hanswer.sorted debug,
    FlatRoutingTable.overlooks_iff ht.tidy ht.rootFree hg hres]
  -- what is found is stored, so only one direction can fail
  have hsub : NoCloser t target → ∀ x ∈ res, dist target (root t) ≤ dist target x.2.id := by
    intro h x hx
    obtain ⟨hstored, hvalid, -⟩ := mem_candidatesOf.1 (hmem x hx)
    exact Nat.not_lt.1 (h x.2 hstored hvalid)
  constructor
  · rintro h ⟨hnone, c, hc, hvalid, hcloser⟩
    exact h.1 hnone c hc hvalid hcloser
  · intro h
    exact ⟨fun hnone c hc hvalid hcloser ↦ h ⟨hnone, c, hc, hvalid, hcloser⟩, hsub⟩

theorem UnlimitedULNRoutingTable.nextHop_none_iff {t : UnlimitedULNRoutingTable k 1}
    (ht : TableOp.Healthy t) (hg : g.get ≤ NodeId.BITS) (debug : Bool) :
    (nextHop debug t target g = .ok (.ok none) ↔ NoCloser t target) ↔ ¬ t.Overlooks target := by
  have htidy : t.Tidy := ht.tidy
  have hinner : ∀ c ∈ t.inner.iter, c.id ≠ t.inner.root :=
    fun c hc ↦ ht.rootFree c (mem_iter.2 (.inr hc))
  have hneighbor : ∀ c ∈ t.unContacts.values, c.id ≠ t.root :=
    fun c hc ↦ ht.rootFree c (mem_iter.2 (.inl (KeyMap.mem_values.1 hc)))
  obtain ⟨found, omitted, hfound, hanswer⟩ :=
    FlatRoutingTable.closest_answer htidy.inner target 1 hg
  obtain ⟨res, hres, hsorted, hin, hmin⟩ := closest_merged hfound
  -- everything found is a valid contact, with its prefix
  have hmem : ∀ x ∈ found ++ candidatesOf t.unContacts.values target g.get,
      x ∈ candidatesOf t.iter target g.get := by
    intro x hx
    rw [iter, candidatesOf_append]
    rcases List.mem_append.1 hx with hx | hx
    · exact List.mem_append_right _ (hanswer.perm.mem_iff.1 (List.mem_append_left _ hx))
    · exact List.mem_append_left _ hx
  have hshared : ∀ x ∈ found ++ candidatesOf t.unContacts.values target g.get,
      x.1 = target.sharedPrefix x.2.id g.get :=
    fun x hx ↦ (mem_candidatesOf.1 (hmem x hx)).2.2
  have hroot : ∀ x ∈ res, x.2.id ≠ root t :=
    fun x hx ↦ ht.rootFree _ (mem_candidatesOf.1 (hmem x (hin x hx))).1
  -- the answer has a closer contact if the inner table found one or a neighbor is one
  have hnone : (∀ x ∈ res, dist target (RoutingTable.root t) ≤ dist target x.2.id) ↔
      (∀ x ∈ found, dist target t.inner.root ≤ dist target x.2.id) ∧
        ∀ c ∈ t.unContacts.values, c.isValid = true → ¬ TurnsOffWith target t.root c.id := by
    have hall : (∀ x ∈ res, dist target (RoutingTable.root t) ≤ dist target x.2.id) ↔
        ∀ y ∈ found ++ candidatesOf t.unContacts.values target g.get,
          dist target (RoutingTable.root t) ≤ dist target y.2.id := by
      refine ⟨fun h y hy ↦ ?_, fun h x hx ↦ h x (hin x hx)⟩
      obtain ⟨x, hx, hle⟩ := hmin y hy
      rw [sorterXor, hshared x (hin x hx), hshared y hy, NodeId.sharedPrefix_le_iff] at hle
      exact Nat.le_trans (h x hx) hle
    rw [hall, List.forall_mem_append]
    refine and_congr Iff.rfl ⟨fun h c hc hvalid ↦ ?_, fun h x hx ↦ ?_⟩
    · rw [← closer_iff (hneighbor c hc)]
      exact Nat.not_lt.2 (h _ (mk_mem_candidatesOf hc hvalid target g.get))
    · obtain ⟨hc, hvalid, -⟩ := mem_candidatesOf.1 hx
      exact Nat.not_lt.1 ((closer_iff (hneighbor _ hc)).not.2 (h _ hc hvalid))
  rw [nextHop_eq_none_iff hg hres (fun x hx ↦ hshared x (hin x hx)) hroot hsorted debug, hnone,
    Overlooks, FlatRoutingTable.overlooks_iff htidy.inner hinner hg hfound]
  constructor
  · rintro h ⟨⟨hfar, c, hc, hvalid, hcloser⟩, hun⟩
    exact h.1 ⟨hfar, hun⟩ c (mem_iter.2 (.inr hc)) hvalid hcloser
  · intro h
    constructor
    · rintro ⟨hfar, hun⟩ c hc hvalid hcloser
      rcases mem_iter.1 hc with hc | hc
      · have hval := KeyMap.mem_values.2 hc
        exact hun c hval hvalid ((closer_iff (hneighbor c hval)).1 hcloser)
      · exact h ⟨⟨hfar, c, hc, hvalid, hcloser⟩, hun⟩
    · intro hno
      rw [← hnone]
      intro x hx
      obtain ⟨hstored, hvalid, -⟩ := mem_candidatesOf.1 (hmem x (hin x hx))
      exact Nat.not_lt.1 (hno x.2 hstored hvalid)

variable (root target)

/-- **When there is no next hop.**  After any run that keeps the ids, and for every grouping that is
accepted, `nextHop` returns nothing exactly if no valid contact is closer, unless the search
overlooks one. -/
theorem nextHop_none_iff_no_closer (debug : Bool) (hg : g.get ≤ NodeId.BITS) :
    (∀ t : FlatRoutingTable k 1,
      Reachable TableOp.apply TableOp.KeepsIds (.new root (by decide) (by decide)) t →
      ((nextHop debug t target g = .ok (.ok none) ↔ NoCloser t target) ↔ ¬ t.Overlooks target)) ∧
    (∀ t : UnlimitedULNRoutingTable k 1,
      Reachable TableOp.apply TableOp.KeepsIds (.new root (by decide) (by decide)) t →
      ((nextHop debug t target g = .ok (.ok none) ↔ NoCloser t target) ↔
        ¬ t.Overlooks target)) := by
  constructor
  · intro t hrun
    have ht := TableOp.healthy_of_run (FlatRoutingTable.healthy_new root _ _) hrun
    exact FlatRoutingTable.nextHop_none_iff ht hg debug
  · intro t hrun
    have ht := TableOp.healthy_of_run (UnlimitedULNRoutingTable.healthy_new root _ _) hrun
    exact UnlimitedULNRoutingTable.nextHop_none_iff ht hg debug

end

/-! A table that knows a closer contact and finds no next hop.  The root is zero and the target
starts with the bits `101`.  The first bucket, which is the target's, is empty; the contact in the
second one starts with `01` and is further away than the root, the one in the third starts with
`001` and is closer. -/

/-- A target `101…`. -/
def farTarget : NodeId := BitVec.ofNat 112 (5 * 2 ^ 109)

/-- A contact `01…` in the second bucket. -/
def secondBucket : Contact :=
  .ofIds [1, BitVec.ofNat 112 (2 ^ 110)] (by decide) .MIN

/-- A contact `001…` in the third bucket. -/
def thirdBucket : Contact :=
  .ofIds [1, BitVec.ofNat 112 (2 ^ 109)] (by decide) .MIN

/-- With the contact in the second bucket alone, nothing is overlooked. -/
theorem nextHop_after_insert : ∃ t : FlatRoutingTable 1 1, secondBucket ∈ iter t ∧
    nextHop true t farTarget .MIN = .ok (.ok none) ∧
    ((nextHop true t farTarget .MIN = .ok (.ok none) ↔ NoCloser t farTarget) ↔
      ¬ t.Overlooks farTarget) := by
  have hrun : ∃ t : FlatRoutingTable 1 1,
      TableOp.apply (.new 0 (by decide) (by decide)) (.insert secondBucket) = .ok t ∧
      secondBucket ∈ iter t ∧ nextHop true t farTarget .MIN = .ok (.ok none) :=
    ⟨_, rfl, by decide +kernel⟩
  obtain ⟨t, h, hmem, hhop⟩ := hrun
  refine ⟨t, hmem, hhop, (nextHop_none_iff_no_closer farTarget 0 true (g := .MIN) (by decide)).1 t
    (.step .start ?_ h)⟩
  show secondBucket.id ≠ 0
  decide

theorem nextHop_overlooks : ∃ t : FlatRoutingTable 1 1,
    Reachable TableOp.apply TableOp.KeepsIds (.new 0 (by decide) (by decide)) t ∧
      nextHop true t farTarget .MIN = .ok (.ok none) ∧ ¬ NoCloser t farTarget := by
  have hrun : ∃ t₁ t₂ : FlatRoutingTable 1 1,
      TableOp.apply (.new 0 (by decide) (by decide)) (.insert secondBucket) = .ok t₁ ∧
      TableOp.apply t₁ (.insert thirdBucket) = .ok t₂ ∧ thirdBucket.id ≠ root t₁ ∧
      nextHop true t₂ farTarget .MIN = .ok (.ok none) ∧ thirdBucket ∈ iter t₂ ∧
      dist farTarget thirdBucket.id < dist farTarget (root t₂) :=
    ⟨_, _, rfl, rfl, by decide +kernel⟩
  obtain ⟨t₁, t₂, h₁, h₂, hne, hhop, hmem, hcloser⟩ := hrun
  refine ⟨t₂, .step (.step .start ?_ h₁) ?_ h₂, hhop,
    fun h ↦ h thirdBucket hmem (by decide) hcloser⟩
  · show secondBucket.id ≠ 0
    decide
  · exact hne

end Kira
