import Kira.Domain.RoutingTable.Lawful

/-!
# The next hop

What `nextHop` makes of the contacts that the search returns, for any table.  It looks at the
nearest of them, which is the first.  If that one is not closer to the target than the root, there
is no next hop; otherwise one of the contacts with an equally long prefix is chosen, and that one is
closer as well.  So whether there is a next hop depends on the search alone (`nextHop_eq_none_iff`).
-/

set_option autoImplicit false

namespace Kira

open Run XorMetric

namespace RoutingTable

variable {T : Type} {k : Nat} [RoutingTable T k]

theorem assertSameLength_of_eq {a b : PrefixContact} (h : a.1.length = b.1.length) (debug : Bool) :
    assertSameLength debug a b = .ok () :=
  assert_of (by simp [h])

theorem mem_candidates {nearest x : PrefixContact} {rest : List PrefixContact}
    (h : x ∈ (nearest :: rest).takeWhile fun candidate ↦ candidate.1.length == nearest.1.length) :
    x ∈ nearest :: rest ∧ x.1.length = nearest.1.length := by
  refine ⟨(List.takeWhile_sublist _).subset h, ?_⟩
  simpa using List.all_eq_true.1 List.all_takeWhile x h

theorem nearest_mem_candidates (nearest : PrefixContact) (rest : List PrefixContact) :
    nearest ∈ (nearest :: rest).takeWhile
      fun candidate ↦ candidate.1.length == nearest.1.length := by
  simp

/-! The candidates have equally long prefixes, as both comparisons assert. -/

theorem minByM_strictXorMetric (debug : Bool) (nearest : PrefixContact)
    (rest : List PrefixContact) :
    Iter.minByM (strictXorMetric debug) ((nearest :: rest).takeWhile
        fun candidate ↦ candidate.1.length == nearest.1.length) =
      .ok (Iter.minBy (fun a b ↦ compare a.1.xor.toNat b.1.xor.toNat) ((nearest :: rest).takeWhile
        fun candidate ↦ candidate.1.length == nearest.1.length)) := by
  rw [← Iter.minByM_ok]
  refine Iter.minByM_congr fun a ha b hb ↦ ?_
  rw [strictXorMetric,
    assertSameLength_of_eq ((mem_candidates ha).2.trans (mem_candidates hb).2.symm)]
  rfl

theorem minByM_proximityNeighborSelection (debug : Bool) (nearest : PrefixContact)
    (rest : List PrefixContact) :
    Iter.minByM (proximityNeighborSelection debug) ((nearest :: rest).takeWhile
        fun candidate ↦ candidate.1.length == nearest.1.length) =
      Iter.minByM (proximityNeighborSelection false) ((nearest :: rest).takeWhile
        fun candidate ↦ candidate.1.length == nearest.1.length) := by
  refine Iter.minByM_congr fun a ha b hb ↦ ?_
  rw [proximityNeighborSelection, proximityNeighborSelection,
    assertSameLength_of_eq ((mem_candidates ha).2.trans (mem_candidates hb).2.symm),
    assertSameLength_of_eq ((mem_candidates ha).2.trans (mem_candidates hb).2.symm)]

section

variable {t : T} {target : NodeId} {g : NonZeroU8} {res : List PrefixContact}
  (hg : g.get ≤ NodeId.BITS) (hres : closest t target 1 g = .ok (.ok res))
  (hshared : ∀ x ∈ res, x.1 = target.sharedPrefix x.2.id g.get)
  (hroot : ∀ x ∈ res, x.2.id ≠ root t)

include hshared hroot

/-- The first contact decides whether one of the contacts found is closer than the root. -/
theorem forall_le_iff_nearest {nearest : PrefixContact} {rest : List PrefixContact}
    (hlist : res = nearest :: rest) (hsorted : res.Pairwise sorterXor) :
    (∀ x ∈ nearest :: rest, dist target (root t) ≤ dist target x.2.id) ↔
      (target.sharedPrefix (root t) g.get).lt nearest.1 := by
  rw [hlist] at hshared hroot hsorted
  have hnear := hshared nearest List.mem_cons_self
  rw [hnear, NodeId.sharedPrefix_lt_iff]
  constructor
  · intro h
    refine Nat.lt_of_le_of_ne (h nearest List.mem_cons_self) ?_
    exact fun heq ↦ hroot nearest List.mem_cons_self (dist_inj heq).symm
  · intro h x hx
    refine Nat.le_trans (Nat.le_of_lt h) ?_
    rcases List.mem_cons.1 hx with rfl | htail
    · exact Nat.le_refl _
    · have hle := (List.pairwise_cons.1 hsorted).1 x htail
      rwa [sorterXor, hshared x hx, hnear, NodeId.sharedPrefix_le_iff] at hle

include hg hres

theorem nextHop_some_closer {debug : Bool} {c : Contact}
    (h : nextHop debug t target g = .ok (.ok (some c))) :
    ∃ x ∈ res, x.2 = c ∧ dist target c.id < dist target (root t) := by
  rw [nextHop, hres, ok_bind] at h
  cases hlist : res with
  | nil => simp [hlist] at h
  | cons nearest rest =>
    simp only [hlist, NodeId.sharedPrefixLen_of_le _ _ hg, minByM_strictXorMetric, ok_bind,
      NodeId.sharedPrefix_comm (root t) target] at h
    rw [hlist] at hshared hroot
    split at h
    · simp at h
    · rename_i hlen
      split at h
      · split at h
        · simp at h
        · rename_i hxor
          -- no prefix progress: the candidate with the smallest distance is chosen
          obtain ⟨x, hmin, rfl⟩ := Option.map_eq_some_iff.1 (Except.ok.inj (ok.inj h))
          obtain ⟨hx, hle⟩ := Iter.minBy_spec (fun x : PrefixContact ↦ x.1.xor.toNat)
            (fun _ _ ↦ Nat.compare_eq_gt) hmin
          have hmem := (mem_candidates hx).1
          have hfirst := hle nearest (nearest_mem_candidates nearest rest)
          have hdist : x.1.xor.toNat = dist target x.2.id := by rw [hshared x hmem]; rfl
          have hrootDist : (target.sharedPrefix (root t) g.get).xor.toNat =
              dist target (root t) := rfl
          refine ⟨x, hmem, rfl, Nat.lt_of_le_of_ne (by omega) ?_⟩
          exact fun h ↦ hroot x hmem (dist_inj h)
      · -- the nearest contact makes prefix progress, and so do all candidates
        obtain ⟨-, -, h⟩ := of_bind h
        obtain ⟨o, hmin, h⟩ := of_bind h
        obtain ⟨x, rfl, rfl⟩ := Option.map_eq_some_iff.1 (Except.ok.inj (ok.inj h))
        obtain ⟨hmem, hlenx⟩ := mem_candidates (Iter.minByM_mem hmin)
        refine ⟨x, hmem, rfl, (NodeId.sharedPrefix_lt_iff target x.2.id (root t) g.get).1 ?_⟩
        rw [← hshared x hmem, SharedPrefix.lt_iff]
        exact .inl (by omega)

/-- **There is no next hop** exactly if none of the contacts found is closer than the root. -/
theorem nextHop_eq_none_iff (hsorted : res.Pairwise sorterXor) (debug : Bool) :
    nextHop debug t target g = .ok (.ok none) ↔
      ∀ x ∈ res, dist target (root t) ≤ dist target x.2.id := by
  rw [nextHop, hres, ok_bind]
  cases hlist : res with
  | nil => simp
  | cons nearest rest =>
    rw [forall_le_iff_nearest hshared hroot hlist hsorted, SharedPrefix.lt_iff]
    simp only [NodeId.sharedPrefixLen_of_le _ _ hg, minByM_strictXorMetric, ok_bind,
      NodeId.sharedPrefix_comm (root t) target]
    split
    · rename_i hlen
      simp only [pure_eq, true_iff]
      exact .inl hlen
    · rename_i hlen
      split
      · rename_i heq
        split
        · rename_i hxor
          simp only [pure_eq, true_iff]
          exact .inr ⟨heq.symm, hxor⟩
        · rename_i hxor
          refine ⟨fun h ↦ ?_, fun h ↦ absurd h (by omega)⟩
          have hmin := Option.map_eq_none_iff.1 (Except.ok.inj (ok.inj h))
          rw [Iter.minBy_eq_none_iff] at hmin
          exact absurd (hmin ▸ nearest_mem_candidates nearest rest) List.not_mem_nil
      · refine ⟨fun h ↦ ?_, fun h ↦ absurd h (by omega)⟩
        obtain ⟨-, -, h⟩ := of_bind h
        obtain ⟨o, hmin, h⟩ := of_bind h
        obtain rfl := Option.map_eq_none_iff.1 (Except.ok.inj (ok.inj h))
        exact absurd hmin (Iter.minByM_ne_none (List.ne_nil_of_mem (nearest_mem_candidates _ rest)))

end

end RoutingTable

end Kira
