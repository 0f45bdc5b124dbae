import Kira.Domain.InsertionStrategy
import Kira.Domain.RoutingTable.UnlimitedULNLawful

/-!
# Loops in stored paths

Every contact goes through the insertion strategy on its way into the routing table, and the
strategy removes the cycles of its path.  One would expect stored paths to be free of loops: no node
twice, not through the node itself, and ending in the contact.

The strategy simplifies the path *after* it has removed the cycles.  Simplifying may put the path of
another contact in front of what is left of the path, and the two may have nodes in common
(`stored_path_loops`).  By `loopFree_of_spliceSafe` this is the only way: as long as no stored path
that is short enough to be spliced in shares a node with the rest of a path, stored paths stay free
of loops.
-/

set_option autoImplicit false

namespace Kira

open RoutingTable LawfulRoutingTable

/-- A route from the root to a node that visits no node twice. -/
structure LoopFree (root id : NodeId) (ids : List NodeId) : Prop where
  nodup : ids.Nodup
  root_not_mem : root ∉ ids
  getLast : ids.getLast? = some id

theorem LoopFree.removeCycles {root : NodeId} {path : Path} (hroot : root ∉ path.ids) :
    LoopFree root path.last path.removeCyclesInPlace.ids where
  nodup := removeCycles_nodup path.ids
  root_not_mem h := hroot (removeCycles_subset path.ids h)
  getLast := (removeCycles_getLast? path.ids).trans (List.getLast?_eq_some_getLast path.ids_ne)

theorem LoopFree.suffix {root id : NodeId} {ids ids' : List NodeId} (h : LoopFree root id ids)
    (hsuffix : ids' <:+ ids) (hne : ids' ≠ []) : LoopFree root id ids' where
  nodup := h.nodup.sublist hsuffix.sublist
  root_not_mem hmem := h.root_not_mem (hsuffix.subset hmem)
  getLast := by
    obtain ⟨front, rfl⟩ := hsuffix
    have hlast := h.getLast
    rw [List.getLast?_append, List.getLast?_eq_some_getLast hne] at hlast
    rw [List.getLast?_eq_some_getLast hne]
    exact hlast

/-- A route to a node on the way, followed by the rest of the way.  This is where loops come from.
-/
theorem LoopFree.splice {root id destId : NodeId} {ids known : List NodeId} {i : Nat}
    (h : LoopFree root id ids) (hi : ids[i]? = some destId) (hknown : LoopFree root destId known)
    (hdisjoint : List.Disjoint known (ids.drop (i + 1))) :
    LoopFree root id (known ++ ids.drop (i + 1)) where
  nodup := hknown.nodup.append (h.nodup.sublist (List.drop_sublist ..)) hdisjoint
  root_not_mem hmem := by
    rcases List.mem_append.1 hmem with hmem | hmem
    · exact hknown.root_not_mem hmem
    · exact h.root_not_mem (List.mem_of_mem_drop hmem)
  getLast := by
    have hlast := h.getLast
    rw [← List.take_append_drop i ids, ← ShortestFirstPathSimplifier.cons_drop_of_getElem? hi,
      List.getLast?_append] at hlast
    rw [List.getLast?_append, hknown.getLast]
    simpa [List.getLast?_cons] using hlast

/-- Every stored active path is free of loops. -/
def LoopFreePaths {T : Type} {k : Nat} [RoutingTable T k] (t : T) : Prop :=
  ∀ c ∈ iter t, ∀ path, c.path = some path → LoopFree (root t) c.id path.ids

/-- No stored path that is short enough to take the place of the front of `ids` shares a node with
the rest. -/
def SpliceSafe {T : Type} {k : Nat} [RoutingTable T k] (t : T) (ids : List NodeId) : Prop :=
  ∀ i destId via known, ids[i]? = some destId → contact t destId = some via → via.isValid = true →
    via.path = some known → known.size ≤ i → List.Disjoint known.ids (ids.drop (i + 1))

namespace UNSStrategy

variable {T : Type} {k : Nat} [RoutingTable T k]

/-- The path of the contact ends in the contact, and nothing that the simplifier may put in front of
it shares a node with it. -/
def Call.SpliceSafe (t : T) (call : Call) : Prop :=
  ∀ path, call.contact.path = some path →
    path.last = call.contact.id ∧ Kira.SpliceSafe t path.removeCyclesInPlace.ids

variable [LawfulRoutingTable T k]

theorem simplified_loopFree {t : T} (ht : Tidy t) (hfree : LoopFreePaths t) {id : NodeId}
    {path path' : Path} (hpath : LoopFree (root t) id path.ids) (hsafe : Kira.SpliceSafe t path.ids)
    {ulnContains : NodeId → Bool}
    (h : ShortestFirstPathSimplifier.Simplified t ulnContains path path') :
    LoopFree (root t) id path'.ids := by
  cases h with
  | @shortened i hids _ => exact hpath.suffix (hids ▸ List.drop_suffix i path.ids) path'.ids_ne
  | spliced h =>
    obtain ⟨destId, hi, hstored⟩ := h.stored
    have hknown := hfree _ (mem_of_contact hstored) _ h.path_eq
    rw [contact_id ht hstored] at hknown
    rw [h.ids_eq]
    exact hpath.splice hi hknown (hsafe _ _ _ _ hi hstored h.valid h.path_eq h.shorter)

theorem loopFree_insert {ctx : Context} {t t' : T} {c : Contact} {res : InsertionStrategyResult}
    (ht : Tidy t) (hfree : LoopFreePaths t) (hsafe : Call.SpliceSafe t ⟨ctx, c⟩)
    (h : insert ctx c t = .ok (res, t')) : LoopFreePaths t' := by
  rcases insert_cases h with ⟨-, rfl⟩ | ⟨path, prepared, hadm, hprep, hout⟩
  · exact hfree
  · obtain ⟨hlast, hsafe⟩ := hsafe path hadm.path_eq
    obtain ⟨path', rfl, hsimp, -, -⟩ := prepare_cases hprep
    have hprepared := simplified_loopFree ht hfree (.removeCycles hadm.root_not_mem) hsafe hsimp
    rw [hlast] at hprepared
    unfold LoopFreePaths
    rw [hout.mem.1]
    refine hout.forall_iter ?_ hfree ?_
    · rintro p ⟨⟩
      exact hprepared
    · rintro _ existing existing' ⟨⟩ hid hexisting h
      rw [h.id_eq]
      cases h with
      | activated _ _ hactive hids =>
        intro p hp
        obtain rfl := Option.some.inj (hactive.symm.trans hp)
        rw [hids, hid]
        exact hprepared
      | proposed => exact hexisting

end UNSStrategy

open UNSStrategy

/-- **Stored paths stay free of loops** in every table, as long as nothing is spliced into a path
that shares a node with what is left of it. -/
theorem loopFree_of_spliceSafe {T : Type} {k : Nat} [RoutingTable T k] [LawfulRoutingTable T k]
    {t₀ t : T} (htidy : Tidy t₀) (hfree : LoopFreePaths t₀)
    (h : Reachable Call.apply Call.SpliceSafe t₀ t) : LoopFreePaths t := by
  refine (h.invariant (I := fun t ↦ Tidy t ∧ LoopFreePaths t) ⟨htidy, hfree⟩ ?_).2
  rintro s call s' ⟨hs, hfree⟩ hsafe hcall
  obtain ⟨res, hins⟩ := Call.apply_eq_ok hcall
  exact ⟨insert_tidy hs hins, loopFree_insert hs hfree hsafe hins⟩

/-- The node has the neighbours 1 and 2. -/
def twoNeighbors : Context where
  order := ⟨fun _ ↦ 0, 0⟩
  ulnContains id := id == 1 || id == 2
  validated := 0
  ageContact := 0
  ageExisting := 0
  promoted := 0

/-- The node 6, reached over the neighbour 1 and node 7. -/
def overSeven : Call := ⟨twoNeighbors, .ofIds [1, 7, 6] (by decide) .MIN⟩

/-- The node 7, reached over the neighbour 2 and, among others, node 6. -/
def overSix : Call := ⟨twoNeighbors, .ofIds [2, 3, 4, 6, 7] (by decide) .MIN⟩

/-- The node 8, reached over the neighbour 2 and, among others, node 6. -/
def overSixToEight : Call := ⟨twoNeighbors, .ofIds [2, 3, 4, 6, 8] (by decide) .MIN⟩

/-- The test that nothing is spliced into a path it shares a node with. -/
def UNSStrategy.Call.spliceTest {T : Type} {k : Nat} [RoutingTable T k] (t : T)
    (call : Call) : Bool :=
  call.contact.path.all fun path ↦
    path.last == call.contact.id && path.removeCyclesInPlace.ids.zipIdx.all fun (destId, i) ↦
      ((RoutingTable.contact t destId).bind Contact.path).all fun known ↦
        i < known.size || known.ids.all fun id ↦ id ∉ path.removeCyclesInPlace.ids.drop (i + 1)

theorem UNSStrategy.Call.spliceSafe_of_test {T : Type} {k : Nat} [RoutingTable T k] (t : T)
    (call : Call) (h : call.spliceTest t = true) : call.SpliceSafe t := by
  intro path hpath
  rw [Call.spliceTest, hpath, Option.all_some, Bool.and_eq_true, beq_iff_eq, List.all_eq_true] at h
  refine ⟨h.1, fun i destId via known hi hstored _ hknown hsize ↦ ?_⟩
  have htest := h.2 (destId, i) (List.mk_mem_zipIdx_iff_getElem?.2 hi)
  simp only [hstored, Option.bind_some, hknown, Option.all_some, Bool.or_eq_true, decide_eq_true_eq,
    List.all_eq_true] at htest
  exact fun id hid ↦ htest.resolve_left (Nat.not_lt.2 hsize) id hid

/-- A second path, into which the first one is spliced: the two have no node in common after it. -/
theorem loopFree_after_splice : ∃ t : UnlimitedULNRoutingTable 4 1,
    runAll Call.apply (.new 0 (by decide) (by decide)) [overSeven, overSixToEight] = .ok t ∧
      (contact t 8).map (fun c ↦ c.path.map Path.ids) = some (some [1, 7, 6, 8]) ∧
      LoopFreePaths t := by
  refine Run.exists_ok (p := fun t ↦ (contact t 8).map (fun c ↦ c.path.map Path.ids) =
    some (some [1, 7, 6, 8])) ⟨_, rfl, by decide +kernel⟩ fun t hrun hcontact ↦ ⟨hcontact, ?_⟩
  refine loopFree_of_spliceSafe (UnlimitedULNRoutingTable.tidy_new 0 (by decide) (by decide)) ?_
    (reachable_of_testAll Call.spliceSafe_of_test .start (by decide +kernel) hrun)
  exact fun c hc ↦ absurd hc (UnlimitedULNRoutingTable.not_mem_iter_new c)

/-- **A stored path with a loop.**  The shorter path to node 6, which leads over node 7, takes the
place of the front of a path to node 7 over node 6. -/
theorem stored_path_loops :
    ∃ t, runAll Call.apply (.new 0 (by decide) (by decide) : UnlimitedULNRoutingTable 4 1)
      [overSeven, overSix] = .ok t ∧
        ∃ c ∈ iter t, c.id = 7 ∧ c.path.map Path.ids = some [1, 7, 6, 7] := by
  exact ⟨_, rfl, by decide +kernel⟩

end Kira
