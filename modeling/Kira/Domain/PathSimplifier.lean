import Kira.Domain.RoutingTable.Lawful

/-!
# Shortening a path with what the node knows

Before a path is stored, its front is exchanged for something shorter.  The simplifier looks at the
nodes on the path from the destination backwards, twice:

* `viaNeighbor` stops at the first node that the underlay neighbour table knows; everything before
  that node is cut, since it is reached in one hop;
* `viaContact` stops at the first node for which the routing table has a valid contact with a
  shorter path than the one at hand; that path takes the place of the front.

`simplify_cases` sums up what comes out: a suffix of the path, or a stored path followed by a suffix
of the path.  The two parts may have nodes in common, see `Kira/Properties/LoopFreePaths.lean`.
-/

set_option autoImplicit false

namespace Kira

open Run RoutingTable

/-! ## Exchanging a part of a path -/

namespace Path

/-- Takes out the id at this position, so many times. -/
def removeTimes (index : Nat) : Nat → List NodeId → Run (List NodeId)
  | 0, ids => return ids
  | n + 1, ids => do
    assert (index < ids.length) "removal index (is {index}) should be < len (is {len})"
    removeTimes index n (ids.eraseIdx index)

/-- Inserts the ids of the part one by one, the first one at this position. -/
def insertAll (index : Nat) : List NodeId → List NodeId → Run (List NodeId)
  | [], ids => return ids
  | id :: part, ids => do
    assert (index ≤ ids.length) "insertion index (is {index}) should be <= len (is {len})"
    insertAll (index + 1) part (ids.insertIdx index id)

def replaceIds (ids : List NodeId) (startIndex endIndex : Nat) (part : List NodeId) :
    Run (List NodeId) := do
  assert (startIndex ≤ endIndex) "Start index has to be <= end index"
  let ids ← removeTimes startIndex (endIndex - startIndex + 1) ids
  insertAll startIndex part ids

variable {ids : List NodeId}

theorem removeTimes_eq {index n : Nat} (h : index + n ≤ ids.length) :
    removeTimes index n ids = .ok (ids.take index ++ ids.drop (index + n)) := by
  induction n generalizing ids with
  | zero => rw [removeTimes, Nat.add_zero, List.take_append_drop, pure_eq]
  | succ n ih =>
    have hlt : index < ids.length := by omega
    rw [removeTimes, assert_of (by simpa using hlt), ok_bind,
      ih (by rw [List.length_eraseIdx_of_lt hlt]; omega), List.eraseIdx_eq_take_drop_succ]
    have htake : (ids.take index).length = index := List.length_take_of_le hlt.le
    rw [List.take_left' htake, ← List.drop_drop, List.drop_left' htake, List.drop_drop,
      Nat.add_right_comm, Nat.add_assoc]

theorem insertAll_append (front part ids : List NodeId) :
    insertAll front.length part (front ++ ids) = .ok (front ++ part ++ ids) := by
  induction part generalizing front with
  | nil => simp [insertAll]
  | cons id part ih =>
    have hinsert : (front ++ ids).insertIdx front.length id = front ++ [id] ++ ids := by
      induction front with
      | nil => rfl
      | cons first front ih => simpa using ih
    have hnext := ih (front ++ [id])
    rw [List.length_append, List.length_singleton] at hnext
    rw [insertAll, assert_of (by simp), ok_bind, hinsert, hnext]
    simp

theorem length_of_insertAll {index : Nat} {part ids' : List NodeId}
    (h : insertAll index part ids = .ok ids') : ids'.length = ids.length + part.length := by
  induction part generalizing index ids with
  | nil => exact ok.inj h ▸ rfl
  | cons id part ih =>
    obtain ⟨_, hle, h⟩ := of_bind h
    have hle : index ≤ ids.length := of_decide_eq_true (assert_eq_ok.1 hle)
    rw [ih h, List.length_insertIdx, if_pos hle, List.length_cons]
    omega

theorem ne_nil_of_replaceIds {ids' part : List NodeId} {startIndex endIndex : Nat}
    (hpart : part ≠ []) (h : replaceIds ids startIndex endIndex part = .ok ids') : ids' ≠ [] := by
  obtain ⟨-, -, h⟩ := of_bind h
  obtain ⟨left, -, h⟩ := of_bind h
  have hlength := length_of_insertAll h
  have hpos := List.length_pos_iff.2 hpart
  exact List.length_pos_iff.1 (by omega)

/-- Exchanges the ids from `startIndex` up to and including `endIndex`. -/
def replaceInterval (self : Path) (startIndex endIndex : Nat) (part : List NodeId)
    (hpart : part ≠ []) : Run Path :=
  match h : replaceIds self.ids startIndex endIndex part with
  | .ok ids => return { self with ids := ids, ids_ne := ne_nil_of_replaceIds hpart h }
  | .panic msg => .panic msg

/-- The path with another front. -/
def withFront (self : Path) (endIndex : Nat) (part : List NodeId) (hpart : part ≠ []) : Path :=
  { self with
    ids := part ++ self.ids.drop (endIndex + 1)
    ids_ne := fun h ↦ hpart (List.append_eq_nil_iff.1 h).1 }

/-- **No index is out of bounds** if the interval is part of the path. -/
theorem replaceInterval_zero {self : Path} {endIndex : Nat} (h : endIndex < self.size)
    (part : List NodeId) (hpart : part ≠ []) :
    self.replaceInterval 0 endIndex part hpart = .ok (self.withFront endIndex part hpart) := by
  have hids : replaceIds self.ids 0 endIndex part = .ok (part ++ self.ids.drop (endIndex + 1)) := by
    rw [replaceIds, assert_of (by simp), ok_bind, removeTimes_eq (by rw [size] at h; omega),
      ok_bind]
    simpa using insertAll_append [] part (self.ids.drop (endIndex + 1))
  rw [replaceInterval]
  split
  · rename_i ids heq
    obtain rfl := ok.inj (hids.symm.trans heq)
    rfl
  · rename_i msg heq
    cases hids.symm.trans heq

end Path

namespace ShortestFirstPathSimplifier

variable {T : Type} {k : Nat} [RoutingTable T k]

/-- The first loop, for the positions from the given one down to 1. -/
def viaNeighbor (ulnContains : NodeId → Bool) (path : Path) : Nat → Run Path
  | 0 => return path
  | i + 1 => do
    let destId ← expect path.ids[i + 1]? "index out of bounds"
    if ulnContains destId then
      path.replaceInterval 0 (i + 1) [destId] (List.cons_ne_nil _ _)
    else
      viaNeighbor ulnContains path i

/-- The second loop, for the positions from the given one down to 1. -/
def viaContact (routingTable : T) (path : Path) : Nat → Run Path
  | 0 => return path
  | i + 1 => do
    let destId ← expect path.ids[i + 1]? "index out of bounds"
    match (contact routingTable destId).filter Contact.isValid with
    | none => viaContact routingTable path i
    | some knownContact =>
      let knownPath ← expect knownContact.path "Valid contact should have active path"
      if knownPath.size < i + 2 then
        path.replaceInterval 0 (i + 1) knownPath.ids knownPath.ids_ne
      else
        viaContact routingTable path i

/-- Replaces parts of a path with known shorter ones. -/
def simplify (routingTable : T) (ulnContains : NodeId → Bool) (path : Path) : Run Path := do
  if path.size ≤ 1 then
    return path
  else
    let path ← viaNeighbor ulnContains path (path.size - 1)
    viaContact routingTable path (path.size - 1)

/-! ## What comes out -/

theorem cons_drop_of_getElem? {ids : List NodeId} {i : Nat} {destId : NodeId}
    (h : ids[i]? = some destId) : [destId] ++ ids.drop (i + 1) = ids.drop i := by
  obtain ⟨hi, rfl⟩ := List.getElem?_eq_some_iff.1 h
  exact (List.drop_eq_getElem_cons hi).symm

variable {path path' : Path} {ulnContains : NodeId → Bool}

theorem lt_size_of_getElem? {i : Nat} {destId : NodeId}
    (h : path.ids[i]? = some destId) : i < path.size :=
  (List.getElem?_eq_some_iff.1 h).1

theorem viaNeighbor_cases {n : Nat} (h : viaNeighbor ulnContains path n = .ok path') :
    path'.pathState = path.pathState ∧ ∃ i, path'.ids = path.ids.drop i ∧
      (i = 0 ∨ ∃ destId, path.ids[i]? = some destId ∧ ulnContains destId = true) := by
  induction n with
  | zero =>
    obtain rfl : path = path' := by simpa [viaNeighbor] using h
    exact ⟨rfl, 0, rfl, .inl rfl⟩
  | succ n ih =>
    obtain ⟨destId, hdest, h⟩ := of_bind h
    have hdest := expect_eq_ok.1 hdest
    split at h
    · rename_i huln
      rw [Path.replaceInterval_zero (lt_size_of_getElem? hdest)] at h
      cases h
      exact ⟨rfl, n + 1, cons_drop_of_getElem? hdest, .inr ⟨destId, hdest, huln⟩⟩
    · exact ih h

/-- The path `known` of the stored contact `via` has taken the place of the front, up to the
position of that contact. -/
structure Spliced (t : T) (path path' : Path) (index : Nat) (via : Contact) (known : Path) :
    Prop where
  stored : ∃ destId, path.ids[index]? = some destId ∧ contact t destId = some via
  valid : via.isValid = true
  path_eq : via.path = some known
  shorter : known.size ≤ index
  ids_eq : path'.ids = known.ids ++ path.ids.drop (index + 1)

theorem viaContact_cases {t : T} {n : Nat} (h : viaContact t path n = .ok path') :
    path'.pathState = path.pathState ∧ (path' = path ∨
      ∃ index via known, Spliced t path path' index via known) := by
  induction n with
  | zero =>
    obtain rfl : path = path' := by simpa [viaContact] using h
    exact ⟨rfl, .inl rfl⟩
  | succ n ih =>
    obtain ⟨destId, hdest, h⟩ := of_bind h
    cases hc : (contact t destId).filter Contact.isValid with
    | none => exact ih (by simpa [hc] using h)
    | some c =>
      rw [hc] at h
      obtain ⟨known, hknown, h⟩ := of_bind h
      split at h
      · rename_i hshort
        have hdest := expect_eq_ok.1 hdest
        rw [Path.replaceInterval_zero (lt_size_of_getElem? hdest)] at h
        cases h
        obtain ⟨hstored, hvalid⟩ := Option.filter_eq_some_iff.1 hc
        exact ⟨rfl, .inr ⟨n + 1, c, known, ⟨destId, hdest, hstored⟩, hvalid,
          expect_eq_ok.1 hknown, by omega, rfl⟩⟩
      · exact ih h

/-- The outcome of simplifying a path: the part of the path from a neighbour on, or a stored path
and a part of the path. -/
inductive Simplified (t : T) (ulnContains : NodeId → Bool) (path path' : Path) : Prop
  | shortened {i : Nat} (hids : path'.ids = path.ids.drop i)
      (huln : i = 0 ∨ ∃ destId, path.ids[i]? = some destId ∧ ulnContains destId = true)
  | spliced {index : Nat} {via : Contact} {known : Path}
      (h : Spliced t path path' index via known)

theorem Spliced.of_drop {t : T} {mid : Path} {i index : Nat} {via : Contact}
    {known : Path} (hmid : mid.ids = path.ids.drop i) (h : Spliced t mid path' index via known) :
    Spliced t path path' (i + index) via known where
  stored := by
    obtain ⟨destId, hget, hstored⟩ := h.stored
    exact ⟨destId, by rw [← List.getElem?_drop, ← hmid, hget], hstored⟩
  valid := h.valid
  path_eq := h.path_eq
  shorter := Nat.le_trans h.shorter (Nat.le_add_left ..)
  ids_eq := by rw [h.ids_eq, hmid, List.drop_drop, Nat.add_assoc]

/-- **What simplifying a path yields.**  The state of the path stays; its ids are a suffix of the
old ones, or a stored path and a suffix of the old ones. -/
theorem simplify_cases {t : T} (h : simplify t ulnContains path = .ok path') :
    path'.pathState = path.pathState ∧ Simplified t ulnContains path path' := by
  unfold simplify at h
  split at h
  · cases h
    exact ⟨rfl, .shortened (List.drop_zero).symm (.inl rfl)⟩
  · obtain ⟨mid, hmid, h⟩ := of_bind h
    obtain ⟨hstate₁, i, hdrop, huln⟩ := viaNeighbor_cases hmid
    obtain ⟨hstate₂, rfl | ⟨index, via, known, hspliced⟩⟩ := viaContact_cases h
    · exact ⟨hstate₁, .shortened hdrop huln⟩
    · exact ⟨hstate₂.trans hstate₁, .spliced (hspliced.of_drop hdrop)⟩

theorem eq_last_of_drop_eq_nil {i : Nat} {destId : NodeId}
    (hi : path.ids[i]? = some destId) (hdrop : path.ids.drop (i + 1) = []) :
    destId = path.last := by
  have hlast : path.ids.getLast? = some destId := by
    rw [← List.take_append_drop i path.ids, ← cons_drop_of_getElem? hi, hdrop]
    simp
  rw [List.getLast?_eq_some_getLast path.ids_ne] at hlast
  exact (Option.some.inj hlast).symm

/-- **How a path becomes a single hop**: it is one already, its destination is a neighbour, or its
destination is stored with a single hop. -/
theorem Simplified.of_size_eq_one {t : T}
    (h : Simplified t ulnContains path path') (hone : path'.size = 1) :
    path.size = 1 ∨ ulnContains path.last = true ∨
      ∃ via, contact t path.last = some via ∧ via.isUln = true := by
  cases h with
  | @shortened i hids huln =>
    rw [Path.size, hids] at hone
    rcases huln with rfl | ⟨destId, hi, huln⟩
    · exact .inl hone
    · have hdrop : path.ids.drop (i + 1) = [] := by
        rw [← cons_drop_of_getElem? hi, List.length_append] at hone
        exact List.length_eq_zero_iff.1 (Nat.add_left_cancel hone)
      exact .inr (.inl (eq_last_of_drop_eq_nil hi hdrop ▸ huln))
  | @spliced index via known h =>
    obtain ⟨destId, hi, hstored⟩ := h.stored
    have hlen : known.size + (path.ids.drop (index + 1)).length = 1 := by
      rw [Path.size, h.ids_eq, List.length_append] at hone
      exact hone
    have hpos := known.size_pos
    have hdrop : path.ids.drop (index + 1) = [] := List.length_eq_zero_iff.1 (by omega)
    refine .inr (.inr ⟨via, eq_last_of_drop_eq_nil hi hdrop ▸ hstored, ?_⟩)
    exact (Contact.isUln_iff via).2 ⟨known, h.path_eq, by omega⟩

theorem simplify_of_neighbor {t : T}
    (huln : ulnContains path.last = true) (h : simplify t ulnContains path = .ok path') :
    path'.size = 1 := by
  have hpos := path.size_pos
  unfold simplify at h
  split at h
  · cases h
    omega
  · -- the first loop stops at once, with the last node of the path
    obtain ⟨i, hi⟩ : ∃ i, path.size = i + 2 := ⟨path.size - 2, by omega⟩
    have hlast : path.ids[i + 1]? = some path.last := by
      rw [Path.last, ← List.getLast?_eq_some_getLast, List.getLast?_eq_getElem?]
      exact congrArg (path.ids[·]?) (by rw [← Path.size, hi]; rfl)
    have hdrop : path.ids.drop (i + 1 + 1) = [] :=
      List.drop_eq_nil_of_le (by rw [← Path.size, hi])
    rw [hi, show i + 2 - 1 = i + 1 from rfl, viaNeighbor, hlast, expect_some, ok_bind,
      if_pos huln, Path.replaceInterval_zero (lt_size_of_getElem? hlast), ok_bind] at h
    have hsize : (path.withFront (i + 1) [path.last] (List.cons_ne_nil _ _)).size = 1 := by
      simp [Path.size, Path.withFront, hdrop]
    rw [hsize] at h
    cases h
    exact hsize

end ShortestFirstPathSimplifier

end Kira
