import Kira.Domain.Path

/-!
# Source routes

A message carries the nodes it is to visit, from its origin on: the route ends with the next overlay
hop, and an overlay hop that sends a message on extends the route by the path to the one after it.
`progress` is the index of the node the message is at, or on its way to.

The program documents that a route has at least two nodes, its origin and an overlay hop; here that
is a field.  It also documents that the progress is never zero and never past the last node.  That
one is `InRange`, and it is proved of the operations below, which do not check it.
-/

set_option autoImplicit false

namespace Kira

open Run

/-- The way of a message, from its origin to its next overlay hop. -/
structure SourceRoute where
  ids : List NodeId
  /-- The index of the node that has the message. -/
  progress : Nat
  /-- The origin and the next overlay hop. -/
  two_le : 2 ≤ ids.length
  deriving DecidableEq

namespace SourceRoute

theorem ids_ne (self : SourceRoute) : self.ids ≠ [] :=
  List.ne_nil_of_length_pos (Nat.lt_of_lt_of_le Nat.two_pos self.two_le)

variable {route : SourceRoute}

theorem eq_of_ids_progress {other : SourceRoute} (hids : route.ids = other.ids)
    (hprogress : route.progress = other.progress) : route = other := by
  cases route
  cases other
  cases hids
  cases hprogress
  rfl

def new (source : NodeId) (path : Path) : SourceRoute :=
  { ids := source :: path.ids
    progress := 1
    two_le := Nat.succ_le_succ (List.length_pos_iff.2 path.ids_ne) }

def tryFrom (ids : List NodeId) : Run SourceRoute :=
  if h : 2 ≤ ids.length then .ok { ids := ids, progress := 1, two_le := h }
  else .panic "hop count verified >= 2"

/-- A route along a path that includes its origin. -/
def ofPath (path : Path) : Option SourceRoute :=
  if h : 2 ≤ path.ids.length then some { ids := path.ids, progress := 1, two_le := h } else none

/-- The way back, from where the message is. -/
def fromReversed (route : SourceRoute) : Run SourceRoute :=
  let ids := (route.ids.take (route.progress + 1)).reverse
  if h : 2 ≤ ids.length then .ok { ids := ids, progress := 1, two_le := h }
  else .panic "assertion failed: converted.ids.len() > 1"

def prevHop (self : SourceRoute) : Run NodeId := do
  assert (0 < self.progress) "attempt to subtract with overflow"
  expect (self.ids[self.progress - 1]?) "SourceRoute invariant: progress > 0"

def nextHop (self : SourceRoute) : Option NodeId := self.ids[self.progress + 1]?

def currentHop (self : SourceRoute) : Run NodeId :=
  expect (self.ids[self.progress]?) "SourceRoute advanced beyond the last element"

def advance (self : SourceRoute) : SourceRoute :=
  if self.progress < self.ids.length - 1 then { self with progress := self.progress + 1 } else self

/-- The nodes visited so far, without the current one. -/
def traveledPath (self : SourceRoute) : Run Path := do
  assert (0 < self.progress ∧ self.progress < self.ids.length)
    "assertion failed: self.progress > 0 && self.progress < self.size()"
  expect (Path.tryFrom (self.ids.take self.progress)) "Invalid invariant"

/-- The nodes still to visit, with the current one. -/
def remainingPath (self : SourceRoute) : Run Path := do
  assert (0 < self.progress ∧ self.progress < self.ids.length)
    "assertion failed: self.progress > 0 && self.progress < self.size()"
  expect (Path.collect (self.ids.drop self.progress)) "Invalid invariant"

/-- The number of hops made, without the current one. -/
def traveledHopCount (self : SourceRoute) : Run Nat := do
  assert (0 < self.progress ∧ self.progress < self.ids.length)
    "assertion failed: self.progress > 0 && self.progress < self.size()"
  return self.progress

def source (self : SourceRoute) : NodeId :=
  self.ids.head self.ids_ne

def destination (self : SourceRoute) : NodeId :=
  self.ids.getLast self.ids_ne

def extend (self : SourceRoute) (path : Path) : SourceRoute :=
  { self with
    ids := self.ids ++ path.ids
    two_le := by
      have := self.two_le
      rw [List.length_append]
      omega }

/-! ## Where a message is sent -/

@[simp] theorem currentHop_new (source : NodeId) (path : Path) :
    (new source path).currentHop = .ok path.first := by
  obtain ⟨first, rest, hids⟩ := List.exists_cons_of_ne_nil path.ids_ne
  simp [currentHop, new, Path.first, hids]

@[simp] theorem destination_new (source : NodeId) (path : Path) :
    (new source path).destination = path.last :=
  List.getLast_cons path.ids_ne

theorem currentHop_extend (h : route.progress = route.ids.length - 1)
    (path : Path) : (route.extend path).advance.currentHop = .ok path.first := by
  have htwo := route.two_le
  have hpos := List.length_pos_iff.2 path.ids_ne
  have hlonger : (route.extend path).progress < (route.extend path).ids.length - 1 := by
    simp only [extend, List.length_append]
    omega
  have hindex : route.progress + 1 = route.ids.length := by omega
  obtain ⟨first, rest, hids⟩ := List.exists_cons_of_ne_nil path.ids_ne
  rw [advance, if_pos hlonger]
  simp [currentHop, extend, hindex, Path.first, hids]

theorem destination_extend (route : SourceRoute) (path : Path) :
    (route.extend path).advance.destination = path.last := by
  have hids : (route.extend path).advance.ids = route.ids ++ path.ids := by
    unfold advance
    split <;> rfl
  simp only [destination, hids, Path.last]
  exact List.getLast_append_of_ne_nil _ path.ids_ne

/-! ## The progress stays in range -/

/-- The message has left its origin, and it is not past the end. -/
def InRange (self : SourceRoute) : Prop :=
  1 ≤ self.progress ∧ self.progress ≤ self.ids.length - 1

instance (self : SourceRoute) : Decidable self.InRange := inferInstanceAs (Decidable (_ ∧ _))

theorem inRange_new (source : NodeId) (path : Path) : (new source path).InRange :=
  ⟨Nat.le_refl 1, List.length_pos_iff.2 path.ids_ne⟩

theorem advance_iterate (h : route.progress ≤ route.ids.length - 1)
    (n : Nat) : (advance^[n] route).ids = route.ids ∧
      (advance^[n] route).progress = min (route.progress + n) (route.ids.length - 1) := by
  induction n generalizing route with
  | zero => exact ⟨rfl, (min_eq_left h).symm⟩
  | succ n ih =>
    have hids : route.advance.ids = route.ids := by
      unfold advance
      split <;> rfl
    have hprogress : route.advance.progress = min (route.progress + 1) (route.ids.length - 1) := by
      unfold advance
      split
      · exact (min_eq_left (by assumption)).symm
      · rename_i hlast
        rw [min_eq_right (by omega)]
        omega
    have hle : route.advance.progress ≤ route.advance.ids.length - 1 := by
      rw [hids, hprogress]
      exact min_le_right _ _
    obtain ⟨hn, hp⟩ := ih hle
    rw [Function.iterate_succ_apply]
    refine ⟨hn.trans hids, hp.trans ?_⟩
    rw [hids, hprogress]
    omega

theorem traveledHopCount_advance_iterate {ids : List NodeId} (h : 2 ≤ ids.length) (n : Nat) :
    (advance^[n] ⟨ids, 1, h⟩).traveledHopCount = .ok (min (1 + n) (ids.length - 1)) := by
  have hle : (⟨ids, 1, h⟩ : SourceRoute).progress ≤ ids.length - 1 := Nat.le_sub_one_of_lt h
  obtain ⟨hids, hprogress⟩ := advance_iterate hle n
  rw [traveledHopCount, hids, hprogress]
  dsimp only
  rw [assert_of]
  · rfl
  · simp only [decide_eq_true_eq]
    omega

namespace InRange

variable {route route' : SourceRoute}

theorem lt_length (h : route.InRange) : route.progress < route.ids.length := by
  have := route.two_le
  have := h.2
  omega

theorem currentHop (h : route.InRange) : ∃ hop, route.currentHop = .ok hop :=
  ⟨route.ids.get ⟨route.progress, h.lt_length⟩, by simp [SourceRoute.currentHop, h.lt_length]⟩

theorem advance (h : route.InRange) : route.advance.InRange := by
  unfold SourceRoute.advance
  split
  · exact ⟨Nat.le_succ_of_le h.1, by assumption⟩
  · exact h

theorem extend (h : route.InRange) (path : Path) : (route.extend path).InRange :=
  ⟨h.1, h.2.trans (Nat.sub_le_sub_right (by simp [SourceRoute.extend]) 1)⟩

/-- Where a route can be turned round, it has been travelled by at least one hop. -/
theorem fromReversed_eq (h : route.InRange) :
    ∃ route', route.fromReversed = .ok route' ∧
      route'.ids = (route.ids.take (route.progress + 1)).reverse ∧ route'.progress = 1 := by
  have htwo : 2 ≤ ((route.ids.take (route.progress + 1)).reverse).length := by
    have := h.lt_length
    have := h.1
    simp only [List.length_reverse, List.length_take]
    omega
  exact ⟨_, dif_pos htwo, rfl, rfl⟩

theorem fromReversed (h : route.fromReversed = .ok route') : route'.InRange := by
  simp only [SourceRoute.fromReversed] at h
  split at h
  · rename_i htwo
    cases h
    exact ⟨Nat.le_refl 1, Nat.le_sub_one_of_lt htwo⟩
  · simp at h

end InRange

end SourceRoute

end Kira
