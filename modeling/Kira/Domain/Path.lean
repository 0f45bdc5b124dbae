import Kira.Lib.Run
import Kira.Domain.NodeId

/-!
# Source routes and what a contact stores of them

A `Path` is the list of nodes from the first hop to the destination, both included, with a little
validation state.  It is never empty; the program documents that and panics where it would be
violated, here it is a field.

* `PathOrder` is what the comparison of two equally long paths depends on: a hash of the ids, and
  the anchor drawn when the program starts.  Whatever is proved holds for every hash and every
  anchor.
* `removeCycles` is the in-order cycle remover.  It keeps the two ends of a path
  (`removeCycles_getLast?`) and leaves a path without repetition (`removeCycles_nodup`).
* `PathCollection` is the active path of a contact, the one proposed to replace it, and up to three
  alternatives.  Its equality is **not** structural: it looks at the ids of the active and of the
  proposed path only, see `PathCollection.eq`.

Every reading of the clock is an argument, so what holds for all arguments holds for every clock.
-/

set_option autoImplicit false

namespace Kira

open Run

/-- An instant, in nanoseconds. -/
abbrev Timestamp := Nat

/-- The age of an instant in milliseconds.  An instant in the future has age zero. -/
def Timestamp.toAge (self now : Timestamp) : Nat := (now - self) / 1000000

/-- What is known about a path. -/
inductive PathState where
  | undefined
  | valid
  | faulty
  | notValidated
  deriving DecidableEq, Repr

/-- The nodes from the first hop to the destination. -/
structure Path where
  ids : List NodeId
  /-- A path has at least its destination. -/
  ids_ne : ids ≠ []
  pathState : PathState
  lastValidated : Option Timestamp
  lastPathRefresh : Option Timestamp
  deriving DecidableEq

/-- The identifier of a path: the SHA-1 digest of its ids. -/
abbrev PathId := BitVec 160

/-- What the order on equally long paths depends on. -/
structure PathOrder where
  hash : List NodeId → PathId
  /-- The random id that keeps routes from flapping. -/
  anchorNodeId : NodeId

/-- The exclusive or of the leading 14 bytes of a path id with a node id. -/
def PathId.bitxor (self : PathId) (other : NodeId) : NodeId :=
  self.extractLsb' 48 NodeId.BITS ^^^ other

namespace Path

def size (self : Path) : Nat := self.ids.length

def contains (self : Path) (id : NodeId) : Bool := self.ids.contains id

def first (self : Path) : NodeId := self.ids.head self.ids_ne

def last (self : Path) : NodeId := self.ids.getLast self.ids_ne

/-- Shorter, or equally long and closer to the anchor. -/
def isBetterThan (order : PathOrder) (self otherPath : Path) : Bool :=
  self.ids.length < otherPath.ids.length ||
    (self.ids.length == otherPath.ids.length &&
      (PathId.bitxor (order.hash self.ids) order.anchorNodeId).toNat <
        (PathId.bitxor (order.hash otherPath.ids) order.anchorNodeId).toNat)

def isSamePathAs (self otherPath : Path) : Bool := self.ids == otherPath.ids

def isValid (self : Path) : Bool := self.pathState == .valid

def isNotvalidated (self : Path) : Bool := self.pathState == .notValidated

def updateLastValidated (now : Timestamp) (self : Path) : Path :=
  { self with lastValidated := some now }

def setValid (now : Timestamp) (self : Path) : Path :=
  { self with pathState := .valid, lastValidated := some now }

def invalidate (now : Timestamp) (self : Path) : Path :=
  { self with pathState := .faulty, lastValidated := some now }

def setNotvalidated (self : Path) : Path := { self with pathState := .notValidated }

def unsetLastValidated (self : Path) : Path := { self with lastValidated := none }

def reverse (self : Path) : Path :=
  { self with ids := self.ids.reverse, ids_ne := by simpa using self.ids_ne }

def extend (self other : Path) : Path :=
  { self with ids := self.ids ++ other.ids, ids_ne := by simp [self.ids_ne] }

def startsWith (self other : Path) : Bool := other.ids.isPrefixOf self.ids

def ofIds (ids : List NodeId) (h : ids ≠ []) : Path :=
  { ids := ids, ids_ne := h, pathState := .valid, lastValidated := none, lastPathRefresh := none }

abbrev via (id : NodeId) (ids : List NodeId) : Path := ofIds (id :: ids) (List.cons_ne_nil id ids)

def tryFrom (ids : List NodeId) : Option Path :=
  if h : ids = [] then none else some { ofIds ids h with pathState := .undefined }

def collect (ids : List NodeId) : Option Path := if h : ids = [] then none else some (ofIds ids h)

theorem first_eq_of_head? {path : Path} {id : NodeId} (h : path.ids.head? = some id) :
    path.first = id := by
  rw [List.head?_eq_some_head path.ids_ne] at h
  exact Option.some.inj h

theorem head?_ids (path : Path) : path.ids.head? = some path.first :=
  List.head?_eq_some_head path.ids_ne

theorem collect_eq_some {ids : List NodeId} {path : Path} (h : collect ids = some path) :
    path.ids = ids := by
  unfold collect at h
  split at h
  · cases h
  · cases h
    rfl

@[simp] theorem updateLastValidated_ids (now : Timestamp) (self : Path) :
    (self.updateLastValidated now).ids = self.ids := rfl

@[simp] theorem updateLastValidated_pathState (now : Timestamp) (self : Path) :
    (self.updateLastValidated now).pathState = self.pathState := rfl

@[simp] theorem setValid_ids (now : Timestamp) (self : Path) :
    (self.setValid now).ids = self.ids := rfl

@[simp] theorem invalidate_ids (now : Timestamp) (self : Path) :
    (self.invalidate now).ids = self.ids := rfl

@[simp] theorem extend_first (self other : Path) : (self.extend other).first = self.first :=
  List.head_append_of_ne_nil _

theorem startsWith_of_first {self other : Path} {id : NodeId} (hids : other.ids = [id])
    (hfirst : self.first = id) : self.startsWith other = true := by
  rw [startsWith, hids, ← List.cons_head_tail self.ids_ne, show self.ids.head _ = id from hfirst]
  simp [List.isPrefixOf]

theorem size_pos (self : Path) : 0 < self.size := List.length_pos_iff.2 self.ids_ne

theorem contains_iff (self : Path) (id : NodeId) : self.contains id = true ↔ id ∈ self.ids := by
  rw [contains, List.contains_iff_mem]

theorem first_eq_last_of_size_eq_one {self : Path} (h : self.size = 1) :
    self.first = self.last := by
  obtain ⟨x, hx⟩ := List.length_eq_one_iff.1 h
  simp only [first, last, hx, List.head_cons, List.getLast_singleton]

end Path

/-! ## Removing cycles -/

/-- What follows the last occurrence of `x`, if there is one. -/
def afterLast (x : NodeId) : List NodeId → Option (List NodeId)
  | [] => none
  | y :: ys =>
    match afterLast x ys with
    | some rest => some rest
    | none => if y = x then some ys else none

/-- The loop of the cycle remover, on the part of the path it has not passed yet.

The source iterates over a copy of the ids and advances that iterator past every id it removes, so
the iterator and the tail of the path stay the same list, and that list is the argument here.  Each
round keeps the id at its head and cuts the longest cycle that starts there.  The first argument
bounds the number of rounds. -/
def removeCyclesFrom : Nat → List NodeId → List NodeId
  | 0, _ => []
  | _ + 1, [] => []
  | fuel + 1, id :: remainingIds =>
    id :: removeCyclesFrom fuel ((afterLast id remainingIds).getD remainingIds)

/-- The in-order cycle remover. -/
def removeCycles (ids : List NodeId) : List NodeId := removeCyclesFrom ids.length ids

section RemoveCycles

theorem not_mem_of_afterLast_eq_none {x : NodeId} :
    ∀ {ids : List NodeId}, afterLast x ids = none → x ∉ ids
  | [], _ => by simp
  | y :: ys, h => by
    rw [afterLast] at h
    split at h
    · simp at h
    · rename_i hr
      split at h
      · simp at h
      · rename_i hy
        rw [List.mem_cons, not_or]
        exact ⟨fun hxy ↦ hy hxy.symm, not_mem_of_afterLast_eq_none hr⟩

theorem afterLast_eq_some {x : NodeId} : ∀ {ids rest : List NodeId}, afterLast x ids = some rest →
    (x :: rest) <:+ ids ∧ x ∉ rest
  | [], rest, h => by simp [afterLast] at h
  | y :: ys, rest, h => by
    rw [afterLast] at h
    split at h
    · rename_i r hr
      obtain rfl : r = rest := by simpa using h
      obtain ⟨hsuffix, hnot⟩ := afterLast_eq_some hr
      exact ⟨hsuffix.trans (List.suffix_cons y ys), hnot⟩
    · rename_i hr
      split at h
      · rename_i hy
        obtain rfl : ys = rest := by simpa using h
        exact ⟨hy ▸ List.suffix_refl _, not_mem_of_afterLast_eq_none hr⟩
      · simp at h

/-- What the remover goes on with: a suffix without the id it has just kept, and with the same
last element as long as there is one. -/
theorem afterLast_getD (x : NodeId) (ids : List NodeId) :
    (afterLast x ids).getD ids <:+ ids ∧ x ∉ (afterLast x ids).getD ids ∧
      (x :: (afterLast x ids).getD ids).getLast? = (x :: ids).getLast? := by
  cases h : afterLast x ids with
  | none => exact ⟨List.suffix_refl _, not_mem_of_afterLast_eq_none h, rfl⟩
  | some rest =>
    obtain ⟨hsuf, hnot⟩ := afterLast_eq_some h
    refine ⟨(List.suffix_cons x rest).trans hsuf, hnot, ?_⟩
    obtain ⟨pre, rfl⟩ := hsuf
    rw [Option.getD_some, ← List.cons_append, List.getLast?_append, List.getLast?_cons,
      Option.some_or]

/-- What holds of the empty path and is passed on by every cut holds of the result. -/
theorem removeCyclesFrom_spec (fuel : Nat) (ids : List NodeId) (h : ids.length ≤ fuel) :
    removeCyclesFrom fuel ids ⊆ ids ∧ (removeCyclesFrom fuel ids).Nodup ∧
      (removeCyclesFrom fuel ids).getLast? = ids.getLast? ∧
      (removeCyclesFrom fuel ids).head? = ids.head? := by
  induction fuel generalizing ids with
  | zero =>
    obtain rfl : ids = [] := List.length_eq_zero_iff.1 (Nat.le_zero.1 h)
    simp [removeCyclesFrom]
  | succ fuel ih =>
    cases ids with
    | nil => simp [removeCyclesFrom]
    | cons id rest =>
      obtain ⟨hsuf, hnot, hlast⟩ := afterLast_getD id rest
      obtain ⟨hsub, hnodup, hl, -⟩ :=
        ih ((afterLast id rest).getD rest) (Nat.le_trans hsuf.length_le (by simpa using h))
      refine ⟨?_, ?_, ?_, rfl⟩
      · exact List.cons_subset_cons id (List.Subset.trans hsub hsuf.subset)
      · exact List.nodup_cons.2 ⟨fun hm ↦ hnot (hsub hm), hnodup⟩
      · rw [removeCyclesFrom, List.getLast?_cons, hl, ← List.getLast?_cons, hlast]

theorem removeCycles_subset (ids : List NodeId) : removeCycles ids ⊆ ids :=
  (removeCyclesFrom_spec _ ids (Nat.le_refl _)).1

/-- **The cycle remover removes every cycle.** -/
theorem removeCycles_nodup (ids : List NodeId) : (removeCycles ids).Nodup :=
  (removeCyclesFrom_spec _ ids (Nat.le_refl _)).2.1

theorem removeCycles_getLast? (ids : List NodeId) :
    (removeCycles ids).getLast? = ids.getLast? :=
  (removeCyclesFrom_spec _ ids (Nat.le_refl _)).2.2.1

theorem removeCycles_head? (ids : List NodeId) : (removeCycles ids).head? = ids.head? :=
  (removeCyclesFrom_spec _ ids (Nat.le_refl _)).2.2.2

theorem removeCycles_ne_nil {ids : List NodeId} (h : ids ≠ []) : removeCycles ids ≠ [] := by
  intro hnil
  have := removeCycles_head? ids
  rw [hnil, List.head?_nil, eq_comm, List.head?_eq_none_iff] at this
  exact h this

example : removeCycles [1, 2, 1, 3, 4, 3] = [1, 3] := by decide

namespace Path

def removeCyclesInPlace (self : Path) : Path :=
  { self with ids := removeCycles self.ids, ids_ne := removeCycles_ne_nil self.ids_ne }

@[simp] theorem removeCyclesInPlace_last (self : Path) :
    self.removeCyclesInPlace.last = self.last := by
  have h := removeCycles_getLast? self.ids
  rw [List.getLast?_eq_some_getLast self.ids_ne,
    List.getLast?_eq_some_getLast (removeCycles_ne_nil self.ids_ne)] at h
  exact Option.some.inj h

@[simp] theorem removeCyclesInPlace_first (self : Path) :
    self.removeCyclesInPlace.first = self.first := by
  have h := removeCycles_head? self.ids
  rw [List.head?_eq_some_head self.ids_ne,
    List.head?_eq_some_head (removeCycles_ne_nil self.ids_ne)] at h
  exact Option.some.inj h

end Path

end RemoveCycles

/-! ## Path collections -/

/-- The paths of a contact. -/
structure PathCollection where
  activePath : Option Path
  /-- A path that would replace it once validated. -/
  proposedPath : Option Path
  /-- Former active paths; three slots. -/
  alternativePaths : Option Path × Option Path × Option Path
  deriving DecidableEq

namespace PathCollection

def newWithActivePath (activePath : Path) : PathCollection :=
  { activePath := some activePath, proposedPath := none, alternativePaths := (none, none, none) }

def setActivePath (newActivePath : Path) (self : PathCollection) : PathCollection :=
  { self with activePath := some newActivePath }

def setProposedPath (new : Path) (self : PathCollection) : PathCollection :=
  { self with proposedPath := some new }

/-- The active path moves to the first free alternative, or replaces the last one. -/
def moveActiveToAlternative (self : PathCollection) : PathCollection :=
  { self with
    activePath := none
    alternativePaths :=
      match self.alternativePaths with
      | (none, b, c) => (self.activePath, b, c)
      | (some a, none, c) => (some a, self.activePath, c)
      | (some a, some b, _) => (some a, some b, self.activePath) }

/-- The proposed path has been validated and becomes the active one.  If it is the active path
already, only the validation time changes. -/
def setProposedToActive (now : Timestamp) (self : PathCollection) : Run PathCollection :=
  let promote (self : PathCollection) : Run PathCollection := do
    let proposed ← unwrap self.proposedPath
    return { self with activePath := some (proposed.setValid now), proposedPath := none }
  match self.activePath with
  | some activePath =>
    if activePath.isValid then do
      let proposed ← expect self.proposedPath
        "set_proposed_to_active() should only be called if proposed path is set"
      if activePath.isSamePathAs proposed then
        return { self with
          activePath := some (activePath.updateLastValidated now), proposedPath := none }
      else promote self.moveActiveToAlternative
    else promote self
  | none => promote self

def sameIds : Option Path → Option Path → Bool
  | some a, some b => a.isSamePathAs b
  | none, none => true
  | _, _ => false

/-- The equality of path collections: the ids of the active and of the proposed path, and nothing
else. -/
def eq (self other : PathCollection) : Bool :=
  sameIds self.activePath other.activePath && sameIds self.proposedPath other.proposedPath

/-- **Promoting a proposed path** always succeeds; it leaves no proposed path, and the new active
path is valid and has the ids of the proposed one. -/
theorem setProposedToActive_spec {self : PathCollection} {proposed : Path}
    (h : self.proposedPath = some proposed) (now : Timestamp) :
    ∃ self' active, self.setProposedToActive now = .ok self' ∧ self'.activePath = some active ∧
      active.ids = proposed.ids ∧ active.pathState = .valid ∧ self'.proposedPath = none := by
  unfold setProposedToActive
  cases ha : self.activePath with
  | none =>
    simp only [h, expect_some, ok_bind, pure_eq]
    exact ⟨_, _, rfl, rfl, rfl, rfl, rfl⟩
  | some activePath =>
    by_cases hv : activePath.isValid = true
    · by_cases hs : activePath.isSamePathAs proposed = true
      · simp only [h, hv, hs, if_true, expect_some, ok_bind, pure_eq]
        refine ⟨_, _, rfl, rfl, ?_, ?_, rfl⟩
        · simpa [Path.isSamePathAs] using hs
        · simpa [Path.isValid] using hv
      · simp only [h, hv, hs, if_true, moveActiveToAlternative, expect_some, ok_bind,
          pure_eq]
        exact ⟨_, _, rfl, rfl, rfl, rfl, rfl⟩
    · simp only [h, hv, expect_some, ok_bind, pure_eq]
      exact ⟨_, _, rfl, rfl, rfl, rfl, rfl⟩

theorem setProposedToActive_cases {self self' : PathCollection} {now : Timestamp}
    (h : self.setProposedToActive now = .ok self') :
    ∃ proposed active, self.proposedPath = some proposed ∧ self'.activePath = some active ∧
      active.ids = proposed.ids ∧ active.pathState = .valid ∧ self'.proposedPath = none := by
  cases hproposed : self.proposedPath with
  | none =>
    unfold setProposedToActive at h
    cases hactive : self.activePath with
    | none => simp [hactive, hproposed, expect] at h
    | some active =>
      by_cases hv : active.isValid = true
      · simp [hactive, hproposed, hv, expect] at h
      · simp [hactive, hproposed, hv, expect] at h
  | some proposed =>
    obtain ⟨pc, active, hpc, hactive⟩ := setProposedToActive_spec hproposed now
    obtain rfl := ok.inj (hpc.symm.trans h)
    exact ⟨proposed, active, rfl, hactive⟩

end PathCollection

end Kira
