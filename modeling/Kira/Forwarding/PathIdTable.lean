import Kira.Domain.UnderlayNeighborTable

/-!
# The table of path ids

Packets are forwarded by the id of the path they still have to go.  The entry under such an id says
to which neighbour a packet goes next and which id it gets, or that it has arrived.

The use cases do not write the table; they hand over updates, and whoever has the table applies them
in that order.  An update may fail: an entry can be created only where there is none, and updated
only where there is one (`InMemoryFwdTables.apply`).

An id is the hash of a path.  What type the ids have does not matter here, so they are a parameter.
-/

set_option autoImplicit false

namespace Kira

inductive DecapsulationDestination where
  /-- The packet has arrived. -/
  | «local»
  | underlayNeighbor (ulnid : UnderlayNeighborId)
  deriving DecidableEq

/-- An entry, under the id that a packet comes with. -/
inductive PathIdEntry (P : Type) where
  | forward (inPathId outPathId : P) (nextHop : UnderlayNeighborId)
  | decapsulate (inPathId : P) (nextHop : DecapsulationDestination)
  deriving DecidableEq

def PathIdEntry.inPathId {P : Type} : PathIdEntry P → P
  | .forward inPathId _ _ => inPathId
  | .decapsulate inPathId _ => inPathId

inductive PathIdTableUpdate (P : Type) where
  | create (entry : PathIdEntry P)
  | update (entry : PathIdEntry P)
  | createOrUpdate (entry : PathIdEntry P)
  | remove (pathId : P)

inductive FwdTableError where
  | entryAlreadyExists
  | entryMissing
  deriving DecidableEq

/-- The part of the tables that has the path ids. -/
structure InMemoryFwdTables (P : Type) where
  pathIdTable : KeyMap P (PathIdEntry P)

namespace InMemoryFwdTables

variable {P : Type} [DecidableEq P]

def empty : InMemoryFwdTables P := ⟨∅⟩

def contains (self : InMemoryFwdTables P) (pathId : P) : Bool :=
  (self.pathIdTable.lookup pathId).isSome

def insert (self : InMemoryFwdTables P) (entry : PathIdEntry P) : InMemoryFwdTables P :=
  ⟨self.pathIdTable.insert entry.inPathId entry⟩

def create (self : InMemoryFwdTables P) (entry : PathIdEntry P) :
    Except FwdTableError (InMemoryFwdTables P) :=
  if self.contains entry.inPathId then .error .entryAlreadyExists else .ok (self.insert entry)

def update (self : InMemoryFwdTables P) (entry : PathIdEntry P) :
    Except FwdTableError (InMemoryFwdTables P) :=
  if self.contains entry.inPathId then .ok (self.insert entry) else .error .entryMissing

def createOrUpdate (self : InMemoryFwdTables P) (entry : PathIdEntry P) :
    Except FwdTableError (InMemoryFwdTables P) :=
  if self.contains entry.inPathId then self.update entry else self.create entry

/-- It does not matter whether there is such an entry. -/
def remove (self : InMemoryFwdTables P) (pathId : P) : InMemoryFwdTables P :=
  ⟨self.pathIdTable.erase pathId⟩

def apply (self : InMemoryFwdTables P) :
    PathIdTableUpdate P → Except FwdTableError (InMemoryFwdTables P)
  | .create entry => self.create entry
  | .update entry => self.update entry
  | .createOrUpdate entry => self.createOrUpdate entry
  | .remove pathId => .ok (self.remove pathId)

/-- Applies updates one after the other, up to the first one that fails. -/
def replay (self : InMemoryFwdTables P) (updates : List (PathIdTableUpdate P)) :
    Except FwdTableError (InMemoryFwdTables P) :=
  updates.foldlM apply self

/-! ## What the operations do to an id -/

variable {self self' : InMemoryFwdTables P} {entry : PathIdEntry P} {pathId : P}

theorem lookup_insert (self : InMemoryFwdTables P) (entry : PathIdEntry P) (pathId : P) :
    (self.insert entry).pathIdTable.lookup pathId =
      if pathId = entry.inPathId then some entry else self.pathIdTable.lookup pathId :=
  KeyMap.lookup_insert_eq _ _ _ _

theorem contains_insert (self : InMemoryFwdTables P) (entry : PathIdEntry P) (pathId : P) :
    (self.insert entry).contains pathId = true ↔
      pathId = entry.inPathId ∨ self.contains pathId = true := by
  rw [contains, lookup_insert]
  split <;> simp_all [contains]

theorem apply_create (h : ¬ self.contains entry.inPathId = true) :
    self.apply (.create entry) = .ok (self.insert entry) :=
  if_neg h

theorem apply_update (h : self.contains entry.inPathId = true) :
    self.apply (.update entry) = .ok (self.insert entry) :=
  if_pos h

theorem apply_createOrUpdate (self : InMemoryFwdTables P) (entry : PathIdEntry P) :
    self.apply (.createOrUpdate entry) = .ok (self.insert entry) := by
  by_cases h : self.contains entry.inPathId = true
  · exact (if_pos h).trans (if_pos h)
  · exact (if_neg h).trans (if_neg h)

theorem replay_append (updates more : List (PathIdTableUpdate P)) :
    self.replay (updates ++ more) = self.replay updates >>= fun mid ↦ mid.replay more :=
  List.foldlM_append

theorem replay_cons_of_apply {update : PathIdTableUpdate P} (h : self.apply update = .ok self')
    (updates : List (PathIdTableUpdate P)) :
    self.replay (update :: updates) = self'.replay updates := by
  rw [replay, List.foldlM_cons, h]
  rfl

theorem replay_removes_eq (self : InMemoryFwdTables P) (pathIds : List P) :
    self.replay (pathIds.map .remove) =
      .ok ⟨pathIds.foldl (fun table pathId ↦ table.erase pathId) self.pathIdTable⟩ := by
  induction pathIds generalizing self with
  | nil => rfl
  | cons first rest ih => exact ih (self.remove first)

theorem replay_removes (self : InMemoryFwdTables P) (pathIds : List P) :
    ∃ self', self.replay (pathIds.map .remove) = .ok self' ∧
      ∀ pathId, self'.pathIdTable.lookup pathId =
        if pathId ∈ pathIds then none else self.pathIdTable.lookup pathId :=
  ⟨_, self.replay_removes_eq pathIds, KeyMap.lookup_foldl_erase self.pathIdTable pathIds⟩

theorem replay_createOrUpdates (self : InMemoryFwdTables P) (entries : List (PathIdEntry P)) :
    ∃ self', self.replay (entries.map .createOrUpdate) = .ok self' ∧
      ∀ pathId, (∃ entry ∈ entries, entry.inPathId = pathId ∧
          self'.pathIdTable.lookup pathId = some entry) ∨
        pathId ∉ entries.map PathIdEntry.inPathId ∧
          self'.pathIdTable.lookup pathId = self.pathIdTable.lookup pathId := by
  induction entries generalizing self with
  | nil => exact ⟨self, rfl, fun _ ↦ .inr ⟨List.not_mem_nil, rfl⟩⟩
  | cons first entries ih =>
    obtain ⟨self', hself', hlookup⟩ := ih (self.insert first)
    refine ⟨self', ?_, fun pathId ↦ ?_⟩
    · rw [List.map_cons, replay_cons_of_apply (self.apply_createOrUpdate first), hself']
    · rcases hlookup pathId with ⟨entry, hentry, heq⟩ | ⟨hnot, heq⟩
      · exact .inl ⟨entry, List.mem_cons_of_mem _ hentry, heq⟩
      · rw [lookup_insert] at heq
        by_cases hfirst : pathId = first.inPathId
        · rw [if_pos hfirst] at heq
          exact .inl ⟨first, List.mem_cons_self, hfirst.symm, heq⟩
        · rw [if_neg hfirst] at heq
          exact .inr ⟨by simp [hfirst, hnot], heq⟩

end InMemoryFwdTables

end Kira
