import Kira.Lib.KeyMap
import Kira.Domain.Contact

/-!
# The underlay neighbour table

A node knows its underlay neighbours by their node id and by the connection over which they are
reached.  A mapping of the one to the other is tentative until the neighbour has shown that it hears
the node as well; then it is *confirmed*, and from that on bidirectional.

With each change of what is bidirectional the node's own state sequence number is to be increased:
other nodes recognise newer information about this node by it.  If there is no larger one, the
program panics.

`ObservableULNTable` wraps a table and tells observers when the number has changed.  As for routing
tables, the model keeps what observers are told as a log.
-/

set_option autoImplicit false

namespace Kira

open Run

structure UnderlayNeighborId where
  interfaceId : Nat
  connectionId : Nat
  deriving DecidableEq

/-! ## Tables -/

inductive ULNState where
  | tentative
  | bidirectional
  deriving DecidableEq

class ULNTable (U : Type) where
  /-- Adds a tentative mapping, and returns the one that it takes the place of. -/
  insert : U → NodeId → UnderlayNeighborId → Option UnderlayNeighborId × U
  /-- Confirms a mapping, and returns whether that changes the sequence number. -/
  confirm : U → NodeId → UnderlayNeighborId → Run (Bool × U)
  contains : U → NodeId → Bool
  stateSeqNr : U → SafeStateSeqNr
  remove : U → NodeId → Run (Option UnderlayNeighborId × U)
  size : U → Nat

/-- The neighbours, and the number of the current state. -/
structure InMemoryULNTable where
  stateSeqNr : SafeStateSeqNr
  map : KeyMap NodeId (UnderlayNeighborId × ULNState)

namespace InMemoryULNTable

def new : InMemoryULNTable := ⟨.MIN, ∅⟩

/-- A mapping for an id that has another one takes its place and is tentative, whatever the old one
was; the sequence number stays. -/
def insert (self : InMemoryULNTable) (id : NodeId) (ulnid : UnderlayNeighborId) :
    Option UnderlayNeighborId × InMemoryULNTable :=
  match self.map.lookup id with
  | some (existing, _) =>
    if existing = ulnid then (none, self)
    else (some existing, { self with map := self.map.insert id (ulnid, .tentative) })
  | none => (none, { self with map := self.map.insert id (ulnid, .tentative) })

def nextStateSeqNr (self : InMemoryULNTable) : Run SafeStateSeqNr :=
  expect (self.stateSeqNr.add 1).toOption "not yet implemented: implement reset of SafeStateSeqNr"

def confirm (self : InMemoryULNTable) (id : NodeId) (ulnid : UnderlayNeighborId) :
    Run (Bool × InMemoryULNTable) :=
  match self.map.lookup id with
  | some (existing, .bidirectional) =>
    if existing = ulnid then return (false, self)
    else .panic "Trying to confirm entry with new ulnid w/o inserting it first"
  | some (existing, .tentative) =>
    if existing = ulnid then do
      let newSsn ← self.nextStateSeqNr
      return (true, ⟨newSsn, self.map.insert id (ulnid, .bidirectional)⟩)
    else .panic "Trying to confirm entry with new ulnid w/o inserting it first"
  | none => .panic "Trying to confirm formerly unknown entry"

def contains (self : InMemoryULNTable) (id : NodeId) : Bool := (self.map.lookup id).isSome

def remove (self : InMemoryULNTable) (id : NodeId) :
    Run (Option UnderlayNeighborId × InMemoryULNTable) :=
  match self.map.lookup id with
  | some (ulnid, .bidirectional) => do
    let newSsn ← self.nextStateSeqNr
    return (some ulnid, ⟨newSsn, self.map.erase id⟩)
  | some (ulnid, .tentative) => return (some ulnid, { self with map := self.map.erase id })
  | none => return (none, { self with map := self.map.erase id })

def size (self : InMemoryULNTable) : Nat := self.map.entries.length

def isEmpty (self : InMemoryULNTable) : Bool := self.map.entries.isEmpty

instance : ULNTable InMemoryULNTable where
  insert := insert
  confirm := confirm
  contains := contains
  stateSeqNr := stateSeqNr
  remove := remove
  size := size

end InMemoryULNTable

inductive ULNTableEvent where
  | ssnChanged
  deriving DecidableEq

/-- A table, and what its observers have been told so far. -/
structure ObservableULNTable (U : Type) where
  inner : U
  events : List ULNTableEvent

namespace ObservableULNTable

variable {U : Type} [ULNTable U]

def new (ulntable : U) : ObservableULNTable U := ⟨ulntable, []⟩

def emit (self : ObservableULNTable U) (event : ULNTableEvent) : ObservableULNTable U :=
  { self with events := self.events ++ [event] }

def insert (self : ObservableULNTable U) (id : NodeId) (ulnid : UnderlayNeighborId) :
    Option UnderlayNeighborId × ObservableULNTable U :=
  let lastSsn := ULNTable.stateSeqNr self.inner
  let (lastMapping, inner) := ULNTable.insert self.inner id ulnid
  let self := { self with inner }
  (lastMapping, if ULNTable.stateSeqNr inner != lastSsn then self.emit .ssnChanged else self)

def confirm (self : ObservableULNTable U) (id : NodeId) (ulnid : UnderlayNeighborId) :
    Run (Bool × ObservableULNTable U) := do
  let (result, inner) ← ULNTable.confirm self.inner id ulnid
  let self := { self with inner }
  return (result, if result then self.emit .ssnChanged else self)

def remove (self : ObservableULNTable U) (id : NodeId) :
    Run (Option UnderlayNeighborId × ObservableULNTable U) := do
  let lastSsn := ULNTable.stateSeqNr self.inner
  let (removed, inner) ← ULNTable.remove self.inner id
  let self := { self with inner }
  return (removed,
    if removed.isSome && ULNTable.stateSeqNr inner != lastSsn then self.emit .ssnChanged else self)

instance : ULNTable (ObservableULNTable U) where
  insert := insert
  confirm := confirm
  contains self := ULNTable.contains self.inner
  stateSeqNr self := ULNTable.stateSeqNr self.inner
  remove := remove
  size self := ULNTable.size self.inner

end ObservableULNTable

/-! ## Sequences of operations -/

inductive ULNOp where
  | insert (id : NodeId) (ulnid : UnderlayNeighborId)
  | confirm (id : NodeId) (ulnid : UnderlayNeighborId)
  | remove (id : NodeId)
  deriving DecidableEq

def ULNOp.apply {U : Type} [ULNTable U] (t : U) : ULNOp → Run U
  | .insert id ulnid => return (ULNTable.insert t id ulnid).2
  | .confirm id ulnid => do
    let (_, t) ← ULNTable.confirm t id ulnid
    return t
  | .remove id => do
    let (_, t) ← ULNTable.remove t id
    return t

/-- **Everything an operation can do** to a table that is kept in memory. -/
inductive InMemoryULNTable.Stepped (t : InMemoryULNTable) : ULNOp → InMemoryULNTable → Prop
  | known {id : NodeId} {ulnid : UnderlayNeighborId} {state : ULNState}
      (h : t.map.lookup id = some (ulnid, state)) : Stepped t (.insert id ulnid) t
  /-- A tentative mapping, in the place of whatever there was. -/
  | inserted {id : NodeId} {ulnid : UnderlayNeighborId}
      (h : ∀ existing state, t.map.lookup id = some (existing, state) → existing ≠ ulnid) :
      Stepped t (.insert id ulnid) { t with map := t.map.insert id (ulnid, .tentative) }
  | confirmedBefore {id : NodeId} {ulnid : UnderlayNeighborId}
      (h : t.map.lookup id = some (ulnid, .bidirectional)) : Stepped t (.confirm id ulnid) t
  | confirmed {id : NodeId} {ulnid : UnderlayNeighborId} {ssn : SafeStateSeqNr}
      (h : t.map.lookup id = some (ulnid, .tentative)) (hssn : ssn.val = t.stateSeqNr.val + 1) :
      Stepped t (.confirm id ulnid) ⟨ssn, t.map.insert id (ulnid, .bidirectional)⟩
  | removed {id : NodeId} (h : ∀ ulnid, t.map.lookup id ≠ some (ulnid, .bidirectional)) :
      Stepped t (.remove id) { t with map := t.map.erase id }
  | disconnected {id : NodeId} {ulnid : UnderlayNeighborId} {ssn : SafeStateSeqNr}
      (h : t.map.lookup id = some (ulnid, .bidirectional))
      (hssn : ssn.val = t.stateSeqNr.val + 1) :
      Stepped t (.remove id) ⟨ssn, t.map.erase id⟩

namespace InMemoryULNTable

variable {t t' : InMemoryULNTable}

theorem nextStateSeqNr_eq_ok {ssn : SafeStateSeqNr} (h : t.nextStateSeqNr = .ok ssn) :
    ssn.val = t.stateSeqNr.val + 1 :=
  SafeStateSeqNr.add_one_eq_some (expect_eq_ok.1 h)

theorem insert_stepped (t : InMemoryULNTable) (id : NodeId) (ulnid : UnderlayNeighborId) :
    Stepped t (.insert id ulnid) (t.insert id ulnid).2 := by
  unfold insert
  cases hlook : t.map.lookup id with
  | none => exact .inserted (by simp [hlook])
  | some entry =>
    obtain ⟨existing, state⟩ := entry
    dsimp only
    split
    · rename_i heq
      exact .known (heq ▸ hlook)
    · rename_i hne
      refine .inserted fun existing' state' h ↦ ?_
      obtain ⟨rfl, rfl⟩ : existing = existing' ∧ state = state' := by simpa [hlook] using h
      exact hne

theorem confirm_stepped {id : NodeId} {ulnid : UnderlayNeighborId} {result : Bool}
    (h : t.confirm id ulnid = .ok (result, t')) :
    Stepped t (.confirm id ulnid) t' ∧ (result = true ↔ t'.stateSeqNr ≠ t.stateSeqNr) := by
  unfold confirm at h
  split at h
  · rename_i existing hlook
    split at h
    · rename_i heq
      cases h
      exact ⟨.confirmedBefore (heq ▸ hlook), by simp⟩
    · simp at h
  · rename_i existing hlook
    split at h
    · rename_i heq
      obtain ⟨ssn, hssn, h⟩ := of_bind h
      cases h
      have hval := nextStateSeqNr_eq_ok hssn
      refine ⟨.confirmed (heq ▸ hlook) hval, iff_of_true rfl fun heq ↦ ?_⟩
      rw [show ssn = t.stateSeqNr from heq] at hval
      omega
    · simp at h
  · simp at h

theorem remove_stepped {id : NodeId} {removed : Option UnderlayNeighborId}
    (h : t.remove id = .ok (removed, t')) :
    Stepped t (.remove id) t' ∧ (removed = none → t'.stateSeqNr = t.stateSeqNr) := by
  unfold remove at h
  split at h
  · rename_i ulnid hlook
    obtain ⟨ssn, hssn, h⟩ := of_bind h
    cases h
    exact ⟨.disconnected hlook (nextStateSeqNr_eq_ok hssn), by simp⟩
  · rename_i ulnid hlook
    cases h
    exact ⟨.removed (by simp [hlook]), by simp⟩
  · rename_i hlook
    cases h
    exact ⟨.removed (by simp [hlook]), fun _ ↦ rfl⟩

end InMemoryULNTable

/-- The table has made a step, and observers have been told if that has changed the sequence
number. -/
def ObservableULNTable.Reported (t : ObservableULNTable InMemoryULNTable) (op : ULNOp)
    (t' : ObservableULNTable InMemoryULNTable) : Prop :=
  t.inner.Stepped op t'.inner ∧ t'.events = t.events ++
    if t'.inner.stateSeqNr = t.inner.stateSeqNr then [] else [.ssnChanged]

theorem ObservableULNTable.reported_emit {t : ObservableULNTable InMemoryULNTable} {op : ULNOp}
    {inner : InMemoryULNTable} (hstepped : t.inner.Stepped op inner) {b : Bool}
    (hb : b = true ↔ inner.stateSeqNr ≠ t.inner.stateSeqNr) :
    t.Reported op (if b then emit ⟨inner, t.events⟩ .ssnChanged else ⟨inner, t.events⟩) := by
  cases b with
  | false =>
    have heq : inner.stateSeqNr = t.inner.stateSeqNr := by simpa using hb
    exact ⟨hstepped, by simp [heq]⟩
  | true =>
    have hne : inner.stateSeqNr ≠ t.inner.stateSeqNr := hb.1 rfl
    exact ⟨hstepped, by simp [emit, hne]⟩

/-- **One operation on a table with observers.** -/
theorem ULNOp.apply_cases {t t' : ObservableULNTable InMemoryULNTable} {op : ULNOp}
    (h : op.apply t = .ok t') : t.Reported op t' := by
  cases op with
  | insert id ulnid =>
    obtain rfl : (t.insert id ulnid).2 = t' := ok.inj h
    exact ObservableULNTable.reported_emit (t.inner.insert_stepped id ulnid) bne_iff_ne
  | confirm id ulnid =>
    obtain ⟨⟨result, t₁⟩, hconfirm, h⟩ := of_bind h
    obtain rfl : t₁ = t' := ok.inj h
    obtain ⟨⟨result', inner⟩, hinner, h⟩ := of_bind hconfirm
    cases h
    obtain ⟨hstepped, hresult⟩ := InMemoryULNTable.confirm_stepped hinner
    exact ObservableULNTable.reported_emit hstepped hresult
  | remove id =>
    obtain ⟨⟨removed, t₁⟩, hremove, h⟩ := of_bind h
    obtain rfl : t₁ = t' := ok.inj h
    obtain ⟨⟨removed', inner⟩, hinner, h⟩ := of_bind hremove
    obtain ⟨-, rfl⟩ : removed' = removed ∧ _ = t₁ := ok_mk_inj h
    obtain ⟨hstepped, hnone⟩ := InMemoryULNTable.remove_stepped hinner
    refine ObservableULNTable.reported_emit hstepped ?_
    rw [Bool.and_eq_true, bne_iff_ne]
    refine ⟨And.right, fun hne ↦ ⟨?_, hne⟩⟩
    rw [Option.isSome_iff_ne_none]
    exact fun hremoved ↦ hne (hnone hremoved)

end Kira
