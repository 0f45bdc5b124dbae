import Kira.Domain.RoutingTable.Observable
import Kira.R2Kad.Runtime

/-!
# What the use cases of a node share

The use cases of a node have one routing table, one table of underlay neighbours and one runtime
between them.  Whatever one of them does to a table is reported to the others, but not at once: the
report is an event that waits in the queue of the runtime, and by the time that it is handled the
tables may have changed again.  An event about a contact carries the contact as it was when the
event was raised.

A use case that handles an event is a function from the context to the context.  The readings of the
clock that it takes are an argument of that function: `Readings` have one for every place at which
the handler looks at the clock.
-/

set_option autoImplicit false

namespace Kira

open Run

/-! ## Events -/

/-- What the routing table reports. -/
inductive ContactEvent where
  | new (contact : Contact)
  /-- The contact was not stored, its path is to be checked first. -/
  | proposed (contact : Contact)
  | updated (new old : Contact)
  | removed (contact : Contact)
  | bucketUpdated (index : Nat)
  | newBucket (index : Nat)
  deriving DecidableEq

inductive VicinityEvent where
  | removed (node : NodeId)
  | ssnChanged
  | changed
  deriving DecidableEq

inductive UnderlayNeighborSource where
  | ownNode
  | underlayNeighbor (ulnid : UnderlayNeighborId)
  deriving DecidableEq

inductive UnderlayNeighborUpdate where
  | interfaceUp (interfaceId : Nat)
  | interfaceDown (interfaceId : Nat)
  | underlayNeighborUp (ulnid : UnderlayNeighborId)
  | underlayNeighborDown (ulnid : UnderlayNeighborId)
  deriving DecidableEq

/-- What a use case can be told.  The last two kinds concern none of the use cases that share the
tables, so they have no content here. -/
inductive UseCaseEvent where
  | message (message : ProtocolMessage) (source : UnderlayNeighborSource)
  | timer (id : TimerId)
  | contact (event : ContactEvent)
  | vicinity (event : VicinityEvent)
  | underlayUpdate (update : UnderlayNeighborUpdate)
  | injectMessage
  | api

/-- The event that the observer of the routing table makes of a report. -/
def ContactEvent.ofRoutingTableEvent : RoutingTableEvent → ContactEvent
  | .newContact contact => new contact
  | .removedContact contact => removed contact
  | .updatedContact newContact old => updated newContact old
  | .updatedBucket bucket => bucketUpdated bucket
  | .newBucket bucket => newBucket bucket

/-- The event that the observer of the underlay neighbour table makes of a report. -/
def VicinityEvent.ofULNTableEvent : ULNTableEvent → VicinityEvent
  | .ssnChanged => ssnChanged

/-! ## Readings of the clock -/

/-- The readings of the clock during a call, one for each place of the call. -/
abbrev Readings := List Nat → Timestamp

/-- The readings during a part of the call. -/
def Readings.part (self : Readings) (n : Nat) : Readings := fun place ↦ self (n :: place)

def Readings.now (self : Readings) : Timestamp := self []

def Readings.clock (self : Readings) (n : Nat) : Timestamp := (self.part n).now

/-! ## The context -/

/-- What the use cases of a node share. -/
structure UseCaseContext (T : Type) where
  routingTable : T
  ulnTable : InMemoryULNTable
  runtime : R2KadRuntime
  /-- The events that are still to be handled, next one first. -/
  eventQueue : List UseCaseEvent
  outputQueue : List Effect

namespace UseCaseContext

variable {T : Type} {k : Nat} [RoutingTable T k] {α : Type}

def rootId (self : UseCaseContext T) : NodeId := RoutingTable.root self.routingTable

def broadcastEvent (self : UseCaseContext T) (event : UseCaseEvent) : UseCaseContext T :=
  { self with eventQueue := self.eventQueue ++ [event] }

def withTable (self : UseCaseContext T) (observed : ObservableRoutingTable T) : UseCaseContext T :=
  { self with
    routingTable := observed.inner
    eventQueue := self.eventQueue ++
      observed.events.map fun event ↦ .contact (.ofRoutingTableEvent event) }

def withULNTable (self : UseCaseContext T) (observed : ObservableULNTable InMemoryULNTable) :
    UseCaseContext T :=
  { self with
    ulnTable := observed.inner
    eventQueue := self.eventQueue ++
      observed.events.map fun event ↦ .vicinity (.ofULNTableEvent event) }

def contactMut (self : UseCaseContext T) (id : NodeId) (f : Contact → Run (α × Contact)) :
    Run (Option α × UseCaseContext T) := do
  let (a, observed) ← RoutingTable.contactMut
    (ObservableRoutingTable.ofTable self.routingTable) id f
  return (a, self.withTable observed)

def iterMut (self : UseCaseContext T) (f : Contact → Contact) : UseCaseContext T :=
  self.withTable (RoutingTable.iterMut (ObservableRoutingTable.ofTable self.routingTable) f)

def removeContact (self : UseCaseContext T) (id : NodeId) : UseCaseContext T :=
  self.withTable (RoutingTable.remove (ObservableRoutingTable.ofTable self.routingTable) id).2

def ulnRemove (self : UseCaseContext T) (id : NodeId) : Run (UseCaseContext T) := do
  let (_, observed) ← ULNTable.remove (ObservableULNTable.new self.ulnTable) id
  return self.withULNTable observed

def ulnOp (self : UseCaseContext T) (op : ULNOp) : Run (UseCaseContext T) := do
  let observed ← op.apply (ObservableULNTable.new self.ulnTable)
  return self.withULNTable observed

def registerTimer (debug : Bool) (self : UseCaseContext T) (duration : Duration) :
    Run (TimerId × UseCaseContext T) := do
  let (id, runtime) ← self.runtime.registerTimer debug duration
  return (id, { self with runtime := runtime })

/-- What the runtime does with a message that was handed over.  One that is for the node itself
becomes an event. -/
def emit (self : UseCaseContext T) : Effect → UseCaseContext T
  | .sendMessageVia message via =>
    { self with outputQueue := self.outputQueue ++ [.sendMessageVia message via] }
  | .broadcastEvent message => self.broadcastEvent (.message message .ownNode)

def sendMessage (self : UseCaseContext T) (message : ProtocolMessage) :
    Run (UseCaseContext T) := do
  let effects ← Kira.sendMessage message self.ulnTable self.rootId
  return effects.foldl emit self

/-! ## What the operations leave as it is -/

/-- The two contexts have the same tables and timers: between them, messages have been sent. -/
structure SameState (before after : UseCaseContext T) : Prop where
  routingTable : after.routingTable = before.routingTable
  ulnTable : after.ulnTable = before.ulnTable
  runtime : after.runtime = before.runtime

theorem SameState.refl (self : UseCaseContext T) : self.SameState self := ⟨rfl, rfl, rfl⟩

theorem SameState.trans {a b c : UseCaseContext T} (hab : a.SameState b) (hbc : b.SameState c) :
    a.SameState c :=
  ⟨hbc.routingTable.trans hab.routingTable, hbc.ulnTable.trans hab.ulnTable,
    hbc.runtime.trans hab.runtime⟩

theorem sameState_emit (self : UseCaseContext T) (effect : Effect) :
    self.SameState (self.emit effect) := by
  cases effect with
  | sendMessageVia message via | broadcastEvent message => exact ⟨rfl, rfl, rfl⟩

theorem sameState_emits (self : UseCaseContext T) (effects : List Effect) :
    self.SameState (effects.foldl emit self) := by
  induction effects generalizing self with
  | nil => exact .refl self
  | cons effect effects ih => exact (self.sameState_emit effect).trans (ih _)

variable {self self' : UseCaseContext T}

theorem sameState_sendMessage {message : ProtocolMessage}
    (h : self.sendMessage message = .ok self') : self.SameState self' := by
  obtain ⟨effects, -, h⟩ := of_bind h
  cases h
  exact self.sameState_emits effects

theorem registerTimer_cases {debug : Bool} {duration : Duration} {id : TimerId}
    (h : self.registerTimer debug duration = .ok (id, self')) :
    ∃ runtime, self.runtime.registerTimer debug duration = .ok (id, runtime) ∧
      self' = { self with runtime := runtime } := by
  obtain ⟨⟨id', runtime⟩, hreg, h⟩ := of_bind h
  cases h
  exact ⟨runtime, hreg, rfl⟩

section Lawful

variable [LawfulRoutingTable T k]

def write (self : UseCaseContext T) (id : NodeId) (original contact : Contact) :
    UseCaseContext T :=
  { self with
    routingTable := LawfulRoutingTable.write self.routingTable id contact
    eventQueue := self.eventQueue ++
      (guardDrop original contact).map fun event ↦ .contact (.ofRoutingTableEvent event) }

theorem contactMut_cases {id : NodeId} {f : Contact → Run (α × Contact)} {a : Option α}
    (h : self.contactMut id f = .ok (a, self')) :
    (RoutingTable.contact self.routingTable id = none ∧ a = none ∧ self' = self) ∨
    (∃ c a' c', RoutingTable.contact self.routingTable id = some c ∧ f c = .ok (a', c') ∧
      a = some a' ∧ self' = self.write id c c') := by
  obtain ⟨⟨a₁, observed⟩, hmut, h⟩ := of_bind h
  cases h
  rcases LawfulRoutingTable.contactMut_cases hmut with
    ⟨hnone, rfl, rfl⟩ | ⟨c, a', c', hc, hf, rfl, rfl⟩
  · exact .inl ⟨hnone, rfl, by simp [withTable, ObservableRoutingTable.ofTable]⟩
  · refine .inr ⟨c, a', c', hc, hf, rfl, ?_⟩
    rw [withTable, ObservableRoutingTable.write_events hc]
    rfl

end Lawful

end UseCaseContext

end Kira
