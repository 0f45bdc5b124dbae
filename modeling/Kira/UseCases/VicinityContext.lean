import Kira.Domain.VicinityGraph
import Kira.UseCases.Context

/-!
# The context with the vicinity graph

Three of the use cases work with the vicinity graph: it is built up by the discovery of the
vicinity, the handling of failures removes links from it, and the paths in the vicinity are computed
from it.

When a node is removed from the graph then this becomes an event, as for the other tables.
-/

set_option autoImplicit false

namespace Kira

open Run

/-- The event that the observer of the vicinity graph makes of a report. -/
def VicinityEvent.ofVicinityGraphEvent : VicinityGraphEvent → VicinityEvent
  | .removed node => removed node

variable [Petgraph NodeId]

/-- The shared state with the vicinity graph. -/
structure VicinityContext (T : Type) extends UseCaseContext T where
  vicinityGraph : PetVicinityGraph

namespace VicinityContext

variable {T : Type}

def withVicinityGraph (self : VicinityContext T) (observed : ObservableVicinityGraph) :
    VicinityContext T :=
  { self with
    vicinityGraph := observed.inner
    eventQueue := self.eventQueue ++
      observed.events.map fun event ↦ .vicinity (.ofVicinityGraphEvent event) }

/-- Removes a node from the graph; also returns whether that changes the graph. -/
def vicinityRemove (self : VicinityContext T) (node : NodeId) :
    Run (Bool × VicinityContext T) := do
  let (removed, observed) ← (ObservableVicinityGraph.new self.vicinityGraph).remove node
  return (removed, self.withVicinityGraph observed)

def retainVicinity (self : VicinityContext T) : Run (VicinityContext T) := do
  let (_, observed) ← (ObservableVicinityGraph.new self.vicinityGraph).retainVicinity
  return self.withVicinityGraph observed

def broadcastEvent (self : VicinityContext T) (event : UseCaseEvent) : VicinityContext T :=
  { self with toUseCaseContext := self.toUseCaseContext.broadcastEvent event }

def sendMessageVia (self : VicinityContext T) (message : ProtocolMessage)
    (destination : UnderlayNeighborDestination) : VicinityContext T :=
  { self with toUseCaseContext := self.toUseCaseContext.emit (.sendMessageVia message destination) }

def registerTimer (debug : Bool) (self : VicinityContext T) (duration : Duration) :
    Run (TimerId × VicinityContext T) := do
  let (id, context) ← self.toUseCaseContext.registerTimer debug duration
  return (id, { self with toUseCaseContext := context })

def ulnOp (self : VicinityContext T) (op : ULNOp) : Run (VicinityContext T) := do
  let context ← self.toUseCaseContext.ulnOp op
  return { self with toUseCaseContext := context }

/-! ## What the operations do -/

variable {self self' : VicinityContext T}

theorem vicinityRemove_eq_ok {node : NodeId} {removed : Bool}
    (h : self.vicinityRemove node = .ok (removed, self')) :
    self.vicinityGraph.remove node = .ok (removed, self'.vicinityGraph) ∧
      self.toUseCaseContext.SameState self'.toUseCaseContext := by
  obtain ⟨⟨removed', observed⟩, hobserved, h⟩ := of_bind h
  cases h
  obtain ⟨⟨removed, vg⟩, hremove, hobserved⟩ := of_bind hobserved
  cases hobserved
  refine ⟨?_, ⟨rfl, rfl, rfl⟩⟩
  rw [show self.vicinityGraph.remove node = _ from hremove, withVicinityGraph]
  split <;> rfl

theorem retainVicinity_eq_ok (h : self.retainVicinity = .ok self') :
    ∃ removed, self.vicinityGraph.retainVicinity = .ok (removed, self'.vicinityGraph) ∧
      self.toUseCaseContext.SameState self'.toUseCaseContext := by
  obtain ⟨⟨removed, observed⟩, hobserved, h⟩ := of_bind h
  obtain rfl := ok.inj h
  obtain ⟨⟨removed', vg⟩, hretain, hobserved⟩ := of_bind hobserved
  obtain ⟨rfl, rfl⟩ := ok_mk_inj hobserved
  have hinner : ∀ (events : List VicinityGraphEvent) (observed : ObservableVicinityGraph),
      (events.foldl ObservableVicinityGraph.emit observed).inner = observed.inner := by
    intro events
    induction events with
    | nil => exact fun _ ↦ rfl
    | cons event events ih => exact fun observed ↦ ih (observed.emit event)
  refine ⟨removed', ?_, ⟨rfl, rfl, rfl⟩⟩
  rw [show self.vicinityGraph.retainVicinity = _ from hretain, withVicinityGraph, hinner]

theorem registerTimer_eq_ok {debug : Bool} {duration : Duration} {id : TimerId}
    (h : self.registerTimer debug duration = .ok (id, self')) :
    ∃ runtime, self.runtime.registerTimer debug duration = .ok (id, runtime) ∧
      self' = { self with runtime := runtime } := by
  obtain ⟨⟨id', context⟩, hreg, h⟩ := of_bind h
  cases h
  obtain ⟨runtime, hruntime, rfl⟩ := UseCaseContext.registerTimer_cases hreg
  exact ⟨runtime, hruntime, rfl⟩

theorem ulnOp_eq_ok {op : ULNOp} (h : self.ulnOp op = .ok self') :
    self'.vicinityGraph = self.vicinityGraph ∧ self'.routingTable = self.routingTable ∧
      self'.runtime = self.runtime := by
  obtain ⟨context, hop, h⟩ := of_bind h
  cases h
  obtain ⟨observed, -, hop⟩ := of_bind hop
  cases hop
  exact ⟨rfl, rfl, rfl⟩

end VicinityContext

end Kira
