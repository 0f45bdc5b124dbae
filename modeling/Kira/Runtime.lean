import Kira.Domain.ProtocolMessage
import Kira.Domain.UnderlayNeighborTable

/-!
# Sending messages

The use cases of a node hand messages to the runtime of the node.  `sendMessage` decides where a
message goes: to the connection that the underlay neighbour table has for the next hop, or back to
the use cases of the node itself if that is the next hop.

What a use case has handed over is a list of `Effect`s.

The runtime also keeps the clock of the node and numbers its timers.
-/

set_option autoImplicit false

namespace Kira

/-- An instant, in nanoseconds from the origin of the clock. -/
abbrev Instant := Int

/-- A duration, in nanoseconds. -/
abbrev Duration := Nat

/-- The nanoseconds of so many milliseconds. -/
def Duration.fromMillis (millis : Nat) : Duration := millis * 1000000

abbrev TimerId := Nat

inductive UnderlayNeighborDestination where
  | broadcast
  | multicast (interfaceId : Nat)
  | underlayNeighbor (ulnid : UnderlayNeighborId)
  deriving DecidableEq

/-- What the runtime of a node is asked to do. -/
inductive Effect where
  | sendMessageVia (message : ProtocolMessage) (destination : UnderlayNeighborDestination)
  | broadcastEvent (message : ProtocolMessage)

def Effect.message : Effect → ProtocolMessage
  | .sendMessageVia message _ => message
  | .broadcastEvent message => message

/-- Sends a message to its current hop.  It is dropped if that is not known as a neighbour. -/
def sendMessage (message : ProtocolMessage) (ulnTable : InMemoryULNTable) (rootId : NodeId) :
    Run (List Effect) := do
  match ← message.currentHop with
  | none => return [.sendMessageVia message .broadcast]
  | some nextHop =>
    if nextHop = rootId then return [.broadcastEvent message]
    else
      match ulnTable.map.lookup nextHop with
      | some (ulnDest, _) => return [.sendMessageVia message (.underlayNeighbor ulnDest)]
      | none => return []

/-- What is sent of a source-routed message: the message, to its current hop. -/
theorem sendMessage_of_route {message : ProtocolMessage} {route : SourceRoute} {hop : NodeId}
    (hroute : message.sourceRoute = some route) (hhop : route.currentHop = .ok hop)
    (ulnTable : InMemoryULNTable) (rootId : NodeId) :
    sendMessage message ulnTable rootId = .ok (if hop = rootId then [.broadcastEvent message]
      else (ulnTable.map.lookup hop).toList.map
        fun uln ↦ .sendMessageVia message (.underlayNeighbor uln.1)) := by
  rw [sendMessage, ProtocolMessage.currentHop_of_route hroute, hhop]
  simp only [Run.ok_bind, Run.pure_eq]
  split
  · rfl
  · cases ulnTable.map.lookup hop <;> rfl

/-- A message with a route that is in range is sent, or dropped, but nothing else is. -/
theorem sendMessage_of_inRange {message : ProtocolMessage} {route : SourceRoute}
    (hroute : message.sourceRoute = some route) (hrange : route.InRange)
    (ulnTable : InMemoryULNTable) (rootId : NodeId) :
    ∃ effects, sendMessage message ulnTable rootId = .ok effects ∧
      ∀ effect ∈ effects, effect.message.kind = message.kind := by
  obtain ⟨hop, hhop⟩ := hrange.currentHop
  refine ⟨_, sendMessage_of_route hroute hhop ulnTable rootId, fun effect heffect ↦ ?_⟩
  split at heffect
  · rw [List.mem_singleton.1 heffect]
    rfl
  · obtain ⟨uln, -, rfl⟩ := List.mem_map.1 heffect
    rfl

end Kira
