import Kira.Runtime

/-!
# Forwarding messages along their source route

Each node that a source-routed message visits passes it on to the next node of the route, until the
route is finished.  If that one is not an underlay neighbour, the origin is told which link is
missing.

The handler also learns from the messages it sees; here is only what becomes of the message.
-/

set_option autoImplicit false

namespace Kira

open Run

/-- Whether an event is kept from the remaining use cases. -/
inductive HandlingResult where
  | handled
  | notHandled
  deriving DecidableEq

namespace ForwardProtocolMessage

/-- The error that is sent back if the next hop is not a neighbour.  Messages without a nonce are
not answered, unless they ask for errors. -/
def handleNextHopFailed (rootId : NodeId) (ulnTable : InMemoryULNTable)
    (message : ProtocolMessage) : Run (List Effect) := do
  if message.msgId.isNone && !message.msgFlags.contains .diagnostic then return []
  else
    let route ← expect message.sourceRoute "assertion failed: message.source_route().is_some()"
    let nextHop ← expect route.nextHop
      "assertion failed: message.source_route().unwrap().next_hop().is_some()"
    let msgId ← unwrap message.msgId
    let sourceRoute ← route.fromReversed
    let errorMessage : ReqRspMessage ErrorData :=
      { commonHeader := .new .error rootId message.source msgId (.value ulnTable.stateSeqNr)
          ulnTable.size
        data := .segmentFailure (Link.new rootId nextHop) rootId
        notVia := none
        sourceRoute := sourceRoute }
    sendMessage (.error errorMessage) ulnTable rootId

/-- Passes a message on to the next hop, and says whether it was for another node. -/
def handleForwarding (rootId : NodeId) (ulnTable : InMemoryULNTable) (message : ProtocolMessage) :
    Run (HandlingResult × List Effect) := do
  match message.sourceRoute with
  | none => return (.notHandled, [])
  | some sourceRoute =>
    if (← sourceRoute.currentHop) ≠ rootId then return (.handled, [])
    else
      match sourceRoute.nextHop with
      | none => return (.notHandled, [])
      | some nextHop =>
        if (ulnTable.map.lookup nextHop).isNone then
          let effects ← handleNextHopFailed rootId ulnTable message
          return (.handled, effects)
        else
          let effects ← sendMessage (message.withRoute .advance) ulnTable rootId
          return (.handled, effects)

end ForwardProtocolMessage

end Kira
