import Kira.UseCases.Context
import Kira.Utils.ExponentialBackoff

/-!
# Looking for the neighbours in the overlay

A node asks for its own id again and again, to get to know the nodes closest to it; that is how it
joins the network.  The timer for the requests is set anew after each request, later and later.
With another timer, a periodic one, the node asks for random ids.

A node without underlay neighbours is isolated and stops asking.  When there is a change in its
vicinity and it has neighbours again, it starts anew.

The two timers are the ones that the state `running` remembers.  Other timers are ignored, and in
all other states every timer is.  Random numbers come with the event, as `Draws`.  Nothing reads the
base of the backoff in the configuration, so it is left out.
-/

set_option autoImplicit false

namespace Kira

open Run RoutingTable

structure ONDConfig where
  sendTimeout : Duration
  randomExplorationInterval : Duration
  overlayNeighborhoodSize : Nat
  overlayNeighborhoodSize_pos : 0 < overlayNeighborhoodSize
  backoffMaxRetries : Nat
  backoffMaxRetries_pos : 0 < backoffMaxRetries
  backoffStartingDuration : Duration
  sharedPrefixBitsGrouping : NonZeroU8

/-- The default for a table with buckets of this size. -/
def ONDConfig.default (k : Nat) (hk : 0 < k) : ONDConfig where
  sendTimeout := .fromMillis 250
  randomExplorationInterval := .fromMillis 400
  overlayNeighborhoodSize := k
  overlayNeighborhoodSize_pos := hk
  backoffMaxRetries := 10
  backoffMaxRetries_pos := by decide
  backoffStartingDuration := .fromMillis 250
  sharedPrefixBitsGrouping := .MIN

/-- What belongs to one of the two timers. -/
structure TimerContext where
  timerId : Option TimerId
  backoff : Option ExponentialBackoff
  /-- The latest request that has not been answered, and the node it was sent to or asks for. -/
  lastMsgState : Option (Nonce × NodeId)

def TimerContext.default : TimerContext := ⟨none, none, none⟩

inductive ONDState where
  | initialized
  | running (periodicJoin randomExploration : TimerContext)
  | isolated
  | error

structure OverlayNeighborhoodDiscovery where
  state : ONDState
  config : ONDConfig

namespace OverlayNeighborhoodDiscovery

def new (config : ONDConfig) : Except GroupingError OverlayNeighborhoodDiscovery :=
  if NodeId.BITS < config.sharedPrefixBitsGrouping.get then
    .error (.invalid config.sharedPrefixBitsGrouping)
  else .ok ⟨.initialized, config⟩

/-- What is drawn at random. -/
structure Draws where
  nonce : Nonce
  randomId : NodeId
  offset : Nat

variable {T : Type} {k : Nat} [RoutingTable T k]

/-- The contact that is asked: the closest one, but not the one that has not answered. -/
def closestOn (lastMsgState : Option (Nonce × NodeId)) (closestViaContacts : List PrefixContact) :
    Option Contact :=
  match lastMsgState with
  | some (_, avoidContact) =>
    (closestViaContacts.find? fun via ↦ via.2.id ≠ avoidContact).map Prod.snd
  | none => closestViaContacts.head?.map Prod.snd

def findNodeReq (self : OverlayNeighborhoodDiscovery) (context : UseCaseContext T) (target : NodeId)
    (nonce : Nonce) (route : SourceRoute) : ProtocolMessage :=
  .findNodeReq
    { commonHeader := .new .findNodeReq context.rootId target nonce
        (.value context.ulnTable.stateSeqNr) context.ulnTable.size
      data := ⟨self.config.overlayNeighborhoodSize, self.config.overlayNeighborhoodSize_pos⟩
      notVia := none
      sourceRoute := route }

/-- Sends the next request for the own id and sets the timer for the one after that.  There is no
next timer if there is nobody to ask. -/
def sendNextJoinRequest (debug : Bool) (draws : Draws) (self : OverlayNeighborhoodDiscovery)
    (context : UseCaseContext T) : Run (OverlayNeighborhoodDiscovery × UseCaseContext T) :=
  match self.state with
  | .running join exploration =>
    if context.ulnTable.isEmpty then return ({ self with state := .isolated }, context)
    else do
      let backoff := join.backoff.getD (ExponentialBackoff.newRandom 2 self.config.backoffMaxRetries
        self.config.backoffStartingDuration).setLimit
      let (nextDuration, backoff) ← backoff.next debug draws.offset
      let nextDuration ← expect nextDuration
        "Periodic join timer is always expected to have a value"
      let join := { join with backoff := some backoff }
      let waiting := { self with state := .running join exploration }
      match ← closest context.routingTable context.rootId 3
        self.config.sharedPrefixBitsGrouping with
      | .error _ => .panic "config should have been checked before"
      | .ok closestViaContacts =>
        match closestOn join.lastMsgState closestViaContacts with
        | none => return (waiting, context)
        | some contact =>
          let path ← unwrap contact.path
          let routeToClosestOn := SourceRoute.new context.rootId path
          let neighbor ← routeToClosestOn.currentHop
          if context.ulnTable.contains neighbor then
            let context ← context.sendMessage
              (self.findNodeReq context context.rootId draws.nonce routeToClosestOn)
            let (timerId, context) ← context.registerTimer debug nextDuration
            let join := { join with
              timerId := some timerId
              lastMsgState := some (draws.nonce, contact.id) }
            return ({ self with state := .running join exploration }, context)
          else return (waiting, context)
  | _ => .panic "Called send_next_join_request in non-running state!"

def sendNextRequestToRandomId (draws : Draws) (self : OverlayNeighborhoodDiscovery)
    (context : UseCaseContext T) : Run (OverlayNeighborhoodDiscovery × UseCaseContext T) :=
  match self.state with
  | .running join exploration =>
    if context.ulnTable.isEmpty then return ({ self with state := .isolated }, context)
    else do
      match ← closest context.routingTable draws.randomId 1
          self.config.sharedPrefixBitsGrouping with
      | .error _ => .panic "grouping was checked on initialization"
      | .ok closestContacts =>
        match closestContacts.head? with
        | none => return (self, context)
        | some closestContact =>
          let closestPath ← unwrap closestContact.2.path
          if context.ulnTable.contains closestPath.first then
            let context ← context.sendMessage (self.findNodeReq context draws.randomId draws.nonce
              (.new context.rootId closestPath))
            let exploration := { exploration with
              lastMsgState := some (draws.nonce, draws.randomId) }
            return ({ self with state := .running join exploration }, context)
          else return (self, context)
  | _ => .panic "Called send_next_request_to_random_id in non-running state!"

def start (debug : Bool) (self : OverlayNeighborhoodDiscovery) (context : UseCaseContext T) :
    Run (OverlayNeighborhoodDiscovery × UseCaseContext T) := do
  let (joinTimerId, context) ← context.registerTimer debug self.config.sendTimeout
  let (randomExplorationTimerId, runtime) ← context.runtime.registerPeriodicTimer debug
    self.config.randomExplorationInterval
  let join := { TimerContext.default with timerId := some joinTimerId }
  let exploration := { TimerContext.default with timerId := some randomExplorationTimerId }
  return ({ self with state := .running join exploration }, { context with runtime := runtime })

/-- An answer to the latest request for the own id has arrived. -/
def answered (nonce : Nonce) (join : TimerContext) : TimerContext :=
  match join.lastMsgState with
  | some (latestNonce, _) =>
    if latestNonce = nonce then { join with lastMsgState := none } else join
  | none => join

def handleEvent (debug : Bool) (draws : Draws) (self : OverlayNeighborhoodDiscovery)
    (context : UseCaseContext T) (event : UseCaseEvent) :
    Run (OverlayNeighborhoodDiscovery × UseCaseContext T) :=
  match self.state, event with
  | .running join exploration, .timer receivedTimerId =>
    if some receivedTimerId = join.timerId then self.sendNextJoinRequest debug draws context
    else if some receivedTimerId = exploration.timerId then
      self.sendNextRequestToRandomId draws context
    else return (self, context)
  | .running join exploration, .message (.findNodeRsp rsp) _ =>
    return ({ self with state := .running (answered rsp.commonHeader.msgId join) exploration },
      context)
  | .running join exploration, .message (.error rsp) _ =>
    return ({ self with state := .running (answered rsp.commonHeader.msgId join) exploration },
      context)
  | .isolated, .vicinity vicinityEvent =>
    if vicinityEvent = .changed ∧ !context.ulnTable.isEmpty then self.start debug context
    else return (self, context)
  | _, _ => return (self, context)

end OverlayNeighborhoodDiscovery

end Kira
