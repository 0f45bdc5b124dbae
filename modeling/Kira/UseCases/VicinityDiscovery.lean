import Kira.UseCases.VicinityContext

/-!
# Discovering the vicinity

A node that hears the greeting of a neighbour may ask back: it sends its own neighbours along, and
the answer brings those of the other node.  From such reports the vicinity graph is built.  Whenever
a larger sequence number of a node in the vicinity is seen, its neighbours are out of date, and they
are asked for again, a few at a time.

A request is pending until its answer comes, and it has a timer; what a timer is for is kept in
`timerHooks`.  The greetings and what is done when a timer fires are left out.

An error does not undo what has been done before it, so each handler returns its state besides the
error.  Requests that cannot be sent are an exception, as nothing has been done for them yet.

What is random comes with the event, as `VDDraws`.
-/

set_option autoImplicit false

namespace Kira

open Run RoutingTable

structure VicinityDiscoveryConfig where
  ulnDiscoveryRspInitialMaxWaitTime : Duration
  queryRouteDiscoveryRspInitialMaxWaitTime : Duration
  /-- How many bits of the ids decide which of two nodes answers the other one. -/
  heuristicCalculationBits : NonZeroU8
  /-- A node that is not to answer does so all the same if its own greeting is further away. -/
  heuristicMaxWaitTime : Duration
  maxParallelResyncCount : Nat

def VicinityDiscoveryConfig.default : VicinityDiscoveryConfig where
  ulnDiscoveryRspInitialMaxWaitTime := .fromMillis 250
  queryRouteDiscoveryRspInitialMaxWaitTime := .fromMillis 3000
  heuristicCalculationBits := ⟨32, by decide, by decide⟩
  heuristicMaxWaitTime := .fromMillis 1000
  maxParallelResyncCount := 10

inductive VDError where
  | neighborInconsistency
  | internalError
  deriving DecidableEq

structure VicinityDiscovery.InterfaceState where
  helloInterval : Duration
  deriving DecidableEq

structure VicinityDiscovery.RequestState where
  kind : ProtocolMessageKind
  timeouts : Nat
  timeout : Duration
  expectedNonce : Nonce
  deriving DecidableEq

inductive VicinityDiscovery.TimerHook where
  | timeoutULNDiscReq (destination : NodeId)
  | timeoutQueryRouteReq (destination : NodeId)
  deriving DecidableEq

/-- Requests are told apart by the node that is asked and by the kind of the answer. -/
abbrev RequestKey := NodeId × ProtocolMessageKind

/-- What the use case keeps while it is running. -/
structure VDBooks where
  timerHooks : KeyMap TimerId VicinityDiscovery.TimerHook
  pendingReqs : KeyMap RequestKey VicinityDiscovery.RequestState
  interfaces : KeyMap Nat VicinityDiscovery.InterfaceState

inductive VDState where
  | initialized
  | running (books : VDBooks)
  | error

/-- The use case. -/
structure VicinityDiscovery where
  state : VDState
  config : VicinityDiscoveryConfig

/-- What is drawn at random. -/
structure VDDraws where
  nonce : Nat → Nonce
  /-- A waiting time, scaled by a random factor.  The number `0` is for what is done once. -/
  scale : Nat → Duration → Duration

/-- Nothing is left to chance. -/
def VicinityDiscovery.noDraws : VDDraws := ⟨fun _ ↦ 0, fun _ duration ↦ duration⟩

/-- Whether the node is the one to answer the greeting of the other node. -/
def deterministicHeuristic (selfId other : NodeId) (numBits : NonZeroU8) : Run Bool := do
  let ownBits ← unwrap (selfId.bits 0 numBits.get)
  let otherBits ← unwrap (other.bits 0 numBits.get)
  let delta := (otherBits + 2 ^ 128 - ownBits) % 2 ^ 128
  if delta < 0x80000000 ∧ delta ≠ 0 then return true
  else return (delta = 0 ∨ delta = 0x80000000) ∧ selfId < other

namespace VicinityDiscovery

def withBooks (self : VicinityDiscovery) (books : VDBooks) : VicinityDiscovery :=
  { self with state := .running books }

variable [Petgraph NodeId] {T : Type}

/-! ## Sending messages -/

section Sending

variable {k : Nat} [RoutingTable T k]

def neighborContact (context : VicinityContext T) (id : NodeId) : Except VDError Contact :=
  match contact context.routingTable id with
  | some contact => .ok contact
  | none => .error .neighborInconsistency

/-- The neighbours that are known to hear the node.  All of them have to be stored. -/
def collectUnderlayNeighbors (context : VicinityContext T) :
    Except VDError (SafeStateSeqNr × List Contact) := do
  let neighbors := context.ulnTable.map.entries.filter fun entry ↦ entry.2.2 = .bidirectional
  let contacts ← neighbors.mapM fun entry ↦ neighborContact context entry.1
  return (context.ulnTable.stateSeqNr, contacts)

def sendQueryRouteReq (context : VicinityContext T) (sourceRoute : SourceRoute) (nonce : Nonce) :
    Run (Except VDError (VicinityContext T)) := do
  let nextHop ← sourceRoute.currentHop
  let hopCount := sourceRoute.ids.length - 1
  assert (sourceRoute.source = context.rootId)
    "SourceRoute of QueryRouteReq has to start at ourselves"
  assert (hopCount < VICINITY_RADIUS) "shouldn't send QueryRouteReq outside the vicinity"
  assert (1 < hopCount) "shouldn't send QueryRouteReq to underlay neighbors"
  match context.ulnTable.map.lookup nextHop with
  | none => return .error .neighborInconsistency
  | some (underlayNeighbor, _) =>
    let request := .queryRouteReq
      { commonHeader := .new .queryRouteReq context.rootId sourceRoute.destination nonce
          (.value context.ulnTable.stateSeqNr) context.ulnTable.size
        data := ⟨.underlayNeighbors⟩
        notVia := none
        sourceRoute }
    return .ok (context.sendMessageVia request (.underlayNeighbor underlayNeighbor))

def sendQueryRouteRsp (context : VicinityContext T) (request : ReqRspMessage QueryRouteReqData)
    (underlayDestination : UnderlayNeighborId) : Run (Except VDError (VicinityContext T)) :=
  match request.data.queryType with
  | .underlayNeighbors =>
    match collectUnderlayNeighbors context with
    | .error e => return .error e
    | .ok (_, contacts) => do
      let sourceRoute ← request.sourceRoute.fromReversed
      let response := .queryRouteRsp
        { commonHeader := .new .queryRouteRsp context.rootId request.source
            request.commonHeader.msgId (.value context.ulnTable.stateSeqNr) context.ulnTable.size
          data := ⟨contacts⟩
          notVia := none
          sourceRoute }
      return .ok (context.sendMessageVia response (.underlayNeighbor underlayDestination))

/-- The content of a request or an answer between neighbours. -/
def ulnDiscMessage (context : VicinityContext T) (kind : ProtocolMessageKind)
    (destination : NodeId) (nonce : Nonce) (ssn : SafeStateSeqNr) (contacts : List Contact) :
    ULNReqRspMessage RTableData :=
  { commonHeader := .new kind context.rootId destination nonce (.value ssn) context.ulnTable.size
    data := ⟨contacts⟩ }

def sendUlnDiscReq (context : VicinityContext T) (destination : NodeId)
    (underlayDestination : UnderlayNeighborId) (nonce : Nonce) :
    Except VDError (VicinityContext T) := do
  let (ssn, contacts) ← collectUnderlayNeighbors context
  let request := .ulnDiscReq (ulnDiscMessage context .ulnDiscReq destination nonce ssn contacts)
  return context.sendMessageVia request (.underlayNeighbor underlayDestination)

def sendUlnDiscRsp (context : VicinityContext T) (request : ULNReqRspMessage RTableData)
    (underlayDestination : UnderlayNeighborId) : Except VDError (VicinityContext T) := do
  let (ssn, contacts) ← collectUnderlayNeighbors context
  let response := .ulnDiscRsp
    (ulnDiscMessage context .ulnDiscRsp request.source request.commonHeader.msgId ssn contacts)
  return context.sendMessageVia response (.underlayNeighbor underlayDestination)

end Sending

/-! ## Requests -/

/-- Remembers a request that has been sent, and sets its timer. -/
def registerPendingReq (debug : Bool) (scale : Duration → Duration) (self : VicinityDiscovery)
    (context : VicinityContext T) (destination : NodeId) (expectedNonce : Nonce)
    (expectedKind : ProtocolMessageKind) (initialTimeout : Duration) (timeoutHook : TimerHook) :
    Run (VicinityDiscovery × VicinityContext T) :=
  match self.state with
  | .running books => do
    let request : RequestState := ⟨expectedKind, 0, initialTimeout, expectedNonce⟩
    let (timeoutTimerId, context) ← context.registerTimer debug (scale initialTimeout)
    return (self.withBooks { books with
      pendingReqs := books.pendingReqs.insert (destination, expectedKind) request
      timerHooks := books.timerHooks.insert timeoutTimerId timeoutHook }, context)
  | _ => .panic "VicinityDiscovery should be running"

def isPending (self : VicinityDiscovery) (key : RequestKey) : Run Bool :=
  match self.state with
  | .running books => return (books.pendingReqs.lookup key).isSome
  | _ => .panic "VicinityDiscovery should be running"

section Requests

variable {k : Nat} [RoutingTable T k]

def initQueryRouteReq (debug : Bool) (draws : VDDraws) (i : Nat) (self : VicinityDiscovery)
    (context : VicinityContext T) (sourceRoute : SourceRoute) :
    Run (Except VDError (VicinityDiscovery × VicinityContext T)) := do
  let destination := sourceRoute.destination
  match ← sendQueryRouteReq context sourceRoute (draws.nonce i) with
  | .error e => return .error e
  | .ok context =>
    let registered ← self.registerPendingReq debug (draws.scale i) context destination
      (draws.nonce i) .queryRouteRsp self.config.queryRouteDiscoveryRspInitialMaxWaitTime
      (.timeoutQueryRouteReq destination)
    return .ok registered

def initUlnDiscReq (debug : Bool) (draws : VDDraws) (i : Nat) (self : VicinityDiscovery)
    (context : VicinityContext T) (destination : NodeId) (underlayNeighbor : UnderlayNeighborId) :
    Run (Except VDError (VicinityDiscovery × VicinityContext T)) :=
  match sendUlnDiscReq context destination underlayNeighbor (draws.nonce i) with
  | .error e => return .error e
  | .ok context => do
    let registered ← self.registerPendingReq debug (draws.scale i) context destination
      (draws.nonce i) .ulnDiscRsp self.config.ulnDiscoveryRspInitialMaxWaitTime
      (.timeoutULNDiscReq destination)
    return .ok registered

/-- Sends a request unless such a request is pending; also returns whether it was sent. -/
def initNew (self : VicinityDiscovery) (context : VicinityContext T) (key : RequestKey)
    (init : Run (Except VDError (VicinityDiscovery × VicinityContext T))) :
    Run (Except VDError (Bool × VicinityDiscovery × VicinityContext T)) := do
  if ← self.isPending key then return .ok (false, self, context)
  else
    let registered ← init
    return registered.map (true, ·)

def initNewUlnDiscReq (debug : Bool) (draws : VDDraws) (i : Nat) (self : VicinityDiscovery)
    (context : VicinityContext T) (node : NodeId) (underlayNeighbor : UnderlayNeighborId) :
    Run (Except VDError (Bool × VicinityDiscovery × VicinityContext T)) :=
  self.initNew context (node, .ulnDiscRsp)
    (self.initUlnDiscReq debug draws i context node underlayNeighbor)

def initNewQueryRouteReq (debug : Bool) (draws : VDDraws) (i : Nat) (self : VicinityDiscovery)
    (context : VicinityContext T) (sourceRoute : SourceRoute) :
    Run (Except VDError (Bool × VicinityDiscovery × VicinityContext T)) :=
  self.initNew context (sourceRoute.destination, .queryRouteRsp)
    (self.initQueryRouteReq debug draws i context sourceRoute)

end Requests

/-! ## Reports of neighbours -/

/-- Inserts the links to the nodes that are reported as neighbours of the source, and removes these
nodes from the ones that were known. -/
def insertReported (rootId source : NodeId) :
    List Contact → PetVicinityGraph → List NodeId → Run (PetVicinityGraph × List NodeId)
  | [], vg, oldSourceNeighbors => return (vg, oldSourceNeighbors)
  | contact :: contacts, vg, oldSourceNeighbors => do
    let path ← unwrap contact.path
    if path.size = 1 ∧ contact.id ≠ rootId then
      let (_, vg) ← expect (vg.insert contact.id source contact.stateSeqNr).toOption
        "insertion of edge \x7b\x7d,\x7b\x7d failed with error"
      insertReported rootId source contacts vg (oldSourceNeighbors.filter (· ≠ contact.id))
    else insertReported rootId source contacts vg oldSourceNeighbors

def removeLinks (source : NodeId) : List NodeId → PetVicinityGraph → Run PetVicinityGraph
  | [], vg => return vg
  | neighbor :: neighbors, vg => do
    let (removed, vg) := vg.removeEdge source neighbor
    assert removed "removing edge of node's vicinity should change vicinity graph"
    removeLinks source neighbors vg

section Messages

variable {k : Nat} [RoutingTable T k]

/-- Updates the graph from a report.  A link that is not reported any more is removed, and what is
outside of the vicinity because of that. -/
def processUlndiscReqrsp (context : VicinityContext T) (reqOrRsp : ULNReqRspMessage RTableData) :
    Run (VicinityContext T) :=
  match reqOrRsp.commonHeader.stateSeqNum with
  | .value syncedSsn => do
    let source := reqOrRsp.source
    let oldSourceNeighbors :=
      (context.vicinityGraph.vicinity source).filter (· ≠ context.rootId)
    let (_, vg) ← expect
      (context.vicinityGraph.insert source context.rootId syncedSsn).toOption
      "insertion of ULN into vicinity graph failed"
    let entry ← expect (vg.entry source)
      "node should be available in vicinity graph directly after insertion"
    let entry ← (entry.updateSyncedSsn syncedSsn).updateLastSeen context.runtime.currentTime
    let (vg, removedSourceNeighbors) ← insertReported context.rootId source reqOrRsp.data.contacts
      (vg.withEntry source entry) oldSourceNeighbors
    let vg ← removeLinks source removedSourceNeighbors vg
    let context := { context with vicinityGraph := vg }
    let context ← (if removedSourceNeighbors.isEmpty then pure context
      else context.retainVicinity)
    return if context.vicinityGraph.vicinityChanged then
        context.broadcastEvent (.vicinity .changed)
      else context
  | _ => return context

/-- An answer has come.  The request is not pending any more if the answer belongs to it. -/
def finalizeRequest (self : VicinityDiscovery) (response : ProtocolMessage) : VicinityDiscovery :=
  match self.state with
  | .running books =>
    let key := (response.source, response.kind)
    match books.pendingReqs.lookup key with
    | some request =>
      if response.msgId = some request.expectedNonce then
        self.withBooks { books with pendingReqs := books.pendingReqs.erase key }
      else self
    | none => self
  | _ => self

/-- Writes to the entry of a node that is two links away, if the message has a proper number. -/
def updateEntry (context : VicinityContext T) (sourceRoute : SourceRoute) (source : NodeId)
    (ssn : StateSeqNr) (update : SafeStateSeqNr → VicinityGraph.Entry → VicinityGraph.Entry) :
    VicinityContext T :=
  match ssn with
  | .value ssn =>
    if sourceRoute.ids.length = VICINITY_RADIUS then
      { context with vicinityGraph := context.vicinityGraph.entryMut source (update ssn) }
    else context
  | _ => context

/-- What a greeting says about its sender.  Also returns whether that is not known as a neighbour.
-/
def greeted (context : VicinityContext T) (source : NodeId) (observedSsn : StateSeqNr) :
    Run (Bool × VicinityContext T) :=
  match observedSsn with
  | .value seenSsn =>
    match context.vicinityGraph.entry source with
    | some entry => do
      let entry ← (entry.updateObservedSsn seenSsn).updateLastSeen context.runtime.currentTime
      let vg := context.vicinityGraph.withEntry source entry
      return (!vg.isDirectUln source, { context with vicinityGraph := vg })
    | none => return (true, context)
  | _ => return (false, context)

/-- Whether a greeting is to be answered.  Of two nodes one leaves this to the other, unless its own
greeting may be long in coming. -/
def answers (self : VicinityDiscovery) (books : VDBooks) (rootId source : NodeId)
    (interfaceId : Nat) : Run Bool := do
  if ← deterministicHeuristic rootId source self.config.heuristicCalculationBits then return true
  else
    match books.interfaces.lookup interfaceId with
    | some interface => return self.config.heuristicMaxWaitTime < interface.helloInterval
    | none => return true

/-- Whether the sender of a greeting has to be asked for its neighbours. -/
def hasNews (context : VicinityContext T) (source : NodeId) (newNeighbor : Bool) :
    StateSeqNr → Run Bool
  | .invalid => .panic
      "Received invalid StateSeqNr from underlay neighbor in VicinityDiscovery use case"
  | .reset => return true
  | .value observedSsn =>
    match context.vicinityGraph.entry source with
    | some entry =>
      return newNeighbor || entry.syncedSsn.all fun syncedSsn ↦ syncedSsn.val < observedSsn.val
    | none => return true

def handleUlnHello (debug : Bool) (draws : VDDraws) (self : VicinityDiscovery)
    (context : VicinityContext T) (commonHeader : CommonHeader)
    (underlaySource : UnderlayNeighborId) :
    Run (Except VDError Unit × VicinityDiscovery × VicinityContext T) := do
  let source := commonHeader.srcNodeId
  if source = context.rootId then return (.ok (), self, context)
  else
    let context ← (if context.ulnTable.contains source then pure context
      else context.ulnOp (.insert source underlaySource))
    let (newNeighbor, context) ← greeted context source commonHeader.stateSeqNum
    match self.state with
    | .running books =>
      if !newNeighbor && (books.pendingReqs.lookup (source, .ulnDiscRsp)).isSome then
        return (.ok (), self, context)
      else if ← self.answers books context.rootId source underlaySource.interfaceId then
        if ← hasNews context source newNeighbor commonHeader.stateSeqNum then
          match ← self.initUlnDiscReq debug draws 0 context source underlaySource with
          | .error e => return (.error e, self, context)
          | .ok (self, context) => return (.ok (), self, context)
        else return (.ok (), self, context)
      else return (.ok (), self, context)
    | _ => return (.error .internalError, self, context)

def handleProtocolMessage (debug : Bool) (draws : VDDraws) (self : VicinityDiscovery)
    (context : VicinityContext T) (protocolMessage : ProtocolMessage)
    (underlaySource : UnderlayNeighborId) :
    Run (Except VDError Unit × VicinityDiscovery × VicinityContext T) :=
  match protocolMessage with
  | .queryRouteReq request => do
    let context := updateEntry context request.sourceRoute request.source
      request.commonHeader.stateSeqNum .updateObservedSsn
    match ← sendQueryRouteRsp context request underlaySource with
    | .error e => return (.error e, self, context)
    | .ok context => return (.ok (), self, context)
  | .queryRouteRsp response =>
    let context := updateEntry context response.sourceRoute response.source
      response.commonHeader.stateSeqNum .updateSyncedSsn
    return (.ok (), self.finalizeRequest protocolMessage, context)
  | .ulnHello commonHeader =>
    self.handleUlnHello debug draws context commonHeader underlaySource
  | .ulnDiscReq req => do
    let context ← context.ulnOp (.insert req.source underlaySource)
    let context ← context.ulnOp (.confirm req.source underlaySource)
    let context ← processUlndiscReqrsp context req
    match sendUlnDiscRsp context req underlaySource with
    | .error e => return (.error e, self, context)
    | .ok context => return (.ok (), self, context)
  | .ulnDiscRsp ulndiscrsp => do
    let context ← context.ulnOp (.confirm ulndiscrsp.source underlaySource)
    let context ← processUlndiscReqrsp context ulndiscrsp
    return (.ok (), self.finalizeRequest protocolMessage, context)
  | _ => return (.ok (), self, context)

end Messages

/-! ## Bringing the vicinity up to date -/

section Sync

variable {k : Nat} [RoutingTable T k]

/-- What becomes of a node that may have to be asked for its neighbours. -/
inductive Sync where
  | passed
  /-- There is no path to the node in the vicinity. -/
  | isolated
  | started
  deriving DecidableEq

/-- What it means that a request was sent, or that there was one already. -/
def Sync.ofNew (newSync : Bool × VicinityDiscovery × VicinityContext T) :
    Sync × VicinityDiscovery × VicinityContext T :=
  (if newSync.1 then .started else .passed, newSync.2)

/-- Asks a node for its neighbours if these are out of date. -/
def syncCandidate (debug : Bool) (draws : VDDraws) (i : Nat) (self : VicinityDiscovery)
    (context : VicinityContext T) (syncCandidate : NodeId) :
    Run (Except VDError (Sync × VicinityDiscovery × VicinityContext T)) :=
  match context.ulnTable.map.lookup syncCandidate with
  | some (underlayNeighbor, _) =>
    match context.vicinityGraph.entry syncCandidate with
    | none => return .ok (.passed, self, context)
    | some entry =>
      if entry.syncedSsn = some entry.observedSsn then return .ok (.passed, self, context)
      else do
        assert (entry.syncedSsn.all fun syncedSsn ↦ syncedSsn.val ≤ entry.observedSsn.val)
          "for node \x7b:?\x7d synced_ssn newer \x7b:?\x7d than observed_ssn \x7b:?\x7d"
        let newSync ← self.initNewUlnDiscReq debug draws i context syncCandidate underlayNeighbor
        return newSync.map Sync.ofNew
  | none => do
    let entry ← expect (context.vicinityGraph.entry syncCandidate) "vicinity node without entry"
    if entry.syncedSsn = some entry.observedSsn then return .ok (.passed, self, context)
    else
      assert (entry.syncedSsn.all fun syncedSsn ↦ syncedSsn.val < entry.observedSsn.val)
        "synced_ssn newer than observed_ssn"
      match context.vicinityGraph.vicinityPathTo syncCandidate with
      | none => return .ok (.isolated, self, context)
      | some path =>
        if path.size = 2 then return .ok (.passed, self, context)
        else
          let sourceRoute ← expect (SourceRoute.ofPath path)
            "Paths of vicinity graph include start of path"
          let newSync ← self.initNewQueryRouteReq debug draws i context sourceRoute
          return newSync.map Sync.ofNew

/-- Goes through the candidates as long as there is capacity for another request.  Returns whether
there are isolated nodes among them. -/
def syncAll (debug : Bool) (draws : VDDraws) : Nat → List NodeId → Nat → Bool →
    VicinityDiscovery → VicinityContext T →
      Run (Except VDError Bool × VicinityDiscovery × VicinityContext T)
  | _, [], _, isolated, self, context => return (.ok isolated, self, context)
  | i, candidate :: candidates, capacity, isolated, self, context => do
    match ← self.syncCandidate debug draws i context candidate with
    | .error e => return (.error e, self, context)
    | .ok (.passed, self, context) =>
      syncAll debug draws (i + 1) candidates capacity isolated self context
    | .ok (.isolated, self, context) =>
      syncAll debug draws (i + 1) candidates capacity true self context
    | .ok (.started, self, context) =>
      if capacity - 1 = 0 then return (.ok isolated, self, context)
      else syncAll debug draws (i + 1) candidates (capacity - 1) isolated self context

/-- The nodes that may have to be asked, neighbours first. -/
def syncCandidates (context : VicinityContext T) : List NodeId :=
  context.ulnTable.map.keys ++ context.vicinityGraph.nodes

def scheduleSyncs (debug : Bool) (draws : VDDraws) (self : VicinityDiscovery)
    (context : VicinityContext T) :
    Run (Except VDError Unit × VicinityDiscovery × VicinityContext T) :=
  match self.state with
  | .running books => do
    let remainingSyncCapacity :=
      self.config.maxParallelResyncCount - books.pendingReqs.entries.length
    if remainingSyncCapacity = 0 then return (.ok (), self, context)
    else
      match ← syncAll debug draws 1 (syncCandidates context) remainingSyncCapacity false self
          context with
      | (.error e, self, context) => return (.error e, self, context)
      | (.ok isolated, self, context) =>
        let context ← (if isolated then context.retainVicinity else pure context)
        return (.ok (), self, context)
  | _ => .panic "VicinityDiscovery should be running"

end Sync

end VicinityDiscovery

end Kira
