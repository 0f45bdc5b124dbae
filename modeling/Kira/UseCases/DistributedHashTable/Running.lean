import Kira.Domain.RoutingTable.Observable
import Kira.UseCases.DistributedHashTable

/-!
# The distributed hash table at work

A node keeps the pairs of its local hash table for as long as they are accessed.  When the timer of
the garbage collection fires, it removes the keys that have expired and looks up where the others
belong.  A lookup that is answered makes it send the values of the key to the nodes that were found,
and a new contact makes it send them to the contact, if that is closer.

The model is the use case after it was started.  The nonces of its requests and the ids of its
timers come with each event.  A nonce for a lookup is drawn until it is not pending; nothing here
depends on that.

Handling an event returns what the use case asks for.  `Output.sends` is a request of its own, and
`Output.asks` what becomes of a request that it has handled.
-/

set_option autoImplicit false

namespace Kira

open Run

structure DistributedHashTableConfig where
  findNodeTimeout : Duration
  collectInterval : Duration
  keyValueTimeout : Duration
  redundancyFactor : RedundancyFactor
  republishSuppressionWindow : Duration

def DistributedHashTableConfig.default : DistributedHashTableConfig :=
  { findNodeTimeout := 5 * 1000000000
    collectInterval := 60 * 1000000000
    keyValueTimeout := 4 * 3600 * 1000000000
    redundancyFactor := .bucketSize
    republishSuppressionWindow := 5 * 60 * 1000000000 }

namespace DistributedHashTable

/-- What is to be done with a response. -/
inductive ResponseHook where
  | republishKey (key : NodeId)
  deriving DecidableEq

structure RequestState where
  responseKind : ProtocolMessageKind
  responseHook : ResponseHook
  deriving DecidableEq

/-- What is to be done when a timer fires. -/
inductive TimerHook where
  | garbageCollection
  | timeoutFindNodeReq (nonce : Nonce)
  deriving DecidableEq

/-- The use case when it is running. -/
structure Running (H : Type) extends DistributedHashTable H where
  config : DistributedHashTableConfig
  timerHooks : KeyMap TimerId TimerHook
  pendingReqs : KeyMap Nonce RequestState

inductive Output where
  | sends (message : ProtocolMessage) (effects : List Effect)
  | asks (effects : List Effect)
  | timer (id : TimerId) (timeout : Duration) (hook : TimerHook)
  | localHashTable (callback : Nat) (entries : List (NodeId × List Bytes))

def Output.lookup : Output → Option NodeId
  | .sends (.findNodeReq req) _ => some req.commonHeader.destId
  | _ => none

inductive Event where
  | message (message : ProtocolMessage)
  | timer (id : TimerId)
  | contact (event : RoutingTableEvent)
  | localHashTable (callback : Nat)

structure Occurrence (T : Type) where
  event : Event
  now : Timestamp
  routingTable : T
  ulnTable : InMemoryULNTable
  nonce : NodeId → Nonce
  /-- The nonce of a value that is sent to a contact. -/
  valueNonce : NodeId → Bytes → Nonce
  /-- The id of the timer of the lookup for a key, or of the next garbage collection. -/
  timerId : Option NodeId → TimerId

variable {H : Type} [LocalHashTable H]

def Running.start (dht : DistributedHashTable H) (config : DistributedHashTableConfig)
    (timerId : TimerId) : Running H × List Output :=
  ({ dht with
     config := config
     timerHooks := (∅ : KeyMap TimerId TimerHook).insert timerId .garbageCollection
     pendingReqs := ∅ },
   [.timer timerId config.collectInterval .garbageCollection])

/-! ## Fetch requests -/

def sendFetchRsp (rootId : NodeId) (ulnTable : InMemoryULNTable)
    (data : Except FetchErr LHTOutput) (msgid : Nonce) (sourceRoute : SourceRoute) :
    Run (List Effect) :=
  let rsp : ReqRspMessage (FetchRspData LHTOutput) :=
    { commonHeader := .new .fetchRsp rootId sourceRoute.destination msgid
        (.value ulnTable.stateSeqNr) ulnTable.size
      data := ⟨data⟩
      notVia := none
      sourceRoute := sourceRoute }
  sendMessage (.fetchRsp rsp) ulnTable rootId

section

variable {T : Type} {k : Nat} [RoutingTable T k]

/-- Passes a request on to the next overlay hop, or says that there is nothing to fetch. -/
def routeFetchReq (debug : Bool) (self : DistributedHashTable H) (t : T)
    (ulnTable : InMemoryULNTable) (message : ReqRspMessage FetchReqData) (fetchErr : FetchErr) :
    Run (List Effect) := do
  let rootId := RoutingTable.root t
  match ← RoutingTable.nextHop debug t message.commonHeader.destId
      self.sharedPrefixBitsGrouping with
  | .error _ => .panic "grouping has to be checked on initialization"
  | .ok (some nextOverlayHop) =>
    assert nextOverlayHop.isValid "invalid next overlay overlay hop"
    let path ← unwrap nextOverlayHop.path
    sendMessage (.fetchReq (message.withRoute fun route ↦ (route.extend path).advance)) ulnTable
      rootId
  | .ok none =>
    let sourceRoute ← message.sourceRoute.fromReversed
    sendFetchRsp rootId ulnTable (.error fetchErr) message.commonHeader.msgId sourceRoute

/-- Every overlay hop that has the key answers the request. -/
def handleFetchReq (debug : Bool) (self : DistributedHashTable H) (t : T)
    (ulnTable : InMemoryULNTable) (now : Timestamp) (message : ReqRspMessage FetchReqData) :
    Run (DistributedHashTable H × List Effect) := do
  let rootId := RoutingTable.root t
  let key := message.data.handle
  match LocalHashTable.fetch self.hashTable key with
  | .ok values =>
    let hashTable ← expect (LocalHashTable.access self.hashTable key now)
      "metadata present for successfully stored key-value pair"
    let sourceRoute ← message.sourceRoute.fromReversed
    let effects ← sendFetchRsp rootId ulnTable (.ok values) message.commonHeader.msgId sourceRoute
    return ({ self with hashTable }, effects)
  | .error fetchErr =>
    if message.commonHeader.destId = rootId then
      let sourceRoute ← message.sourceRoute.fromReversed
      let effects ← sendFetchRsp rootId ulnTable (.error fetchErr) message.commonHeader.msgId
        sourceRoute
      return (self, effects)
    else
      let effects ← routeFetchReq debug self t ulnTable message fetchErr
      return (self, effects)

end

namespace Running

/-! ## Republishing -/

/-- How long ago a key was accessed, in milliseconds. -/
def lastAccessedMs (now : Instant) (metadata : EntryMeta) : Option Age :=
  metadata.lastAccess.map fun lastAccess ↦
    BitVec.ofNat 64 (now.saturatingDurationSince lastAccess / 1000000)

def keyRepublishNeeded (self : Running H) (now : Instant) (key : NodeId) : Bool :=
  match LocalHashTable.metadata self.hashTable key with
  -- keys that are not stored do not need republishing
  | none => false
  | some metadata =>
    match metadata.lastRepublish with
    | some lastRepublish =>
      self.config.republishSuppressionWindow < now.saturatingDurationSince lastRepublish
    | none => true

def sendStoreReq (ulnTable : InMemoryULNTable) (rootId : NodeId) (nonce : Nonce)
    (data : StoreReqData LHTInput) (sourceRoute : SourceRoute) : Run Output := do
  let message : ReqRspMessage (StoreReqData LHTInput) :=
    { commonHeader := .new .storeReq rootId sourceRoute.destination nonce
        (.value ulnTable.stateSeqNr) ulnTable.size
      data := data
      notVia := none
      sourceRoute := sourceRoute }
  let effects ← sendReq (.storeReq message) ulnTable rootId
  return .sends (.storeReq message) effects

section

variable {T : Type} {k : Nat} [RoutingTable T k]

/-- The values of a key are sent to the contact, if that is closer. -/
def republishEntry (debug : Bool) (o : Occurrence T) (self : Running H) (contact : Contact)
    (entry : NodeId × List Bytes) : Run (List Output) := do
  let (key, values) := entry
  match contact.id.sharedPrefixLen key self.sharedPrefixBitsGrouping,
      NodeId.sharedPrefixLen (RoutingTable.root o.routingTable) key
        self.sharedPrefixBitsGrouping with
  | .ok contactPrefix, .ok rootPrefix =>
    if contactPrefix.cmp rootPrefix = .gt then return []
    else
      let metadata ← expect (LocalHashTable.metadata self.hashTable key)
        "key in LocalHashTable should have metadata attached"
      values.mapM fun value ↦ do
        let effects ← sendStoreReqKbr debug o.routingTable o.ulnTable (o.valueNonce key value)
          ⟨key, value, lastAccessedMs o.now metadata⟩ key
        return .asks effects
  | _, _ => .panic "grouping has to be checked on initialization"

def republishToContactIfCloser (debug : Bool) (o : Occurrence T) (self : Running H)
    (contact : Contact) : Run (List Output) := do
  let outputs ← (LocalHashTable.fetchAll self.hashTable).mapM (self.republishEntry debug o contact)
  return outputs.flatten

def registerPendingReq (self : Running H) (expectedNonce : Nonce)
    (expectedKind : ProtocolMessageKind) (timeout : Duration) (timerId : TimerId)
    (timeoutHook : TimerHook) (responseHook : ResponseHook) : Running H × List Output :=
  ({ self with
     pendingReqs := self.pendingReqs.insert expectedNonce ⟨expectedKind, responseHook⟩
     timerHooks := self.timerHooks.insert timerId timeoutHook },
   [.timer timerId timeout timeoutHook])

def sendFindNodeReq (debug : Bool) (o : Occurrence T) (destination : NodeId) (neighbors : Nat)
    (nonce : Nonce) : Run Output := do
  if h : 0 < neighbors then
    let req ← constructReqRspMsgKbr debug o.routingTable o.ulnTable .findNodeReq nonce destination
      (⟨neighbors, h⟩ : FindNodeReqData)
    let effects ← sendMessage (.findNodeReq req) o.ulnTable (RoutingTable.root o.routingTable)
    return .sends (.findNodeReq req) effects
  else .panic "called `Option::unwrap()` on a `None` value"

/-- The nodes that a key belongs to are looked up. -/
def initRepublishKey (debug : Bool) (o : Occurrence T) (self : Running H) (key : NodeId) :
    Run (Running H × List Output) := do
  let redundancy ← self.config.redundancyFactor.resolve k
  let sent ← sendFindNodeReq debug o key redundancy (o.nonce key)
  let (self, timers) := self.registerPendingReq (o.nonce key) .findNodeRsp
    self.config.findNodeTimeout (o.timerId (some key)) (.timeoutFindNodeReq (o.nonce key))
    (.republishKey key)
  return (self, sent :: timers)

/-- The values of a key are sent to the closest node, and by way of that to the others. -/
def republishKey (o : Occurrence T) (self : Running H) (key : NodeId)
    (sourceRouteToClosest : SourceRoute) (pathsToRedundantCopiesViaClosest : List Path) :
    Run (List Output) := do
  -- a republish may have been received in the meantime
  if self.keyRepublishNeeded o.now key then
    match LocalHashTable.fetch self.hashTable key with
    | .error _ => return []
    | .ok keyData =>
      let metadata ← expect (LocalHashTable.metadata self.hashTable key)
        "key in LocalHashTable should have metadata attached"
      let routes := sourceRouteToClosest ::
        pathsToRedundantCopiesViaClosest.map sourceRouteToClosest.extend
      (keyData.flatMap fun data ↦ routes.map fun route ↦ (data, route)).mapM fun (data, route) ↦
        sendStoreReq o.ulnTable (RoutingTable.root o.routingTable) (o.nonce key)
          ⟨key, data, lastAccessedMs o.now metadata⟩ route
  else return []

/-! ## Garbage collection -/

/-- A key that was never accessed has expired as well. -/
def expired (self : Running H) (now : Instant) (metadata : EntryMeta) : Bool :=
  match metadata.lastAccess with
  | some lastAccess => self.config.keyValueTimeout < now.saturatingDurationSince lastAccess
  | none => true

/-- Removes a key that has expired, and looks up where any other belongs. -/
def collectKey (debug : Bool) (o : Occurrence T) (self : Running H) (key : NodeId) :
    Run (Running H × List Output) := do
  let metadata ← expect (LocalHashTable.metadata self.hashTable key)
    "key in LocalHashTable should have metadata attached"
  if self.expired o.now metadata then
    assert (LocalHashTable.remove self.hashTable key).1
      "assertion failed: self.hash_table.remove(&key)"
    return ({ self with hashTable := (LocalHashTable.remove self.hashTable key).2 }, [])
  else if self.keyRepublishNeeded o.now key then self.initRepublishKey debug o key
  else return (self, [])

def collectKeys (debug : Bool) (o : Occurrence T) :
    Running H → List NodeId → Run (Running H × List Output)
  | self, [] => return (self, [])
  | self, key :: keys => do
    let (self, outputs) ← self.collectKey debug o key
    let (self, rest) ← collectKeys debug o self keys
    return (self, outputs ++ rest)

def garbageCollection (debug : Bool) (o : Occurrence T) (self : Running H) :
    Run (Running H × List Output) :=
  collectKeys debug o self ((LocalHashTable.fetchAll self.hashTable).map Prod.fst)

/-! ## Events -/

def handleTimer (debug : Bool) (o : Occurrence T) (self : Running H) (id : TimerId) :
    Run (Running H × List Output) := do
  match self.timerHooks.lookup id with
  | none => return (self, [])
  | some (.timeoutFindNodeReq nonce) =>
    return ({ self with
      timerHooks := self.timerHooks.erase id
      pendingReqs := self.pendingReqs.erase nonce }, [])
  | some .garbageCollection =>
    let timer := o.timerId none
    let hooks := (self.timerHooks.erase id).insert timer .garbageCollection
    let (self, outputs) ← { self with timerHooks := hooks }.garbageCollection debug o
    return (self, .timer timer self.config.collectInterval .garbageCollection :: outputs)

def handleFindNodeRsp (o : Occurrence T) (self : Running H) (rsp : ReqRspMessage RTableData) :
    Run (Running H × List Output) := do
  match self.pendingReqs.lookup rsp.commonHeader.msgId with
  | none => return (self, [])
  | some request =>
    if request.responseKind ≠ .findNodeRsp then return (self, [])
    else
      let self := { self with pendingReqs := self.pendingReqs.erase rsp.commonHeader.msgId }
      match request.responseHook with
      | .republishKey key =>
        let sourceRoute ← rsp.sourceRoute.fromReversed
        let outputs ← self.republishKey o key sourceRoute (rsp.data.contacts.filterMap Contact.path)
        return (self, outputs)

def handleContact (debug : Bool) (o : Occurrence T) (self : Running H) :
    RoutingTableEvent → Run (List Output)
  | .newContact contact => self.republishToContactIfCloser debug o contact
  | .updatedContact new old =>
    if (new.isValid && !old.isValid) || (new.isValid && new.id != old.id) then
      self.republishToContactIfCloser debug o new
    else return []
  | _ => return []

def handleEvent (debug : Bool) (self : Running H) (o : Occurrence T) :
    Run (Running H × List Output) := do
  match o.event with
  | .message (.storeReq req) =>
    let (dht, effects) ← self.handleStoreReq debug o.routingTable o.ulnTable o.now req
    return ({ self with toDistributedHashTable := dht }, [.asks effects])
  | .message (.fetchReq req) =>
    let (dht, effects) ← self.handleFetchReq debug o.routingTable o.ulnTable o.now req
    return ({ self with toDistributedHashTable := dht }, [.asks effects])
  | .message (.findNodeRsp rsp) => self.handleFindNodeRsp o rsp
  | .message _ => return (self, [])
  | .timer id => self.handleTimer debug o id
  | .contact event =>
    let outputs ← self.handleContact debug o event
    return (self, outputs)
  | .localHashTable callback =>
    return (self, [.localHashTable callback (LocalHashTable.fetchAll self.hashTable)])

end

end Running

end DistributedHashTable

end Kira
