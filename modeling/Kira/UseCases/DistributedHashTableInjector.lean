import Kira.UseCases.DistributedHashTable

/-!
# Injecting requests into the distributed hash table

Users of a node hand it values to store and keys to fetch, each with a callback that is to receive
the result.  A fetch is one request.  A store has two phases: first the nodes close to the key are
looked up, then the value is sent to them, and both phases use the nonce of the injection.  For each
phase the request is registered as pending together with a timer, which is never cancelled.

The model is the use case after it was started, together with what it knows of its runtime: the next
timer id, as timers are numbered in the order in which they are registered, and all that it has
asked for so far.  A nonce that is drawn comes with each event, and so does who still listens to a
callback.
-/

set_option autoImplicit false

namespace Kira

open Run

/-- The channel that an injection is answered through. -/
abbrev Callback := Nat

structure StoreInjectData where
  handle : NodeId
  data : LHTInput
  restore : Bool

inductive InjectionResult where
  | answered (message : ProtocolMessage)
  | isolated
  | timeout

inductive InjectMessageError where
  | sendResultFailed
  | isolated
  deriving DecidableEq

/-- What is to be done with a response. -/
inductive ResponseHook where
  | sendRedundantStoreReqs (payload : StoreReqData LHTInput) (restore : Bool)
  | registerStoreRsp (payload : StoreReqData LHTInput) (closest : NodeId) (restore : Bool)
  | registerFetchRsp
  deriving DecidableEq

/-- Only the closest node completes a store request. -/
def ResponseHook.completedBy (self : ResponseHook) (message : ProtocolMessage) : Bool :=
  match self with
  | sendRedundantStoreReqs _ _ => true
  | registerStoreRsp _ closest _ => closest == message.source
  | registerFetchRsp => true

structure RequestState where
  responseKind : ProtocolMessageKind
  responseHook : ResponseHook
  deriving DecidableEq

/-- What is to be done when a timer fires. -/
inductive TimerHook where
  | timeoutFindNodeReq (nonce : Nonce)
  | timeoutRedundantStoreReq (nonce : Nonce)
  | timeoutFetchReq (nonce : Nonce)
  | periodicRestore (payload : StoreReqData LHTInput)
  deriving DecidableEq

/-- The request that a timer limits. -/
def TimerHook.nonce : TimerHook → Option Nonce
  | timeoutFindNodeReq nonce => some nonce
  | timeoutRedundantStoreReq nonce => some nonce
  | timeoutFetchReq nonce => some nonce
  | periodicRestore _ => none

/-- What the injector does, in order. -/
inductive InjectorOutput where
  | sends (message : ProtocolMessage) (effects : List Effect)
  | timer (id : TimerId) (hook : TimerHook)
  | injected (nonce : Nonce) (callback : Callback)
  | result (nonce : Nonce) (callback : Callback) (result : InjectionResult)

structure DistributedHashTableInjector where
  redundancyFactor : RedundancyFactor
  timerHooks : KeyMap TimerId TimerHook
  pendingReqs : KeyMap Nonce RequestState
  callbacks : KeyMap Nonce Callback
  nextTimer : TimerId
  outputs : List InjectorOutput

namespace DistributedHashTableInjector

def start (redundancyFactor : RedundancyFactor) : DistributedHashTableInjector :=
  { redundancyFactor := redundancyFactor
    timerHooks := ∅
    pendingReqs := ∅
    callbacks := ∅
    nextTimer := 0
    outputs := [] }

def emit (self : DistributedHashTableInjector) (output : InjectorOutput) :
    DistributedHashTableInjector :=
  { self with outputs := self.outputs ++ [output] }

def registerTimer (self : DistributedHashTableInjector) (hook : TimerHook) :
    DistributedHashTableInjector :=
  { self with
    timerHooks := self.timerHooks.insert self.nextTimer hook
    nextTimer := self.nextTimer + 1
    outputs := self.outputs ++ [.timer self.nextTimer hook] }

def registerPendingReq (self : DistributedHashTableInjector) (expectedNonce : Nonce)
    (expectedKind : ProtocolMessageKind) (timeoutHook : TimerHook) (responseHook : ResponseHook) :
    DistributedHashTableInjector :=
  { self with pendingReqs := self.pendingReqs.insert expectedNonce ⟨expectedKind, responseHook⟩
    }.registerTimer timeoutHook

def registerPeriodicRestore (self : DistributedHashTableInjector)
    (payload : StoreReqData LHTInput) : DistributedHashTableInjector :=
  self.registerTimer (.periodicRestore payload)

/-- The callback receives the result, if someone listens. -/
def sendInjectResult (listening : Callback → Bool) (self : DistributedHashTableInjector)
    (nonce : Nonce) (result : InjectionResult) (callback : Callback) :
    Except InjectMessageError Unit × DistributedHashTableInjector :=
  if listening callback then (.ok (), self.emit (.result nonce callback result))
  else (.error .sendResultFailed, self)

def removeCallback (self : DistributedHashTableInjector) (nonce : Nonce) :
    DistributedHashTableInjector :=
  { self with callbacks := self.callbacks.erase nonce }

def removePendingReq (self : DistributedHashTableInjector) (nonce : Nonce) :
    DistributedHashTableInjector :=
  { self with pendingReqs := self.pendingReqs.erase nonce }

def removeTimerHook (self : DistributedHashTableInjector) (id : TimerId) :
    DistributedHashTableInjector :=
  { self with timerHooks := self.timerHooks.erase id }

def insertCallback (self : DistributedHashTableInjector) (nonce : Nonce) (callback : Callback) :
    DistributedHashTableInjector :=
  { self with
    callbacks := self.callbacks.insert nonce callback
    outputs := self.outputs ++ [.injected nonce callback] }

/-! ## Sending requests -/

def send (self : DistributedHashTableInjector) (message : ProtocolMessage)
    (ulnTable : InMemoryULNTable) (rootId : NodeId) : Run DistributedHashTableInjector := do
  let effects ← sendReq message ulnTable rootId
  return self.emit (.sends message effects)

def sendStoreReq (self : DistributedHashTableInjector) (ulnTable : InMemoryULNTable)
    (rootId : NodeId) (nonce : Nonce) (data : StoreReqData LHTInput) (sourceRoute : SourceRoute) :
    Run DistributedHashTableInjector :=
  let message : ReqRspMessage (StoreReqData LHTInput) :=
    { commonHeader := .new .storeReq rootId sourceRoute.destination nonce
        (.value ulnTable.stateSeqNr) ulnTable.size
      data := data
      notVia := none
      sourceRoute := sourceRoute }
  self.send (.storeReq message) ulnTable rootId

def initRedundantStore (self : DistributedHashTableInjector) (ulnTable : InMemoryULNTable)
    (rootId : NodeId) (payload : StoreReqData LHTInput) (sourceRouteToClosest : SourceRoute)
    (pathsToRedundantCopiesViaClosest : List Path) (nonce : Nonce) (restore : Bool) :
    Run DistributedHashTableInjector := do
  let closest := sourceRouteToClosest.destination
  let self ← self.sendStoreReq ulnTable rootId nonce payload sourceRouteToClosest
  let self ← pathsToRedundantCopiesViaClosest.foldlM
    (fun self path ↦
      self.sendStoreReq ulnTable rootId nonce payload (sourceRouteToClosest.extend path)) self
  return self.registerPendingReq nonce .storeRsp (.timeoutRedundantStoreReq nonce)
    (.registerStoreRsp payload closest restore)

/-- What a use case sees of its node. -/
structure Context (T : Type) where
  routingTable : T
  ulnTable : InMemoryULNTable

variable {T : Type} {k : Nat} [RoutingTable T k]

def sendFindNodeReq (debug : Bool) (context : Context T) (self : DistributedHashTableInjector)
    (destination : NodeId) (k : Nat) (nonce : Nonce) : Run DistributedHashTableInjector := do
  if h : 0 < k then
    let message ← constructReqRspMsgKbr debug context.routingTable context.ulnTable .findNodeReq
      nonce destination (⟨k, h⟩ : FindNodeReqData)
    self.send (.findNodeReq message) context.ulnTable (RoutingTable.root context.routingTable)
  else .panic "called `Option::unwrap()` on a `None` value"

/-- The nodes close to the key are looked up. -/
def initRedundancyLookup (debug : Bool) (context : Context T) (self : DistributedHashTableInjector)
    (handle : NodeId) (data : LHTInput) (restore : Bool) (nonce : Nonce) :
    Run DistributedHashTableInjector := do
  let redundancy ← self.redundancyFactor.resolve k
  let self ← self.sendFindNodeReq debug context handle redundancy nonce
  return self.registerPendingReq nonce .findNodeRsp (.timeoutFindNodeReq nonce)
    (.sendRedundantStoreReqs ⟨handle, data, none⟩ restore)

def initFetchReq (debug : Bool) (context : Context T) (self : DistributedHashTableInjector)
    (handle : NodeId) (nonce : Nonce) : Run DistributedHashTableInjector := do
  let message ← constructReqRspMsgKbr debug context.routingTable context.ulnTable .fetchReq nonce
    handle (⟨handle⟩ : FetchReqData)
  let self ← self.send (.fetchReq message) context.ulnTable
    (RoutingTable.root context.routingTable)
  return self.registerPendingReq nonce .fetchRsp (.timeoutFetchReq nonce) .registerFetchRsp

/-! ## Events -/

inductive Event where
  | injectStore (nonce : Option Nonce) (data : StoreInjectData) (callback : Callback)
  | injectFetch (nonce : Option Nonce) (handle : NodeId) (callback : Callback)
  | message (message : ProtocolMessage)
  | timer (id : TimerId)

structure Occurrence (T : Type) where
  event : Event
  context : Context T
  drawn : Nonce
  /-- The callbacks whose receivers still exist. -/
  listening : Callback → Bool

def handleResponse (o : Occurrence T) (self : DistributedHashTableInjector) (nonce : Nonce)
    (responseHook : ResponseHook) (answeredMessage : ProtocolMessage) :
    Run (Except InjectMessageError Unit × DistributedHashTableInjector) := do
  match responseHook, answeredMessage with
  | .sendRedundantStoreReqs payload restore, .findNodeRsp rsp =>
    let _ ← self.redundancyFactor.resolve k
    let sourceRoute ← rsp.sourceRoute.fromReversed
    let self ← self.initRedundantStore o.context.ulnTable
      (RoutingTable.root o.context.routingTable) payload sourceRoute
      (rsp.data.contacts.filterMap Contact.path) nonce restore
    return (.ok (), self)
  | .registerStoreRsp payload _ restore, .storeRsp _ =>
    match self.callbacks.lookup nonce with
    -- a periodic restore has no callback
    | none => return (.ok (), self)
    | some callback =>
      match (self.removeCallback nonce).sendInjectResult o.listening nonce
          (.answered answeredMessage) callback with
      | (.error err, self) => return (.error err, self)
      | (.ok (), self) =>
        return (.ok (), if restore then self.registerPeriodicRestore payload else self)
  | .registerFetchRsp, .fetchRsp _ =>
    match self.callbacks.lookup nonce with
    | none => return (.ok (), self)
    | some callback =>
      return (self.removeCallback nonce).sendInjectResult o.listening nonce
        (.answered answeredMessage) callback
  | _, _ => .panic "Response Hook and Message Kind were previously validated"

/-- A response is handled if it is of the kind expected, and comes from the closest node if it is to
a store request. -/
def handleMessage (o : Occurrence T) (self : DistributedHashTableInjector)
    (message : ProtocolMessage) :
    Run (Except InjectMessageError Unit × DistributedHashTableInjector) := do
  let nonce ← expect message.msgId "RPC response message have a message-id"
  match self.pendingReqs.lookup nonce with
  | none => return (.ok (), self)
  | some request =>
    if message.kind ≠ request.responseKind then return (.ok (), self)
    else if request.responseHook.completedBy message then
      (self.removePendingReq nonce).handleResponse o nonce request.responseHook message
    else return (.ok (), self)

/-- The timer of a request fires also if that has been answered. -/
def handleTimeout (debug : Bool) (o : Occurrence T) (self : DistributedHashTableInjector)
    (nonce : Nonce) : Run (Except InjectMessageError Unit × DistributedHashTableInjector) := do
  match self.pendingReqs.lookup nonce with
  | some _ =>
    let self := self.removePendingReq nonce
    match self.callbacks.lookup nonce with
    | none => return (.ok (), self)
    | some callback =>
      return (self.removeCallback nonce).sendInjectResult o.listening nonce .timeout callback
  | none =>
    -- an assertion of debug builds
    assert (!debug || (self.callbacks.lookup nonce).isNone) "orphan callback left over"
    return (.ok (), self)

def handleTimer (debug : Bool) (o : Occurrence T) (self : DistributedHashTableInjector)
    (id : TimerId) : Run (Except InjectMessageError Unit × DistributedHashTableInjector) := do
  match self.timerHooks.lookup id with
  | none => return (.ok (), self)
  | some hook =>
    let self := self.removeTimerHook id
    match hook with
    | .timeoutFindNodeReq nonce | .timeoutRedundantStoreReq nonce | .timeoutFetchReq nonce =>
      self.handleTimeout debug o nonce
    | .periodicRestore payload =>
      let self ← self.initRedundancyLookup debug o.context payload.handle payload.data false
        o.drawn
      return (.ok (), self.registerPeriodicRestore payload)

def handleEvent (debug : Bool) (self : DistributedHashTableInjector) (o : Occurrence T) :
    Run (Except InjectMessageError Unit × DistributedHashTableInjector) := do
  match o.event with
  | .injectStore nonce data callback =>
    let nonce := nonce.getD o.drawn
    let self ← (self.insertCallback nonce callback).initRedundancyLookup debug o.context data.handle
      data.data data.restore nonce
    return (.ok (), self)
  | .injectFetch nonce handle callback =>
    let nonce := nonce.getD o.drawn
    let self ← (self.insertCallback nonce callback).initFetchReq debug o.context handle nonce
    return (.ok (), self)
  | .message message =>
    match message with
    | .findNodeRsp _ | .storeRsp _ | .fetchRsp _ => self.handleMessage o message
    | _ => return (.ok (), self)
  | .timer id => self.handleTimer debug o id

def step (debug : Bool) (self : DistributedHashTableInjector) (o : Occurrence T) :
    Run DistributedHashTableInjector := do
  let (_, self) ← self.handleEvent debug o
  return self

/-! ## What an event can do -/

/-- Messages have been handed over, and nothing else has changed. -/
def Sent (self self' : DistributedHashTableInjector) : Prop :=
  ∃ sent : List InjectorOutput, self' = { self with outputs := self.outputs ++ sent } ∧
    ∀ output ∈ sent, ∃ message effects, output = .sends message effects

/-- The callback for a nonce is taken, and receives the result if someone listens. -/
inductive Notified (self : DistributedHashTableInjector) (nonce : Nonce)
    (result : InjectionResult) : DistributedHashTableInjector → Prop
  | none (h : self.callbacks.lookup nonce = .none) : Notified self nonce result self
  | told {callback : Callback} (h : self.callbacks.lookup nonce = some callback) :
      Notified self nonce result
        ((self.removeCallback nonce).emit (.result nonce callback result))
  | deaf {callback : Callback} (h : self.callbacks.lookup nonce = some callback) :
      Notified self nonce result (self.removeCallback nonce)

/-- The message answers the pending request. -/
inductive Answers (message : ProtocolMessage) : RequestState → Prop
  | fetch {rsp : ReqRspMessage (FetchRspData LHTOutput)} {request : RequestState}
      (hmessage : message = .fetchRsp rsp) : Answers message request
  | store {rsp : ReqRspMessage StoreRspData} {kind : ProtocolMessageKind}
      {payload : StoreReqData LHTInput} {restore : Bool} (hmessage : message = .storeRsp rsp) :
      Answers message ⟨kind, .registerStoreRsp payload message.source restore⟩

/-- **Everything an event can do.** -/
inductive Moved (self : DistributedHashTableInjector) (o : Occurrence T) :
    DistributedHashTableInjector → Prop
  | ignored : Moved self o self
  /-- The lookup for an injected value begins. -/
  | lookup {nonce : Option Nonce} {data : StoreInjectData} {callback : Callback}
      {mid : DistributedHashTableInjector} {payload : StoreReqData LHTInput} {restore : Bool}
      (hevent : o.event = .injectStore nonce data callback)
      (hmid : (self.insertCallback (nonce.getD o.drawn) callback).Sent mid) :
      Moved self o (mid.registerPendingReq (nonce.getD o.drawn) .findNodeRsp
        (.timeoutFindNodeReq (nonce.getD o.drawn)) (.sendRedundantStoreReqs payload restore))
  | fetch {nonce : Option Nonce} {handle : NodeId} {callback : Callback}
      {mid : DistributedHashTableInjector} (hevent : o.event = .injectFetch nonce handle callback)
      (hmid : (self.insertCallback (nonce.getD o.drawn) callback).Sent mid) :
      Moved self o (mid.registerPendingReq (nonce.getD o.drawn) .fetchRsp
        (.timeoutFetchReq (nonce.getD o.drawn)) .registerFetchRsp)
  /-- The lookup is answered, and the value is sent to the closest node and others. -/
  | store {message : ProtocolMessage} {nonce : Nonce} {hook : ResponseHook}
      {mid : DistributedHashTableInjector} {payload : StoreReqData LHTInput} {restore : Bool}
      {req : ReqRspMessage (StoreReqData LHTInput)} {effects : List Effect}
      (hevent : o.event = .message message) (hnonce : message.msgId = some nonce)
      (hpending : self.pendingReqs.lookup nonce = some ⟨.findNodeRsp, hook⟩)
      (hmid : (self.removePendingReq nonce).Sent mid)
      (hsends : .sends (.storeReq req) effects ∈ mid.outputs)
      (hreq : req.commonHeader.msgId = nonce) :
      Moved self o (mid.registerPendingReq nonce .storeRsp (.timeoutRedundantStoreReq nonce)
        (.registerStoreRsp payload req.destination restore))
  | answered {message : ProtocolMessage} {nonce : Nonce} {request : RequestState}
      {self' : DistributedHashTableInjector} (hevent : o.event = .message message)
      (hnonce : message.msgId = some nonce)
      (hpending : self.pendingReqs.lookup nonce = some request) (hanswers : Answers message request)
      (hnotified : (self.removePendingReq nonce).Notified nonce (.answered message) self') :
      Moved self o self'
  /-- The value is going to be stored again. -/
  | answeredAndKept {message : ProtocolMessage} {nonce : Nonce} {request : RequestState}
      {self' : DistributedHashTableInjector} {payload : StoreReqData LHTInput}
      (hevent : o.event = .message message) (hnonce : message.msgId = some nonce)
      (hpending : self.pendingReqs.lookup nonce = some request) (hanswers : Answers message request)
      (hnotified : (self.removePendingReq nonce).Notified nonce (.answered message) self') :
      Moved self o (self'.registerPeriodicRestore payload)
  | timedOut {id : TimerId} {hook : TimerHook} {nonce : Nonce} {request : RequestState}
      {self' : DistributedHashTableInjector} (hevent : o.event = .timer id)
      (hhook : self.timerHooks.lookup id = some hook) (hnonce : hook.nonce = some nonce)
      (hpending : self.pendingReqs.lookup nonce = some request)
      (hnotified :
        ((self.removeTimerHook id).removePendingReq nonce).Notified nonce .timeout self') :
      Moved self o self'
  | late {id : TimerId} : Moved self o (self.removeTimerHook id)
  | restored {id : TimerId} {mid : DistributedHashTableInjector} {payload : StoreReqData LHTInput}
      {hook : ResponseHook} (hmid : (self.removeTimerHook id).Sent mid)
      (hhook : ∀ payload closest restore, hook ≠ .registerStoreRsp payload closest restore) :
      Moved self o ((mid.registerPendingReq o.drawn .findNodeRsp (.timeoutFindNodeReq o.drawn)
        hook).registerPeriodicRestore payload)

section

variable {debug : Bool} {o : Occurrence T} {self self' : DistributedHashTableInjector}
  {nonce : Nonce}

theorem Sent.refl (self : DistributedHashTableInjector) : self.Sent self :=
  ⟨[], by simp, by simp⟩

theorem Sent.trans {self'' : DistributedHashTableInjector} (h : self.Sent self')
    (h' : self'.Sent self'') : self.Sent self'' := by
  obtain ⟨sent, rfl, hsent⟩ := h
  obtain ⟨sent', rfl, hsent'⟩ := h'
  refine ⟨sent ++ sent', by simp, fun output houtput ↦ ?_⟩
  rcases List.mem_append.1 houtput with h | h
  · exact hsent output h
  · exact hsent' output h

variable {message : ProtocolMessage}

theorem send_sent {ulnTable : InMemoryULNTable} {rootId : NodeId}
    (h : self.send message ulnTable rootId = .ok self') :
    self.Sent self' ∧ ∃ effects, .sends message effects ∈ self'.outputs := by
  obtain ⟨effects, -, h⟩ := of_bind h
  cases h
  exact ⟨⟨[.sends message effects], rfl, by simp⟩, effects, by simp [emit]⟩

theorem Sent.mem {output : InjectorOutput} (h : self.Sent self') (hmem : output ∈ self.outputs) :
    output ∈ self'.outputs := by
  obtain ⟨sent, rfl, -⟩ := h
  exact List.mem_append_left _ hmem

theorem foldlM_sent {paths : List Path} {f : DistributedHashTableInjector → Path →
    Run DistributedHashTableInjector} (hf : ∀ self path self', f self path = .ok self' →
      self.Sent self') (h : paths.foldlM f self = .ok self') : self.Sent self' := by
  induction paths generalizing self with
  | nil =>
    obtain rfl := ok.inj h
    exact .refl self
  | cons path paths ih =>
    obtain ⟨mid, hmid, h⟩ := of_bind h
    exact (hf _ _ _ hmid).trans (ih h)

theorem initRedundantStore_eq {ulnTable : InMemoryULNTable} {rootId : NodeId}
    {payload : StoreReqData LHTInput} {route : SourceRoute} {paths : List Path} {restore : Bool}
    (h : self.initRedundantStore ulnTable rootId payload route paths nonce restore = .ok self') :
    ∃ (mid : DistributedHashTableInjector) (req : ReqRspMessage (StoreReqData LHTInput))
      (effects : List Effect), self.Sent mid ∧ .sends (.storeReq req) effects ∈ mid.outputs ∧
      req.commonHeader.msgId = nonce ∧
      self' = mid.registerPendingReq nonce .storeRsp (.timeoutRedundantStoreReq nonce)
        (.registerStoreRsp payload req.destination restore) := by
  obtain ⟨first, hfirst, h⟩ := of_bind h
  obtain ⟨mid, hmid, h⟩ := of_bind h
  obtain ⟨hsent, effects, hmem⟩ := send_sent hfirst
  have hrest : first.Sent mid := foldlM_sent (fun _ _ _ hsend ↦ (send_sent hsend).1) hmid
  exact ⟨mid, _, effects, hsent.trans hrest, hrest.mem hmem, rfl, (ok.inj h).symm⟩

theorem initRedundancyLookup_eq {handle : NodeId} {data : LHTInput} {restore : Bool}
    (h : self.initRedundancyLookup debug o.context handle data restore nonce = .ok self') :
    ∃ mid payload, self.Sent mid ∧ self' = mid.registerPendingReq nonce .findNodeRsp
      (.timeoutFindNodeReq nonce) (.sendRedundantStoreReqs payload restore) := by
  obtain ⟨redundancy, -, h⟩ := of_bind h
  obtain ⟨mid, hmid, h⟩ := of_bind h
  rw [sendFindNodeReq] at hmid
  split at hmid
  · obtain ⟨message, -, hmid⟩ := of_bind hmid
    exact ⟨mid, _, (send_sent hmid).1, (ok.inj h).symm⟩
  · simp at hmid

theorem initFetchReq_eq {handle : NodeId}
    (h : self.initFetchReq debug o.context handle nonce = .ok self') :
    ∃ mid, self.Sent mid ∧ self' = mid.registerPendingReq nonce .fetchRsp (.timeoutFetchReq nonce)
      .registerFetchRsp := by
  obtain ⟨message, -, h⟩ := of_bind h
  obtain ⟨mid, hmid, h⟩ := of_bind h
  exact ⟨mid, (send_sent hmid).1, (ok.inj h).symm⟩

theorem sendInjectResult_notified (listening : Callback → Bool) {callback : Callback}
    (h : self.callbacks.lookup nonce = some callback) (result : InjectionResult) :
    self.Notified nonce result
      ((self.removeCallback nonce).sendInjectResult listening nonce result callback).2 := by
  unfold sendInjectResult
  split
  · exact .told h
  · exact .deaf h

variable {result : Except InjectMessageError Unit × DistributedHashTableInjector}

theorem handleResponse_moved {hook : ResponseHook}
    (hevent : o.event = .message message) (hnonce : message.msgId = some nonce)
    (hpending : self.pendingReqs.lookup nonce = some ⟨message.kind, hook⟩)
    (hcompletes : hook.completedBy message = true)
    (h : (self.removePendingReq nonce).handleResponse o nonce hook message = .ok result) :
    self.Moved o result.2 := by
  rw [handleResponse.eq_def] at h
  split at h
  · -- the lookup is answered
    obtain ⟨-, -, h⟩ := of_bind h
    obtain ⟨route, -, h⟩ := of_bind h
    obtain ⟨self', hself', h⟩ := of_bind h
    cases h
    obtain ⟨mid, req, effects, hmid, hsends, hreq, rfl⟩ := initRedundantStore_eq hself'
    exact .store hevent hnonce hpending hmid hsends hreq
  · -- the closest node has responded
    rename_i payload closest restore rsp
    obtain rfl : closest = (ProtocolMessage.storeRsp rsp).source := by
      simpa [ResponseHook.completedBy] using hcompletes
    split at h
    · rename_i hnone
      cases h
      exact .answered hevent hnonce hpending (.store rfl) (.none hnone)
    · rename_i callback hsome
      have hnotified := sendInjectResult_notified o.listening hsome (.answered (.storeRsp rsp))
      split at h
      · rename_i err self'' hsend
        cases h
        rw [hsend] at hnotified
        exact .answered hevent hnonce hpending (.store rfl) hnotified
      · rename_i self'' hsend
        cases h
        rw [hsend] at hnotified
        dsimp only
        split
        · exact .answeredAndKept hevent hnonce hpending (.store rfl) hnotified
        · exact .answered hevent hnonce hpending (.store rfl) hnotified
  · split at h
    · rename_i hnone
      cases h
      exact .answered hevent hnonce hpending (.fetch rfl) (.none hnone)
    · rename_i callback hsome
      cases h
      exact .answered hevent hnonce hpending (.fetch rfl)
        (sendInjectResult_notified o.listening hsome _)
  · simp at h

theorem handleMessage_moved (hevent : o.event = .message message)
    (h : self.handleMessage o message = .ok result) :
    self.Moved o result.2 := by
  obtain ⟨nonce, hnonce, h⟩ := of_bind h
  rw [expect_eq_ok] at hnonce
  cases hpending : self.pendingReqs.lookup nonce with
  | none =>
    rw [hpending] at h
    cases h
    exact .ignored
  | some request =>
    simp only [hpending] at h
    split at h
    · cases h
      exact .ignored
    · rename_i hkind
      split at h
      · rename_i hcompletes
        refine handleResponse_moved hevent hnonce ?_ hcompletes h
        rw [hpending, not_not.1 hkind]
      · cases h
        exact .ignored

theorem handleTimeout_moved {id : TimerId} {hook : TimerHook} (hevent : o.event = .timer id)
    (hhook : self.timerHooks.lookup id = some hook) (hnonce : hook.nonce = some nonce)
    (h : (self.removeTimerHook id).handleTimeout debug o nonce = .ok result) :
    self.Moved o result.2 := by
  rw [handleTimeout.eq_def] at h
  split at h
  · rename_i request hpending
    dsimp only at h
    split at h
    · rename_i hnone
      cases h
      exact .timedOut hevent hhook hnonce hpending (.none hnone)
    · rename_i callback hsome
      cases h
      exact .timedOut hevent hhook hnonce hpending
        (sendInjectResult_notified o.listening hsome _)
  · obtain ⟨-, -, h⟩ := of_bind h
    cases h
    exact .late

theorem handleTimer_moved {id : TimerId} (hevent : o.event = .timer id)
    (h : self.handleTimer debug o id = .ok result) :
    self.Moved o result.2 := by
  rw [handleTimer.eq_def] at h
  split at h
  · cases h
    exact .ignored
  · rename_i hook hhook
    cases hook with
    | timeoutFindNodeReq nonce | timeoutRedundantStoreReq nonce | timeoutFetchReq nonce =>
      exact handleTimeout_moved hevent hhook rfl h
    | periodicRestore payload =>
      obtain ⟨self', hself', h⟩ := of_bind h
      cases h
      obtain ⟨mid, payload', hmid, rfl⟩ := initRedundancyLookup_eq hself'
      exact .restored hmid (by simp)

theorem step_moved (h : self.step debug o = .ok self') : self.Moved o self' := by
  obtain ⟨result, hresult, h⟩ := of_bind h
  obtain rfl : result.2 = self' := ok.inj h
  rw [handleEvent.eq_def] at hresult
  split at hresult
  · rename_i nonce data callback hevent
    obtain ⟨self', hself', h⟩ := of_bind hresult
    cases h
    obtain ⟨mid, payload, hmid, rfl⟩ := initRedundancyLookup_eq hself'
    exact .lookup hevent hmid
  · rename_i nonce handle callback hevent
    obtain ⟨self', hself', h⟩ := of_bind hresult
    cases h
    obtain ⟨mid, hmid, rfl⟩ := initFetchReq_eq hself'
    exact .fetch hevent hmid
  · rename_i message hevent
    split at hresult
    · exact handleMessage_moved hevent hresult
    · exact handleMessage_moved hevent hresult
    · exact handleMessage_moved hevent hresult
    · cases hresult
      exact .ignored
  · rename_i id hevent
    exact handleTimer_moved hevent hresult

end

end DistributedHashTableInjector

end Kira
