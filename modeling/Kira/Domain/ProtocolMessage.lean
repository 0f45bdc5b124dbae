import Kira.Domain.Contact
import Kira.Domain.SourceRoute
import Kira.Lib.Bytes

/-!
# Protocol messages

Every message starts with a `CommonHeader`.  A hello carries nothing else; the messages between
underlay neighbours carry contacts; all others are source-routed and carry data of their own.

The integers of a header have the widths that they have in the program, as they are what is sent.
Sets and maps are lists, in the order in which the program happens to go through them.
-/

set_option autoImplicit false

namespace Kira

/-! ## Headers -/

/-- A randomly drawn number that identifies a request and its response. -/
abbrev Nonce := BitVec 64

abbrev Age := BitVec 64

inductive ProtocolMessageKind where
  | ulnHello | ulnDiscReq | ulnDiscRsp | findNodeReq | findNodeRsp | queryRouteReq | queryRouteRsp
  | updateRouteReq | probeReq | probeRsp | error | pathSetupReq | pathSetupRsp | pathTeardownReq
  | storeReq | storeRsp | fetchReq | fetchRsp | other (raw : BitVec 8)
  deriving DecidableEq

abbrev ProtocolMessageFlags := BitVec 8

namespace ProtocolMessageFlags

/-- The destination is a node that is assumed to exist. -/
def exact : ProtocolMessageFlags := 1#8

/-- Errors are to be reported rather than dropped. -/
def diagnostic : ProtocolMessageFlags := 64#8

def contains (self other : ProtocolMessageFlags) : Bool := self &&& other == other

end ProtocolMessageFlags

/-- What all messages start with. -/
structure CommonHeader where
  version : BitVec 8
  msgType : ProtocolMessageKind
  msgFlags : ProtocolMessageFlags
  msgLength : BitVec 16
  destId : NodeId
  srcNodeId : NodeId
  domainId : BitVec 64
  msgId : Nonce
  stateSeqNum : StateSeqNr
  srcNodeDegree : BitVec 16
  deriving DecidableEq

/-- A header with default values.  A nonce that is not given is drawn at random, so the model is
always given one. -/
def CommonHeader.new (msgType : ProtocolMessageKind) (src dst : NodeId) (msgId : Nonce)
    (stateSeqNum : StateSeqNr) (srcNodeDegree : Nat) : CommonHeader :=
  { version := 0
    msgType := msgType
    msgFlags := 0
    msgLength := 1 + 1 + 1 + 2 + 14 + 14 + 8 + 8 + 4 + 2
    destId := dst
    srcNodeId := src
    domainId := 0
    msgId := msgId
    stateSeqNum := stateSeqNum
    srcNodeDegree :=
      if srcNodeDegree < 2 ^ 16 - 1 then BitVec.ofNat 16 srcNodeDegree else BitVec.allOnes 16 }

/-! ## Data -/

/-- A broken link and how long ago it was found to be broken. -/
structure NotVia where
  link : Link
  age : Age
  deriving DecidableEq

/-- A set of broken links; the ages are not compared. -/
structure NotViaList where
  entries : List NotVia
  nodup : (entries.map NotVia.link).Nodup
  deriving DecidableEq

namespace NotViaList

def empty : NotViaList := ⟨[], List.nodup_nil⟩

def insert (self : NotViaList) (entry : NotVia) : NotViaList :=
  if h : entry.link ∈ self.entries.map NotVia.link then self
  else
    { entries := self.entries ++ [entry]
      nodup := by
        rw [List.map_append, List.nodup_append]
        refine ⟨self.nodup, by simp, fun link hmem other hother heq ↦ h ?_⟩
        simpa [← List.mem_singleton.1 hother, ← heq] using hmem }

end NotViaList

/-- A message that follows a route. -/
structure ReqRspMessage (δ : Type) where
  commonHeader : CommonHeader
  data : δ
  notVia : Option NotViaList
  sourceRoute : SourceRoute
  deriving DecidableEq

structure ULNReqRspMessage (δ : Type) where
  commonHeader : CommonHeader
  data : δ
  deriving DecidableEq

structure RTableData where
  contacts : List Contact
  deriving DecidableEq

inductive QueryRouteType where
  | underlayNeighbors
  deriving DecidableEq

structure QueryRouteReqData where
  queryType : QueryRouteType
  deriving DecidableEq

structure FindNodeReqData where
  neighborhood : Nat
  neighborhood_pos : 0 < neighborhood

instance : DecidableEq FindNodeReqData := fun data other ↦
  decidable_of_iff (data.neighborhood = other.neighborhood)
    ⟨fun h ↦ by cases data; cases other; cases h; rfl, congrArg FindNodeReqData.neighborhood⟩

structure ProbeReqData where
  deriving DecidableEq

structure ProbeRspData where
  deriving DecidableEq

structure PathSetupReqData where
  deriving DecidableEq

structure PathTeardownReqData where
  deriving DecidableEq

inductive RouteUpdateActionType where
  | announce
  | withDraw
  | change
  | unreachable
  | other (raw : BitVec 8)
  deriving DecidableEq

structure UpdateRouteReq where
  commonHeader : CommonHeader
  notVia : Option NotViaList
  contactActions : List (Contact × RouteUpdateActionType)
  sourceRoute : SourceRoute
  deriving DecidableEq

inductive ErrorData where
  | deadEnd
  | segmentFailure (failedLink : Link) (source : NodeId)
  | routeFailureWrongHop (wrongHop : Link) (source : NodeId)
  deriving DecidableEq

/-! ## Data of the distributed hash table -/

abbrev LHTInput := Bytes

/-- What is fetched: all that has been stored under a handle. -/
abbrev LHTOutput := List Bytes

structure StoreReqData (D : Type) where
  handle : NodeId
  data : D
  /-- How long ago the pair was last accessed, if it is republished. -/
  lastAccessedMs : Option Age
  deriving DecidableEq

inductive StoreOk where
  | created
  | inserted
  | updated
  deriving DecidableEq

inductive StoreErr where
  | unexpectedError (message : String)
  deriving DecidableEq

abbrev StoreResult := Except StoreErr StoreOk

structure StoreRspData where
  status : StoreResult

structure FetchReqData where
  handle : NodeId
  deriving DecidableEq

inductive FetchErr where
  | notFoundErr
  deriving DecidableEq

structure FetchRspData (D : Type) where
  data : Except FetchErr D

/-! ## Messages -/

/-- The messages of the protocol. -/
inductive ProtocolMessage where
  | ulnHello (commonHeader : CommonHeader)
  | ulnDiscReq (req : ULNReqRspMessage RTableData)
  | ulnDiscRsp (req : ULNReqRspMessage RTableData)
  | queryRouteReq (req : ReqRspMessage QueryRouteReqData)
  | queryRouteRsp (req : ReqRspMessage RTableData)
  | findNodeReq (req : ReqRspMessage FindNodeReqData)
  | findNodeRsp (req : ReqRspMessage RTableData)
  | probeReq (req : ReqRspMessage ProbeReqData)
  | probeRsp (req : ReqRspMessage ProbeRspData)
  | pathSetupReq (req : ReqRspMessage PathSetupReqData)
  | pathTeardownReq (req : ReqRspMessage PathTeardownReqData)
  | updateRouteReq (req : UpdateRouteReq)
  | error (req : ReqRspMessage ErrorData)
  | storeReq (req : ReqRspMessage (StoreReqData LHTInput))
  | storeRsp (req : ReqRspMessage StoreRspData)
  | fetchReq (req : ReqRspMessage FetchReqData)
  | fetchRsp (req : ReqRspMessage (FetchRspData LHTOutput))

namespace ReqRspMessage

variable {δ : Type}

def source (self : ReqRspMessage δ) : NodeId := self.sourceRoute.source

def destination (self : ReqRspMessage δ) : NodeId := self.sourceRoute.destination

/-- The target of a request is the final destination in its header. -/
def target (self : ReqRspMessage FindNodeReqData) : NodeId := self.commonHeader.destId

def exact (self : ReqRspMessage FindNodeReqData) : Bool :=
  self.commonHeader.msgFlags.contains .exact

def withRoute (self : ReqRspMessage δ) (f : SourceRoute → SourceRoute) : ReqRspMessage δ :=
  { self with sourceRoute := f self.sourceRoute }

end ReqRspMessage

namespace ULNReqRspMessage

variable {δ : Type}

def source (self : ULNReqRspMessage δ) : NodeId := self.commonHeader.srcNodeId

def destination (self : ULNReqRspMessage δ) : NodeId := self.commonHeader.destId

end ULNReqRspMessage

namespace ProtocolMessage

def commonHeader : ProtocolMessage → CommonHeader
  | ulnHello commonHeader => commonHeader
  | ulnDiscReq req => req.commonHeader
  | ulnDiscRsp req => req.commonHeader
  | queryRouteReq req => req.commonHeader
  | queryRouteRsp req => req.commonHeader
  | findNodeReq req => req.commonHeader
  | findNodeRsp req => req.commonHeader
  | probeReq req => req.commonHeader
  | probeRsp req => req.commonHeader
  | pathSetupReq req => req.commonHeader
  | pathTeardownReq req => req.commonHeader
  | updateRouteReq req => req.commonHeader
  | error req => req.commonHeader
  | storeReq req => req.commonHeader
  | storeRsp req => req.commonHeader
  | fetchReq req => req.commonHeader
  | fetchRsp req => req.commonHeader

def sourceRoute : ProtocolMessage → Option SourceRoute
  | ulnHello _ | ulnDiscReq _ | ulnDiscRsp _ => none
  | queryRouteReq req => some req.sourceRoute
  | queryRouteRsp req => some req.sourceRoute
  | findNodeReq req => some req.sourceRoute
  | findNodeRsp req => some req.sourceRoute
  | probeReq req => some req.sourceRoute
  | probeRsp req => some req.sourceRoute
  | pathSetupReq req => some req.sourceRoute
  | pathTeardownReq req => some req.sourceRoute
  | updateRouteReq req => some req.sourceRoute
  | error req => some req.sourceRoute
  | storeReq req => some req.sourceRoute
  | storeRsp req => some req.sourceRoute
  | fetchReq req => some req.sourceRoute
  | fetchRsp req => some req.sourceRoute

def notVia : ProtocolMessage → Option NotViaList
  | ulnHello _ | ulnDiscReq _ | ulnDiscRsp _ => none
  | queryRouteReq req => req.notVia
  | queryRouteRsp req => req.notVia
  | findNodeReq req => req.notVia
  | findNodeRsp req => req.notVia
  | probeReq req => req.notVia
  | probeRsp req => req.notVia
  | pathSetupReq req => req.notVia
  | pathTeardownReq req => req.notVia
  | updateRouteReq req => req.notVia
  | error req => req.notVia
  | storeReq req => req.notVia
  | storeRsp req => req.notVia
  | fetchReq req => req.notVia
  | fetchRsp req => req.notVia

/-- Changes the source route, if there is one: what the program does through `source_route_mut`. -/
def withRoute (f : SourceRoute → SourceRoute) : ProtocolMessage → ProtocolMessage
  | ulnHello commonHeader => ulnHello commonHeader
  | ulnDiscReq req => ulnDiscReq req
  | ulnDiscRsp req => ulnDiscRsp req
  | queryRouteReq req => queryRouteReq (req.withRoute f)
  | queryRouteRsp req => queryRouteRsp (req.withRoute f)
  | findNodeReq req => findNodeReq (req.withRoute f)
  | findNodeRsp req => findNodeRsp (req.withRoute f)
  | probeReq req => probeReq (req.withRoute f)
  | probeRsp req => probeRsp (req.withRoute f)
  | pathSetupReq req => pathSetupReq (req.withRoute f)
  | pathTeardownReq req => pathTeardownReq (req.withRoute f)
  | updateRouteReq req => updateRouteReq { req with sourceRoute := f req.sourceRoute }
  | error req => error (req.withRoute f)
  | storeReq req => storeReq (req.withRoute f)
  | storeRsp req => storeRsp (req.withRoute f)
  | fetchReq req => fetchReq (req.withRoute f)
  | fetchRsp req => fetchRsp (req.withRoute f)

def destination : ProtocolMessage → Option NodeId
  | ulnHello _ => none
  | ulnDiscReq req => some req.destination
  | ulnDiscRsp req => some req.destination
  | queryRouteReq req => some req.destination
  | queryRouteRsp req => some req.destination
  | findNodeReq req => some req.destination
  | findNodeRsp req => some req.destination
  | probeReq req => some req.destination
  | probeRsp req => some req.destination
  | pathSetupReq req => some req.destination
  | pathTeardownReq req => some req.destination
  | updateRouteReq req => some req.sourceRoute.destination
  | error req => some req.destination
  | storeReq req => some req.destination
  | storeRsp req => some req.destination
  | fetchReq req => some req.destination
  | fetchRsp req => some req.destination

/-- The nonce of the messages that have a response. -/
def msgId : ProtocolMessage → Option Nonce
  | ulnHello _ => none
  | updateRouteReq _ => none
  | message => some message.commonHeader.msgId

def source : ProtocolMessage → NodeId
  | ulnHello commonHeader => commonHeader.srcNodeId
  | ulnDiscReq req => req.source
  | ulnDiscRsp req => req.source
  | queryRouteReq req => req.source
  | queryRouteRsp req => req.source
  | findNodeReq req => req.source
  | findNodeRsp req => req.source
  | probeReq req => req.source
  | probeRsp req => req.source
  | pathSetupReq req => req.source
  | pathTeardownReq req => req.source
  | updateRouteReq req => req.sourceRoute.source
  | error req =>
    match req.data with
    | .deadEnd => req.sourceRoute.source
    | .segmentFailure _ source => source
    | .routeFailureWrongHop _ source => source
  | storeReq req => req.source
  | storeRsp req => req.source
  | fetchReq req => req.source
  | fetchRsp req => req.source

def msgFlags (self : ProtocolMessage) : ProtocolMessageFlags := self.commonHeader.msgFlags

/-- The node that a message is at or on its way to, unless it goes to all neighbours. -/
def currentHop (self : ProtocolMessage) : Run (Option NodeId) :=
  match self with
  | ulnHello _ => return none
  | message =>
    match message.sourceRoute with
    | some sourceRoute => do return some (← sourceRoute.currentHop)
    | none => return message.destination

def kind : ProtocolMessage → ProtocolMessageKind
  | ulnHello _ => .ulnHello
  | ulnDiscReq _ => .ulnDiscReq
  | ulnDiscRsp _ => .ulnDiscRsp
  | queryRouteReq _ => .queryRouteReq
  | queryRouteRsp _ => .queryRouteRsp
  | findNodeReq _ => .findNodeReq
  | findNodeRsp _ => .findNodeRsp
  | probeReq _ => .probeReq
  | probeRsp _ => .probeRsp
  | pathSetupReq _ => .pathSetupReq
  | pathTeardownReq _ => .pathTeardownReq
  | updateRouteReq _ => .updateRouteReq
  | error _ => .error
  | storeReq _ => .storeReq
  | storeRsp _ => .storeRsp
  | fetchReq _ => .fetchReq
  | fetchRsp _ => .fetchRsp

@[simp] theorem sourceRoute_withRoute (self : ProtocolMessage) (f : SourceRoute → SourceRoute) :
    (self.withRoute f).sourceRoute = self.sourceRoute.map f := by
  cases self <;> rfl

@[simp] theorem withRoute_withRoute (self : ProtocolMessage) (f g : SourceRoute → SourceRoute) :
    (self.withRoute f).withRoute g = self.withRoute fun route ↦ g (f route) := by
  cases self <;> rfl

theorem withRoute_self {self : ProtocolMessage} {route : SourceRoute}
    (h : self.sourceRoute = some route) : (self.withRoute fun _ ↦ route) = self := by
  cases self <;> cases h <;> rfl

theorem currentHop_of_route {self : ProtocolMessage} {route : SourceRoute}
    (h : self.sourceRoute = some route) :
    self.currentHop = (do return some (← route.currentHop)) := by
  cases self <;> cases h <;> rfl

end ProtocolMessage

end Kira
