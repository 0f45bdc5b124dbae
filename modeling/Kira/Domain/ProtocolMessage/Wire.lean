import Kira.Domain.ProtocolMessage
import Kira.Lib.Decoder

/-!
# The parts of a message as bytes

The codes of the enumerations, and the common header, which has the same 55 bytes in front of every
message.  Codes that are not assigned are kept as they are, so reading a byte never fails.  The
other way round two values may share a code: `other` holds any byte, also one that is assigned.
-/

set_option autoImplicit false

namespace Kira

/-! ## Codes -/

namespace ProtocolMessageKind

def toByte : ProtocolMessageKind → BitVec 8
  | ulnHello => 0x01
  | ulnDiscReq => 0x03
  | ulnDiscRsp => 0x04
  | findNodeReq => 0x09
  | findNodeRsp => 0x0a
  | queryRouteReq => 0x0b
  | queryRouteRsp => 0x0c
  | updateRouteReq => 0x11
  | probeReq => 0x21
  | probeRsp => 0x22
  | error => 0x70
  | pathSetupReq => 0x81
  | pathSetupRsp => 0x82
  | pathTeardownReq => 0x83
  | storeReq => 0xa1
  | storeRsp => 0xa2
  | fetchReq => 0xa3
  | fetchRsp => 0xa4
  | other raw => raw

def ofByte (raw : BitVec 8) : ProtocolMessageKind :=
  match raw.toNat with
  | 0x01 => ulnHello
  | 0x03 => ulnDiscReq
  | 0x04 => ulnDiscRsp
  | 0x09 => findNodeReq
  | 0x0a => findNodeRsp
  | 0x0b => queryRouteReq
  | 0x0c => queryRouteRsp
  | 0x11 => updateRouteReq
  | 0x21 => probeReq
  | 0x22 => probeRsp
  | 0x70 => error
  | 0x81 => pathSetupReq
  | 0x82 => pathSetupRsp
  | 0x83 => pathTeardownReq
  | 0xa1 => storeReq
  | 0xa2 => storeRsp
  | 0xa3 => fetchReq
  | 0xa4 => fetchRsp
  | _ => other raw

theorem ofByte_toByte {kind : ProtocolMessageKind} (h : ∀ raw, kind ≠ other raw) :
    ofByte kind.toByte = kind := by
  cases kind with
  | other raw => exact absurd rfl (h raw)
  | _ => rfl

end ProtocolMessageKind

namespace RouteUpdateActionType

def toByte : RouteUpdateActionType → BitVec 8
  | announce => 0x00
  | withDraw => 0x01
  | change => 0x02
  | unreachable => 0x03
  | other raw => raw

def ofByte (raw : BitVec 8) : RouteUpdateActionType :=
  match raw.toNat with
  | 0x00 => announce
  | 0x01 => withDraw
  | 0x02 => change
  | 0x03 => unreachable
  | _ => other raw

/-- The action is the one that its code is assigned to. -/
def Assigned (self : RouteUpdateActionType) : Prop := ∀ raw, self = other raw → 4 ≤ raw.toNat

theorem ofByte_toByte {action : RouteUpdateActionType} (h : action.Assigned) :
    ofByte action.toByte = action := by
  cases action with
  | other raw =>
    have hraw := h raw rfl
    simp only [ofByte, toByte]
    split
    all_goals first
      | rfl
      | omega
  | _ => rfl

end RouteUpdateActionType

/-- The kinds of objects that the payload of a message is made of. -/
inductive ProtocolObjectType where
  | sourceRoute | notViaList | contactList | rtableRequest | rtable | rtableUpdateInfo | errorData
  | storeReqData | storeRspData | fetchReqData | fetchRspData | other (raw : BitVec 8)
  deriving DecidableEq

namespace ProtocolObjectType

def toByte : ProtocolObjectType → BitVec 8
  | sourceRoute => 0x01
  | notViaList => 0x02
  | contactList => 0x03
  | rtableRequest => 0x04
  | rtable => 0x05
  | rtableUpdateInfo => 0x06
  | errorData => 0x07
  | storeReqData => 0x80
  | storeRspData => 0x81
  | fetchReqData => 0x82
  | fetchRspData => 0x83
  | other raw => raw

def ofByte (raw : BitVec 8) : ProtocolObjectType :=
  match raw.toNat with
  | 0x01 => sourceRoute
  | 0x02 => notViaList
  | 0x03 => contactList
  | 0x04 => rtableRequest
  | 0x05 => rtable
  | 0x06 => rtableUpdateInfo
  | 0x07 => errorData
  | 0x80 => storeReqData
  | 0x81 => storeRspData
  | 0x82 => fetchReqData
  | 0x83 => fetchRspData
  | _ => other raw

theorem ofByte_toByte {type : ProtocolObjectType} (h : ∀ raw, type ≠ other raw) :
    ofByte type.toByte = type := by
  cases type with
  | other raw => exact absurd rfl (h raw)
  | _ => rfl

/-- The name of a type in messages for developers. -/
def debug : ProtocolObjectType → String
  | sourceRoute => "SourceRoute"
  | notViaList => "NotViaList"
  | contactList => "ContactList"
  | rtableRequest => "RTableRequest"
  | rtable => "RTable"
  | rtableUpdateInfo => "RTableUpdateInfo"
  | errorData => "ErrorData"
  | storeReqData => "StoreReqData"
  | storeRspData => "StoreRspData"
  | fetchReqData => "FetchReqData"
  | fetchRspData => "FetchRspData"
  | other raw => "Other(" ++ toString raw.toNat ++ ")"

end ProtocolObjectType

structure CommonObjectHeader where
  objectType : ProtocolObjectType
  objectLength : Nat

inductive RTableRequestTypeValue where
  | none | contactsOnly | overlayNeighbors | overlayNeighborsSource | ulnVicinity
  | other (raw : BitVec 8)
  deriving DecidableEq

namespace RTableRequestTypeValue

def toByte : RTableRequestTypeValue → BitVec 8
  | none => 0x00
  | contactsOnly => 0x01
  | overlayNeighbors => 0x02
  | overlayNeighborsSource => 0x03
  | ulnVicinity => 0x04
  | other raw => raw

def ofByte (raw : BitVec 8) : RTableRequestTypeValue :=
  match raw.toNat with
  | 0x00 => none
  | 0x01 => contactsOnly
  | 0x02 => overlayNeighbors
  | 0x03 => overlayNeighborsSource
  | 0x04 => ulnVicinity
  | _ => other raw

end RTableRequestTypeValue

/-! ## Numbers -/

namespace NodeId

def toBytes (id : NodeId) : Bytes := toBeBytes SIZE id.toNat

def ofBytes (bytes : Bytes) : NodeId := .ofNat BITS (fromBeBytes bytes)

def read {ε : Type} : Decoder ε NodeId := do
  return ofBytes (← Decoder.readExact SIZE)

theorem ofBytes_toBytes (id : NodeId) : ofBytes id.toBytes = id := by
  have hlt : id.toNat < 256 ^ SIZE := id.isLt
  rw [ofBytes, toBytes, fromBeBytes_toBeBytes hlt, BitVec.ofNat_toNat, BitVec.setWidth_eq]

theorem judged_read {ε : Type} (body rest : Bytes) :
    (read : Decoder ε NodeId).Judged (.inside body rest)
      (Decoder.field 14 body.length rest.length)
      fun id c ↦ id = ofBytes (body.take 14) ∧ c = .inside (body.drop 14) rest := by
  exact (Decoder.judged_readExact SIZE body rest).bind_pure fun bytes c hc ↦
    ⟨by rw [hc.1], hc.2⟩

theorem judged_read_bind {ε β : Type} {body rest : Bytes} {f : NodeId → Decoder ε β}
    {w : Decoder.Verdict} {post : β → Cursor → Prop} (h : 14 ≤ body.length)
    (hf : (f (ofBytes (body.take 14))).Judged (.inside (body.drop 14) rest) w post) :
    (read >>= f).Judged (.inside body rest) w post := by
  have hread := judged_read (ε := ε) body rest
  rw [Decoder.field_of_le h] at hread
  refine hread.bind_accepted fun id mid hmid ↦ ?_
  rw [hmid.1, hmid.2]
  exact hf

theorem harmless_read_bind {ε β : Type} {body rest : Bytes} {f : NodeId → Decoder ε β}
    {post : β → Cursor → Prop} (h : 14 ≤ body.length)
    (hf : (f (ofBytes (body.take 14))).Harmless (.inside (body.drop 14) rest) post) :
    (read >>= f).Harmless (.inside body rest) post := by
  obtain ⟨w, hw, hf⟩ := hf
  exact ⟨w, hw, judged_read_bind h hf⟩

end NodeId

namespace StateSeqNr

def toNat : StateSeqNr → Nat
  | invalid => 0
  | reset => 2 ^ 32 - 1
  | value ssn => ssn.val

theorem ofNat_toNat (ssn : StateSeqNr) : ofNat ssn.toNat = ssn := by
  cases ssn with
  | invalid | reset => rfl
  | value ssn => exact dif_pos ⟨ssn.pos, ssn.lt⟩

theorem toNat_lt (ssn : StateSeqNr) : ssn.toNat < 256 ^ 4 := by
  cases ssn with
  | invalid | reset => decide
  | value ssn => exact ssn.lt.trans (by decide)

end StateSeqNr

def SafeStateSeqNr.tryFrom (n : Nat) : Option SafeStateSeqNr :=
  if h : 0 < n then if h' : n < 2 ^ 32 - 1 then some ⟨n, h, h'⟩ else none else none

theorem SafeStateSeqNr.tryFrom_val (ssn : SafeStateSeqNr) : tryFrom ssn.val = some ssn :=
  (dif_pos ssn.pos).trans (dif_pos ssn.lt)

/-! ## The common header -/

namespace CommonHeader

def LEN : Nat := 55

def write (self : CommonHeader) : Bytes :=
  [self.version, self.msgType.toByte, self.msgFlags] ++ toBeBytes 2 self.msgLength.toNat ++
    self.destId.toBytes ++ self.srcNodeId.toBytes ++ toBeBytes 8 self.domainId.toNat ++
    toBeBytes 8 self.msgId.toNat ++ toBeBytes 4 self.stateSeqNum.toNat ++
    toBeBytes 2 self.srcNodeDegree.toNat

def read {ε : Type} : Decoder ε CommonHeader := do
  let version ← Decoder.readUint 1
  let msgType ← Decoder.readUint 1
  let msgFlags ← Decoder.readUint 1
  let msgLength ← Decoder.readUint 2
  let destId ← NodeId.read
  let srcNodeId ← NodeId.read
  let domainId ← Decoder.readUint 8
  let msgId ← Decoder.readUint 8
  let stateSeqNum ← Decoder.readUint 4
  let srcNodeDegree ← Decoder.readUint 2
  return {
    version := .ofNat 8 version
    msgType := .ofByte (.ofNat 8 msgType)
    msgFlags := .ofNat 8 msgFlags
    msgLength := .ofNat 16 msgLength
    destId := destId
    srcNodeId := srcNodeId
    domainId := .ofNat 64 domainId
    msgId := .ofNat 64 msgId
    stateSeqNum := .ofNat stateSeqNum
    srcNodeDegree := .ofNat 16 srcNodeDegree }

end CommonHeader

end Kira
