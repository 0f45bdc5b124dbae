import Kira.Format.Deserialize

/-!
# Writing messages

A message is written as its header, with the length filled in, and the objects of its payload.  Each
object starts with its type and length; the lengths are computed from what is to be written, not
measured afterwards.  Lists of which nothing is to be said have no object.

The ages and node degrees of contacts are placeholders.  The writer itself takes all bytes.
-/

set_option autoImplicit false

namespace Kira

namespace FormatError

def invalidInput (message : String) : FormatError := .io .invalidInput message

end FormatError

namespace Format

open FormatError

/-- What is written, if the program does not stop and reports no error. -/
abbrev Written := ExceptT FormatError Run Bytes

/-! ## Objects -/

def writeCommonObjectHeader (header : CommonObjectHeader) : Bytes :=
  header.objectType.toByte :: toBeBytes 2 header.objectLength

def sourceRouteIndex (sourceRoute : SourceRoute) : ExceptT FormatError Run Nat := do
  let idx ← sourceRoute.traveledHopCount
  if idx > 1023 then throw (invalidInput s!"source route index {idx} out of range")
  else return idx

def writeSourceRouteObject (sourceRoute : SourceRoute) : Written := do
  let index ← sourceRouteIndex sourceRoute
  let objectLength := 2 + sourceRoute.ids.length * NodeId.SIZE
  return writeCommonObjectHeader ⟨.sourceRoute, objectLength⟩ ++
    (toBeBytes 2 index ++ sourceRoute.ids.flatMap NodeId.toBytes)

/-- The links in a message; a message without a list has none. -/
def notViaLinks : Option NotViaList → List Link
  | some notVia => notVia.entries.map NotVia.link
  | none => []

def writeLink (link : Link) : Bytes := link.first.toBytes ++ link.second.toBytes

def writeNotvialistObject (notVia : Option NotViaList) : Bytes :=
  let links := notViaLinks notVia
  if links.isEmpty then []
  else
    let objectLength := links.length * (NodeId.SIZE * 2 + 4)
    writeCommonObjectHeader ⟨.notViaList, objectLength⟩ ++
      links.flatMap fun link ↦ writeLink link ++ toBeBytes 4 0

def writeContactEntry (contact : Contact) : Bytes :=
  contact.id.toBytes ++ toBeBytes 4 contact.stateSeqNr.val ++ toBeBytes 4 (2 ^ 32 - 1) ++
    toBeBytes 2 (2 ^ 16 - 1)

def writeContactlistObject (contacts : List Contact) : Written := do
  let count := contacts.length
  if contacts.isEmpty then return []
  else if count > 2 ^ 16 - 1 then throw (invalidInput s!"too many contacts: {count}")
  else
    let objectLength := count * (NodeId.SIZE + 4 + 4 + 2)
    return writeCommonObjectHeader ⟨.contactList, objectLength⟩ ++
      contacts.flatMap writeContactEntry

def activePathIds (contact : Contact) : List NodeId :=
  match contact.path with
  | some path => path.ids
  | none => []

def writeEntry (tooLong : String) (contact : Contact) (extra : Bytes) : Written := do
  let pathLength := (activePathIds contact).length
  if pathLength > 2 ^ 16 - 1 then throw (invalidData tooLong)
  else
    return contact.id.toBytes ++ toBeBytes 2 pathLength ++
      (activePathIds contact).flatMap NodeId.toBytes ++ toBeBytes 4 contact.stateSeqNr.val ++
      toBeBytes 4 (2 ^ 32 - 1) ++ toBeBytes 2 (2 ^ 16 - 1) ++ extra

/-- The length of an entry that has `extra` bytes behind the contact. -/
def entryLength (extra : Nat) (contact : Contact) : Nat :=
  NodeId.SIZE + (activePathIds contact).length * NodeId.SIZE + 2 + 4 + 4 + 2 + extra

def writeEntriesObject (type : ProtocolObjectType) (extra : Nat) (tooMany : Nat → String)
    (tooLong : String) (entries : List (Contact × Bytes)) : Written := do
  if entries.isEmpty then return []
  else if entries.length > 2 ^ 16 - 1 then throw (invalidInput (tooMany entries.length))
  else
    let objectLength := (entries.map fun entry ↦ entryLength extra entry.1).sum
    let written ← entries.mapM fun entry ↦ writeEntry tooLong entry.1 entry.2
    return writeCommonObjectHeader ⟨type, objectLength⟩ ++ written.flatten

def writeRtableObject (contacts : List Contact) : Written :=
  writeEntriesObject .rtable 0 (fun count ↦ s!"too many contacts: {count}") "path-vector to long"
    (contacts.map fun contact ↦ (contact, []))

def writeRtableUpdateInfoObject (data : List (Contact × RouteUpdateActionType)) : Written :=
  writeEntriesObject .rtableUpdateInfo 1 (fun count ↦ s!"too many rtable update entries: {count}")
    "path-vector too long" (data.map fun entry ↦ (entry.1, [entry.2.toByte]))

def writeRtableRequestObject (requestType : RTableRequestTypeValue) (radius : BitVec 8) : Bytes :=
  writeCommonObjectHeader ⟨.rtableRequest, 2⟩ ++ [requestType.toByte, radius]

def writeErrorData (data : ErrorData) : Bytes :=
  let objectLength := 1 + NodeId.SIZE * 3
  match data with
  | .deadEnd => writeCommonObjectHeader ⟨.errorData, 1⟩ ++ [0x0a]
  | .segmentFailure failedLink source =>
    writeCommonObjectHeader ⟨.errorData, objectLength⟩ ++
      ([0x05] ++ source.toBytes ++ writeLink failedLink)
  | .routeFailureWrongHop wrongHop source =>
    writeCommonObjectHeader ⟨.errorData, objectLength⟩ ++
      ([0x0b] ++ source.toBytes ++ writeLink wrongHop)

/-- An age has no more milliseconds than fit, so there is no error for it here. -/
def writeStoreReqDataObject (data : StoreReqData LHTInput) : Written := do
  let dataLen := data.data.length
  if dataLen > 2 ^ 16 - 1 then throw (invalidInput s!"store data too large: {dataLen}")
  else
    let ageLen := if data.lastAccessedMs.isSome then 8 else 0
    let objectLength := NodeId.SIZE + 2 + dataLen + ageLen
    return writeCommonObjectHeader ⟨.storeReqData, objectLength⟩ ++
      (data.handle.toBytes ++ toBeBytes 2 dataLen ++ data.data ++
        match data.lastAccessedMs with
        | some age => toBeBytes 8 age.toNat
        | none => [])

def writeStoreRspDataObject (data : StoreRspData) : Written :=
  match data.status with
  | .ok .created => return writeCommonObjectHeader ⟨.storeRspData, 1⟩ ++ [0x00]
  | .ok .inserted => return writeCommonObjectHeader ⟨.storeRspData, 1⟩ ++ [0x01]
  | .ok .updated => return writeCommonObjectHeader ⟨.storeRspData, 1⟩ ++ [0x02]
  | .error (.unexpectedError msg) => throw (invalidData s!"Cannot serialize StoreErr: {msg}")

def writeFetchReqDataObject (data : FetchReqData) : Written :=
  return writeCommonObjectHeader ⟨.fetchReqData, NodeId.SIZE⟩ ++ data.handle.toBytes

/-- The lengths of the values with the numbers in front of them. -/
def fetchValuesLen : LHTOutput → ExceptT FormatError Run Nat
  | [] => return 0
  | value :: values => do
    let length := value.length
    if length > 2 ^ 16 - 1 then throw (invalidInput s!"fetch value too large: {length}")
    else return 2 + length + (← fetchValuesLen values)

def writeFetchRspDataObject (data : FetchRspData LHTOutput) : Written := do
  match data.data with
  | .ok values =>
    let count := values.length
    if count > 2 ^ 16 - 1 then throw (invalidInput s!"too many fetch values: {count}")
    else
      let objectLength := 1 + 2 + (← fetchValuesLen values)
      if objectLength > 2 ^ 16 - 1 then
        throw (invalidInput s!"fetch response too large: {objectLength}")
      else
        return writeCommonObjectHeader ⟨.fetchRspData, objectLength⟩ ++
          ([0x00] ++ toBeBytes 2 count ++
          values.flatMap fun value ↦ toBeBytes 2 value.length ++ value)
  | .error .notFoundErr => return writeCommonObjectHeader ⟨.fetchRspData, 1⟩ ++ [0x01]

/-! ## Messages -/

def writeHeaderAndPayload (header : CommonHeader) (payload : Bytes) : Written := do
  let totalLen := CommonHeader.LEN + payload.length
  if totalLen > 2 ^ 16 - 1 then throw (invalidData "msg_length exceeds u16")
  else return { header with msgLength := .ofNat 16 totalLen }.write ++ payload

variable {δ : Type}

def serializeReqRspNoData (req : ReqRspMessage δ) : Written := do
  let sourceRoute ← writeSourceRouteObject req.sourceRoute
  writeHeaderAndPayload req.commonHeader (sourceRoute ++ writeNotvialistObject req.notVia)

def serializeReqRspWithDataObj (req : ReqRspMessage δ) (writeDataObject : δ → Written) :
    Written := do
  let sourceRoute ← writeSourceRouteObject req.sourceRoute
  let data ← writeDataObject req.data
  writeHeaderAndPayload req.commonHeader
    (sourceRoute ++ (writeNotvialistObject req.notVia ++ data))

/-- Here the links come first. -/
def serializeError (req : ReqRspMessage ErrorData) : Written := do
  let sourceRoute ← writeSourceRouteObject req.sourceRoute
  writeHeaderAndPayload req.commonHeader
    (writeNotvialistObject req.notVia ++ (sourceRoute ++ writeErrorData req.data))

def serializeReqRspWithRtableRequest (req : ReqRspMessage δ) (requestType : RTableRequestTypeValue)
    (radius : BitVec 8) : Written := do
  let sourceRoute ← writeSourceRouteObject req.sourceRoute
  writeHeaderAndPayload req.commonHeader
    (writeRtableRequestObject requestType radius ++
      (sourceRoute ++ writeNotvialistObject req.notVia))

def serializeQueryRouteReq (req : ReqRspMessage QueryRouteReqData) : Written :=
  match req.data.queryType with
  | .underlayNeighbors =>
    serializeReqRspWithRtableRequest req .ulnVicinity
      (.ofNat 8 (min req.commonHeader.srcNodeDegree.toNat (2 ^ 8 - 1)))

def serializeFindNodeReq (req : ReqRspMessage FindNodeReqData) : Written :=
  serializeReqRspWithRtableRequest req .overlayNeighbors
    (.ofNat 8 (min req.data.neighborhood (2 ^ 8 - 1)))

def serializeUpdateRouteReq (req : UpdateRouteReq) : Written := do
  let sourceRoute ← writeSourceRouteObject req.sourceRoute
  let updateInfo ← writeRtableUpdateInfoObject req.contactActions
  writeHeaderAndPayload req.commonHeader
    (sourceRoute ++ (writeNotvialistObject req.notVia ++ updateInfo))

def serializeUlnReqRspRtable (req : ULNReqRspMessage RTableData) : Written := do
  let contacts ← writeContactlistObject req.data.contacts
  writeHeaderAndPayload req.commonHeader contacts

def serializeReqRspRtable (req : ReqRspMessage RTableData) : Written :=
  serializeReqRspWithDataObj req fun data ↦ writeRtableObject data.contacts

/-- Serializes a message.  A hello is written with the length that is in its header. -/
def serialize : ProtocolMessage → Written
  | .ulnHello header => return header.write
  | .ulnDiscReq req | .ulnDiscRsp req => serializeUlnReqRspRtable req
  | .queryRouteRsp req | .findNodeRsp req => serializeReqRspRtable req
  | .queryRouteReq req => serializeQueryRouteReq req
  | .findNodeReq req => serializeFindNodeReq req
  | .updateRouteReq req => serializeUpdateRouteReq req
  | .probeReq req => serializeReqRspNoData req
  | .probeRsp req => serializeReqRspNoData req
  | .pathSetupReq req => serializeReqRspNoData req
  | .pathTeardownReq req => serializeReqRspNoData req
  | .error req => serializeError req
  | .storeReq req => serializeReqRspWithDataObj req writeStoreReqDataObject
  | .storeRsp req => serializeReqRspWithDataObj req writeStoreRspDataObject
  | .fetchReq req => serializeReqRspWithDataObj req writeFetchReqDataObject
  | .fetchRsp req => serializeReqRspWithDataObj req writeFetchRspDataObject

end Format

end Kira
