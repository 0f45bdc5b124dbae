import Kira.Domain.ProtocolMessage.Wire

/-!
# Reading messages

A message is its common header and a payload, a sequence of objects, each with its type and length
in front.  Objects may come in any order.  The payload is gone through once for what all messages
have in common, and a second time for the data of a message of its kind; other objects are skipped.

The model is the program with its debug assertions and overflow checks on, so an underflow is a
panic.  Loops whose rounds depend on what is read have a bound on the number of rounds that they
cannot exceed; running out of rounds is a panic as well.  The clock is read for each contact.  No
two readings are made with the same number of bytes left, so that number tells which reading it is.
-/

set_option autoImplicit false

namespace Kira

abbrev Clock := Nat → Timestamp

inductive ErrorKind where
  | invalidData
  | invalidInput
  | unsupported
  deriving DecidableEq

inductive FormatError where
  | io (kind : ErrorKind) (message : String)
  | truncatedHeader
  | emptyPath
  deriving DecidableEq

namespace FormatError

def invalidData (message : String) : FormatError := .io .invalidData message

end FormatError

/-- A byte as a hexadecimal number. -/
def hex (byte : BitVec 8) : String := "0x" ++ String.ofList (Nat.toDigits 16 byte.toNat)

namespace Format

open Decoder FormatError

/-! ## Objects -/

def readCommonObjectHeader : Decoder FormatError CommonObjectHeader :=
  mapErr (fun _ ↦ .custom .truncatedHeader) do
    let objectType ← readUint 1
    let objectLength ← readUint 2
    return ⟨.ofByte (.ofNat 8 objectType), objectLength⟩

variable {σ ρ δ β : Type}

/-- The loop over the objects of a payload.  An object either adds to what has been found so far, or
ends the search.  If none does, the number of bytes consumed is returned too. -/
def parseObjects (payloadLen : Nat) (exceeds : CommonObjectHeader → Nat → String)
    (handle : σ → CommonObjectHeader → Decoder FormatError (σ ⊕ ρ)) :
    (rounds payloadConsumed : Nat) → σ → Decoder FormatError ((σ × Nat) ⊕ ρ)
  | 0, payloadConsumed, found =>
    if payloadConsumed < payloadLen then stop "out of rounds"
    else return .inl (found, payloadConsumed)
  | rounds + 1, payloadConsumed, found => do
    if payloadConsumed < payloadLen then
      let header ← readCommonObjectHeader
      if payloadConsumed + 3 + header.objectLength > payloadLen then
        fail (invalidData (exceeds header payloadConsumed))
      else
        match ← within header.objectLength (handle found header) with
        | .inl found =>
          parseObjects payloadLen exceeds handle rounds
            (payloadConsumed + 3 + header.objectLength) found
        | .inr result => return .inr result
    else return .inl (found, payloadConsumed)

def exceedsPayload (payloadLen : Nat) (header : CommonObjectHeader) (payloadConsumed : Nat) :
    String :=
  let objectLength := header.objectLength
  s!"object length exceeds payload (object length = {objectLength}, payload length = " ++
    s!"{payloadLen}, consumed = {payloadConsumed})"

/-- Goes through a payload for the object of this type, and reads that. -/
def parseDataObject (type : ProtocolObjectType) (missing : Nat → String)
    (read : Nat → Decoder FormatError δ) (payload : Bytes) : Decoder FormatError δ :=
  nested payload do
    match ← parseObjects payload.length (exceedsPayload payload.length)
        (fun (_ : Unit) header ↦ do
          if header.objectType = type then
            return .inr (← read header.objectLength)
          else
            skip header.objectLength
            return .inl ()) payload.length 0 () with
    | .inl (_, payloadConsumed) => fail (invalidData (missing payloadConsumed))
    | .inr data => return data

/-! ## Contacts with their paths -/

/-- What is said about entries that are too short. -/
structure EntryTexts where
  atLeast : Nat → String
  forPath : Nat → Nat → String

def readPath (pathVectorSize : Nat) : Decoder FormatError Path := do
  let ids ← times pathVectorSize NodeId.read
  match Path.tryFrom ids with
  | some path => return path
  | none => fail .emptyPath

def readSafeStateSeqNr : Decoder FormatError SafeStateSeqNr := do
  let ssnRaw ← readUint 4
  match SafeStateSeqNr.tryFrom ssnRaw with
  | some ssn => return ssn
  | none => fail (invalidData s!"invalid state_seq_num {ssnRaw}")

/-- An entry of an object: a contact with its path, followed by `extra` bytes that are read by
`readExtra`.  Returns what remains of the length of the object as well. -/
def parseEntry (clock : Clock) (texts : EntryTexts) (extra : Nat)
    (readExtra : Decoder FormatError β) (objectLengthRemaining : Nat) :
    Decoder FormatError ((Contact × β) × Nat) := do
  if objectLengthRemaining < 2 * NodeId.SIZE + 2 + 4 + 4 + 2 + extra then
    fail (invalidData (texts.atLeast objectLengthRemaining))
  else
    let contactId ← NodeId.read
    let pathVectorSize ← readUint 2
    if objectLengthRemaining < NodeId.SIZE + pathVectorSize + 2 + 4 + 4 + 2 + extra then
      fail (invalidData (texts.forPath objectLengthRemaining
        (NodeId.SIZE + pathVectorSize + 2 + 4 + 4 + 2 + extra)))
    else
      let path ← readPath pathVectorSize
      assert (contactId == path.last) "assertion `left == right` failed"
      let ssn ← readSafeStateSeqNr
      -- the age and the node degree are not used yet
      let _ ← readUint 4
      let _ ← readUint 2
      let value ← readExtra
      let contact := Contact.new (clock (← left)) path ssn
      let entry := NodeId.SIZE + pathVectorSize * NodeId.SIZE + 2 + 4 + 4 + 2 + extra
      assert (entry ≤ objectLengthRemaining) "attempt to subtract with overflow"
      return ((contact, value), objectLengthRemaining - entry)

def parseEntries (clock : Clock) (texts : EntryTexts) (extra : Nat)
    (readExtra : Decoder FormatError β) :
    (rounds objectLengthRemaining : Nat) → Decoder FormatError (List (Contact × β))
  | 0, objectLengthRemaining =>
    if objectLengthRemaining > 0 then stop "out of rounds" else return []
  | rounds + 1, objectLengthRemaining => do
    if objectLengthRemaining > 0 then
      let (entry, objectLengthRemaining) ←
        parseEntry clock texts extra readExtra objectLengthRemaining
      let entries ← parseEntries clock texts extra readExtra rounds objectLengthRemaining
      return entry :: entries
    else return []

/-! ## What messages have in common -/

structure ParsedReqRspPayload where
  sourceRoute : Option SourceRoute
  notVia : NotViaList
  contacts : List Contact
  rtable : List Contact
  rtableRequest : Option (RTableRequestTypeValue × BitVec 8)

def ParsedReqRspPayload.default : ParsedReqRspPayload := ⟨none, .empty, [], [], none⟩

def parseSourceRoute (objectLength : Nat) : Decoder FormatError SourceRoute := do
  if objectLength < 2 then fail (invalidData "source route object too short")
  else
    let index ← readUint 2
    let remaining := objectLength - 2
    if remaining % NodeId.SIZE ≠ 0 then
      fail (invalidData "source route object has invalid length")
    else
      let hopCount := remaining / NodeId.SIZE
      if hopCount < 2 then fail (invalidData "source route without hops")
      else
        let hops ← times hopCount NodeId.read
        let route ← lift (.ok <$> SourceRoute.tryFrom hops)
        let route := SourceRoute.advance^[index - 1] route
        let traveled ← lift (.ok <$> route.traveledHopCount)
        assert (index == traveled) "assertion `left == right` failed"
        return route

def readNotVia : Decoder FormatError NotVia := do
  let src ← NodeId.read
  let dst ← NodeId.read
  let ageRaw ← readUint 4
  return ⟨.new src dst, .ofNat 64 ageRaw⟩

def parseNotViaList (objectLength : Nat) : Decoder FormatError (List NotVia) := do
  if objectLength % 32 ≠ 0 then fail (invalidData "notvialist object has invalid length")
  else times (objectLength / 32) readNotVia

def readContact (clock : Clock) : Decoder FormatError Contact := do
  let contactId ← NodeId.read
  let ssnRaw ← readUint 4
  -- the age and the node degree are not used yet
  let _ ← readUint 4
  let _ ← readUint 2
  match SafeStateSeqNr.tryFrom ssnRaw with
  | some ssn => return Contact.new (clock (← left)) (.ofIds [contactId] (by simp)) ssn
  | none => fail (invalidData s!"invalid state_seq_num {ssnRaw}")

def parseContactList (clock : Clock) (objectLength : Nat) : Decoder FormatError (List Contact) := do
  if objectLength % 24 ≠ 0 then fail (invalidData "contactlist object has invalid length")
  else times (objectLength / 24) (readContact clock)

def rtableTexts : EntryTexts where
  atLeast remaining :=
    let least := 2 * NodeId.SIZE + 2 + 4 + 4 + 2
    s!"rtable-entry object to short (length = {remaining}, expected at least = {least})"
  forPath remaining expected :=
    s!"rtable-entry object too short (length = {remaining}, expected = {expected})"

def parseRtable (clock : Clock) (objectLength : Nat) : Decoder FormatError (List Contact) := do
  let entries ← parseEntries clock rtableTexts 0 (return ()) objectLength objectLength
  return entries.map Prod.fst

def parseRtableRequest (objectLength : Nat) :
    Decoder FormatError (RTableRequestTypeValue × BitVec 8) := do
  if objectLength ≠ 2 then fail (invalidData "rtable-request object must be exactly 2 bytes")
  else
    let reqTypeRaw ← readUint 1
    let radius ← readUint 1
    return (.ofByte (.ofNat 8 reqTypeRaw), .ofNat 8 radius)

def parseReqRspObject (clock : Clock) (parsed : ParsedReqRspPayload) (header : CommonObjectHeader) :
    Decoder FormatError ParsedReqRspPayload := do
  match header.objectType with
  | .sourceRoute =>
    let route ← parseSourceRoute header.objectLength
    return { parsed with sourceRoute := some route }
  | .notViaList =>
    let entries ← parseNotViaList header.objectLength
    return { parsed with notVia := entries.foldl NotViaList.insert parsed.notVia }
  | .contactList =>
    let contacts ← parseContactList clock header.objectLength
    return { parsed with contacts := parsed.contacts ++ contacts }
  | .rtable =>
    let contacts ← parseRtable clock header.objectLength
    return { parsed with rtable := parsed.rtable ++ contacts }
  | .rtableRequest =>
    let request ← parseRtableRequest header.objectLength
    return { parsed with rtableRequest := some request }
  | _ =>
    skip header.objectLength
    return parsed

def parseReqRspPayloadFromBytes (clock : Clock) (payload : Bytes) :
    Decoder FormatError ParsedReqRspPayload :=
  nested payload do
    match ← parseObjects payload.length
        (fun header _ ↦
          let objectLength := header.objectLength
          let objectType := header.objectType.debug
          s!"object length exceeds payload: {objectLength}, {objectType}")
        (fun parsed header ↦ do
          let parsed ← parseReqRspObject clock parsed header
          return (.inl parsed : ParsedReqRspPayload ⊕ Empty))
        payload.length 0 .default with
    | .inl (parsed, _) => return parsed

/-! ## Data of single kinds of messages -/

def readLink : Decoder FormatError (NodeId × Link) := do
  let source ← NodeId.read
  let first ← NodeId.read
  let second ← NodeId.read
  return (source, .new first second)

def parseErrorDataObject (objectLength : Nat) : Decoder FormatError ErrorData := do
  if objectLength < 1 then
    fail (invalidData
      s!"error-data object too short (length = {objectLength}, expected at least 1)")
  else
    let kind := BitVec.ofNat 8 (← readUint 1)
    let expectedLen := 1 + NodeId.SIZE * 3
    match kind.toNat with
    | 0x0a =>
      if objectLength ≠ 1 then
        fail (invalidData
          s!"dead-end error-data object must be exactly 1 byte (length = {objectLength})")
      else return .deadEnd
    | 0x05 =>
      if objectLength ≠ expectedLen then
        fail (invalidData <|
          s!"segment-failure error-data object has invalid length (length = {objectLength}, " ++
            s!"expected = {expectedLen})")
      else
        let (source, link) ← readLink
        return .segmentFailure link source
    | 0x0b =>
      if objectLength ≠ expectedLen then
        fail (invalidData <|
          s!"route failure wrong hop error-data object has invalid length (length = " ++
            s!"{objectLength}, expected = {expectedLen})")
      else
        let (source, link) ← readLink
        return .routeFailureWrongHop link source
    | _ =>
      let other := hex kind
      fail (invalidData s!"unknown error-data kind: {other}")

/-- Unlike the others, this one reads on after the object, and takes the last one. -/
def parseErrorDataFromBytes (payload : Bytes) : Decoder FormatError ErrorData :=
  nested payload do
    match ← parseObjects payload.length (exceedsPayload payload.length)
        (fun found header ↦ do
          if header.objectType = .errorData then
            let data ← parseErrorDataObject header.objectLength
            return (.inl (some data) : Option ErrorData ⊕ Empty)
          else
            skip header.objectLength
            return .inl found)
        payload.length 0 none with
    | .inl (some data, _) => return data
    | .inl (none, payloadConsumed) =>
      fail (invalidData
        s!"missing error-data object in Error message (consumed = {payloadConsumed})")

def parseStoreReqDataObject (objectLength : Nat) : Decoder FormatError (StoreReqData LHTInput) := do
  let least := NodeId.SIZE + 2
  if objectLength < least then
    fail (invalidData
      s!"store-req-data object too short (length = {objectLength}, expected at least {least})")
  else
    let handle ← NodeId.read
    let dataLen ← readUint 2
    let minLen := NodeId.SIZE + 2 + dataLen
    let maxLen := minLen + 8
    if objectLength ≠ minLen ∧ objectLength ≠ maxLen then
      fail (invalidData <|
        s!"invalid store-req-data object length (length = {objectLength}, expected = {minLen} " ++
          s!"or {maxLen})")
    else
      let data ← readExact dataLen
      if objectLength = minLen then return ⟨handle, data, none⟩
      else
        let ageMs ← readUint 8
        return ⟨handle, data, some (.ofNat 64 ageMs)⟩

def parseStoreReqDataFromBytes : Bytes → Decoder FormatError (StoreReqData LHTInput) :=
  parseDataObject .storeReqData (fun _ ↦ "missing store-req-data object") parseStoreReqDataObject

def parseStoreRspDataObject (objectLength : Nat) : Decoder FormatError StoreRspData := do
  if objectLength ≠ 1 then
    fail (invalidData
      s!"store-rsp-data object must be exactly 1 byte (length = {objectLength})")
  else
    let status := BitVec.ofNat 8 (← readUint 1)
    match status.toNat with
    | 0x00 => return ⟨.ok .created⟩
    | 0x01 => return ⟨.ok .inserted⟩
    | 0x02 => return ⟨.ok .updated⟩
    | _ =>
      let other := hex status
      fail (invalidData s!"invalid store-rsp status: {other}")

def parseStoreRspDataFromBytes : Bytes → Decoder FormatError StoreRspData :=
  parseDataObject .storeRspData (fun _ ↦ "missing store-rsp-data object") parseStoreRspDataObject

def parseFetchReqDataObject (objectLength : Nat) : Decoder FormatError FetchReqData := do
  if objectLength ≠ NodeId.SIZE then
    let size := NodeId.SIZE
    fail (invalidData
      s!"fetch-req-data object has invalid length (length = {objectLength}, expected = {size})")
  else return ⟨← NodeId.read⟩

def parseFetchReqDataFromBytes : Bytes → Decoder FormatError FetchReqData :=
  parseDataObject .fetchReqData (fun _ ↦ "missing fetch-req-data object") parseFetchReqDataObject

/-- The values in a response.  Returns how many bytes of the object have been consumed as well. -/
def parseFetchEntries (objectLength : Nat) :
    (entryCount consumedInside : Nat) → Decoder FormatError (LHTOutput × Nat)
  | 0, consumedInside => return ([], consumedInside)
  | entryCount + 1, consumedInside => do
    let entryLen ← readUint 2
    if consumedInside + 2 + entryLen > objectLength then
      fail (invalidData <|
        s!"fetch-rsp entry exceeds object length (entry length = {entryLen}, object length = " ++
          s!"{objectLength})")
    else
      let item ← readExact entryLen
      let (entries, consumedInside) ←
        parseFetchEntries objectLength entryCount (consumedInside + 2 + entryLen)
      return (item :: entries, consumedInside)

def parseFetchRspDataObject (objectLength : Nat) :
    Decoder FormatError (FetchRspData LHTOutput) := do
  if objectLength < 1 then
    fail (invalidData
      s!"fetch-rsp-data object too short (length = {objectLength}, expected at least 1)")
  else
    let status := BitVec.ofNat 8 (← readUint 1)
    match status.toNat with
    | 0x01 =>
      if objectLength ≠ 1 then
        fail (invalidData
          s!"fetch-rsp not-found object must be exactly 1 byte (length = {objectLength})")
      else return ⟨.error .notFoundErr⟩
    | 0x00 =>
      if objectLength < 3 then
        fail (invalidData
          s!"fetch-rsp ok object too short (length = {objectLength}, expected at least 3)")
      else
        let entryCount ← readUint 2
        let (entries, consumedInside) ← parseFetchEntries objectLength entryCount 3
        if consumedInside ≠ objectLength then
          fail (invalidData <|
            s!"fetch-rsp-data object has trailing bytes (length = {objectLength}, consumed = " ++
              s!"{consumedInside})")
        else return ⟨.ok entries⟩
    | _ =>
      let other := hex status
      fail (invalidData s!"invalid fetch-rsp status: {other}")

def parseFetchRspDataFromBytes : Bytes → Decoder FormatError (FetchRspData LHTOutput) :=
  parseDataObject .fetchRspData
    (fun payloadConsumed ↦ s!"missing fetch-rsp-data object (consumed = {payloadConsumed})")
    parseFetchRspDataObject

def rtableUpdateTexts : EntryTexts where
  atLeast remaining :=
    let least := NodeId.SIZE + 5
    s!"rtable-update-entry object too short (length = {remaining}, expected at least {least})"
  forPath remaining expected :=
    s!"rtable-update-entry object too short (length = {remaining}, expected = {expected})"

def readAction : Decoder FormatError RouteUpdateActionType := do
  return .ofByte (.ofNat 8 (← readUint 1))

/-- An entry of a map with contacts as keys. -/
def insertAction (actions : List (Contact × RouteUpdateActionType))
    (entry : Contact × RouteUpdateActionType) : List (Contact × RouteUpdateActionType) :=
  if actions.any (fun existing ↦ existing.1.eq entry.1) then
    actions.map fun existing ↦
      if existing.1.eq entry.1 then (existing.1, entry.2) else existing
  else actions ++ [entry]

/-- A message without such an object has no contacts. -/
def parseRtableUpdateInfoFromBytes (clock : Clock) (payload : Bytes) :
    Decoder FormatError (List (Contact × RouteUpdateActionType)) :=
  nested payload do
    match ← parseObjects payload.length (exceedsPayload payload.length)
        (fun (_ : Unit) header ↦ do
          if header.objectType = .rtableUpdateInfo then
            let entries ← parseEntries clock rtableUpdateTexts 1 readAction header.objectLength
              header.objectLength
            return .inr (entries.foldl insertAction [])
          else
            skip header.objectLength
            return .inl ()) payload.length 0 () with
    | .inl _ => return []
    | .inr actions => return actions

/-! ## Messages -/

def readPayloadBytes (header : CommonHeader) : Decoder FormatError Bytes := do
  assert (CommonHeader.LEN ≤ header.msgLength.toNat) "attempt to subtract with overflow"
  readExact (header.msgLength.toNat - CommonHeader.LEN)

def deserializeReqRspPayload (clock : Clock) (header : CommonHeader) :
    Decoder FormatError ParsedReqRspPayload := do
  let payload ← readPayloadBytes header
  parseReqRspPayloadFromBytes clock payload

def requireSourceRoute (parsed : ParsedReqRspPayload) (missing : String) :
    Decoder FormatError SourceRoute :=
  match parsed.sourceRoute with
  | some route => return route
  | none => fail (invalidData missing)

def deserializeReqRspNoData (clock : Clock) (header : CommonHeader) (data : δ)
    (msgType : ReqRspMessage δ → ProtocolMessage) : Decoder FormatError ProtocolMessage := do
  let parsed ← deserializeReqRspPayload clock header
  let sourceRoute ← requireSourceRoute parsed "missing source route"
  return msgType ⟨header, data, some parsed.notVia, sourceRoute⟩

def deserializeReqRspWithPayloadData (clock : Clock) (header : CommonHeader)
    (parseData : Bytes → Decoder FormatError δ) (msgType : ReqRspMessage δ → ProtocolMessage)
    (missing : String) : Decoder FormatError ProtocolMessage := do
  let payload ← readPayloadBytes header
  let parsed ← parseReqRspPayloadFromBytes clock payload
  let data ← parseData payload
  let sourceRoute ← requireSourceRoute parsed missing
  return msgType ⟨header, data, some parsed.notVia, sourceRoute⟩

/-- A response that carries contacts with their paths. -/
def deserializeReqRspRtable (clock : Clock) (header : CommonHeader)
    (msgType : ReqRspMessage RTableData → ProtocolMessage) (missing : String) :
    Decoder FormatError ProtocolMessage := do
  let parsed ← deserializeReqRspPayload clock header
  let sourceRoute ← requireSourceRoute parsed missing
  return msgType ⟨header, ⟨parsed.rtable⟩, some parsed.notVia, sourceRoute⟩

def deserializeUlnDisc (clock : Clock) (header : CommonHeader)
    (msgType : ULNReqRspMessage RTableData → ProtocolMessage) :
    Decoder FormatError ProtocolMessage := do
  let parsed ← deserializeReqRspPayload clock header
  return msgType ⟨header, ⟨parsed.contacts⟩⟩

def deserializeQueryRouteReq (clock : Clock) (header : CommonHeader) :
    Decoder FormatError ProtocolMessage := do
  let parsed ← deserializeReqRspPayload clock header
  let sourceRoute ← requireSourceRoute parsed "missing source-route object in QueryRouteReq"
  match parsed.rtableRequest with
  | none => fail (invalidData "missing rtable-request object in QueryRouteReq")
  | some (requestType, _) =>
    match requestType with
    | .ulnVicinity =>
      return .queryRouteReq ⟨header, ⟨.underlayNeighbors⟩, some parsed.notVia, sourceRoute⟩
    | _ => fail (invalidData "unsupported rtable-request for QueryRouteReq")

def deserializeFindNodeReq (clock : Clock) (header : CommonHeader) :
    Decoder FormatError ProtocolMessage := do
  let parsed ← deserializeReqRspPayload clock header
  let sourceRoute ← requireSourceRoute parsed "missing source-route object in FindNodeReq"
  match parsed.rtableRequest with
  | none => fail (invalidData "missing rtable-request object in FindNodeReq")
  | some (_, radius) =>
    if h : 0 < radius.toNat then
      return .findNodeReq ⟨header, ⟨radius.toNat, h⟩, some parsed.notVia, sourceRoute⟩
    else fail (invalidData "FindNodeReq radius in rtable-request must be > 0")

def deserializeUpdateRouteReq (clock : Clock) (header : CommonHeader) :
    Decoder FormatError ProtocolMessage := do
  let payload ← readPayloadBytes header
  let parsed ← parseReqRspPayloadFromBytes clock payload
  let contactActions ← parseRtableUpdateInfoFromBytes clock payload
  let sourceRoute ← requireSourceRoute parsed "missing source-route object in UpdateRouteReq"
  return .updateRouteReq ⟨header, some parsed.notVia, contactActions, sourceRoute⟩

def fromReader (clock : Clock) : Decoder FormatError ProtocolMessage := do
  let buf ← readExact CommonHeader.LEN
  let header ← nested buf CommonHeader.read
  match header.msgType with
  | .ulnHello => return .ulnHello header
  | .ulnDiscReq => deserializeUlnDisc clock header .ulnDiscReq
  | .ulnDiscRsp => deserializeUlnDisc clock header .ulnDiscRsp
  | .queryRouteReq => deserializeQueryRouteReq clock header
  | .queryRouteRsp =>
    deserializeReqRspRtable clock header .queryRouteRsp
      "missing source-route object in QueryRouteRsp"
  | .findNodeReq => deserializeFindNodeReq clock header
  | .findNodeRsp =>
    deserializeReqRspRtable clock header .findNodeRsp "missing source-route object in FindNodeRsp"
  | .updateRouteReq => deserializeUpdateRouteReq clock header
  | .probeReq => deserializeReqRspNoData clock header ⟨⟩ .probeReq
  | .probeRsp => deserializeReqRspNoData clock header ⟨⟩ .probeRsp
  | .pathSetupReq => deserializeReqRspNoData clock header ⟨⟩ .pathSetupReq
  | .pathTeardownReq => deserializeReqRspNoData clock header ⟨⟩ .pathTeardownReq
  | .error =>
    deserializeReqRspWithPayloadData clock header parseErrorDataFromBytes .error
      "missing source-route object in Error msg"
  | .storeReq =>
    deserializeReqRspWithPayloadData clock header parseStoreReqDataFromBytes .storeReq
      "missing source-route object"
  | .storeRsp =>
    deserializeReqRspWithPayloadData clock header parseStoreRspDataFromBytes .storeRsp
      "missing source-route object"
  | .fetchReq =>
    deserializeReqRspWithPayloadData clock header parseFetchReqDataFromBytes .fetchReq
      "missing source-route object"
  | .fetchRsp =>
    deserializeReqRspWithPayloadData clock header parseFetchRspDataFromBytes .fetchRsp
      "missing source-route object"
  | .other otherKind =>
    let kind := hex otherKind
    fail (.io .unsupported s!"msg_type {kind}, currently not supported by binrw")
  | .pathSetupRsp =>
    fail (.io .unsupported "Unexpected ProtocolMessageKind, currently not supported by binrw")

end Format

end Kira
