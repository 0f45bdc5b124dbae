import Kira.Format.Objects

/-!
# Messages are read back

A message that has been written is read back as one with the same content.  That is not equality:
the length in the header is filled in, the age of a link and all that is known of a contact besides
its id, its path and its state sequence number are not sent, and a message without links is read
back with an empty list of them (`SameContent`).

Two things can be lost in an update of routes.  An action with an unassigned code may hold a code
that is assigned, and it is read back as the action of that code.  And the contacts are the keys of
a map: those that differ only in what is not sent are distinct when they are written, but when they
are read the clock alone tells them apart.  `Unambiguous` excludes both.
-/

set_option autoImplicit false

namespace Kira

namespace Format

open Decoder

/-! ## The same content -/

/-- All of a header but the length of the message. -/
def SameHeader (header header' : CommonHeader) : Prop :=
  header' = { header with msgLength := header'.msgLength }

/-- The same links are not to be used. -/
def SameLinks (notVia notVia' : Option NotViaList) : Prop :=
  ∀ link, link ∈ notViaLinks notVia' ↔ link ∈ notViaLinks notVia

/-- The same contacts with the same paths, in the same order. -/
def SameRoutes (data data' : RTableData) : Prop :=
  data'.contacts.map summary = data.contacts.map summary

/-- The same contacts, whose paths are not sent. -/
def SameNeighbors (data data' : RTableData) : Prop :=
  data'.contacts.map identity = data.contacts.map identity

/-- The content of a message between two nodes that need not be neighbours. -/
structure SameReqRsp {δ : Type} (same : δ → δ → Prop) (req req' : ReqRspMessage δ) : Prop where
  header : SameHeader req.commonHeader req'.commonHeader
  data : same req.data req'.data
  notVia : SameLinks req.notVia req'.notVia
  sourceRoute : req'.sourceRoute = req.sourceRoute

/-- The content of a message to an underlay neighbour. -/
structure SameULN (req req' : ULNReqRspMessage RTableData) : Prop where
  header : SameHeader req.commonHeader req'.commonHeader
  data : SameNeighbors req.data req'.data

/-- The content of an update.  The contacts are the keys of a map, so they have no order. -/
structure SameUpdate (req req' : UpdateRouteReq) : Prop where
  header : SameHeader req.commonHeader req'.commonHeader
  notVia : SameLinks req.notVia req'.notVia
  actions : (req'.contactActions.map fun entry ↦ (summary entry.1, entry.2)).Perm
    (req.contactActions.map fun entry ↦ (summary entry.1, entry.2))
  sourceRoute : req'.sourceRoute = req.sourceRoute

/-- Two messages of the same kind with the same content. -/
inductive SameContent : ProtocolMessage → ProtocolMessage → Prop
  | ulnHello {header header'} : SameHeader header header' →
    SameContent (.ulnHello header) (.ulnHello header')
  | ulnDiscReq {req req'} : SameULN req req' → SameContent (.ulnDiscReq req) (.ulnDiscReq req')
  | ulnDiscRsp {req req'} : SameULN req req' → SameContent (.ulnDiscRsp req) (.ulnDiscRsp req')
  | queryRouteReq {req req'} : SameReqRsp Eq req req' →
    SameContent (.queryRouteReq req) (.queryRouteReq req')
  | queryRouteRsp {req req'} : SameReqRsp SameRoutes req req' →
    SameContent (.queryRouteRsp req) (.queryRouteRsp req')
  | findNodeReq {req req'} : SameReqRsp Eq req req' →
    SameContent (.findNodeReq req) (.findNodeReq req')
  | findNodeRsp {req req'} : SameReqRsp SameRoutes req req' →
    SameContent (.findNodeRsp req) (.findNodeRsp req')
  | probeReq {req req'} : SameReqRsp Eq req req' → SameContent (.probeReq req) (.probeReq req')
  | probeRsp {req req'} : SameReqRsp Eq req req' → SameContent (.probeRsp req) (.probeRsp req')
  | pathSetupReq {req req'} : SameReqRsp Eq req req' →
    SameContent (.pathSetupReq req) (.pathSetupReq req')
  | pathTeardownReq {req req'} : SameReqRsp Eq req req' →
    SameContent (.pathTeardownReq req) (.pathTeardownReq req')
  | updateRouteReq {req req'} : SameUpdate req req' →
    SameContent (.updateRouteReq req) (.updateRouteReq req')
  | error {req req'} : SameReqRsp Eq req req' → SameContent (.error req) (.error req')
  | storeReq {req req'} : SameReqRsp Eq req req' → SameContent (.storeReq req) (.storeReq req')
  | storeRsp {req req'} : SameReqRsp Eq req req' → SameContent (.storeRsp req) (.storeRsp req')
  | fetchReq {req req'} : SameReqRsp Eq req req' → SameContent (.fetchReq req) (.fetchReq req')
  | fetchRsp {req req'} : SameReqRsp Eq req req' → SameContent (.fetchRsp req) (.fetchRsp req')

/-- The contacts that are listed in a message. -/
def listedContacts : ProtocolMessage → List Contact
  | .ulnDiscReq req | .ulnDiscRsp req => req.data.contacts
  | .queryRouteRsp req | .findNodeRsp req => req.data.contacts
  | .updateRouteReq req => req.contactActions.map Prod.fst
  | _ => []

/-- What a message has to be for its content to be representable. -/
structure Sendable (message : ProtocolMessage) : Prop where
  kind : message.commonHeader.msgType = message.kind
  /-- The number of contacts asked for is sent in one byte. -/
  neighborhood : ∀ req, message = .findNodeReq req → req.data.neighborhood ≤ 255
  reached : ∀ contact ∈ listedContacts message, Reached contact

/-- The actions of an update are told apart by their codes, and its contacts by what is sent of
them. -/
def Unambiguous (message : ProtocolMessage) : Prop :=
  ∀ req, message = .updateRouteReq req →
    (∀ entry ∈ req.contactActions, entry.2.Assigned) ∧
      (req.contactActions.map fun entry ↦ summary entry.1).Nodup

/-- If the message can be written, then reading what has been written succeeds and returns a message
with the same content. -/
def RoundTrips (clock : Clock) (message : ProtocolMessage) : Prop :=
  ∀ bytes, (serialize message).run = .ok (.ok bytes) →
    ∃ message' c, (fromReader clock).run (.start bytes) = .ok (.ok message', c) ∧
      SameContent message message'

/-! ## The first pass -/

variable (clock : Clock)

/-- What is done with an object in the first pass. -/
def firstPass (parsed : ParsedReqRspPayload) (header : CommonObjectHeader) :
    Decoder FormatError (ParsedReqRspPayload ⊕ Empty) := do
  let parsed ← parseReqRspObject clock parsed header
  return .inl parsed

theorem decodes_parseReqRspPayloadFromBytes {payload : Bytes}
    {R : ParsedReqRspPayload → ParsedReqRspPayload → Prop}
    (h : Passes (firstPass clock) payload R) (hsmall : payload.length < 2 ^ 16) :
    (parseReqRspPayloadFromBytes clock payload).Decodes [] (R .default) := by
  refine decodes_nested ((h.finish hsmall .default).bind_accepted fun r mid hmid ↦ ?_)
  obtain ⟨⟨parsed, rfl, hR⟩, hover⟩ := hmid
  exact judged_pure ⟨hR, hover⟩

variable {type : ProtocolObjectType}

theorem passes_firstPass {body : Bytes}
    {R : ParsedReqRspPayload → ParsedReqRspPayload → Prop} (htype : ∀ raw, type ≠ .other raw)
    (h : ∀ parsed, (parseReqRspObject clock parsed ⟨type, body.length⟩).Decodes body (R parsed)) :
    Passes (firstPass clock) (object type body) R :=
  passes_object htype fun parsed ↦ (h parsed).bind_pure fun parsed' hparsed ↦
    ⟨parsed', rfl, hparsed⟩

theorem passes_sourceRoute {route : SourceRoute} (hpos : 0 < route.progress)
    (hlt : route.progress < route.ids.length) (hindex : route.progress ≤ 1023) :
    Passes (firstPass clock) (object .sourceRoute (sourceRouteBody route))
      fun parsed parsed' ↦ parsed' = { parsed with sourceRoute := some route } := by
  refine passes_firstPass clock (by simp) fun parsed ↦ ?_
  exact (decodes_parseSourceRoute hpos hlt hindex).bind_pure fun route' hroute ↦ by rw [hroute]

/-- The links are added to those that have been found. -/
def AddsLinks (links : List Link) (parsed parsed' : ParsedReqRspPayload) : Prop :=
  ∃ entries : List NotVia, entries.map NotVia.link = links ∧
    parsed' = { parsed with notVia := entries.foldl NotViaList.insert parsed.notVia }

theorem passes_notVia (notVia : Option NotViaList) :
    Passes (firstPass clock) (writeNotvialistObject notVia) (AddsLinks (notViaLinks notVia)) := by
  rw [writeNotvialistObject_eq]
  generalize notViaLinks notVia = links
  split
  · rename_i hnil
    subst hnil
    exact passes_nil.imp fun parsed parsed' h ↦ ⟨[], rfl, h.symm⟩
  · refine passes_firstPass clock (by simp) fun parsed ↦ ?_
    exact (decodes_parseNotViaList links).bind_pure fun entries hentries ↦ ⟨entries, hentries, rfl⟩

theorem passes_contactList (contacts : List Contact) {bytes : Bytes}
    (h : (writeContactlistObject contacts).run = .ok (.ok bytes)) :
    Passes (firstPass clock) bytes fun parsed parsed' ↦
      ∃ contacts' : List Contact, contacts'.map identity = contacts.map identity ∧
        parsed' = { parsed with contacts := parsed.contacts ++ contacts' } := by
  rw [writeContactlistObject_eq h]
  split
  · rename_i hnil
    subst hnil
    exact passes_nil.imp fun parsed parsed' h ↦ ⟨[], rfl, by simp [← h]⟩
  · refine passes_firstPass clock (by simp) fun parsed ↦ ?_
    exact (decodes_parseContactList clock contacts).bind_pure fun contacts' hcontacts ↦
      ⟨contacts', hcontacts, rfl⟩

theorem passes_rtable {contacts : List Contact} (hreached : ∀ c ∈ contacts, Reached c)
    {bytes : Bytes} (h : (writeRtableObject contacts).run = .ok (.ok bytes)) :
    Passes (firstPass clock) bytes fun parsed parsed' ↦
      ∃ contacts' : List Contact, contacts'.map summary = contacts.map summary ∧
        parsed' = { parsed with rtable := parsed.rtable ++ contacts' } := by
  obtain ⟨hsize, hbytes⟩ := writeRtableObject_eq h
  rw [hbytes]
  split
  · rename_i hnil
    subst hnil
    exact passes_nil.imp fun parsed parsed' h ↦ ⟨[], rfl, by simp [← h]⟩
  · refine passes_firstPass clock (by simp) fun parsed ↦ ?_
    have hrtable := decodes_parseRtable clock hreached hsize
    generalize entriesBody _ _ = body at hrtable ⊢
    exact hrtable.bind_pure fun contacts' hcontacts ↦ ⟨contacts', hcontacts, rfl⟩

theorem passes_rtableRequest {type : RTableRequestTypeValue}
    (htype : RTableRequestTypeValue.ofByte type.toByte = type) (radius : BitVec 8) :
    Passes (firstPass clock) (writeRtableRequestObject type radius) fun parsed parsed' ↦
      parsed' = { parsed with rtableRequest := some (type, radius) } := by
  have hwrite :
      writeRtableRequestObject type radius = object .rtableRequest [type.toByte, radius] :=
    rfl
  rw [hwrite]
  refine passes_firstPass clock (by simp) fun parsed ↦ ?_
  exact (decodes_parseRtableRequest htype radius).bind_pure fun request hrequest ↦ by rw [hrequest]

theorem passes_unused (htype : ∀ raw, type ≠ .other raw)
    (hunused : ∀ parsed length, parseReqRspObject clock parsed ⟨type, length⟩ = do
      skip length
      return parsed) (body : Bytes) : Passes (firstPass clock) (object type body) Eq := by
  refine passes_firstPass clock htype fun parsed ↦ ?_
  rw [hunused]
  exact (decodes_skip body).bind_pure fun _ _ ↦ rfl

/-! ### The route and the links -/

theorem mem_links_foldl_insert (entries : List NotVia) (notVia : NotViaList) (link : Link) :
    link ∈ (entries.foldl NotViaList.insert notVia).entries.map NotVia.link ↔
      link ∈ notVia.entries.map NotVia.link ∨ link ∈ entries.map NotVia.link := by
  induction entries generalizing notVia with
  | nil => simp
  | cons entry entries ih =>
    have hinsert : link ∈ (notVia.insert entry).entries.map NotVia.link ↔
        link ∈ notVia.entries.map NotVia.link ∨ link = entry.link := by
      unfold NotViaList.insert
      split
      · rename_i hmem
        exact ⟨.inl, fun h ↦ h.elim id fun heq ↦ heq ▸ hmem⟩
      · simp [eq_comm]
    rw [List.foldl_cons, ih, hinsert, List.map_cons, List.mem_cons, or_assoc]

/-- What the messages that are routed have in common has been found. -/
structure Found (route : SourceRoute) (notVia : Option NotViaList) (parsed : ParsedReqRspPayload) :
    Prop where
  sourceRoute : parsed.sourceRoute = some route
  notVia : SameLinks notVia (some parsed.notVia)

theorem sameLinks_of_adds {notVia : Option NotViaList} {entries : List NotVia}
    (h : entries.map NotVia.link = notViaLinks notVia) :
    SameLinks notVia (some (entries.foldl NotViaList.insert .empty)) := by
  intro link
  have hmem := mem_links_foldl_insert entries .empty link
  rw [h] at hmem
  exact hmem.trans (by simp [NotViaList.empty])

/-- The route and the links of a message, in either order. -/
def Common (route : SourceRoute) (links : List Link)
    (parsed parsed' : ParsedReqRspPayload) : Prop :=
  ∃ entries : List NotVia, entries.map NotVia.link = links ∧
    parsed' = { parsed with
      sourceRoute := some route
      notVia := entries.foldl NotViaList.insert parsed.notVia }

section Routed

variable {sourceRoute : SourceRoute} {notVia : Option NotViaList} {route : Bytes}

variable (notVia) in
theorem passes_routeAndLinks (h : (writeSourceRouteObject sourceRoute).run = .ok (.ok route)) :
    Passes (firstPass clock) (route ++ writeNotvialistObject notVia)
      (Common sourceRoute (notViaLinks notVia)) := by
  obtain ⟨⟨hpos, hlt, hindex⟩, hroute⟩ := writeSourceRouteObject_eq h
  rw [hroute]
  refine ((passes_sourceRoute clock hpos hlt hindex).append (passes_notVia clock notVia)).imp ?_
  rintro parsed parsed' ⟨mid, rfl, entries, hentries, rfl⟩
  exact ⟨entries, hentries, rfl⟩

variable (notVia) in
theorem passes_linksAndRoute (h : (writeSourceRouteObject sourceRoute).run = .ok (.ok route)) :
    Passes (firstPass clock) (writeNotvialistObject notVia ++ route)
      (Common sourceRoute (notViaLinks notVia)) := by
  obtain ⟨⟨hpos, hlt, hindex⟩, hroute⟩ := writeSourceRouteObject_eq h
  rw [hroute]
  refine ((passes_notVia clock notVia).append (passes_sourceRoute clock hpos hlt hindex)).imp ?_
  rintro parsed parsed' ⟨mid, ⟨entries, hentries, rfl⟩, rfl⟩
  exact ⟨entries, hentries, rfl⟩

theorem found_of_common {parsed parsed' : ParsedReqRspPayload} (hstart : parsed.notVia = .empty)
    (h : Common sourceRoute (notViaLinks notVia) parsed parsed') :
    Found sourceRoute notVia parsed' := by
  obtain ⟨entries, hentries, rfl⟩ := h
  refine ⟨rfl, ?_⟩
  rw [hstart]
  exact sameLinks_of_adds hentries

end Routed

/-! ## The second pass -/

section SecondPass

variable {σ ρ δ : Type} {handle : σ → CommonObjectHeader → Decoder FormatError (σ ⊕ ρ)}

theorem passes_skipped {type : ProtocolObjectType} (htype : ∀ raw, type ≠ .other raw)
    (hskip : ∀ found length, handle found ⟨type, length⟩ = do
      skip length
      return .inl found) (body : Bytes) : Passes handle (object type body) Eq := by
  refine passes_object htype fun found ↦ ?_
  rw [hskip]
  exact (decodes_skip body).bind_pure fun _ _ ↦ ⟨found, rfl, rfl⟩

theorem passes_skipped_notVia
    (hskip : ∀ found length, handle found ⟨.notViaList, length⟩ = do
      skip length
      return .inl found) (notVia : Option NotViaList) :
    Passes handle (writeNotvialistObject notVia) Eq := by
  rw [writeNotvialistObject_eq]
  split
  · exact passes_nil
  · exact passes_skipped (by simp) hskip _

theorem Passes.append_eq {bytes bytes' : Bytes} (h : Passes handle bytes Eq)
    (h' : Passes handle bytes' Eq) : Passes handle (bytes ++ bytes') Eq :=
  (h.append h').imp fun _ _ ⟨_, hmid, hend⟩ ↦ hmid.trans hend

theorem passes_skipped_common {sourceRoute : SourceRoute} {route : Bytes}
    (h : (writeSourceRouteObject sourceRoute).run = .ok (.ok route))
    (hroute : ∀ found length, handle found ⟨.sourceRoute, length⟩ = do
      skip length
      return .inl found)
    (hlinks : ∀ found length, handle found ⟨.notViaList, length⟩ = do
      skip length
      return .inl found) (notVia : Option NotViaList) :
    Passes handle (route ++ writeNotvialistObject notVia) Eq := by
  rw [(writeSourceRouteObject_eq h).2]
  exact (passes_skipped (by simp) hroute _).append_eq (passes_skipped_notVia hlinks notVia)

end SecondPass

/-- What is done with an object in the second pass. -/
def secondPass {δ : Type} (type : ProtocolObjectType) (read : Nat → Decoder FormatError δ)
    (_ : Unit) (header : CommonObjectHeader) : Decoder FormatError (Unit ⊕ δ) := do
  if header.objectType = type then return .inr (← read header.objectLength)
  else
    skip header.objectLength
    return .inl ()

/-- The search for the data of a message ends with the object behind the route and the links. -/
theorem decodes_parseDataObject {δ : Type} {sourceRoute : SourceRoute} {route : Bytes}
    (h : (writeSourceRouteObject sourceRoute).run = .ok (.ok route)) (notVia : Option NotViaList)
    (htype : ∀ raw, type ≠ .other raw) (hroute : .sourceRoute ≠ type)
    (hlinks : .notViaList ≠ type) {missing : Nat → String} {read : Nat → Decoder FormatError δ}
    {body : Bytes} {data : δ} (hread : (read body.length).Decodes body (· = data))
    (hsmall : (route ++ writeNotvialistObject notVia ++ object type body).length < 2 ^ 16) :
    (parseDataObject type missing read
      (route ++ writeNotvialistObject notVia ++ object type body)).Decodes [] (· = data) := by
  have hbefore : Passes (secondPass type read) (route ++ writeNotvialistObject notVia) Eq :=
    passes_skipped_common h (fun _ _ ↦ if_neg hroute) (fun _ _ ↦ if_neg hlinks) notVia
  have hfound : ∀ found, (secondPass type read found ⟨type, body.length⟩).Decodes body
      fun r ↦ ∃ result, r = .inr result ∧ result = data := by
    intro found
    rw [secondPass, if_pos rfl]
    exact hread.bind_pure fun data' hdata ↦ ⟨data', rfl, hdata⟩
  refine decodes_nested ((hbefore.stop htype hfound hsmall ()).bind_accepted fun r mid hmid ↦ ?_)
  obtain ⟨⟨data', rfl, hdata⟩, hover⟩ := hmid
  exact judged_pure ⟨hdata, hover⟩

theorem decodes_parseErrorDataFromBytes {sourceRoute : SourceRoute} {route : Bytes}
    (h : (writeSourceRouteObject sourceRoute).run = .ok (.ok route)) (notVia : Option NotViaList)
    (data : ErrorData)
    (hsmall : (writeNotvialistObject notVia ++ (route ++ writeErrorData data)).length < 2 ^ 16) :
    (parseErrorDataFromBytes (writeNotvialistObject notVia ++
      (route ++ writeErrorData data))).Decodes
      [] (· = data) := by
  let handle (found : Option ErrorData) (header : CommonObjectHeader) :
      Decoder FormatError (Option ErrorData ⊕ Empty) := do
    if header.objectType = .errorData then
      let data ← parseErrorDataObject header.objectLength
      return .inl (some data)
    else
      skip header.objectLength
      return .inl found
  have hlinks : Passes handle (writeNotvialistObject notVia) Eq :=
    passes_skipped_notVia (fun _ _ ↦ rfl) notVia
  have hroute : Passes handle route Eq := by
    rw [(writeSourceRouteObject_eq h).2]
    exact passes_skipped (by simp) (fun _ _ ↦ rfl) _
  have hdata : Passes handle (writeErrorData data) fun _ found ↦ found = some data := by
    rw [writeErrorData_eq]
    refine passes_object (by simp) fun found ↦ ?_
    exact (decodes_parseErrorDataObject data).bind_pure fun data' hdata ↦
      ⟨some data', rfl, by rw [hdata]⟩
  refine decodes_nested (((hlinks.append (hroute.append hdata)).finish hsmall none).bind_accepted
    fun r mid hmid ↦ ?_)
  obtain ⟨⟨found, rfl, -, -, -, -, hfound⟩, hover⟩ := hmid
  rw [hfound]
  exact judged_pure ⟨rfl, hover⟩

/-! ## Messages -/

/-- The header as it is written. -/
def filled (header : CommonHeader) (payload : Bytes) : CommonHeader :=
  { header with msgLength := .ofNat 16 (CommonHeader.LEN + payload.length) }

theorem writeHeaderAndPayload_eq {header : CommonHeader} {payload bytes : Bytes}
    (h : (writeHeaderAndPayload header payload).run = .ok (.ok bytes)) :
    CommonHeader.LEN + payload.length < 2 ^ 16 ∧
      bytes = (filled header payload).write ++ payload := by
  unfold writeHeaderAndPayload at h
  dsimp only at h
  split at h
  · cases h
  · rename_i hlength
    exact ⟨by omega, (Written.pure_eq_ok.1 h).symm⟩

variable {header : CommonHeader} {payload : Bytes}

theorem decodes_header_bind {β : Type} {f : CommonHeader → Decoder FormatError β} {holds : β → Prop}
    (hkind : ∀ raw, header.msgType ≠ .other raw) (hf : (f header).Decodes payload holds) :
    (do
      let buf ← readExact CommonHeader.LEN
      let header ← nested buf CommonHeader.read
      f header).Decodes (header.write ++ payload) holds := by
  have hbuf := decodes_readExact (ε := FormatError) header.write
  rw [length_header] at hbuf
  refine hbuf.bind fun buf hbuf ↦ ?_
  rw [hbuf]
  refine (decodes_readHeader hkind).nested.bind_of_nil fun header' hheader ↦ ?_
  rw [hheader]
  exact hf

theorem decodes_readPayloadBytes (hlength : CommonHeader.LEN + payload.length < 2 ^ 16) :
    (readPayloadBytes (filled header payload)).Decodes payload (· = payload) := by
  have hmsgLength : (filled header payload).msgLength.toNat = CommonHeader.LEN + payload.length :=
    Nat.mod_eq_of_lt hlength
  rw [readPayloadBytes, hmsgLength, Nat.add_sub_cancel_left]
  exact (decodes_assert (by simp) _).bind_of_nil fun _ _ ↦ decodes_readExact payload

/-- The bytes are a header and this payload, and `holds` says what is found in the payload. -/
structure WrittenAs (header : CommonHeader) (bytes payload : Bytes)
    (holds : ParsedReqRspPayload → Prop) : Prop where
  length : CommonHeader.LEN + payload.length < 2 ^ 16
  bytes : bytes = (filled header payload).write ++ payload
  first : Passes (firstPass clock) payload fun parsed parsed' ↦ parsed = .default → holds parsed'

variable {clock} {bytes : Bytes} {holds : ParsedReqRspPayload → Prop}

theorem WrittenAs.decodes_parse (h : WrittenAs clock header bytes payload holds) :
    (parseReqRspPayloadFromBytes clock payload).Decodes [] holds := by
  have hlength := h.length
  exact (decodes_parseReqRspPayloadFromBytes clock h.first (by omega)).imp fun _ hparsed ↦
    hparsed rfl

theorem WrittenAs.decodes_payload (h : WrittenAs clock header bytes payload holds) :
    (deserializeReqRspPayload clock (filled header payload)).Decodes payload holds := by
  refine (decodes_readPayloadBytes h.length).bind_nil fun payload' hpayload ↦ ?_
  rw [hpayload]
  exact h.decodes_parse

theorem roundTrip_of_decodes {message : ProtocolMessage}
    (hkind : ∀ raw, header.msgType ≠ .other raw)
    {f : CommonHeader → Decoder FormatError ProtocolMessage}
    (hreader : fromReader clock = do
      let buf ← readExact CommonHeader.LEN
      let header ← nested buf CommonHeader.read
      f header)
    (hf : (f header).Decodes payload (SameContent message)) :
    ∃ message' c,
      (fromReader clock).run (.start (header.write ++ payload)) = .ok (.ok message', c) ∧
      SameContent message message' := by
  rw [hreader, Cursor.start_eq_inside]
  obtain ⟨message', c, hrun, hsame, -⟩ := (decodes_header_bind hkind hf).judged []
  exact ⟨message', c, hrun, hsame⟩

/-- A message that has been written is read back, if its kind leads to a decoder that reads it
back. -/
theorem WrittenAs.roundTrip {message : ProtocolMessage}
    (h : WrittenAs clock header bytes payload holds) (hkind : ∀ raw, header.msgType ≠ .other raw)
    {f : CommonHeader → Decoder FormatError ProtocolMessage}
    (hreader : fromReader clock = do
      let buf ← readExact CommonHeader.LEN
      let header ← nested buf CommonHeader.read
      f header)
    (hf : (f (filled header payload)).Decodes payload (SameContent message)) :
    ∃ message' c, (fromReader clock).run (.start bytes) = .ok (.ok message', c) ∧
      SameContent message message' := by
  rw [h.bytes]
  have hfilled : ∀ raw, (filled header payload).msgType ≠ .other raw := hkind
  exact roundTrip_of_decodes hfilled hreader hf

theorem decodes_requireSourceRoute {parsed : ParsedReqRspPayload} {route : SourceRoute}
    (h : parsed.sourceRoute = some route) (missing : String) :
    (requireSourceRoute parsed missing).Decodes [] (· = route) := by
  rw [requireSourceRoute, h]
  exact decodes_pure rfl

variable {δ : Type} {req : ReqRspMessage δ}

/-- What is found in the payload of a routed message makes up the message again. -/
theorem sameReqRsp_of_found {same : δ → δ → Prop} {data : δ} {parsed : ParsedReqRspPayload}
    (hfound : Found req.sourceRoute req.notVia parsed) (hdata : same req.data data)
    (payload : Bytes) :
    SameReqRsp same req ⟨filled req.commonHeader payload, data, some parsed.notVia,
      req.sourceRoute⟩ :=
  ⟨rfl, hdata, hfound.notVia, rfl⟩

/-! ### Messages without data -/

theorem writtenAs_noData (h : (serializeReqRspNoData req).run = .ok (.ok bytes)) :
    ∃ payload,
      WrittenAs clock req.commonHeader bytes payload (Found req.sourceRoute req.notVia) := by
  obtain ⟨route, hroute, h⟩ := Written.bind_eq_ok.1 h
  obtain ⟨hlength, hbytes⟩ := writeHeaderAndPayload_eq h
  refine ⟨_, hlength, hbytes, (passes_routeAndLinks clock req.notVia hroute).imp ?_⟩
  rintro parsed parsed' hcommon rfl
  exact found_of_common rfl hcommon

theorem decodes_noData {data : δ} (hdata : req.data = data)
    (msgType : ReqRspMessage δ → ProtocolMessage)
    (h : WrittenAs clock req.commonHeader bytes payload (Found req.sourceRoute req.notVia)) :
    (deserializeReqRspNoData clock (filled req.commonHeader payload) data msgType).Decodes payload
      fun message ↦ ∃ req', message = msgType req' ∧ SameReqRsp Eq req req' := by
  refine h.decodes_payload.bind_nil fun parsed hparsed ↦ ?_
  refine (decodes_requireSourceRoute hparsed.sourceRoute _).bind_pure fun route hroute ↦ ?_
  rw [hroute]
  exact ⟨_, rfl, sameReqRsp_of_found hparsed hdata payload⟩

/-! ### Messages with data of their own -/

theorem decodes_withPayloadData {parseData : Bytes → Decoder FormatError δ}
    (msgType : ReqRspMessage δ → ProtocolMessage) (missing : String)
    (h : WrittenAs clock req.commonHeader bytes payload (Found req.sourceRoute req.notVia))
    (hdata : (parseData payload).Decodes [] (· = req.data)) :
    (deserializeReqRspWithPayloadData clock (filled req.commonHeader payload) parseData msgType
      missing).Decodes payload fun message ↦ ∃ req', message = msgType req' ∧
        SameReqRsp Eq req req' := by
  refine (decodes_readPayloadBytes h.length).bind_nil fun payload' hpayload ↦ ?_
  rw [hpayload]
  refine h.decodes_parse.bind_of_nil fun parsed hparsed ↦ ?_
  refine hdata.bind_of_nil fun data hdata ↦ ?_
  refine (decodes_requireSourceRoute hparsed.sourceRoute _).bind_pure fun route hroute ↦ ?_
  rw [hroute]
  exact ⟨_, rfl, sameReqRsp_of_found hparsed hdata.symm payload⟩

/-- The bytes are those of a routed message from whose payload the data can be parsed. -/
def WrittenWith (clock : Clock) (req : ReqRspMessage δ) (bytes : Bytes)
    (parse : Bytes → Decoder FormatError δ) : Prop :=
  ∃ payload, WrittenAs clock req.commonHeader bytes payload (Found req.sourceRoute req.notVia) ∧
    (parse payload).Decodes [] (· = req.data)

/-- The object with the data is behind the route and the links, where the second pass finds it. -/
theorem writtenAs_withData {writeDataObject : δ → Written}
    (htype : ∀ raw, type ≠ .other raw) (hroute : .sourceRoute ≠ type) (hlinks : .notViaList ≠ type)
    (hunused : ∀ parsed length, parseReqRspObject clock parsed ⟨type, length⟩ = do
      skip length
      return parsed)
    {read : Nat → Decoder FormatError δ} (missing : Nat → String)
    (hread : ∀ data, (writeDataObject req.data).run = .ok (.ok data) →
      ∃ body, data = object type body ∧ (read body.length).Decodes body (· = req.data))
    (h : (serializeReqRspWithDataObj req writeDataObject).run = .ok (.ok bytes)) :
    WrittenWith clock req bytes (parseDataObject type missing read) := by
  obtain ⟨route, hwrittenRoute, h⟩ := Written.bind_eq_ok.1 h
  obtain ⟨data, hdata, h⟩ := Written.bind_eq_ok.1 h
  obtain ⟨body, hbody, hread⟩ := hread data hdata
  rw [hbody, ← List.append_assoc] at h
  obtain ⟨hlength, hbytes⟩ := writeHeaderAndPayload_eq h
  refine ⟨_, ⟨hlength, hbytes, ?_⟩, ?_⟩
  · refine ((passes_routeAndLinks clock req.notVia hwrittenRoute).append
      (passes_unused clock htype hunused body)).imp ?_
    rintro parsed parsed' ⟨mid, hcommon, rfl⟩ rfl
    exact found_of_common rfl hcommon
  · exact decodes_parseDataObject hwrittenRoute req.notVia htype hroute hlinks hread (by omega)

theorem writtenAs_storeReq {req : ReqRspMessage (StoreReqData LHTInput)}
    (h : (serialize (.storeReq req)).run = .ok (.ok bytes)) :
    WrittenWith clock req bytes parseStoreReqDataFromBytes := by
  refine writtenAs_withData (by simp) (by simp) (by simp) (fun _ _ ↦ rfl) _ (fun data hdata ↦ ?_) h
  obtain ⟨hlength, hbody⟩ := writeStoreReqDataObject_eq hdata
  exact ⟨_, hbody, decodes_parseStoreReqDataObject hlength⟩

theorem writtenAs_storeRsp {req : ReqRspMessage StoreRspData}
    (h : (serialize (.storeRsp req)).run = .ok (.ok bytes)) :
    WrittenWith clock req bytes parseStoreRspDataFromBytes := by
  refine writtenAs_withData (by simp) (by simp) (by simp) (fun _ _ ↦ rfl) _ (fun data hdata ↦ ?_) h
  obtain ⟨status, hstatus, hbody⟩ := writeStoreRspDataObject_eq hdata
  rw [hstatus]
  exact ⟨_, hbody, decodes_parseStoreRspDataObject status⟩

theorem writtenAs_fetchReq {req : ReqRspMessage FetchReqData}
    (h : (serialize (.fetchReq req)).run = .ok (.ok bytes)) :
    WrittenWith clock req bytes parseFetchReqDataFromBytes := by
  refine writtenAs_withData (by simp) (by simp) (by simp) (fun _ _ ↦ rfl) _ (fun data hdata ↦ ?_) h
  refine ⟨_, ?_, decodes_parseFetchReqDataObject req.data⟩
  rw [← Written.pure_eq_ok.1 hdata]
  exact object_eq rfl (length_toBytes _).symm

theorem writtenAs_fetchRsp {req : ReqRspMessage (FetchRspData LHTOutput)}
    (h : (serialize (.fetchRsp req)).run = .ok (.ok bytes)) :
    WrittenWith clock req bytes parseFetchRspDataFromBytes := by
  refine writtenAs_withData (by simp) (by simp) (by simp) (fun _ _ ↦ rfl) _ (fun data hdata ↦ ?_) h
  obtain ⟨hfits, hbody⟩ := writeFetchRspDataObject_eq hdata
  exact ⟨_, hbody, decodes_parseFetchRspDataObject hfits⟩

theorem writtenAs_error {req : ReqRspMessage ErrorData}
    (h : (serializeError req).run = .ok (.ok bytes)) :
    WrittenWith clock req bytes parseErrorDataFromBytes := by
  obtain ⟨route, hroute, h⟩ := Written.bind_eq_ok.1 h
  obtain ⟨hlength, hbytes⟩ := writeHeaderAndPayload_eq h
  refine ⟨_, ⟨hlength, hbytes, ?_⟩, ?_⟩
  · rw [writeErrorData_eq, ← List.append_assoc]
    refine ((passes_linksAndRoute clock req.notVia hroute).append
      (passes_unused clock (by simp) (fun _ _ ↦ rfl) _)).imp ?_
    rintro parsed parsed' ⟨mid, hcommon, rfl⟩ rfl
    exact found_of_common rfl hcommon
  · exact decodes_parseErrorDataFromBytes hroute req.notVia req.data (by omega)

/-! ### Messages with contacts -/

theorem writtenAs_uln {req : ULNReqRspMessage RTableData}
    (h : (serializeUlnReqRspRtable req).run = .ok (.ok bytes)) :
    ∃ payload, WrittenAs clock req.commonHeader bytes payload
      fun parsed ↦ SameNeighbors req.data ⟨parsed.contacts⟩ := by
  obtain ⟨contacts, hcontacts, h⟩ := Written.bind_eq_ok.1 h
  obtain ⟨hlength, hbytes⟩ := writeHeaderAndPayload_eq h
  refine ⟨_, hlength, hbytes, (passes_contactList clock req.data.contacts hcontacts).imp ?_⟩
  rintro parsed parsed' ⟨contacts', hcontacts, rfl⟩ rfl
  exact hcontacts

theorem decodes_uln {req : ULNReqRspMessage RTableData}
    (msgType : ULNReqRspMessage RTableData → ProtocolMessage)
    (h : WrittenAs clock req.commonHeader bytes payload
      fun parsed ↦ SameNeighbors req.data ⟨parsed.contacts⟩) :
    (deserializeUlnDisc clock (filled req.commonHeader payload) msgType).Decodes payload
      fun message ↦ ∃ req', message = msgType req' ∧ SameULN req req' :=
  h.decodes_payload.bind_pure fun _ hparsed ↦ ⟨_, rfl, rfl, hparsed⟩

theorem writtenAs_rtable {req : ReqRspMessage RTableData}
    (hreached : ∀ contact ∈ req.data.contacts, Reached contact)
    (h : (serializeReqRspRtable req).run = .ok (.ok bytes)) :
    ∃ payload, WrittenAs clock req.commonHeader bytes payload
      fun parsed ↦ Found req.sourceRoute req.notVia parsed ∧
        SameRoutes req.data ⟨parsed.rtable⟩ := by
  obtain ⟨route, hroute, h⟩ := Written.bind_eq_ok.1 h
  obtain ⟨rtable, hrtable, h⟩ := Written.bind_eq_ok.1 h
  rw [← List.append_assoc] at h
  obtain ⟨hlength, hbytes⟩ := writeHeaderAndPayload_eq h
  refine ⟨_, hlength, hbytes, ((passes_routeAndLinks clock req.notVia hroute).append
    (passes_rtable clock hreached hrtable)).imp ?_⟩
  rintro parsed parsed' ⟨mid, hcommon, contacts', hcontacts, rfl⟩ rfl
  have hfound := found_of_common rfl hcommon
  obtain ⟨entries, -, rfl⟩ := hcommon
  exact ⟨⟨rfl, hfound.notVia⟩, hcontacts⟩

theorem decodes_rtable {req : ReqRspMessage RTableData}
    (msgType : ReqRspMessage RTableData → ProtocolMessage) (missing : String)
    (h : WrittenAs clock req.commonHeader bytes payload
      fun parsed ↦ Found req.sourceRoute req.notVia parsed ∧ SameRoutes req.data ⟨parsed.rtable⟩) :
    (deserializeReqRspRtable clock (filled req.commonHeader payload) msgType missing).Decodes
      payload
      fun message ↦ ∃ req', message = msgType req' ∧ SameReqRsp SameRoutes req req' := by
  refine h.decodes_payload.bind_nil fun parsed hparsed ↦ ?_
  refine (decodes_requireSourceRoute hparsed.1.sourceRoute _).bind_pure fun route hroute ↦ ?_
  rw [hroute]
  exact ⟨_, rfl, sameReqRsp_of_found hparsed.1 hparsed.2 payload⟩

/-! ### Requests for contacts -/

theorem writtenAs_request {type : RTableRequestTypeValue}
    (htype : RTableRequestTypeValue.ofByte type.toByte = type) {radius : BitVec 8}
    (h : (serializeReqRspWithRtableRequest req type radius).run = .ok (.ok bytes)) :
    ∃ payload, WrittenAs clock req.commonHeader bytes payload fun parsed ↦
      Found req.sourceRoute req.notVia parsed ∧ parsed.rtableRequest = some (type, radius) := by
  obtain ⟨route, hroute, h⟩ := Written.bind_eq_ok.1 h
  obtain ⟨hlength, hbytes⟩ := writeHeaderAndPayload_eq h
  refine ⟨_, hlength, hbytes, ((passes_rtableRequest clock htype radius).append
    (passes_routeAndLinks clock req.notVia hroute)).imp ?_⟩
  rintro parsed parsed' ⟨mid, rfl, hcommon⟩ rfl
  have hfound := found_of_common rfl hcommon
  obtain ⟨entries, -, rfl⟩ := hcommon
  exact ⟨hfound, rfl⟩

theorem decodes_queryRouteReq {req : ReqRspMessage QueryRouteReqData} {radius : BitVec 8}
    (h : WrittenAs clock req.commonHeader bytes payload fun parsed ↦
      Found req.sourceRoute req.notVia parsed ∧
        parsed.rtableRequest = some (.ulnVicinity, radius)) :
    (deserializeQueryRouteReq clock (filled req.commonHeader payload)).Decodes payload
      fun message ↦ ∃ req', message = .queryRouteReq req' ∧ SameReqRsp Eq req req' := by
  refine h.decodes_payload.bind_nil fun parsed hparsed ↦ ?_
  refine (decodes_requireSourceRoute hparsed.1.sourceRoute _).bind_nil fun route hroute ↦ ?_
  rw [hroute, hparsed.2]
  exact decodes_pure ⟨_, rfl, sameReqRsp_of_found hparsed.1 rfl payload⟩

theorem decodes_findNodeReq {req : ReqRspMessage FindNodeReqData}
    (hneighborhood : req.data.neighborhood ≤ 255) {type : RTableRequestTypeValue}
    (h : WrittenAs clock req.commonHeader bytes payload fun parsed ↦
      Found req.sourceRoute req.notVia parsed ∧
        parsed.rtableRequest = some (type, .ofNat 8 (min req.data.neighborhood (2 ^ 8 - 1)))) :
    (deserializeFindNodeReq clock (filled req.commonHeader payload)).Decodes payload
      fun message ↦ ∃ req', message = .findNodeReq req' ∧ SameReqRsp Eq req req' := by
  have hradius : (BitVec.ofNat 8 (min req.data.neighborhood (2 ^ 8 - 1))).toNat =
      req.data.neighborhood := by
    rw [BitVec.toNat_ofNat]
    omega
  refine h.decodes_payload.bind_nil fun parsed hparsed ↦ ?_
  refine (decodes_requireSourceRoute hparsed.1.sourceRoute _).bind_nil fun route hroute ↦ ?_
  rw [hroute, hparsed.2]
  dsimp only
  rw [dif_pos (by rw [hradius]; exact req.data.neighborhood_pos)]
  refine decodes_pure ⟨_, rfl, sameReqRsp_of_found hparsed.1 ?_ payload⟩
  simp only [hradius]

/-! ### Updates -/

theorem summary_eq_of_eq {contact contact' : Contact} (h : contact.eq contact' = true) :
    summary contact = summary contact' := by
  simp only [Contact.eq, PathCollection.eq, Bool.and_eq_true, beq_iff_eq] at h
  obtain ⟨⟨⟨⟨hid, -⟩, -⟩, hpath, -⟩, hssn⟩ := h
  have hids : activePathIds contact = activePathIds contact' := by
    unfold activePathIds Contact.path
    revert hpath
    cases contact.pathCollection.activePath <;> cases contact'.pathCollection.activePath <;>
      simp [PathCollection.sameIds, Path.isSamePathAs]
  simp only [summary, Contact.id, hid, hids, hssn]

/-- No entry of a map is overwritten if the keys differ in what is sent of them. -/
theorem foldl_insertAction {entries actions : List (Contact × RouteUpdateActionType)}
    (h : ((actions ++ entries).map fun entry ↦ summary entry.1).Nodup) :
    entries.foldl insertAction actions = actions ++ entries := by
  induction entries generalizing actions with
  | nil => simp
  | cons entry entries ih =>
    have hnew : actions.any (fun existing ↦ existing.1.eq entry.1) = false := by
      rw [List.any_eq_false]
      intro existing hexisting heq
      rw [List.map_append, List.nodup_append] at h
      exact h.2.2 _ (List.mem_map_of_mem hexisting) _ (by simp) (summary_eq_of_eq heq)
    have hinsert : insertAction actions entry = actions ++ [entry] := by
      simp [insertAction, hnew]
    rw [List.foldl_cons, hinsert, ih (by simpa using h), List.append_assoc]
    rfl

theorem decodes_readAction {action : RouteUpdateActionType} (h : action.Assigned) :
    readAction.Decodes [action.toByte] (· = action) :=
  (decodes_readByte action.toByte).bind_pure fun raw hraw ↦ by
    rw [hraw, BitVec.ofNat_toNat, BitVec.setWidth_eq, RouteUpdateActionType.ofByte_toByte h]

/-- What is done with an object in the search for the contacts of an update. -/
def updatePass (clock : Clock) (_ : Unit) (header : CommonObjectHeader) :
    Decoder FormatError (Unit ⊕ List (Contact × RouteUpdateActionType)) := do
  if header.objectType = .rtableUpdateInfo then
    let entries ← parseEntries clock rtableUpdateTexts 1 readAction header.objectLength
      header.objectLength
    return .inr (entries.foldl insertAction [])
  else
    skip header.objectLength
    return .inl ()

section Update

variable {req : UpdateRouteReq}

/-- The contacts of an update with their actions, as far as they are sent. -/
def SameActions (actions actions' : List (Contact × RouteUpdateActionType)) : Prop :=
  actions'.map (fun entry ↦ (summary entry.1, entry.2)) =
    actions.map fun entry ↦ (summary entry.1, entry.2)

variable (clock) in
theorem decodes_updatePass (hreached : ∀ entry ∈ req.contactActions, Reached entry.1)
    (hsize : ∀ entry ∈ req.contactActions, (activePathIds entry.1).length < 2 ^ 16)
    (hassigned : ∀ entry ∈ req.contactActions, entry.2.Assigned)
    (hdistinct : (req.contactActions.map fun entry ↦ summary entry.1).Nodup) :
    let body :=
      entriesBody (fun action : RouteUpdateActionType ↦ [action.toByte]) req.contactActions
    (updatePass clock () ⟨.rtableUpdateInfo, body.length⟩).Decodes body
      fun r ↦ ∃ actions, r = .inr actions ∧ SameActions req.contactActions actions := by
  intro body
  rw [updatePass, if_pos rfl]
  have hread : (parseEntries clock rtableUpdateTexts 1 readAction body.length body.length).Decodes
      body fun entries ↦ entries.map (fun entry ↦ (summary entry.1, entry.2)) =
        req.contactActions.map fun entry ↦ (summary entry.1, entry.2) :=
    decodes_parseEntries clock hreached hsize (fun _ _ ↦ rfl)
      (fun entry hentry ↦ decodes_readAction (hassigned entry hentry)) le_rfl
  refine hread.bind_pure fun entries hentries ↦ ⟨_, rfl, ?_⟩
  have hsummaries : entries.map (fun entry ↦ summary entry.1) =
      req.contactActions.map fun entry ↦ summary entry.1 := by
    have hfst := congrArg (List.map Prod.fst) hentries
    simpa [Function.comp_def] using hfst
  have hfold : entries.foldl insertAction [] = [] ++ entries :=
    foldl_insertAction (by rw [List.nil_append, hsummaries]; exact hdistinct)
  rw [SameActions, hfold, List.nil_append]
  exact hentries

theorem writtenAs_update (hreached : ∀ entry ∈ req.contactActions, Reached entry.1)
    (hassigned : ∀ entry ∈ req.contactActions, entry.2.Assigned)
    (hdistinct : (req.contactActions.map fun entry ↦ summary entry.1).Nodup)
    (h : (serializeUpdateRouteReq req).run = .ok (.ok bytes)) :
    ∃ payload, WrittenAs clock req.commonHeader bytes payload (Found req.sourceRoute req.notVia) ∧
      (parseRtableUpdateInfoFromBytes clock payload).Decodes []
        (SameActions req.contactActions) := by
  obtain ⟨route, hroute, h⟩ := Written.bind_eq_ok.1 h
  obtain ⟨info, hinfo, h⟩ := Written.bind_eq_ok.1 h
  rw [← List.append_assoc] at h
  obtain ⟨hlength, hbytes⟩ := writeHeaderAndPayload_eq h
  obtain ⟨hsize, hinfo⟩ := writeRtableUpdateInfoObject_eq hinfo
  have hcommon := passes_routeAndLinks clock req.notVia hroute
  have hskipped : Passes (updatePass clock) (route ++ writeNotvialistObject req.notVia) Eq :=
    passes_skipped_common hroute (fun _ _ ↦ rfl) (fun _ _ ↦ rfl) req.notVia
  by_cases hnil : req.contactActions = []
  · -- there is no object for the contacts
    rw [if_pos hnil] at hinfo
    subst hinfo
    rw [List.append_nil] at hlength hbytes
    refine ⟨_, ⟨hlength, hbytes, hcommon.imp ?_⟩, ?_⟩
    · rintro parsed parsed' hcommon rfl
      exact found_of_common rfl hcommon
    · refine decodes_nested ((hskipped.finish (by omega) ()).bind_accepted fun r mid hmid ↦ ?_)
      obtain ⟨⟨found, rfl, -⟩, hover⟩ := hmid
      exact judged_pure ⟨by rw [hnil]; rfl, hover⟩
  · rw [if_neg hnil] at hinfo
    have hentries := decodes_updatePass clock hreached hsize hassigned hdistinct
    generalize entriesBody _ _ = body at hentries hinfo
    rw [hinfo] at hlength hbytes
    refine ⟨_, ⟨hlength, hbytes, (hcommon.append
      (passes_unused clock (by simp) (fun _ _ ↦ rfl) body)).imp ?_⟩, ?_⟩
    · rintro parsed parsed' ⟨mid, hcommon, rfl⟩ rfl
      exact found_of_common rfl hcommon
    · refine decodes_nested ((hskipped.stop (by simp) (fun _ ↦ hentries) (by omega)
        ()).bind_accepted fun r mid hmid ↦ ?_)
      obtain ⟨⟨actions, rfl, hactions⟩, hover⟩ := hmid
      exact judged_pure ⟨hactions, hover⟩

theorem decodes_update
    (h : WrittenAs clock req.commonHeader bytes payload (Found req.sourceRoute req.notVia))
    (hactions : (parseRtableUpdateInfoFromBytes clock payload).Decodes []
      (SameActions req.contactActions)) :
    (deserializeUpdateRouteReq clock (filled req.commonHeader payload)).Decodes payload
      fun message ↦ ∃ req', message = .updateRouteReq req' ∧ SameUpdate req req' := by
  refine (decodes_readPayloadBytes h.length).bind_nil fun payload' hpayload ↦ ?_
  rw [hpayload]
  refine h.decodes_parse.bind_of_nil fun parsed hparsed ↦ ?_
  refine hactions.bind_of_nil fun actions hactions ↦ ?_
  refine (decodes_requireSourceRoute hparsed.sourceRoute _).bind_pure fun route hroute ↦ ?_
  rw [hroute]
  exact ⟨_, rfl, rfl, hparsed.notVia, hactions ▸ .refl _, rfl⟩

end Update

end Format

open Format Decoder

/-- **Messages are read back.**  A message that can be represented, and that is not an ambiguous
update, is read back with the same content from the bytes that have been written for it. -/
theorem message_read_back (clock : Clock) {message : ProtocolMessage} (hsendable : Sendable message)
    (hunambiguous : Unambiguous message) : RoundTrips clock message := by
  intro bytes h
  have hkind := hsendable.kind
  have hother : ∀ raw, message.commonHeader.msgType ≠ .other raw := by
    rw [hkind]
    cases message <;> simp [ProtocolMessage.kind]
  cases message with
  | ulnHello header =>
    have hbytes : bytes = header.write ++ [] := by
      rw [List.append_nil]
      exact (Written.pure_eq_ok.1 h).symm
    rw [hbytes]
    refine roundTrip_of_decodes hother rfl ?_
    rw [show header.msgType = _ from hkind]
    exact decodes_pure (.ulnHello rfl)
  | ulnDiscReq req | ulnDiscRsp req =>
    obtain ⟨payload, hwritten⟩ := writtenAs_uln h
    refine hwritten.roundTrip hother rfl ?_
    rw [show (filled req.commonHeader payload).msgType = _ from hkind]
    refine (decodes_uln _ hwritten).imp ?_
    rintro _ ⟨req', rfl, hsame⟩
    constructor
    exact hsame
  | queryRouteReq req =>
    obtain ⟨payload, hwritten⟩ := writtenAs_request rfl h
    refine hwritten.roundTrip hother rfl ?_
    rw [show (filled req.commonHeader payload).msgType = _ from hkind]
    refine (decodes_queryRouteReq hwritten).imp ?_
    rintro _ ⟨req', rfl, hsame⟩
    exact .queryRouteReq hsame
  | findNodeReq req =>
    obtain ⟨payload, hwritten⟩ := writtenAs_request rfl h
    refine hwritten.roundTrip hother rfl ?_
    rw [show (filled req.commonHeader payload).msgType = _ from hkind]
    refine (decodes_findNodeReq (hsendable.neighborhood req rfl) hwritten).imp ?_
    rintro _ ⟨req', rfl, hsame⟩
    exact .findNodeReq hsame
  | queryRouteRsp req | findNodeRsp req =>
    obtain ⟨payload, hwritten⟩ := writtenAs_rtable hsendable.reached h
    refine hwritten.roundTrip hother rfl ?_
    rw [show (filled req.commonHeader payload).msgType = _ from hkind]
    refine (decodes_rtable _ _ hwritten).imp ?_
    rintro _ ⟨req', rfl, hsame⟩
    constructor
    exact hsame
  | probeReq req | probeRsp req | pathSetupReq req | pathTeardownReq req =>
    obtain ⟨payload, hwritten⟩ := writtenAs_noData h
    refine hwritten.roundTrip hother rfl ?_
    rw [show (filled req.commonHeader payload).msgType = _ from hkind]
    refine (decodes_noData rfl _ hwritten).imp ?_
    rintro _ ⟨req', rfl, hsame⟩
    constructor
    exact hsame
  | updateRouteReq req =>
    obtain ⟨hassigned, hdistinct⟩ := hunambiguous req rfl
    have hreached : ∀ entry ∈ req.contactActions, Reached entry.1 := fun entry hentry ↦
      hsendable.reached entry.1 (List.mem_map_of_mem hentry)
    obtain ⟨payload, hwritten, hactions⟩ := writtenAs_update hreached hassigned hdistinct h
    refine hwritten.roundTrip hother rfl ?_
    rw [show (filled req.commonHeader payload).msgType = _ from hkind]
    refine (decodes_update hwritten hactions).imp ?_
    rintro _ ⟨req', rfl, hsame⟩
    exact .updateRouteReq hsame
  | error req =>
    obtain ⟨payload, hwritten, hdata⟩ := writtenAs_error h
    refine hwritten.roundTrip hother rfl ?_
    rw [show (filled req.commonHeader payload).msgType = _ from hkind]
    refine (decodes_withPayloadData _ _ hwritten hdata).imp ?_
    rintro _ ⟨req', rfl, hsame⟩
    exact .error hsame
  | storeReq req =>
    obtain ⟨payload, hwritten, hdata⟩ := writtenAs_storeReq h
    refine hwritten.roundTrip hother rfl ?_
    rw [show (filled req.commonHeader payload).msgType = _ from hkind]
    refine (decodes_withPayloadData _ _ hwritten hdata).imp ?_
    rintro _ ⟨req', rfl, hsame⟩
    exact .storeReq hsame
  | storeRsp req =>
    obtain ⟨payload, hwritten, hdata⟩ := writtenAs_storeRsp h
    refine hwritten.roundTrip hother rfl ?_
    rw [show (filled req.commonHeader payload).msgType = _ from hkind]
    refine (decodes_withPayloadData _ _ hwritten hdata).imp ?_
    rintro _ ⟨req', rfl, hsame⟩
    exact .storeRsp hsame
  | fetchReq req =>
    obtain ⟨payload, hwritten, hdata⟩ := writtenAs_fetchReq h
    refine hwritten.roundTrip hother rfl ?_
    rw [show (filled req.commonHeader payload).msgType = _ from hkind]
    refine (decodes_withPayloadData _ _ hwritten hdata).imp ?_
    rintro _ ⟨req', rfl, hsame⟩
    exact .fetchReq hsame
  | fetchRsp req =>
    obtain ⟨payload, hwritten, hdata⟩ := writtenAs_fetchRsp h
    refine hwritten.roundTrip hother rfl ?_
    rw [show (filled req.commonHeader payload).msgType = _ from hkind]
    refine (decodes_withPayloadData _ _ hwritten hdata).imp ?_
    rintro _ ⟨req', rfl, hsame⟩
    exact .fetchRsp hsame

/-! ### Updates of routes -/

/-- A contact that is a neighbour of the sender, heard of at this time. -/
def neighborHeardOf (now : Timestamp) : Contact :=
  .new now (.ofIds [7#112] (by simp)) .MIN

/-- An update with these contacts, on its way from one neighbour to another. -/
def routeUpdate (actions : List (Contact × RouteUpdateActionType)) : UpdateRouteReq :=
  { commonHeader := .new .updateRouteReq 1#112 7#112 0 .invalid 0
    notVia := none
    contactActions := actions
    sourceRoute := .new 1#112 (.ofIds [7#112] (by simp)) }

theorem sendable_routeUpdate {actions : List (Contact × RouteUpdateActionType)}
    (h : ∀ entry ∈ actions, ∃ now, entry.1 = neighborHeardOf now) :
    Sendable (.updateRouteReq (routeUpdate actions)) := by
  refine ⟨rfl, by simp, fun contact hcontact ↦ ?_⟩
  obtain ⟨entry, hentry, rfl⟩ := List.mem_map.1 hcontact
  obtain ⟨now, hnow⟩ := h entry hentry
  rw [hnow]
  exact ⟨_, rfl, rfl⟩

/-- An update that announces a contact can be written, and it is read back. -/
theorem announcement_read_back :
    (∃ bytes, (serialize (.updateRouteReq (routeUpdate [(neighborHeardOf 3, .announce)]))).run =
      .ok (.ok bytes)) ∧
      RoundTrips (fun _ ↦ 0) (.updateRouteReq (routeUpdate [(neighborHeardOf 3, .announce)])) := by
  refine ⟨⟨_, rfl⟩, message_read_back _ (sendable_routeUpdate (by simp)) ?_⟩
  rintro req ⟨⟩
  exact ⟨by simp [routeUpdate, RouteUpdateActionType.Assigned], by simp [routeUpdate]⟩

/-- The actions in an update that has been read. -/
def actionsRead : Run (Except (ReadError FormatError) ProtocolMessage × Cursor) →
    List RouteUpdateActionType
  | .ok (.ok (.updateRouteReq req), _) => req.contactActions.map Prod.snd
  | _ => []

theorem not_roundTrips {clock : Clock} {req : UpdateRouteReq} {bytes : Bytes}
    (actions : List RouteUpdateActionType)
    (hbytes : (serialize (.updateRouteReq req)).run = .ok (.ok bytes))
    (hread : actionsRead ((fromReader clock).run (.start bytes)) = actions)
    (h : ¬ actions.Perm (req.contactActions.map Prod.snd)) :
    ¬ RoundTrips clock (.updateRouteReq req) := by
  intro hround
  obtain ⟨message', c, hrun, hsame⟩ := hround bytes hbytes
  cases hsame with
  | updateRouteReq hsame =>
    rw [hrun] at hread
    have hperm := hsame.actions.map Prod.snd
    simp only [List.map_map, Function.comp_def] at hperm
    exact h (hread ▸ hperm)

set_option maxRecDepth 4096 in
/-- An action with an unassigned code that holds an assigned one is read back as another action.
Two contacts that are different keys, as they have been heard of at different times, are read back
as one if the clock does not go on in between. -/
theorem update_not_read_back :
    (Sendable (.updateRouteReq (routeUpdate [(neighborHeardOf 0, .other 0)])) ∧
      ¬ RoundTrips (fun _ ↦ 0) (.updateRouteReq (routeUpdate [(neighborHeardOf 0, .other 0)]))) ∧
    (neighborHeardOf 0).eq (neighborHeardOf 1) = false ∧
    Sendable (.updateRouteReq
      (routeUpdate [(neighborHeardOf 0, .announce), (neighborHeardOf 1, .withDraw)])) ∧
    ¬ RoundTrips (fun _ ↦ 0) (.updateRouteReq
      (routeUpdate [(neighborHeardOf 0, .announce), (neighborHeardOf 1, .withDraw)])) := by
  refine ⟨⟨sendable_routeUpdate (by simp), ?_⟩, by decide, sendable_routeUpdate (by simp), ?_⟩
  · exact not_roundTrips [.announce] rfl rfl (by decide)
  · exact not_roundTrips [.withDraw] rfl rfl (by decide)

end Kira
