import Kira.Format.Serialize
import Mathlib.Logic.Relation

/-!
# Objects are read back

What the functions that write objects produce is either nothing or an object whose announced length
is that of its body, and reading such an object gives back what has been written.

The loop over the objects of a payload is taken apart by `Passes`: going over some objects takes
what has been found so far to something related to it, whatever objects follow.  This composes along
the concatenation of objects, so the payload of each message is put together from its objects.
-/

set_option autoImplicit false

namespace Kira

open Run

namespace Format

open Decoder

/-! ## What has been written -/

theorem Written.bind_eq_ok {α β : Type} {x : ExceptT FormatError Run α}
    {f : α → ExceptT FormatError Run β} {b : β} :
    (x >>= f).run = .ok (.ok b) ↔ ∃ a, x.run = .ok (.ok a) ∧ (f a).run = .ok (.ok b) := by
  rw [ExceptT.run_bind, Run.bind_eq_ok]
  constructor
  · rintro ⟨r, hx, hr⟩
    cases r with
    | ok a => exact ⟨a, hx, hr⟩
    | error err => cases hr
  · rintro ⟨a, hx, hf⟩
    exact ⟨.ok a, hx, hf⟩

theorem Written.pure_eq_ok {α : Type} {a b : α} :
    (pure a : ExceptT FormatError Run α).run = .ok (.ok b) ↔ a = b := by
  constructor
  · rintro ⟨⟩
    rfl
  · rintro rfl
    rfl

theorem Written.lift_eq_ok {α : Type} {x : Run α} {a : α} :
    (liftM x : ExceptT FormatError Run α).run = .ok (.ok a) ↔ x = .ok a := by
  cases x with
  | ok b =>
    constructor
    · rintro ⟨⟩
      rfl
    · rintro ⟨⟩
      rfl
  | panic msg =>
    constructor
    · rintro ⟨⟩
    · rintro ⟨⟩

def object (type : ProtocolObjectType) (body : Bytes) : Bytes :=
  writeCommonObjectHeader ⟨type, body.length⟩ ++ body

variable {type : ProtocolObjectType}

/-- The length in front of an object is computed before its body is written. -/
theorem object_eq {length : Nat} {body written : Bytes}
    (hbody : written = body) (hlength : length = body.length) :
    writeCommonObjectHeader ⟨type, length⟩ ++ written = object type body := by
  subst hbody hlength
  rfl

@[simp] theorem length_object (type : ProtocolObjectType) (body : Bytes) :
    (object type body).length = 3 + body.length := by
  simp [object, writeCommonObjectHeader]
  omega

theorem decodes_readCommonObjectHeader
    (htype : ∀ raw, type ≠ .other raw) {length : Nat} (hlength : length < 2 ^ 16) :
    readCommonObjectHeader.Decodes (writeCommonObjectHeader ⟨type, length⟩)
      (· = ⟨type, length⟩) := by
  refine Decodes.mapErr _ ((decodes_readByte type.toByte).bind fun byte hbyte ↦ ?_)
  refine (decodes_readUint hlength).bind_pure fun n hn ↦ ?_
  rw [hbyte, hn, BitVec.ofNat_toNat, BitVec.setWidth_eq, ProtocolObjectType.ofByte_toByte htype]

/-! ## The loop over the objects -/

variable {σ ρ : Type} {exceeds : CommonObjectHeader → Nat → String}
  {handle : σ → CommonObjectHeader → Decoder FormatError (σ ⊕ ρ)}

theorem judged_parseObjects_object (htype : ∀ raw, type ≠ .other raw)
    {body rest : Bytes} {payloadLen rounds consumed : Nat} {found : σ} {holds : σ ⊕ ρ → Prop}
    {post : (σ × Nat) ⊕ ρ → Cursor → Prop}
    (hlength : consumed + (3 + body.length) + rest.length = payloadLen)
    (hsmall : payloadLen < 2 ^ 16) (hhandle : (handle found ⟨type, body.length⟩).Decodes body holds)
    (hleft : ∀ found', holds (.inl found') →
      (parseObjects payloadLen exceeds handle rounds (consumed + (3 + body.length)) found').Judged
        (.start rest) .accepted post)
    (hright : ∀ result, holds (.inr result) → post (.inr result) (.start rest)) :
    (parseObjects payloadLen exceeds handle (rounds + 1) consumed found).Judged
      (.start (object type body ++ rest)) .accepted post := by
  rw [parseObjects, if_pos (by omega), Cursor.start_eq_inside, object, List.append_assoc]
  refine (decodes_readCommonObjectHeader htype (by omega) (body ++ rest) []).bind_accepted
    fun header mid hmid ↦ ?_
  obtain ⟨rfl, rfl⟩ := hmid
  rw [if_neg (by dsimp only; omega), ← Cursor.start_eq_inside]
  have hwithin : (within body.length (handle found ⟨type, body.length⟩)).Judged
      (.start (body ++ rest)) .accepted fun r c ↦ holds r ∧ c = .start rest :=
    judged_within rfl ((hhandle.judged rest).imp fun r c hc ↦ ⟨hc.1, by rw [hc.2]; rfl⟩)
  refine hwithin.bind_accepted fun r mid hmid ↦ ?_
  obtain ⟨hr, rfl⟩ := hmid
  cases r with
  | inl found' =>
    have hnext := hleft found' hr
    rw [← Nat.add_assoc] at hnext
    exact hnext
  | inr result => exact judged_pure (hright result hr)

/-- Going over these bytes takes what has been found to something related to it. -/
def Passes (handle : σ → CommonObjectHeader → Decoder FormatError (σ ⊕ ρ)) (bytes : Bytes)
    (R : σ → σ → Prop) : Prop :=
  ∀ ⦃exceeds : CommonObjectHeader → Nat → String⦄ ⦃payloadLen rounds consumed : Nat⦄ ⦃found : σ⦄
    ⦃rest : Bytes⦄ ⦃post : (σ × Nat) ⊕ ρ → Cursor → Prop⦄,
    consumed + bytes.length + rest.length = payloadLen → payloadLen < 2 ^ 16 →
    bytes.length + rest.length ≤ rounds →
    (∀ rounds' found', rest.length ≤ rounds' → R found found' →
      (parseObjects payloadLen exceeds handle rounds' (consumed + bytes.length) found').Judged
        (.start rest) .accepted post) →
    (parseObjects payloadLen exceeds handle rounds consumed found).Judged
      (.start (bytes ++ rest)) .accepted post

variable {bytes : Bytes}

theorem Passes.imp {R R' : σ → σ → Prop} (h : Passes handle bytes R)
    (himp : ∀ found found', R found found' → R' found found') : Passes handle bytes R' :=
  fun _ _ _ _ _ _ _ hlength hsmall hrounds hnext ↦
    h hlength hsmall hrounds fun rounds' found' hrounds' hR ↦
    hnext rounds' found' hrounds' (himp _ found' hR)

theorem passes_nil : Passes handle [] Eq := by
  intro exceeds payloadLen rounds consumed found rest post _ _ hrounds hnext
  exact hnext rounds found (by simpa using hrounds) rfl

theorem passes_object (htype : ∀ raw, type ≠ .other raw) {body : Bytes} {R : σ → σ → Prop}
    (hhandle : ∀ found, (handle found ⟨type, body.length⟩).Decodes body
      fun r ↦ ∃ found', r = .inl found' ∧ R found found') :
    Passes handle (object type body) R := by
  intro exceeds payloadLen rounds consumed found rest post hlength hsmall hrounds hnext
  rw [length_object] at hlength hrounds hnext
  obtain ⟨rounds, rfl⟩ := Nat.exists_eq_succ_of_ne_zero (n := rounds) (by omega)
  refine judged_parseObjects_object htype hlength hsmall (hhandle found) ?_ ?_
  · rintro found' ⟨_, heq, hR⟩
    cases heq
    exact hnext rounds found' (by omega) hR
  · rintro result ⟨_, heq, _⟩
    cases heq

theorem Passes.append {bytes' : Bytes} {R R' : σ → σ → Prop} (h : Passes handle bytes R)
    (h' : Passes handle bytes' R') : Passes handle (bytes ++ bytes') (Relation.Comp R R') := by
  intro exceeds payloadLen rounds consumed found rest post hlength hsmall hrounds hnext
  rw [List.length_append] at hlength hrounds hnext
  rw [List.append_assoc]
  refine h (by rw [List.length_append]; omega) hsmall (by rw [List.length_append]; omega) ?_
  intro rounds' mid hrounds' hR
  rw [List.length_append] at hrounds'
  refine h' (by omega) hsmall (by omega) ?_
  intro rounds'' found' hrounds'' hR'
  rw [Nat.add_assoc]
  exact hnext rounds'' found' hrounds'' ⟨mid, hR, hR'⟩

theorem Passes.finish {payload : Bytes} {R : σ → σ → Prop} (h : Passes handle payload R)
    (hsmall : payload.length < 2 ^ 16) (found : σ) :
    (parseObjects payload.length exceeds handle payload.length 0 found).Judged (.start payload)
      .accepted fun r c ↦ (∃ found', r = .inl (found', payload.length) ∧ R found found') ∧
        c.overrun = false := by
  have hend : ∀ rounds found', R found found' →
      (parseObjects payload.length exceeds handle rounds (0 + payload.length) found').Judged
        (.start []) .accepted fun r c ↦ (∃ found', r = .inl (found', payload.length) ∧
          R found found') ∧ c.overrun = false := by
    intro rounds found' hR
    rw [Nat.zero_add]
    cases rounds with
    | zero | succ rounds =>
      rw [parseObjects, if_neg (Nat.lt_irrefl _)]
      exact judged_pure ⟨⟨found', rfl, hR⟩, rfl⟩
  have hrounds : payload.length + ([] : Bytes).length ≤ payload.length := le_rfl
  have hloop := h (by simp) hsmall hrounds fun rounds found' _ hR ↦ hend rounds found' hR
  rwa [List.append_nil] at hloop

theorem Passes.stop {R : σ → σ → Prop} (h : Passes handle bytes R)
    (htype : ∀ raw, type ≠ .other raw) {body : Bytes} {holds : ρ → Prop}
    (hhandle : ∀ found, (handle found ⟨type, body.length⟩).Decodes body
      fun r ↦ ∃ result, r = .inr result ∧ holds result)
    (hsmall : (bytes ++ object type body).length < 2 ^ 16) (found : σ) :
    (parseObjects (bytes ++ object type body).length exceeds handle
      (bytes ++ object type body).length 0 found).Judged (.start (bytes ++ object type body))
        .accepted
      fun r c ↦ (∃ result, r = .inr result ∧ holds result) ∧ c.overrun = false := by
  rw [List.length_append] at hsmall ⊢
  refine h (by omega) hsmall le_rfl fun rounds' found' hrounds' _ ↦ ?_
  rw [length_object] at hsmall hrounds' ⊢
  obtain ⟨rounds', rfl⟩ := Nat.exists_eq_succ_of_ne_zero (n := rounds') (by omega)
  rw [← List.append_nil (object type body)]
  refine judged_parseObjects_object htype (by simp) hsmall (hhandle found') ?_ ?_
  · rintro _ ⟨_, heq, _⟩
    cases heq
  · rintro result ⟨_, heq, hresult⟩
    cases heq
    exact ⟨⟨result, rfl, hresult⟩, rfl⟩

/-! ## Ids and links -/

@[simp] theorem length_toBytes (id : NodeId) : id.toBytes.length = 14 := length_toBeBytes _ _

theorem decodes_readNodeId (id : NodeId) :
    (NodeId.read : Decoder FormatError NodeId).Decodes id.toBytes (· = id) := by
  have hread := decodes_readExact (ε := FormatError) id.toBytes
  rw [length_toBytes] at hread
  exact hread.bind_pure fun bytes hbytes ↦ by rw [hbytes, NodeId.ofBytes_toBytes]

theorem length_flatMap_toBytes (ids : List NodeId) :
    (ids.flatMap NodeId.toBytes).length = 14 * ids.length := by
  induction ids with
  | nil => rfl
  | cons id ids ih => simp [ih]; omega

theorem decodes_times_readNodeId (ids : List NodeId) :
    (times ids.length NodeId.read : Decoder FormatError _).Decodes (ids.flatMap NodeId.toBytes)
      (· = ids) := by
  have hread : (times ids.length NodeId.read : Decoder FormatError _).Decodes
      (ids.flatMap NodeId.toBytes) fun ids' ↦ ids'.map id = ids.map id :=
    decodes_times fun id _ ↦ decodes_readNodeId id
  simpa only [List.map_id] using hread

theorem Link.new_ends (link : Link) : Link.new link.first link.second = link := by
  unfold Link.new
  split
  · rfl
  · rename_i hge
    have heq : link.first = link.second :=
      BitVec.eq_of_toNat_eq (Nat.le_antisymm link.sorted (Nat.le_of_not_lt hge))
    obtain ⟨first, second, sorted⟩ := link
    cases heq
    rfl

/-! ## Source routes -/

def sourceRouteBody (route : SourceRoute) : Bytes :=
  toBeBytes 2 route.progress ++ route.ids.flatMap NodeId.toBytes

theorem writeSourceRouteObject_eq {route : SourceRoute}
    (h : (writeSourceRouteObject route).run = .ok (.ok bytes)) :
    (0 < route.progress ∧ route.progress < route.ids.length ∧ route.progress ≤ 1023) ∧
      bytes = object .sourceRoute (sourceRouteBody route) := by
  obtain ⟨index, hindex, h⟩ := Written.bind_eq_ok.1 h
  obtain ⟨idx, hidx, hindex⟩ := Written.bind_eq_ok.1 hindex
  obtain ⟨⟨⟩, hassert, hidx⟩ := of_bind (Written.lift_eq_ok.1 hidx)
  cases hidx
  have hrange := of_decide_eq_true (assert_eq_ok.1 hassert)
  split at hindex
  · cases hindex
  · rename_i hmax
    cases hindex
    cases h
    refine ⟨⟨hrange.1, hrange.2, Nat.le_of_not_lt hmax⟩, ?_⟩
    rw [object, sourceRouteBody, List.length_append, length_toBeBytes, length_flatMap_toBytes,
      Nat.mul_comm]

theorem decodes_parseSourceRoute {route : SourceRoute} (hpos : 0 < route.progress)
    (hlt : route.progress < route.ids.length) (hindex : route.progress ≤ 1023) :
    (parseSourceRoute (sourceRouteBody route).length).Decodes (sourceRouteBody route)
      (· = route) := by
  have hlength : (sourceRouteBody route).length = 2 + 14 * route.ids.length := by
    rw [sourceRouteBody, List.length_append, length_toBeBytes, length_flatMap_toBytes]
  have hcount : (2 + 14 * route.ids.length - 2) / NodeId.SIZE = route.ids.length := by
    simp only [NodeId.SIZE]
    omega
  rw [hlength]
  unfold parseSourceRoute
  rw [if_neg (by omega)]
  refine (decodes_readUint (by omega)).bind fun index hindex ↦ ?_
  obtain rfl := hindex
  dsimp only
  rw [hcount, if_neg (by simp only [NodeId.SIZE]; omega), if_neg (by omega)]
  refine (decodes_times_readNodeId route.ids).bind_nil fun ids hids ↦ ?_
  obtain rfl := hids
  have htry : SourceRoute.tryFrom route.ids = .ok ⟨route.ids, 1, route.two_le⟩ :=
    dif_pos route.two_le
  refine (decodes_lift htry).bind_of_nil fun start hstart ↦ ?_
  obtain rfl := hstart
  have hstart : (⟨route.ids, 1, route.two_le⟩ : SourceRoute).progress ≤ route.ids.length - 1 := by
    dsimp only
    omega
  have hadvance := SourceRoute.advance_iterate hstart (route.progress - 1)
  have htraveled := SourceRoute.traveledHopCount_advance_iterate route.two_le (route.progress - 1)
  have hprogress : min (1 + (route.progress - 1)) (route.ids.length - 1) = route.progress := by
    omega
  rw [hprogress] at hadvance htraveled
  refine (decodes_lift htraveled).bind_of_nil fun traveled htraveled ↦ ?_
  subst htraveled
  refine (decodes_assert (by simp) _).bind_of_nil fun _ _ ↦ decodes_pure ?_
  exact SourceRoute.eq_of_ids_progress hadvance.1 hadvance.2

/-! ## Links not to be used -/

theorem length_flatMap_of_length {α : Type} {f : α → Bytes} {size : Nat} {as : List α}
    (h : ∀ a ∈ as, (f a).length = size) : (as.flatMap f).length = size * as.length := by
  induction as with
  | nil => rfl
  | cons a as ih =>
    rw [List.flatMap_cons, List.length_append, h a (by simp),
      ih fun a' ha' ↦ h a' (by simp [ha']), List.length_cons, Nat.mul_succ, Nat.add_comm]

def notViaBody (links : List Link) : Bytes :=
  links.flatMap fun link ↦ writeLink link ++ toBeBytes 4 0

theorem length_notViaBody (links : List Link) : (notViaBody links).length = 32 * links.length :=
  length_flatMap_of_length fun link _ ↦ by simp [writeLink]

theorem writeNotvialistObject_eq (notVia : Option NotViaList) :
    writeNotvialistObject notVia =
      if notViaLinks notVia = [] then []
      else object .notViaList (notViaBody (notViaLinks notVia)) := by
  unfold writeNotvialistObject
  dsimp only
  generalize notViaLinks notVia = links
  cases links with
  | nil => rfl
  | cons link links =>
    rw [if_neg (by simp), if_neg (by simp), object, length_notViaBody, Nat.mul_comm]
    rfl

theorem decodes_readNotVia (link : Link) :
    readNotVia.Decodes (writeLink link ++ toBeBytes 4 0) fun entry ↦ entry.link = link := by
  rw [writeLink, List.append_assoc]
  refine (decodes_readNodeId link.first).bind fun src hsrc ↦ ?_
  refine (decodes_readNodeId link.second).bind fun dst hdst ↦ ?_
  refine (decodes_readUint (by decide)).bind_pure fun age hage ↦ ?_
  rw [hsrc, hdst]
  exact Link.new_ends link

theorem decodes_parseNotViaList (links : List Link) :
    (parseNotViaList (notViaBody links).length).Decodes (notViaBody links)
      fun entries ↦ entries.map NotVia.link = links := by
  rw [length_notViaBody, parseNotViaList, if_neg (by omega),
    Nat.mul_div_cancel_left _ (by decide : 0 < 32)]
  have hread : (times links.length readNotVia).Decodes (notViaBody links)
      fun entries ↦ entries.map NotVia.link = links.map id :=
    decodes_times fun link _ ↦ decodes_readNotVia link
  simpa only [List.map_id] using hread

/-! ## Contacts -/

def identity (contact : Contact) : NodeId × SafeStateSeqNr := (contact.id, contact.stateSeqNr)

def summary (contact : Contact) : NodeId × List NodeId × SafeStateSeqNr :=
  (contact.id, activePathIds contact, contact.stateSeqNr)

theorem length_writeContactEntry (contact : Contact) : (writeContactEntry contact).length = 24 := by
  simp [writeContactEntry]

theorem writeContactlistObject_eq {contacts : List Contact}
    (h : (writeContactlistObject contacts).run = .ok (.ok bytes)) :
    bytes = if contacts = [] then []
      else object .contactList (contacts.flatMap writeContactEntry) := by
  unfold writeContactlistObject at h
  dsimp only at h
  split at h
  · rename_i hnil
    cases h
    rw [if_pos (List.isEmpty_iff.1 hnil)]
  · rename_i hne
    split at h
    · cases h
    · cases h
      rw [if_neg (by simpa using hne), object,
        length_flatMap_of_length fun contact _ ↦ length_writeContactEntry contact, Nat.mul_comm]

variable (clock : Clock)

theorem ssn_lt (contact : Contact) : contact.stateSeqNr.val < 256 ^ 4 :=
  contact.stateSeqNr.lt.trans (by decide)

theorem decodes_readContact (contact : Contact) :
    (readContact clock).Decodes (writeContactEntry contact)
      fun contact' ↦ identity contact' = identity contact := by
  rw [writeContactEntry, List.append_assoc, List.append_assoc]
  refine (decodes_readNodeId contact.id).bind fun id hid ↦ ?_
  refine (decodes_readUint (ssn_lt contact)).bind fun ssn hssn ↦ ?_
  refine (decodes_readUint (by decide)).bind fun _ _ ↦ ?_
  refine (decodes_readUint (by decide)).bind_nil fun _ _ ↦ ?_
  subst hid hssn
  rw [SafeStateSeqNr.tryFrom_val]
  exact decodes_left.bind_pure fun _ _ ↦ rfl

theorem decodes_parseContactList (contacts : List Contact) :
    (parseContactList clock (contacts.flatMap writeContactEntry).length).Decodes
      (contacts.flatMap writeContactEntry)
      fun contacts' ↦ contacts'.map identity = contacts.map identity := by
  rw [length_flatMap_of_length fun contact _ ↦ length_writeContactEntry contact, parseContactList,
    if_neg (by omega), Nat.mul_div_cancel_left _ (by decide : 0 < 24)]
  exact decodes_times fun contact _ ↦ decodes_readContact clock contact

/-! ## Contacts with their paths -/

/-- A contact with its path, followed by other bytes, as it is written. -/
def entryBytes (contact : Contact) (extra : Bytes) : Bytes :=
  contact.id.toBytes ++ (toBeBytes 2 (activePathIds contact).length ++
    ((activePathIds contact).flatMap NodeId.toBytes ++ (toBeBytes 4 contact.stateSeqNr.val ++
      (toBeBytes 4 (2 ^ 32 - 1) ++ (toBeBytes 2 (2 ^ 16 - 1) ++ extra)))))

theorem length_entryBytes (contact : Contact) (extra : Bytes) :
    (entryBytes contact extra).length =
      26 + 14 * (activePathIds contact).length + extra.length := by
  simp only [entryBytes, List.length_append, length_toBytes, length_toBeBytes,
    length_flatMap_toBytes]
  omega

theorem writeEntry_eq {tooLong : String} {contact : Contact} {extra : Bytes}
    (h : (writeEntry tooLong contact extra).run = .ok (.ok bytes)) :
    (activePathIds contact).length < 2 ^ 16 ∧ bytes = entryBytes contact extra := by
  unfold writeEntry at h
  dsimp only at h
  split at h
  · cases h
  · rename_i hlength
    obtain rfl := Written.pure_eq_ok.1 h
    refine ⟨by omega, ?_⟩
    simp only [entryBytes, List.append_assoc]

theorem mapM_writeEntry_eq {tooLong : String} {entries : List (Contact × Bytes)}
    {written : List Bytes}
    (h : (entries.mapM fun entry ↦ writeEntry tooLong entry.1 entry.2).run = .ok (.ok written)) :
    (∀ entry ∈ entries, (activePathIds entry.1).length < 2 ^ 16) ∧
      written = entries.map fun entry ↦ entryBytes entry.1 entry.2 := by
  induction entries generalizing written with
  | nil =>
    rw [List.mapM_nil] at h
    cases h
    simp
  | cons entry entries ih =>
    rw [List.mapM_cons] at h
    obtain ⟨bytes, hentry, h⟩ := Written.bind_eq_ok.1 h
    obtain ⟨rest, hrest, h⟩ := Written.bind_eq_ok.1 h
    cases h
    obtain ⟨hlength, hbytes⟩ := writeEntry_eq hentry
    obtain ⟨hlengths, hrest⟩ := ih hrest
    refine ⟨fun other hother ↦ ?_, by rw [hbytes, hrest, List.map_cons]⟩
    obtain rfl | hother := List.mem_cons.1 hother
    · exact hlength
    · exact hlengths other hother

theorem writeEntriesObject_eq {extra : Nat} {tooMany : Nat → String}
    {tooLong : String} {entries : List (Contact × Bytes)}
    (hextra : ∀ entry ∈ entries, entry.2.length = extra)
    (h : (writeEntriesObject type extra tooMany tooLong entries).run = .ok (.ok bytes)) :
    (∀ entry ∈ entries, (activePathIds entry.1).length < 2 ^ 16) ∧
      bytes = if entries = [] then []
        else object type (entries.flatMap fun entry ↦ entryBytes entry.1 entry.2) := by
  unfold writeEntriesObject at h
  split at h
  · rename_i hnil
    cases h
    obtain rfl := List.isEmpty_iff.1 hnil
    simp
  · rename_i hne
    split at h
    · cases h
    · obtain ⟨written, hwritten, h⟩ := Written.bind_eq_ok.1 h
      cases h
      obtain ⟨hlengths, rfl⟩ := mapM_writeEntry_eq hwritten
      refine ⟨hlengths, ?_⟩
      have hsum : (entries.map fun entry ↦ entryLength extra entry.1) =
          entries.map fun entry ↦ (entryBytes entry.1 entry.2).length := by
        refine List.map_congr_left fun entry hentry ↦ ?_
        rw [length_entryBytes, hextra entry hentry, entryLength]
        simp only [NodeId.SIZE]
        omega
      rw [if_neg (by simpa using hne), object, hsum, List.length_flatMap, List.flatMap_def]

/-- A contact that is listed has an active path to itself. -/
def Reached (contact : Contact) : Prop :=
  ∃ path, contact.path = some path ∧ path.last = contact.id

variable {β : Type} {texts : EntryTexts} {extra : Nat} {readExtra : Decoder FormatError β}

theorem decodes_readPath {ids : List NodeId} (h : ids ≠ []) :
    (readPath ids.length).Decodes (ids.flatMap NodeId.toBytes) fun path ↦ path.ids = ids := by
  refine (decodes_times_readNodeId ids).bind_nil fun ids' hids ↦ ?_
  obtain rfl := hids
  have htry : Path.tryFrom ids' = some { Path.ofIds ids' h with pathState := .undefined } :=
    dif_neg h
  rw [htry]
  exact decodes_pure rfl

theorem decodes_readSafeStateSeqNr (contact : Contact) :
    readSafeStateSeqNr.Decodes (toBeBytes 4 contact.stateSeqNr.val)
      (· = contact.stateSeqNr) := by
  refine (decodes_readUint (ssn_lt contact)).bind_nil fun ssn hssn ↦ ?_
  subst hssn
  rw [SafeStateSeqNr.tryFrom_val]
  exact decodes_pure rfl

theorem decodes_parseEntry {contact : Contact} (hreached : Reached contact)
    (hsize : (activePathIds contact).length < 2 ^ 16) {value : β}
    (hlength : bytes.length = extra) (hextra : readExtra.Decodes bytes (· = value))
    {remaining : Nat} (hremaining : (entryBytes contact bytes).length ≤ remaining) :
    (parseEntry clock texts extra readExtra remaining).Decodes (entryBytes contact bytes)
      fun r ↦ (summary r.1.1, r.1.2) = (summary contact, value) ∧
        r.2 = remaining - (entryBytes contact bytes).length := by
  subst hlength
  obtain ⟨path, hpath, hlast⟩ := hreached
  have hids : activePathIds contact = path.ids := by simp [activePathIds, hpath]
  have hpos := List.length_pos_iff.2 path.ids_ne
  rw [length_entryBytes] at hremaining ⊢
  rw [hids] at hsize hremaining ⊢
  unfold parseEntry
  rw [if_neg (by simp only [NodeId.SIZE]; omega), entryBytes, hids]
  refine (decodes_readNodeId contact.id).bind fun id hid ↦ ?_
  refine (decodes_readUint hsize).bind fun size hsize ↦ ?_
  subst hid hsize
  rw [if_neg (by simp only [NodeId.SIZE]; omega)]
  refine (decodes_readPath path.ids_ne).bind fun path' hpath' ↦ ?_
  have hlast' : path'.last = contact.id := by
    rw [← hlast]
    simp only [Path.last, hpath']
  refine (decodes_assert (by simp [hlast']) _).bind_of_nil fun _ _ ↦ ?_
  refine (decodes_readSafeStateSeqNr contact).bind fun ssn hssn ↦ ?_
  refine (decodes_readUint (by decide)).bind fun _ _ ↦ ?_
  refine (decodes_readUint (by decide)).bind fun _ _ ↦ ?_
  refine hextra.bind_nil fun value' hvalue ↦ ?_
  refine decodes_left.bind_of_nil fun left _ ↦ ?_
  refine (decodes_assert (by simp only [NodeId.SIZE, decide_eq_true_eq]; omega) _).bind_of_nil
    fun _ _ ↦ decodes_pure ⟨?_, ?_⟩
  · rw [hvalue, hssn]
    simp only [summary, Contact.new_id, hlast', hids]
    exact congrArg (fun ids ↦ ((contact.id, ids, contact.stateSeqNr), value)) hpath'
  · simp only [NodeId.SIZE]
    omega

def entriesBody (encode : β → Bytes) (entries : List (Contact × β)) : Bytes :=
  entries.flatMap fun entry ↦ entryBytes entry.1 (encode entry.2)

theorem decodes_parseEntries {encode : β → Bytes} {entries : List (Contact × β)}
    (hreached : ∀ entry ∈ entries, Reached entry.1)
    (hsize : ∀ entry ∈ entries, (activePathIds entry.1).length < 2 ^ 16)
    (hextra : ∀ entry ∈ entries, (encode entry.2).length = extra)
    (hread : ∀ entry ∈ entries, readExtra.Decodes (encode entry.2) (· = entry.2)) {rounds : Nat}
    (hrounds : (entriesBody encode entries).length ≤ rounds) :
    (parseEntries clock texts extra readExtra rounds (entriesBody encode entries).length).Decodes
      (entriesBody encode entries)
      fun entries' ↦ entries'.map (fun entry ↦ (summary entry.1, entry.2)) =
        entries.map fun entry ↦ (summary entry.1, entry.2) := by
  induction entries generalizing rounds with
  | nil =>
    cases rounds with
    | zero | succ rounds => exact decodes_pure rfl
  | cons entry entries ih =>
    have hcons : entriesBody encode (entry :: entries) =
        entryBytes entry.1 (encode entry.2) ++ entriesBody encode entries := rfl
    rw [hcons, List.length_append] at hrounds ⊢
    have hpos : 0 < (entryBytes entry.1 (encode entry.2)).length := by
      rw [length_entryBytes]
      omega
    obtain ⟨rounds, rfl⟩ := Nat.exists_eq_succ_of_ne_zero (n := rounds) (by omega)
    rw [parseEntries, if_pos (by omega)]
    refine (decodes_parseEntry clock (hreached entry (by simp)) (hsize entry (by simp))
      (hextra entry (by simp)) (hread entry (by simp)) (Nat.le_add_right _ _)).bind fun r hr ↦ ?_
    obtain ⟨⟨contact, value⟩, remaining⟩ := r
    obtain ⟨hsame, hremaining⟩ := hr
    dsimp only at hremaining ⊢
    rw [hremaining, Nat.add_sub_cancel_left]
    refine (ih (fun e he ↦ hreached e (by simp [he])) (fun e he ↦ hsize e (by simp [he]))
      (fun e he ↦ hextra e (by simp [he])) (fun e he ↦ hread e (by simp [he]))
      (by omega)).bind_pure fun entries' hentries ↦ ?_
    rw [List.map_cons, List.map_cons, hentries, hsame]

theorem writeRtableObject_eq {contacts : List Contact}
    (h : (writeRtableObject contacts).run = .ok (.ok bytes)) :
    (∀ contact ∈ contacts, (activePathIds contact).length < 2 ^ 16) ∧
      bytes = if contacts = [] then [] else
        object .rtable (entriesBody (fun _ ↦ []) (contacts.map fun contact ↦ (contact, ()))) := by
  obtain ⟨hsize, rfl⟩ := writeEntriesObject_eq (by simp) h
  refine ⟨fun contact hcontact ↦ hsize (contact, []) (by simpa using hcontact), ?_⟩
  simp only [List.map_eq_nil_iff, entriesBody, List.flatMap_map]

theorem writeRtableUpdateInfoObject_eq {data : List (Contact × RouteUpdateActionType)}
    (h : (writeRtableUpdateInfoObject data).run = .ok (.ok bytes)) :
    (∀ entry ∈ data, (activePathIds entry.1).length < 2 ^ 16) ∧
      bytes = if data = [] then [] else
        object .rtableUpdateInfo (entriesBody (fun action ↦ [action.toByte]) data) := by
  obtain ⟨hsize, rfl⟩ := writeEntriesObject_eq (by grind) h
  refine ⟨fun entry hentry ↦ hsize (entry.1, [entry.2.toByte])
    (List.mem_map.2 ⟨entry, hentry, rfl⟩), ?_⟩
  simp only [List.map_eq_nil_iff, entriesBody, List.flatMap_map]

theorem decodes_parseRtable {contacts : List Contact} (hreached : ∀ c ∈ contacts, Reached c)
    (hsize : ∀ c ∈ contacts, (activePathIds c).length < 2 ^ 16) :
    let body := entriesBody (fun _ ↦ []) (contacts.map fun contact ↦ (contact, ()))
    (parseRtable clock body.length).Decodes body
      fun contacts' ↦ contacts'.map summary = contacts.map summary := by
  intro body
  have hread : (parseEntries clock rtableTexts 0 (return ()) body.length body.length).Decodes body
      fun entries ↦ entries.map (fun entry ↦ (summary entry.1, entry.2)) =
        (contacts.map fun contact ↦ (contact, ())).map fun entry ↦ (summary entry.1, entry.2) :=
    decodes_parseEntries clock (by simpa using hreached) (by simpa using hsize) (by simp)
      (fun _ _ ↦ decodes_pure rfl) le_rfl
  refine hread.bind_pure fun entries hentries ↦ ?_
  have hfst := congrArg (List.map Prod.fst) hentries
  simpa [Function.comp_def] using hfst

/-! ## What is asked for -/

theorem decodes_parseRtableRequest {type : RTableRequestTypeValue}
    (htype : RTableRequestTypeValue.ofByte type.toByte = type) (radius : BitVec 8) :
    (parseRtableRequest 2).Decodes [type.toByte, radius] (· = (type, radius)) := by
  refine (decodes_readByte type.toByte).bind fun raw hraw ↦ ?_
  refine (decodes_readByte radius).bind_pure fun raw' hraw' ↦ ?_
  rw [hraw, hraw', BitVec.ofNat_toNat, BitVec.ofNat_toNat, BitVec.setWidth_eq, BitVec.setWidth_eq,
    htype]

/-! ## Data -/

theorem decodes_readLink (source : NodeId) (link : Link) :
    readLink.Decodes (source.toBytes ++ writeLink link) (· = (source, link)) := by
  refine (decodes_readNodeId source).bind fun source' hsource ↦ ?_
  refine (decodes_readNodeId link.first).bind fun first hfirst ↦ ?_
  refine (decodes_readNodeId link.second).bind_pure fun second hsecond ↦ ?_
  rw [hsource, hfirst, hsecond, Link.new_ends]

def errorBody : ErrorData → Bytes
  | .deadEnd => [0x0a]
  | .segmentFailure failedLink source => [0x05] ++ (source.toBytes ++ writeLink failedLink)
  | .routeFailureWrongHop wrongHop source => [0x0b] ++ (source.toBytes ++ writeLink wrongHop)

theorem writeErrorData_eq (data : ErrorData) :
    writeErrorData data = object .errorData (errorBody data) := by
  cases data <;> simp [writeErrorData, object, errorBody, writeLink, NodeId.SIZE]

theorem decodes_parseErrorDataObject (data : ErrorData) :
    (parseErrorDataObject (errorBody data).length).Decodes (errorBody data) (· = data) := by
  have hlength : ∀ (byte : BitVec 8) (source : NodeId) link,
      ([byte] ++ (source.toBytes ++ writeLink link)).length = 43 := by
    simp [writeLink]
  unfold parseErrorDataObject
  cases data with
  | deadEnd =>
    refine (decodes_readByte 0x0a).bind_nil fun kind hkind ↦ ?_
    subst hkind
    exact decodes_pure rfl
  | segmentFailure link source =>
    rw [errorBody, hlength, if_neg (by decide)]
    refine (decodes_readByte 0x05).bind fun kind hkind ↦ ?_
    subst hkind
    refine (decodes_readLink source link).bind_nil fun r hr ↦ ?_
    subst hr
    exact decodes_pure rfl
  | routeFailureWrongHop link source =>
    rw [errorBody, hlength, if_neg (by decide)]
    refine (decodes_readByte 0x0b).bind fun kind hkind ↦ ?_
    subst hkind
    refine (decodes_readLink source link).bind_nil fun r hr ↦ ?_
    subst hr
    exact decodes_pure rfl

def storeReqBody (data : StoreReqData LHTInput) : Bytes :=
  data.handle.toBytes ++ (toBeBytes 2 data.data.length ++ (data.data ++
    match data.lastAccessedMs with
    | some age => toBeBytes 8 age.toNat
    | none => []))

theorem writeStoreReqDataObject_eq {data : StoreReqData LHTInput}
    (h : (writeStoreReqDataObject data).run = .ok (.ok bytes)) :
    data.data.length < 2 ^ 16 ∧ bytes = object .storeReqData (storeReqBody data) := by
  unfold writeStoreReqDataObject at h
  dsimp only at h
  split at h
  · cases h
  · rename_i hlength
    obtain rfl := Written.pure_eq_ok.1 h
    refine ⟨by omega, ?_⟩
    obtain ⟨handle, data, age⟩ := data
    cases age with
    | none | some age =>
      exact object_eq (by simp [storeReqBody]) (by simp [storeReqBody, NodeId.SIZE]; omega)

theorem decodes_parseStoreReqDataObject {data : StoreReqData LHTInput}
    (hlength : data.data.length < 2 ^ 16) :
    (parseStoreReqDataObject (storeReqBody data).length).Decodes (storeReqBody data)
      (· = data) := by
  obtain ⟨handle, data, age⟩ := data
  cases age with
  | none =>
    have hbody : (storeReqBody ⟨handle, data, none⟩).length = NodeId.SIZE + 2 + data.length := by
      simp [storeReqBody, NodeId.SIZE]
      omega
    rw [hbody, parseStoreReqDataObject, if_neg (by omega)]
    refine (decodes_readNodeId handle).bind fun handle' hhandle ↦ ?_
    refine (decodes_readUint hlength).bind fun dataLen hdataLen ↦ ?_
    subst hhandle hdataLen
    rw [if_neg (by simp), List.append_nil]
    refine (decodes_readExact data).bind_nil fun data' hdata ↦ ?_
    rw [if_pos rfl, hdata]
    exact decodes_pure rfl
  | some age =>
    have hbody : (storeReqBody ⟨handle, data, some age⟩).length =
        NodeId.SIZE + 2 + data.length + 8 := by
      simp [storeReqBody, NodeId.SIZE]
      omega
    rw [hbody, parseStoreReqDataObject, if_neg (by omega)]
    refine (decodes_readNodeId handle).bind fun handle' hhandle ↦ ?_
    refine (decodes_readUint hlength).bind fun dataLen hdataLen ↦ ?_
    subst hhandle hdataLen
    rw [if_neg (by simp)]
    refine (decodes_readExact data).bind fun data' hdata ↦ ?_
    rw [if_neg (by simp), hdata]
    refine (decodes_readUint age.isLt).bind_pure fun ageMs hage ↦ ?_
    rw [hage, BitVec.ofNat_toNat, BitVec.setWidth_eq]

def storeRspBody : StoreOk → Bytes
  | .created => [0x00]
  | .inserted => [0x01]
  | .updated => [0x02]

theorem writeStoreRspDataObject_eq {data : StoreRspData}
    (h : (writeStoreRspDataObject data).run = .ok (.ok bytes)) :
    ∃ status, data = ⟨.ok status⟩ ∧ bytes = object .storeRspData (storeRspBody status) := by
  obtain ⟨status | status⟩ := data
  · cases h
  · refine ⟨status, rfl, ?_⟩
    cases status <;> exact (Except.ok.inj (ok.inj h)).symm

theorem decodes_parseStoreRspDataObject (status : StoreOk) :
    (parseStoreRspDataObject (storeRspBody status).length).Decodes (storeRspBody status)
      (· = ⟨.ok status⟩) := by
  have hone : (storeRspBody status).length = 1 := by cases status <;> rfl
  rw [hone, parseStoreRspDataObject, if_neg (by simp)]
  cases status with
  | created =>
    refine (decodes_readByte 0x00).bind_nil fun raw hraw ↦ ?_
    subst hraw
    exact decodes_pure rfl
  | inserted =>
    refine (decodes_readByte 0x01).bind_nil fun raw hraw ↦ ?_
    subst hraw
    exact decodes_pure rfl
  | updated =>
    refine (decodes_readByte 0x02).bind_nil fun raw hraw ↦ ?_
    subst hraw
    exact decodes_pure rfl

theorem decodes_parseFetchReqDataObject (data : FetchReqData) :
    (parseFetchReqDataObject data.handle.toBytes.length).Decodes data.handle.toBytes
      (· = data) := by
  rw [length_toBytes, parseFetchReqDataObject, if_neg (by decide)]
  exact (decodes_readNodeId data.handle).bind_pure fun handle hhandle ↦ by rw [hhandle]

def valueBytes (value : Bytes) : Bytes := toBeBytes 2 value.length ++ value

def fetchRspBody (data : FetchRspData LHTOutput) : Bytes :=
  match data.data with
  | .ok values => [0x00] ++ (toBeBytes 2 values.length ++ values.flatMap valueBytes)
  | .error .notFoundErr => [0x01]

theorem fetchValuesLen_eq {values : LHTOutput} {length : Nat}
    (h : (fetchValuesLen values).run = .ok (.ok length)) :
    (∀ value ∈ values, value.length < 2 ^ 16) ∧ length = (values.flatMap valueBytes).length := by
  induction values generalizing length with
  | nil =>
    cases h
    simp
  | cons value values ih =>
    unfold fetchValuesLen at h
    dsimp only at h
    split at h
    · cases h
    · rename_i hvalue
      obtain ⟨rest, hrest, h⟩ := Written.bind_eq_ok.1 h
      obtain rfl := Written.pure_eq_ok.1 h
      obtain ⟨hvalues, rfl⟩ := ih hrest
      refine ⟨fun other hother ↦ ?_, ?_⟩
      · obtain rfl | hother := List.mem_cons.1 hother
        · omega
        · exact hvalues other hother
      · rw [List.flatMap_cons, List.length_append, valueBytes, List.length_append, length_toBeBytes]

/-- What is known of data that has been written. -/
def fetchRspFits (data : FetchRspData LHTOutput) : Prop :=
  ∀ values, data.data = .ok values →
    values.length < 2 ^ 16 ∧ ∀ value ∈ values, value.length < 2 ^ 16

theorem writeFetchRspDataObject_eq {data : FetchRspData LHTOutput}
    (h : (writeFetchRspDataObject data).run = .ok (.ok bytes)) :
    fetchRspFits data ∧ bytes = object .fetchRspData (fetchRspBody data) := by
  obtain ⟨⟨⟩ | values⟩ := data
  · refine ⟨?_, (Except.ok.inj (ok.inj h)).symm⟩
    rintro values ⟨⟩
  · unfold writeFetchRspDataObject at h
    dsimp only at h
    split at h
    · cases h
    · rename_i hcount
      obtain ⟨length, hlength, h⟩ := Written.bind_eq_ok.1 h
      obtain ⟨hvalues, rfl⟩ := fetchValuesLen_eq hlength
      split at h
      · cases h
      · obtain rfl := Written.pure_eq_ok.1 h
        refine ⟨fun values' heq ↦ ?_, ?_⟩
        · cases heq
          exact ⟨by omega, hvalues⟩
        · exact object_eq (List.append_assoc ..) (by simp [fetchRspBody]; omega)

theorem decodes_parseFetchEntries {objectLength : Nat} {values : LHTOutput}
    (hvalues : ∀ value ∈ values, value.length < 2 ^ 16) {consumed : Nat}
    (hconsumed : consumed + (values.flatMap valueBytes).length ≤ objectLength) :
    (parseFetchEntries objectLength values.length consumed).Decodes (values.flatMap valueBytes)
      (· = (values, consumed + (values.flatMap valueBytes).length)) := by
  induction values generalizing consumed with
  | nil => exact decodes_pure rfl
  | cons value values ih =>
    have hlength : (valueBytes value).length = 2 + value.length := by simp [valueBytes]
    rw [List.flatMap_cons, List.length_append, hlength] at hconsumed ⊢
    rw [valueBytes, List.append_assoc]
    refine (decodes_readUint (hvalues value (by simp))).bind fun entryLen hentryLen ↦ ?_
    subst hentryLen
    rw [if_neg (by omega)]
    refine (decodes_readExact value).bind fun item hitem ↦ ?_
    refine (ih (fun other hother ↦ hvalues other (by simp [hother])) (by omega)).bind_nil
      fun r hr ↦ ?_
    subst hr
    refine decodes_pure ?_
    rw [hitem]
    congr 1
    omega

theorem decodes_parseFetchRspDataObject {data : FetchRspData LHTOutput}
    (hfits : fetchRspFits data) :
    (parseFetchRspDataObject (fetchRspBody data).length).Decodes (fetchRspBody data)
      (· = data) := by
  obtain ⟨⟨⟩ | values⟩ := data
  · refine (decodes_readByte 0x01).bind_nil fun status hstatus ↦ ?_
    subst hstatus
    exact decodes_pure rfl
  · obtain ⟨hcount, hvalues⟩ := hfits values rfl
    have hlength : (fetchRspBody ⟨.ok values⟩).length = 3 + (values.flatMap valueBytes).length := by
      simp [fetchRspBody]
      omega
    rw [hlength, parseFetchRspDataObject, if_neg (by omega)]
    refine (decodes_readByte 0x00).bind fun status hstatus ↦ ?_
    subst hstatus
    show Decodes (if 3 + (values.flatMap valueBytes).length < 3 then _ else _) _ _
    rw [if_neg (by omega)]
    refine (decodes_readUint hcount).bind fun count hcount ↦ ?_
    subst hcount
    refine (decodes_parseFetchEntries hvalues le_rfl).bind_nil fun r hr ↦ ?_
    subst hr
    dsimp only
    rw [if_neg (by simp)]
    exact decodes_pure rfl

/-! ## The common header -/

@[simp] theorem length_header (header : CommonHeader) : header.write.length = 55 := by
  simp [CommonHeader.write]

theorem decodes_readHeader {header : CommonHeader} (hkind : ∀ raw, header.msgType ≠ .other raw) :
    (CommonHeader.read : Decoder FormatError CommonHeader).Decodes header.write (· = header) := by
  have hwrite : header.write = [header.version] ++ ([header.msgType.toByte] ++
      ([header.msgFlags] ++ (toBeBytes 2 header.msgLength.toNat ++ (header.destId.toBytes ++
      (header.srcNodeId.toBytes ++ (toBeBytes 8 header.domainId.toNat ++
      (toBeBytes 8 header.msgId.toNat ++ (toBeBytes 4 header.stateSeqNum.toNat ++
      toBeBytes 2 header.srcNodeDegree.toNat)))))))) := by
    simp [CommonHeader.write]
  rw [hwrite]
  refine (decodes_readByte header.version).bind fun version hversion ↦ ?_
  refine (decodes_readByte header.msgType.toByte).bind fun msgType hmsgType ↦ ?_
  refine (decodes_readByte header.msgFlags).bind fun msgFlags hmsgFlags ↦ ?_
  refine (decodes_readUint header.msgLength.isLt).bind fun msgLength hmsgLength ↦ ?_
  refine (decodes_readNodeId header.destId).bind fun destId hdestId ↦ ?_
  refine (decodes_readNodeId header.srcNodeId).bind fun srcNodeId hsrcNodeId ↦ ?_
  refine (decodes_readUint header.domainId.isLt).bind fun domainId hdomainId ↦ ?_
  refine (decodes_readUint header.msgId.isLt).bind fun msgId hmsgId ↦ ?_
  refine (decodes_readUint header.stateSeqNum.toNat_lt).bind fun stateSeqNum hstateSeqNum ↦ ?_
  refine (decodes_readUint header.srcNodeDegree.isLt).bind_pure fun srcNodeDegree hdegree ↦ ?_
  rw [hversion, hmsgType, hmsgFlags, hmsgLength, hdestId, hsrcNodeId, hdomainId, hmsgId,
    hstateSeqNum, hdegree, StateSeqNr.ofNat_toNat]
  simp only [BitVec.ofNat_toNat, BitVec.setWidth_eq, ProtocolMessageKind.ofByte_toByte hkind]

end Format

end Kira
