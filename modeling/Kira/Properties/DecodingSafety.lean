import Kira.Format.Deserialize

/-!
# Which bytes can be decoded safely

Reading a message is safe if the program neither panics nor takes bytes behind an object for a part
of it.  It is not safe for all bytes.  The length in the header is not compared with that of the
header, the index of a source route is not compared with the length of the route, the entries of a
routing table are compared with the wrong length, the id of a contact is asserted to be the last of
its path, and the number of values in a response is not compared with anything before the first
value is read.

Whether one of these is met depends on the bytes alone.  `objects` splits a payload, and each object
is accepted, rejected, which ends the reading, or faulty.  A payload is safe if what is met first is
not a faulty object (`payloadVerdict`).
-/

set_option autoImplicit false

namespace Kira

namespace Format

open Decoder Verdict

/-! ## Objects -/

/-- An object of a payload. -/
structure Object where
  type : ProtocolObjectType
  body : Bytes
  /-- What is behind it in the payload. -/
  rest : Bytes

/-- The objects of a payload up to the first one that does not fit, and whether there is none.  The
first argument bounds the number of objects. -/
def objects : Nat → Bytes → List Object × Bool
  | _, [] => ([], true)
  | 0, _ => ([], false)
  | rounds + 1, bytes =>
    let length := fromBeBytes ((bytes.drop 1).take 2)
    if bytes.length < 3 + length then ([], false)
    else
      let rest := objects rounds (bytes.drop (3 + length))
      (⟨.ofByte (.ofNat 8 (fromBeBytes (bytes.take 1))), (bytes.drop 3).take length,
        bytes.drop (3 + length)⟩ :: rest.1, rest.2)

/-- The verdict on a payload: that on the first object that is not accepted.  Objects behind one
that stops the search are not met. -/
def payloadVerdict (judge : Object → Verdict) (stops : ProtocolObjectType → Bool) :
    List Object → Bool → Verdict
  | [], complete => if complete then accepted else rejected
  | o :: os, complete =>
    (judge o).andThen (if stops o.type then accepted else payloadVerdict judge stops os complete)

/-! ### Verdicts on single objects -/

/-- The index has to be that of a node behind the first one. -/
def sourceRouteVerdict (body : Bytes) : Verdict :=
  let hops := (body.length - 2) / NodeId.SIZE
  if body.length < 2 ∨ (body.length - 2) % NodeId.SIZE ≠ 0 ∨ hops < 2 then rejected
  else
    let index := fromBeBytes (body.take 2)
    if 1 ≤ index ∧ index < hops then accepted else faulty

/-- The first and the last number are no sequence numbers. -/
def ssnVerdict (bytes : Bytes) : Verdict :=
  if (SafeStateSeqNr.tryFrom (fromBeBytes bytes)).isSome then accepted else rejected

/-- Contacts without paths: their sequence numbers have to be valid. -/
def contactsVerdict : Nat → Bytes → Verdict
  | 0, _ => accepted
  | n + 1, body =>
    (ssnVerdict ((body.drop 14).take 4)).andThen (contactsVerdict n (body.drop 24))

/-- The number of hops that an entry announces. -/
def pathSize (body : Bytes) : Nat := fromBeBytes ((body.drop 14).take 2)

/-- A contact with its path, followed by `extra` bytes.  The path may go past the end of the object,
and it has to end with the contact. -/
def entryVerdict (extra : Nat) (body : Bytes) (later : Nat) : Verdict :=
  let size := pathSize body
  let ids := values 14 NodeId.ofBytes size (body.drop 16)
  let tail := body.drop (16 + 14 * size)
  if body.length < 40 + extra ∨ body.length < 26 + size + extra then rejected
  else
    (fields 14 size (body.length - 16) later).andThen <|
    (if size = 0 then rejected else accepted).andThen <|
    if ids.getLast? = some (.ofBytes (body.take 14)) then
      (field 4 tail.length later).andThen <|
      (ssnVerdict (tail.take 4)).andThen <|
      (field 4 (tail.length - 4) later).andThen <|
      (field 2 (tail.length - 8) later).andThen <|
      field extra (tail.length - 10) later
    else faulty

/-- Contacts with paths. -/
def entriesVerdict (extra : Nat) : (rounds : Nat) → (body : Bytes) → (later : Nat) → Verdict
  | 0, body, _ => if body = [] then accepted else faulty
  | rounds + 1, body, later =>
    if body = [] then accepted
    else
      (entryVerdict extra body later).andThen
        (entriesVerdict extra rounds (body.drop (26 + 14 * pathSize body + extra)) later)

/-- What becomes of an object when a payload is gone through for the first time. -/
def Object.verdict (o : Object) : Verdict :=
  match o.type with
  | .sourceRoute => sourceRouteVerdict o.body
  | .notViaList => if o.body.length % 32 ≠ 0 then rejected else accepted
  | .contactList =>
    if o.body.length % 24 ≠ 0 then rejected else contactsVerdict (o.body.length / 24) o.body
  | .rtable => entriesVerdict 0 o.body.length o.body o.rest.length
  | .rtableRequest => if o.body.length ≠ 2 then rejected else accepted
  | _ => accepted

/-- Values.  The length of a value is read before anything is compared with the object. -/
def fetchEntriesVerdict : (entryCount : Nat) → (body : Bytes) → (later : Nat) → Verdict
  | 0, _, _ => accepted
  | entryCount + 1, body, later =>
    let entryLen := fromBeBytes (body.take 2)
    (field 2 body.length later).andThen <|
    if body.length < 2 + entryLen then rejected
    else fetchEntriesVerdict entryCount (body.drop (2 + entryLen)) later

/-- What is behind the values. -/
def behindFetchEntries : (entryCount : Nat) → Bytes → Bytes
  | 0, body => body
  | entryCount + 1, body =>
    behindFetchEntries entryCount (body.drop (2 + fromBeBytes (body.take 2)))

/-- The answer to a request for values. -/
def fetchRspVerdict (body : Bytes) (later : Nat) : Verdict :=
  if body.length < 1 then rejected
  else
    match fromBeBytes (body.take 1) with
    | 0x01 => if body.length ≠ 1 then rejected else accepted
    | 0x00 =>
      let entryCount := fromBeBytes ((body.drop 1).take 2)
      if body.length < 3 then rejected
      else
        (fetchEntriesVerdict entryCount (body.drop 3) later).andThen <|
        if behindFetchEntries entryCount (body.drop 3) = [] then accepted else rejected
    | _ => rejected

/-! ### Verdicts on payloads -/

/-- The verdict on a payload that is gone through for the first time. -/
def commonVerdict (payload : Bytes) : Verdict :=
  payloadVerdict Object.verdict (fun _ ↦ false) (objects payload.length payload).1
    (objects payload.length payload).2

/-- The verdict on a payload that is searched for an object. -/
def searchVerdict (type : ProtocolObjectType) (judge : Bytes → Bytes → Verdict) (payload : Bytes) :
    Verdict :=
  payloadVerdict (fun o ↦ if o.type = type then judge o.body o.rest else accepted)
    (fun type' ↦ decide (type' = type)) (objects payload.length payload).1
    (objects payload.length payload).2

/-- The verdict on a payload that is gone through for the data of a message.  Only two kinds of data
can be faulty. -/
def dataVerdict (kind : ProtocolMessageKind) (payload : Bytes) : Verdict :=
  match kind with
  | .updateRouteReq =>
    searchVerdict .rtableUpdateInfo
      (fun body rest ↦ entriesVerdict 1 body.length body rest.length) payload
  | .fetchRsp =>
    searchVerdict .fetchRspData (fun body rest ↦ fetchRspVerdict body rest.length) payload
  | _ => accepted

/-! ## Reading an object -/

variable {σ ρ β : Type}

theorem judged_readCommonObjectHeader (bytes : Bytes) :
    readCommonObjectHeader.Judged (.start bytes)
      (if 3 ≤ bytes.length then accepted else rejected)
      fun header c ↦ header = ⟨.ofByte (.ofNat 8 (fromBeBytes (bytes.take 1))),
        fromBeBytes ((bytes.drop 1).take 2)⟩ ∧ c = .start (bytes.drop 3) := by
  rw [Cursor.start_eq_inside]
  refine judged_mapErr _ ?_
  have hverdict : (field 1 bytes.length 0).andThen
      ((field 2 (bytes.drop 1).length 0).andThen accepted) =
      if 3 ≤ bytes.length then accepted else rejected := by
    rw [List.length_drop]
    unfold field
    split
    · split
      · rw [if_pos (by omega)]
        rfl
      · rw [if_neg (by omega), if_neg (by omega)]
        rfl
    · rw [if_neg (by omega), rejected_andThen, if_neg (by omega)]
  rw [← hverdict]
  refine (judged_readUint 1 bytes []).bind fun _ type mid hmid ↦ ?_
  obtain ⟨rfl, rfl⟩ := hmid
  refine (judged_readUint 2 (bytes.drop 1) []).bind fun _ length mid hmid ↦ ?_
  obtain ⟨rfl, rfl⟩ := hmid
  refine judged_pure ⟨rfl, ?_⟩
  rw [Cursor.start_eq_inside, List.drop_drop]

theorem objects_succ (rounds : Nat) {bytes : Bytes} (h : bytes ≠ []) :
    objects (rounds + 1) bytes =
      let length := fromBeBytes ((bytes.drop 1).take 2)
      if bytes.length < 3 + length then ([], false)
      else
        let rest := objects rounds (bytes.drop (3 + length))
        (⟨.ofByte (.ofNat 8 (fromBeBytes (bytes.take 1))), (bytes.drop 3).take length,
          bytes.drop (3 + length)⟩ :: rest.1, rest.2) := by
  cases bytes with
  | nil => exact absurd rfl h
  | cons byte bytes => rfl

/-- **The loop over the objects.** -/
theorem judged_parseObjects {payloadLen : Nat} {exceeds : CommonObjectHeader → Nat → String}
    {handle : σ → CommonObjectHeader → Decoder FormatError (σ ⊕ ρ)} (judge : Object → Verdict)
    (stops : ProtocolObjectType → Bool)
    (hhandle : ∀ found type body rest, (handle found ⟨type, body.length⟩).Judged
      (.inside body rest) (judge ⟨type, body, rest⟩)
      fun r c ↦ if stops type then r.isRight = true ∧ c.overrun = false
        else r.isLeft = true ∧ c = .inside [] rest)
    (rounds : Nat) (bytes : Bytes) (consumed : Nat) (found : σ) (hrounds : bytes.length ≤ rounds)
    (hconsumed : consumed + bytes.length = payloadLen) :
    (parseObjects payloadLen exceeds handle rounds consumed found).Judged (.start bytes)
      (payloadVerdict judge stops (objects rounds bytes).1 (objects rounds bytes).2)
      fun r c ↦ r.isRight = (objects rounds bytes).1.any (fun o ↦ stops o.type) ∧
        c.overrun = false := by
  induction rounds generalizing bytes consumed found with
  | zero =>
    obtain rfl : bytes = [] := List.length_eq_zero_iff.1 (Nat.le_zero.1 hrounds)
    have hend : ¬ consumed < payloadLen := by simp at hconsumed; omega
    rw [parseObjects, if_neg hend]
    exact judged_pure ⟨rfl, rfl⟩
  | succ rounds ih =>
    rw [parseObjects]
    by_cases hnil : bytes = []
    · subst hnil
      have hend : ¬ consumed < payloadLen := by simp at hconsumed; omega
      rw [if_neg hend]
      exact judged_pure ⟨rfl, rfl⟩
    · have hpos := List.length_pos_iff.2 hnil
      rw [if_pos (by omega)]
      rw [objects_succ rounds hnil]
      have hheader := judged_readCommonObjectHeader bytes
      generalize hlength : fromBeBytes ((bytes.drop 1).take 2) = length at hheader ⊢
      generalize ProtocolObjectType.ofByte (.ofNat 8 (fromBeBytes (bytes.take 1))) = type
        at hheader ⊢
      dsimp only
      split
      · -- the object does not fit
        rename_i hshort
        by_cases hthree : 3 ≤ bytes.length
        · rw [if_pos hthree] at hheader
          refine hheader.bind_accepted fun header mid hmid ↦ ?_
          obtain ⟨rfl, rfl⟩ := hmid
          rw [if_pos (by dsimp only; omega)]
          exact judged_fail _ rfl
        · rw [if_neg hthree] at hheader
          exact hheader.bind_rejected _
      · rename_i hfits
        rw [if_pos (by omega)] at hheader
        refine hheader.bind_accepted fun header mid hmid ↦ ?_
        obtain ⟨rfl, rfl⟩ := hmid
        rw [if_neg (by dsimp only; omega)]
        have hbody : ((bytes.drop 3).take length).length = length := by simp; omega
        have hrest : (bytes.drop (3 + length)).length = bytes.length - (3 + length) := by simp
        have hsplit : bytes.drop 3 = (bytes.drop 3).take length ++ bytes.drop (3 + length) := by
          rw [← List.drop_drop, List.take_append_drop]
        generalize (bytes.drop 3).take length = body at hbody hsplit ⊢
        generalize bytes.drop (3 + length) = rest at hrest hsplit ⊢
        have hread := hhandle found type body rest
        rw [hbody] at hread
        rw [hsplit, payloadVerdict]
        dsimp only
        cases hstops : stops type with
        | true =>
          have hwithin : (within length (handle found ⟨type, length⟩)).Judged
              (.start (body ++ rest)) (judge ⟨type, body, rest⟩)
              fun r c ↦ r.isRight = true ∧ c.overrun = false :=
            judged_within hbody (hread.imp fun r c hrc ↦ by simpa [hstops] using hrc)
          refine hwithin.bind fun _ r mid hmid ↦ ?_
          obtain ⟨result, rfl⟩ := Sum.isRight_iff.1 hmid.1
          exact judged_pure ⟨by simp [hstops], hmid.2⟩
        | false =>
          have hwithin : (within length (handle found ⟨type, length⟩)).Judged
              (.start (body ++ rest)) (judge ⟨type, body, rest⟩)
              fun r c ↦ r.isLeft = true ∧ c = .start rest := by
            refine judged_within hbody (hread.imp fun r c hrc ↦ ?_)
            obtain ⟨hr, rfl⟩ : r.isLeft = true ∧ c = .inside [] rest := by
              simpa [hstops] using hrc
            exact ⟨hr, rfl⟩
          refine hwithin.bind fun _ r mid hmid ↦ ?_
          obtain ⟨⟨found', rfl⟩, rfl⟩ := And.imp_left Sum.isLeft_iff.1 hmid
          refine (ih rest _ found' (by omega) (by omega)).imp fun r c hc ↦ ⟨?_, hc.2⟩
          simpa [hstops] using hc.1

/-! ### The objects of the first pass -/

theorem judged_parseSourceRoute (body rest : Bytes) :
    (parseSourceRoute body.length).Judged (.inside body rest) (sourceRouteVerdict body)
      fun _ c ↦ c = .inside [] rest := by
  unfold parseSourceRoute sourceRouteVerdict
  by_cases hshort : body.length < 2
  · rw [if_pos hshort, if_pos (.inl hshort)]
    exact judged_fail _ rfl
  rw [if_neg hshort]
  refine judged_readUint_bind (by omega) ?_
  by_cases hmod : (body.length - 2) % NodeId.SIZE ≠ 0
  · rw [if_pos hmod, if_pos (.inr (.inl hmod))]
    exact judged_fail _ rfl
  rw [if_neg hmod]
  by_cases htwo : (body.length - 2) / NodeId.SIZE < 2
  · rw [if_pos htwo, if_pos (.inr (.inr htwo))]
    exact judged_fail _ rfl
  rw [if_neg htwo, if_neg (by simp only [not_or]; exact ⟨hshort, hmod, htwo⟩)]
  have hlength : NodeId.SIZE * ((body.length - 2) / NodeId.SIZE) = (body.drop 2).length := by
    rw [List.length_drop, Nat.mul_div_cancel' (Nat.dvd_of_mod_eq_zero (not_not.1 hmod))]
  refine (judged_times_all NodeId.judged_read hlength rest).bind_accepted fun hops mid hmid ↦ ?_
  obtain ⟨hhops, rfl⟩ := hmid
  have hcount : (body.length - 2) / NodeId.SIZE = hops.length := by rw [hhops, length_values]
  rw [hcount] at htwo ⊢
  have htry : SourceRoute.tryFrom hops = .ok ⟨hops, 1, Nat.le_of_not_lt htwo⟩ :=
    dif_pos (Nat.le_of_not_lt htwo)
  refine (judged_lift htry).bind_accepted fun route mid hmid ↦ ?_
  obtain ⟨rfl, rfl⟩ := hmid
  generalize fromBeBytes (body.take 2) = index
  have htraveled := SourceRoute.traveledHopCount_advance_iterate (Nat.le_of_not_lt htwo) (index - 1)
  refine (judged_lift htraveled).bind_accepted fun traveled mid hmid ↦ ?_
  obtain ⟨rfl, rfl⟩ := hmid
  -- the route stops at its last node, whatever the index
  have hassert : (index == min (1 + (index - 1)) (hops.length - 1)) =
      decide (1 ≤ index ∧ index < hops.length) := by
    rw [Bool.eq_iff_iff, beq_iff_eq, decide_eq_true_iff]
    omega
  have hverdict : (if 1 ≤ index ∧ index < hops.length then accepted else faulty) =
      if decide (1 ≤ index ∧ index < hops.length) then accepted else faulty := by
    simp only [decide_eq_true_eq]
  dsimp only
  rw [hassert, hverdict]
  exact judged_assert_bind _ fun _ ↦ judged_pure rfl

theorem total_readNodeId : (NodeId.read : Decoder FormatError NodeId).Total 14 :=
  (total_readExact 14).bind fun bytes ↦ total_pure (NodeId.ofBytes bytes)

theorem total_readNotVia : readNotVia.Total 32 :=
  total_readNodeId.bind fun _ ↦ total_readNodeId.bind fun _ ↦ (total_readUint 4).bind fun _ ↦
    total_pure _

theorem judged_parseNotViaList (body rest : Bytes) :
    (parseNotViaList body.length).Judged (.inside body rest)
      (if body.length % 32 ≠ 0 then rejected else accepted) fun _ c ↦ c = .inside [] rest := by
  unfold parseNotViaList
  split
  · exact judged_fail _ rfl
  · rename_i hmod
    exact (total_readNotVia.times _).judged (by omega) rest

theorem judged_readContact (clock : Clock) {body : Bytes} (h : 24 ≤ body.length) (rest : Bytes) :
    (readContact clock).Judged (.inside body rest)
      (ssnVerdict ((body.drop 14).take 4)) fun _ c ↦ c = .inside (body.drop 24) rest := by
  refine NodeId.judged_read_bind (by omega) ?_
  refine judged_readUint_bind (by simp; omega) ?_
  refine judged_readUint_bind (by simp; omega) ?_
  refine judged_readUint_bind (by simp; omega) ?_
  rw [ssnVerdict]
  cases SafeStateSeqNr.tryFrom (fromBeBytes ((body.drop 14).take 4)) with
  | none => exact judged_fail _ rfl
  | some ssn =>
    refine ⟨_, _, rfl, ?_⟩
    simp only [List.drop_drop]

theorem judged_parseContacts (clock : Clock) (n : Nat) {body : Bytes} (h : body.length = 24 * n)
    (rest : Bytes) :
    (times n (readContact clock)).Judged (.inside body rest) (contactsVerdict n body)
      fun _ c ↦ c = .inside [] rest := by
  induction n generalizing body with
  | zero =>
    obtain rfl := List.length_eq_zero_iff.1 h
    exact judged_pure rfl
  | succ n ih =>
    have hlong : 24 ≤ body.length := by omega
    rw [contactsVerdict, times]
    refine (judged_readContact clock hlong rest).bind fun _ contact mid hmid ↦ ?_
    rw [hmid]
    exact (ih (by simp; omega)).bind_pure fun _ _ hc ↦ hc

theorem judged_parseContactList (clock : Clock) (body rest : Bytes) :
    (parseContactList clock body.length).Judged (.inside body rest)
      (if body.length % 24 ≠ 0 then rejected else contactsVerdict (body.length / 24) body)
      fun _ c ↦ c = .inside [] rest := by
  unfold parseContactList
  split
  · exact judged_fail _ rfl
  · exact judged_parseContacts clock _ (by omega) rest

theorem judged_readPath (size : Nat) (body rest : Bytes) :
    (readPath size).Judged (.inside body rest)
      ((fields 14 size body.length rest.length).andThen (if size = 0 then rejected else accepted))
      fun path c ↦ path.ids = values 14 NodeId.ofBytes size body ∧
        c = .inside (body.drop (14 * size)) rest := by
  refine (judged_times NodeId.judged_read size body rest).bind fun _ ids mid hmid ↦ ?_
  obtain ⟨rfl, rfl⟩ := hmid
  cases size with
  | zero => exact judged_fail _ rfl
  | succ size => exact judged_pure ⟨rfl, rfl⟩

theorem judged_readSafeStateSeqNr (body rest : Bytes) :
    readSafeStateSeqNr.Judged (.inside body rest)
      ((field 4 body.length rest.length).andThen (ssnVerdict (body.take 4)))
      fun _ c ↦ c = .inside (body.drop 4) rest := by
  refine (judged_readUint 4 body rest).bind fun _ ssnRaw mid hmid ↦ ?_
  obtain ⟨rfl, rfl⟩ := hmid
  rw [ssnVerdict]
  cases SafeStateSeqNr.tryFrom (fromBeBytes (body.take 4)) with
  | none => exact judged_fail _ rfl
  | some ssn => exact judged_pure rfl

section Entries

variable (clock : Clock) (texts : EntryTexts) {extra : Nat} {readExtra : Decoder FormatError β}
  (hextra : ∀ body rest, readExtra.Judged (.inside body rest)
    (field extra body.length rest.length) fun _ c ↦ c = .inside (body.drop extra) rest)

include hextra

theorem judged_parseEntry (body rest : Bytes) :
    (parseEntry clock texts extra readExtra body.length).Judged (.inside body rest)
      (entryVerdict extra body rest.length)
      fun r c ↦ r.2 = (body.drop (26 + 14 * pathSize body + extra)).length ∧
        c = .inside (body.drop (26 + 14 * pathSize body + extra)) rest := by
  rw [parseEntry, entryVerdict]
  have hleastEq : 2 * NodeId.SIZE + 2 + 4 + 4 + 2 + extra = 40 + extra := rfl
  rw [hleastEq]
  by_cases hleast : body.length < 40 + extra
  · rw [if_pos hleast, if_pos (.inl hleast)]
    exact judged_fail _ rfl
  rw [if_neg hleast]
  refine NodeId.judged_read_bind (by omega) (judged_readUint_bind (by simp; omega) ?_)
  change Judged _ _ (let size := pathSize body; _) _
  rw [show fromBeBytes ((body.drop 14).take 2) = pathSize body from rfl, List.drop_drop]
  generalize pathSize body = size
  have hexpected : NodeId.SIZE + size + 2 + 4 + 4 + 2 + extra = 26 + size + extra := by
    simp only [NodeId.SIZE]
    omega
  rw [hexpected]
  dsimp only
  by_cases hpath : body.length < 26 + size + extra
  · rw [if_pos hpath, if_pos (.inr hpath)]
    exact judged_fail _ rfl
  rw [if_neg hpath, if_neg (by rw [not_or]; exact ⟨hleast, hpath⟩), ← andThen_assoc]
  have hread := judged_readPath size (body.drop 16) rest
  rw [List.length_drop, List.drop_drop] at hread
  refine hread.bind fun hhops path mid hmid ↦ ?_
  obtain ⟨hids, rfl⟩ := hmid
  have hhops := fields_eq_accepted (andThen_eq_accepted hhops).1
  rw [← hids]
  have hlast : (NodeId.ofBytes (body.take 14) == path.last) =
      decide (path.ids.getLast? = some (.ofBytes (body.take 14))) := by
    rw [Bool.eq_iff_iff, beq_iff_eq, decide_eq_true_iff, List.getLast?_eq_some_getLast path.ids_ne,
      Option.some_inj, eq_comm]
    rfl
  rw [hlast, ← if_congr (decide_eq_true_iff) rfl rfl]
  refine judged_assert_bind _ fun _ ↦ ?_
  -- the fields behind the path
  have htail : (body.drop (16 + 14 * size)).length = body.length - (16 + 14 * size) := by simp
  have hend : ((((body.drop (16 + 14 * size)).drop 4).drop 4).drop 2).drop extra =
      body.drop (26 + 14 * size + extra) := by
    simp only [List.drop_drop]
    congr 1
    omega
  generalize body.drop (16 + 14 * size) = tail at htail hend ⊢
  have hage : tail.length - 4 = (tail.drop 4).length := by simp
  have hdegree : tail.length - 8 = ((tail.drop 4).drop 4).length := by simp
  have hvalue : tail.length - 10 = (((tail.drop 4).drop 4).drop 2).length := by simp
  rw [← andThen_assoc, hage, hdegree, hvalue]
  refine (judged_readSafeStateSeqNr tail rest).bind fun hssn ssn mid hmid ↦ ?_
  subst hmid
  refine (judged_readUint 4 _ rest).bind fun _ age mid hmid ↦ ?_
  obtain ⟨-, rfl⟩ := hmid
  refine (judged_readUint 2 _ rest).bind fun hfits degree mid hmid ↦ ?_
  obtain ⟨-, rfl⟩ := hmid
  rw [← andThen_accepted (field extra _ _)]
  refine (hextra _ rest).bind fun hfits' value mid hmid ↦ judged_left_bind ?_
  subst hmid
  have hfits := field_eq_accepted hfits
  have hfits' := field_eq_accepted hfits'
  have hentry :
      NodeId.SIZE + size * NodeId.SIZE + 2 + 4 + 4 + 2 + extra = 26 + 14 * size + extra := by
    simp only [NodeId.SIZE]
    omega
  rw [hentry, hend]
  have hle : decide (26 + 14 * size + extra ≤ body.length) = true := by
    rw [decide_eq_true_iff]
    omega
  rw [hle]
  exact ⟨_, _, rfl, by simp, rfl⟩

/-- **The loop over the entries.** -/
theorem judged_parseEntries (rounds : Nat) (body rest : Bytes) (hrounds : body.length ≤ rounds) :
    (parseEntries clock texts extra readExtra rounds body.length).Judged (.inside body rest)
      (entriesVerdict extra rounds body rest.length) fun _ c ↦ c = .inside [] rest := by
  induction rounds generalizing body with
  | zero =>
    obtain rfl := List.length_eq_zero_iff.1 (Nat.le_zero.1 hrounds)
    exact judged_pure rfl
  | succ rounds ih =>
    rw [parseEntries, entriesVerdict]
    by_cases hnil : body = []
    · subst hnil
      exact judged_pure rfl
    have hpos := List.length_pos_iff.2 hnil
    rw [if_pos hpos, if_neg hnil]
    refine (judged_parseEntry clock texts hextra body rest).bind fun _ r mid hmid ↦ ?_
    obtain ⟨entry, remaining⟩ := r
    obtain ⟨rfl, rfl⟩ := hmid
    refine (ih _ ?_).bind_pure fun _ _ hc ↦ hc
    rw [List.length_drop]
    omega

end Entries

theorem judged_parseRtable (clock : Clock) (body rest : Bytes) :
    (parseRtable clock body.length).Judged (.inside body rest)
      (entriesVerdict 0 body.length body rest.length) fun _ c ↦ c = .inside [] rest := by
  refine (judged_parseEntries clock rtableTexts (fun body rest ↦ ?_) _ body rest
    le_rfl).bind_pure fun _ _ hc ↦ hc
  rw [field_of_le (Nat.zero_le _), List.drop_zero]
  exact judged_pure rfl

theorem judged_parseRtableRequest (body rest : Bytes) :
    (parseRtableRequest body.length).Judged (.inside body rest)
      (if body.length ≠ 2 then rejected else accepted) fun _ c ↦ c = .inside [] rest := by
  unfold parseRtableRequest
  split
  · exact judged_fail _ rfl
  · rename_i htwo
    have htotal : (do
        let reqTypeRaw ← readUint 1
        let radius ← readUint 1
        return (RTableRequestTypeValue.ofByte (.ofNat 8 reqTypeRaw), BitVec.ofNat 8 radius) :
        Decoder FormatError (RTableRequestTypeValue × BitVec 8)).Total 2 :=
      (total_readUint 1).bind fun _ ↦ (total_readUint 1).bind fun _ ↦ total_pure _
    exact htotal.judged (not_not.1 htwo) rest

/-- **One object of the first pass.** -/
theorem judged_parseReqRspObject (clock : Clock) (parsed : ParsedReqRspPayload)
    (type : ProtocolObjectType) (body rest : Bytes) :
    (parseReqRspObject clock parsed ⟨type, body.length⟩).Judged (.inside body rest)
      (Object.verdict ⟨type, body, rest⟩) fun _ c ↦ c = .inside [] rest := by
  have hskip : (do
      skip body.length
      return parsed : Decoder FormatError ParsedReqRspPayload).Judged (.inside body rest) accepted
      fun _ c ↦ c = .inside [] rest := by
    refine (judged_skip le_rfl rest).bind_accepted fun _ mid hmid ↦ judged_pure ?_
    rw [hmid, List.drop_length]
  unfold parseReqRspObject Object.verdict
  cases type with
  | sourceRoute => exact (judged_parseSourceRoute body rest).bind_pure fun _ _ hc ↦ hc
  | notViaList => exact (judged_parseNotViaList body rest).bind_pure fun _ _ hc ↦ hc
  | contactList => exact (judged_parseContactList clock body rest).bind_pure fun _ _ hc ↦ hc
  | rtable => exact (judged_parseRtable clock body rest).bind_pure fun _ _ hc ↦ hc
  | rtableRequest => exact (judged_parseRtableRequest body rest).bind_pure fun _ _ hc ↦ hc
  | _ => exact hskip

/-! ### The data of single kinds of messages -/

theorem judged_parseFetchEntries {objectLength : Nat} (entryCount : Nat) {consumed : Nat}
    (body rest : Bytes) (hconsumed : consumed + body.length = objectLength) :
    (parseFetchEntries objectLength entryCount consumed).Judged (.inside body rest)
      (fetchEntriesVerdict entryCount body rest.length)
      fun r c ↦ r.2 + (behindFetchEntries entryCount body).length = objectLength ∧
        c.overrun = false := by
  induction entryCount generalizing consumed body with
  | zero => exact judged_pure ⟨hconsumed, rfl⟩
  | succ entryCount ih =>
    refine (judged_readUint 2 body rest).bind fun hfits entryLen mid hmid ↦ ?_
    obtain ⟨rfl, rfl⟩ := hmid
    rw [behindFetchEntries]
    generalize fromBeBytes (body.take 2) = entryLen
    have hfits := field_eq_accepted hfits
    by_cases hshort : body.length < 2 + entryLen
    · rw [if_pos hshort, if_pos (by omega)]
      exact judged_fail _ rfl
    rw [if_neg hshort, if_neg (by omega)]
    have hitem := judged_readExact (ε := FormatError) entryLen (body.drop 2) rest
    rw [field_of_le (by simp; omega), List.drop_drop] at hitem
    refine hitem.bind_accepted fun item mid hmid ↦ ?_
    obtain ⟨-, rfl⟩ := hmid
    exact (ih _ (by simp; omega)).bind_pure fun _ _ hc ↦ hc

theorem harmless_parseErrorDataObject (body rest : Bytes) :
    (parseErrorDataObject body.length).Harmless (.inside body rest)
      fun _ c ↦ c = .inside [] rest := by
  unfold parseErrorDataObject
  split
  · exact harmless_fail _ rfl
  refine harmless_readUint_bind (by omega) ?_
  have hlink : readLink.Total 42 :=
    total_readNodeId.bind fun _ ↦ total_readNodeId.bind fun _ ↦ total_readNodeId.bind fun _ ↦
      total_pure _
  have hdrop : ¬ body.length ≠ 1 + NodeId.SIZE * 3 → (body.drop 1).length = 42 := by
    intro hlen
    simp only [NodeId.SIZE] at hlen
    simp
    omega
  dsimp only
  split
  · split
    · exact harmless_fail _ rfl
    · rename_i hone
      refine harmless_pure ?_
      rw [List.drop_eq_nil_of_le (by omega)]
  · split
    · exact harmless_fail _ rfl
    · rename_i hlen
      exact ((hlink.judged (hdrop hlen) rest).bind_pure fun _ _ hc ↦ hc).harmless (by decide)
  · split
    · exact harmless_fail _ rfl
    · rename_i hlen
      exact ((hlink.judged (hdrop hlen) rest).bind_pure fun _ _ hc ↦ hc).harmless (by decide)
  · exact harmless_fail _ rfl

theorem harmless_parseStoreReqDataObject (body rest : Bytes) :
    (parseStoreReqDataObject body.length).Harmless (.inside body rest)
      fun _ c ↦ c.overrun = false := by
  unfold parseStoreReqDataObject
  dsimp only
  split
  · exact harmless_fail _ rfl
  rename_i hleast
  simp only [NodeId.SIZE] at hleast
  refine NodeId.harmless_read_bind (by omega) (harmless_readUint_bind (by simp; omega) ?_)
  generalize fromBeBytes ((body.drop 14).take 2) = dataLen
  split
  · exact harmless_fail _ rfl
  rename_i hlen
  simp only [NodeId.SIZE, List.drop_drop] at hlen ⊢
  have hdata := judged_readExact (ε := FormatError) dataLen (body.drop (14 + 2)) rest
  rw [field_of_le (by simp; omega)] at hdata
  refine (hdata.harmless (by decide)).bind fun data mid hmid ↦ ?_
  obtain ⟨-, rfl⟩ := hmid
  split
  · exact harmless_pure rfl
  · exact harmless_readUint_bind (by simp; omega) (harmless_pure rfl)

theorem harmless_parseStoreRspDataObject (body rest : Bytes) :
    (parseStoreRspDataObject body.length).Harmless (.inside body rest)
      fun _ c ↦ c.overrun = false := by
  unfold parseStoreRspDataObject
  split
  · exact harmless_fail _ rfl
  refine harmless_readUint_bind (by omega) ?_
  dsimp only
  split
  · exact harmless_pure rfl
  · exact harmless_pure rfl
  · exact harmless_pure rfl
  · exact harmless_fail _ rfl

theorem harmless_parseFetchReqDataObject (body rest : Bytes) :
    (parseFetchReqDataObject body.length).Harmless (.inside body rest)
      fun _ c ↦ c.overrun = false := by
  unfold parseFetchReqDataObject
  split
  · exact harmless_fail _ rfl
  · rename_i hlen
    refine ((total_readNodeId.judged (not_not.1 hlen) rest).bind_pure fun _ _ hc ↦ ?_).harmless
      (by decide)
    rw [hc]
    rfl

theorem judged_parseFetchRspDataObject (body rest : Bytes) :
    (parseFetchRspDataObject body.length).Judged (.inside body rest)
      (fetchRspVerdict body rest.length) fun _ c ↦ c.overrun = false := by
  unfold parseFetchRspDataObject fetchRspVerdict
  split
  · exact judged_fail _ rfl
  rename_i hpos
  refine judged_readUint_bind (by omega) ?_
  have hbyte : (BitVec.ofNat 8 (fromBeBytes (body.take 1))).toNat = fromBeBytes (body.take 1) := by
    have hlt := fromBeBytes_lt (body.take 1)
    rw [List.length_take, min_eq_left (by omega)] at hlt
    exact Nat.mod_eq_of_lt hlt
  dsimp only
  rw [hbyte]
  generalize fromBeBytes (body.take 1) = status
  match status with
  | 1 =>
    show Judged (if body.length ≠ 1 then _ else _) _
      (if body.length ≠ 1 then rejected else accepted) _
    split
    · exact judged_fail _ rfl
    · exact judged_pure rfl
  | 0 =>
    show Judged (if body.length < 3 then _ else _) _ (if body.length < 3 then rejected else _) _
    split
    · exact judged_fail _ rfl
    rename_i hthree
    refine judged_readUint_bind (by simp; omega) ?_
    rw [List.drop_drop]
    have hconsumed : 3 + (body.drop 3).length = body.length := by simp; omega
    refine (judged_parseFetchEntries _ (body.drop 3) rest hconsumed).bind fun _ r mid hmid ↦ ?_
    obtain ⟨entries, consumed⟩ := r
    obtain ⟨hconsumed, hover⟩ := hmid
    generalize behindFetchEntries _ _ = left at hconsumed ⊢
    dsimp only at hconsumed ⊢
    by_cases hnil : left = []
    · rw [if_pos hnil, if_neg (by simpa [hnil] using hconsumed)]
      exact judged_pure hover
    · have hpos := List.length_pos_iff.2 hnil
      rw [if_neg hnil, if_pos (by omega)]
      exact judged_fail _ hover
  | status + 2 => exact judged_fail _ rfl

/-! ## Payloads -/

theorem payloadVerdict_ne_faulty {judge : Object → Verdict} {stops : ProtocolObjectType → Bool}
    (h : ∀ o, judge o ≠ faulty) (os : List Object) (complete : Bool) :
    payloadVerdict judge stops os complete ≠ faulty := by
  induction os with
  | nil => cases complete <;> simp [payloadVerdict]
  | cons o os ih =>
    rw [payloadVerdict]
    cases hjudge : judge o with
    | faulty => exact absurd hjudge (h o)
    | rejected => simp
    | accepted =>
      rw [accepted_andThen]
      split
      · simp
      · exact ih

variable {c : Cursor}

theorem judged_parseReqRspPayloadFromBytes (clock : Clock) (payload : Bytes)
    (hover : c.overrun = false) :
    (parseReqRspPayloadFromBytes clock payload).Judged c (commonVerdict payload)
      fun _ c' ↦ c' = c := by
  refine judged_nested hover ?_
  rw [← andThen_accepted (commonVerdict payload)]
  refine (judged_parseObjects _ _ (fun parsed type body rest ↦ ?_) payload.length payload 0 _ le_rfl
    (Nat.zero_add _)).bind fun _ r mid hmid ↦ ?_
  · exact (judged_parseReqRspObject clock parsed type body rest).bind_pure fun _ _ hc ↦ ⟨rfl, hc⟩
  · obtain ⟨parsed, consumed⟩ | r := r
    · exact judged_pure ⟨hmid.2, rfl⟩
    · exact r.elim

theorem judged_passOver {r : σ ⊕ ρ} (hr : r.isLeft = true) (body rest : Bytes) :
    (do
      skip body.length
      return r : Decoder FormatError (σ ⊕ ρ)).Judged (.inside body rest) accepted
      fun r c ↦ r.isLeft = true ∧ c = .inside [] rest := by
  refine (judged_skip le_rfl rest).bind_accepted fun _ mid hmid ↦ judged_pure ⟨hr, ?_⟩
  rw [hmid, List.drop_length]

variable {type : ProtocolObjectType} {kind : ProtocolMessageKind} {c : Cursor} {missing : String}

theorem judged_search {δ : Type} {exceeds : CommonObjectHeader → Nat → String}
    {handle : Unit → CommonObjectHeader → Decoder FormatError (Unit ⊕ δ)}
    {judge : Bytes → Bytes → Verdict}
    (hfound : ∀ body rest, (handle () ⟨type, body.length⟩).Judged (.inside body rest)
      (judge body rest) fun r c ↦ r.isRight = true ∧ c.overrun = false)
    (hother : ∀ type' body rest, type' ≠ type → (handle () ⟨type', body.length⟩).Judged
      (.inside body rest) accepted fun r c ↦ r.isLeft = true ∧ c = .inside [] rest)
    (payload : Bytes) :
    (parseObjects payload.length exceeds handle payload.length 0 ()).Judged (.start payload)
      (searchVerdict type judge payload)
      fun r c ↦
        r.isRight = (objects payload.length payload).1.any (fun o ↦ decide (o.type = type)) ∧
        c.overrun = false := by
  refine judged_parseObjects _ _ (fun _ type' body rest ↦ ?_) payload.length payload 0 () le_rfl
    (Nat.zero_add _)
  dsimp only
  split
  · rename_i htype
    subst htype
    simp only [decide_true, if_true]
    exact hfound body rest
  · rename_i htype
    simp only [decide_eq_false htype, Bool.false_eq_true, if_false]
    exact hother type' body rest htype

/-- What is said of the data of a message: reading it is faulty if and only if the verdict is. -/
def Sifts {δ : Type} (parseData : Bytes → Decoder FormatError δ)
    (verdict : Bytes → Verdict) : Prop :=
  ∀ (payload : Bytes) (c : Cursor), c.overrun = false →
    ∃ v, (parseData payload).Judged c v (fun _ c' ↦ c' = c) ∧
      (v = faulty ↔ verdict payload = faulty)

theorem sifts_parseDataObject {δ : Type} {missing : Nat → String}
    {read : Nat → Decoder FormatError δ} {judge : Bytes → Bytes → Verdict}
    (hread : ∀ body rest, (read body.length).Judged (.inside body rest) (judge body rest)
      fun _ c ↦ c.overrun = false) :
    Sifts (parseDataObject type missing read) (searchVerdict type judge) := by
  intro payload c hover
  let found := (objects payload.length payload).1.any fun o ↦ decide (o.type = type)
  refine ⟨(searchVerdict type judge payload).andThen (if found then accepted else rejected),
    judged_nested hover ?_, ?_⟩
  · refine (judged_search (fun body rest ↦ ?_) (fun type' body rest htype ↦ ?_) payload).bind
      fun _ r mid hmid ↦ ?_
    · rw [if_pos rfl]
      exact (hread body rest).bind_pure fun _ _ hc ↦ ⟨rfl, hc⟩
    · rw [if_neg htype]
      exact judged_passOver rfl body rest
    obtain ⟨⟨⟩, consumed⟩ | data := r
    · have hnone : found = false := hmid.1.symm
      rw [hnone]
      exact judged_fail _ hmid.2
    · have hsome : found = true := hmid.1.symm
      rw [hsome]
      exact judged_pure ⟨hmid.2, rfl⟩
  · cases searchVerdict type judge payload with
    | accepted => cases found <;> simp
    | _ => simp

/-- Data whose reading is never faulty. -/
theorem sifts_of_harmless {δ : Type} {missing : Nat → String} {read : Nat → Decoder FormatError δ}
    (hread : ∀ body rest, (read body.length).Harmless (.inside body rest)
      fun _ c ↦ c.overrun = false) :
    Sifts (parseDataObject type missing read) fun _ ↦ accepted := by
  choose judge hjudge hread using hread
  intro payload c hover
  have hsifts : Sifts (parseDataObject type missing read) (searchVerdict type judge) :=
    sifts_parseDataObject hread
  obtain ⟨v, hv, hfaulty⟩ := hsifts payload c hover
  refine ⟨v, hv, hfaulty.trans (iff_of_false (payloadVerdict_ne_faulty (fun o ↦ ?_) _ _) ?_)⟩
  · split
    · exact hjudge _ _
    · decide
  · simp

theorem sifts_parseErrorDataFromBytes : Sifts parseErrorDataFromBytes fun _ ↦ accepted := by
  intro payload c hover
  choose judge hjudge hread using harmless_parseErrorDataObject
  let verdict := payloadVerdict
    (fun o ↦ if o.type = .errorData then judge o.body o.rest else accepted) (fun _ ↦ false)
    (objects payload.length payload).1 (objects payload.length payload).2
  have hverdict : verdict ≠ faulty := by
    refine payloadVerdict_ne_faulty (fun o ↦ ?_) _ _
    split
    · exact hjudge _ _
    · decide
  have hloop : (parseErrorDataFromBytes payload).Harmless c fun _ c' ↦ c' = c := by
    refine harmless_nested hover (Harmless.bind (Judged.harmless (judged_parseObjects _ _
      (fun found type body rest ↦ ?_) payload.length payload 0 none le_rfl (Nat.zero_add _))
      hverdict) fun r mid hmid ↦ ?_)
    · dsimp only
      split
      · exact (hread body rest).bind_pure fun _ _ hc ↦ ⟨rfl, hc⟩
      · exact judged_passOver rfl body rest
    · obtain ⟨_ | data, consumed⟩ | r := r
      · exact harmless_fail _ hmid.2
      · exact harmless_pure ⟨hmid.2, rfl⟩
      · exact r.elim
  obtain ⟨v, hv, hloop⟩ := hloop
  exact ⟨v, hloop, iff_of_false hv (by simp)⟩

theorem sifts_parseRtableUpdateInfoFromBytes (clock : Clock) :
    Sifts (parseRtableUpdateInfoFromBytes clock) (searchVerdict .rtableUpdateInfo
      fun body rest ↦ entriesVerdict 1 body.length body rest.length) := by
  intro payload c hover
  refine ⟨_, judged_nested hover ?_, Iff.rfl⟩
  rw [← andThen_accepted (searchVerdict _ _ payload)]
  refine (judged_search (fun body rest ↦ ?_) (fun type' body rest htype ↦ ?_) payload).bind
    fun _ r mid hmid ↦ ?_
  · rw [if_pos rfl]
    refine (judged_parseEntries clock rtableUpdateTexts (fun body rest ↦ ?_) _ body rest
      le_rfl).bind_pure fun _ _ hc ↦ ⟨rfl, by rw [hc]; rfl⟩
    exact (judged_readUint 1 body rest).bind_pure fun _ _ hc ↦ hc.2
  · rw [if_neg htype]
    exact judged_passOver rfl body rest
  · obtain ⟨⟨⟩, consumed⟩ | actions := r
    · exact judged_pure ⟨hmid.2, rfl⟩
    · exact judged_pure ⟨hmid.2, rfl⟩

/-! ## Messages -/

/-- Whether something is read behind the header. -/
def hasPayload : ProtocolMessageKind → Bool
  | .ulnHello | .pathSetupRsp | .other _ => false
  | _ => true

/-- The announced length, which includes the header, is that of a header at least.  If as many bytes
are there, then no faulty object is met. -/
def PayloadSafe (kind : ProtocolMessageKind) (length : Nat) (behind : Bytes) : Prop :=
  CommonHeader.LEN ≤ length ∧
    (length - CommonHeader.LEN ≤ behind.length →
      let payload := behind.take (length - CommonHeader.LEN)
      (commonVerdict payload).andThen (dataVerdict kind payload) ≠ faulty)

/-- Whether bytes can be decoded safely. -/
def Safe (bytes : Bytes) : Prop :=
  let kind := ProtocolMessageKind.ofByte (.ofNat 8 (fromBeBytes ((bytes.drop 1).take 1)))
  CommonHeader.LEN ≤ bytes.length → hasPayload kind = true →
    PayloadSafe kind (fromBeBytes ((bytes.drop 3).take 2)) (bytes.drop CommonHeader.LEN)

variable {δ : Type} {header : CommonHeader} {behind : Bytes}

/-- The verdict on the length of a payload. -/
def lengthVerdict (length available : Nat) : Verdict :=
  if CommonHeader.LEN ≤ length then field (length - CommonHeader.LEN) available 0 else faulty

theorem payloadSafe_iff {length : Nat} {behind : Bytes} :
    PayloadSafe kind length behind ↔
      let payload := behind.take (length - CommonHeader.LEN)
      (lengthVerdict length behind.length).andThen
        ((commonVerdict payload).andThen (dataVerdict kind payload)) ≠ faulty := by
  unfold PayloadSafe lengthVerdict field
  dsimp only
  split
  · rename_i hleast
    split
    · rename_i hfits
      simp [hleast, hfits]
    · rename_i hfits
      rw [if_neg (by omega)]
      simp [hleast, hfits]
  · rename_i hshort
    simp [hshort]

theorem judged_readPayloadBytes (header : CommonHeader) (behind : Bytes) :
    (readPayloadBytes header).Judged (.start behind)
      (lengthVerdict header.msgLength.toNat behind.length)
      fun payload c ↦ payload = behind.take (header.msgLength.toNat - CommonHeader.LEN) ∧
        c.overrun = false := by
  have hread : (readPayloadBytes header).Judged (.start behind)
      (if decide (CommonHeader.LEN ≤ header.msgLength.toNat) = true then
        field (header.msgLength.toNat - CommonHeader.LEN) behind.length 0 else faulty)
      fun payload c ↦ payload = behind.take (header.msgLength.toNat - CommonHeader.LEN) ∧
        c.overrun = false := by
    refine judged_assert_bind _ fun _ ↦ ?_
    rw [Cursor.start_eq_inside]
    exact (judged_readExact _ behind []).imp fun _ _ hc ↦ ⟨hc.1, by rw [hc.2]; rfl⟩
  simpa only [decide_eq_true_eq, lengthVerdict] using hread

theorem sound_deserializeReqRspPayload_bind (clock : Clock)
    {f : ParsedReqRspPayload → Decoder FormatError β} (hkind : dataVerdict kind = fun _ ↦ accepted)
    (hf : ∀ parsed c, c.overrun = false → (f parsed).Sound c) :
    (deserializeReqRspPayload clock header >>= f).Sound (.start behind) ↔
      PayloadSafe kind header.msgLength.toNat behind := by
  have hparse : (deserializeReqRspPayload clock header).Judged (.start behind) _
      fun _ c ↦ c.overrun = false :=
    (judged_readPayloadBytes header behind).bind fun _ payload mid hmid ↦ by
      rw [hmid.1]
      refine (judged_parseReqRspPayloadFromBytes clock _ hmid.2).imp fun _ _ hc ↦ ?_
      rw [hc]
      exact hmid.2
  rw [hparse.sound_bind_iff fun parsed c hover ↦ iff_true_intro (hf parsed c hover),
    payloadSafe_iff, hkind]
  simp

theorem sound_withData (clock : Clock) {parseData : Bytes → Decoder FormatError δ}
    {f : ParsedReqRspPayload → δ → Decoder FormatError β}
    (hdata : Sifts parseData (dataVerdict kind))
    (hf : ∀ parsed data c, c.overrun = false → (f parsed data).Sound c) :
    (do
      let payload ← readPayloadBytes header
      let parsed ← parseReqRspPayloadFromBytes clock payload
      let data ← parseData payload
      f parsed data).Sound (.start behind) ↔ PayloadSafe kind header.msgLength.toNat behind := by
  rw [payloadSafe_iff, andThen_ne_faulty]
  refine (judged_readPayloadBytes header behind).sound_bind_iff fun payload mid hmid ↦ ?_
  obtain ⟨rfl, hover⟩ := hmid
  generalize behind.take _ = payload
  rw [andThen_ne_faulty]
  refine (judged_parseReqRspPayloadFromBytes clock payload hover).sound_bind_iff
    fun parsed c hc ↦ ?_
  subst hc
  obtain ⟨v, hv, hfaulty⟩ := hdata payload c hover
  rw [hv.sound_bind_iff fun data c' hc' ↦ iff_true_intro (hf parsed data c' (hc' ▸ hover))]
  simp [hfaulty]

theorem sound_requireSourceRoute_bind {parsed : ParsedReqRspPayload}
    {f : SourceRoute → Decoder FormatError β} (hover : c.overrun = false)
    (hf : ∀ route, (f route).Sound c) : (requireSourceRoute parsed missing >>= f).Sound c := by
  unfold requireSourceRoute
  split
  · exact hf _
  · exact ⟨_, c, rfl, hover⟩

theorem sound_pure {a : β} (hover : c.overrun = false) :
    (pure a : Decoder FormatError β).Sound c := ⟨_, c, rfl, hover⟩

theorem sound_fail {err : FormatError} (hover : c.overrun = false) :
    (fail err : Decoder FormatError β).Sound c := ⟨_, c, rfl, hover⟩

theorem judged_readHeader {buf : Bytes} (hbuf : buf.length = 55) (hover : c.overrun = false) :
    (nested buf CommonHeader.read : Decoder FormatError CommonHeader).Judged c accepted
      fun header c' ↦
        header.msgType = .ofByte (.ofNat 8 (fromBeBytes ((buf.drop 1).take 1))) ∧
        header.msgLength.toNat = fromBeBytes ((buf.drop 3).take 2) ∧ c' = c := by
  refine judged_nested hover ?_
  rw [Cursor.start_eq_inside]
  have hlength : fromBeBytes ((buf.drop 3).take 2) < 2 ^ 16 := by
    have hlt := fromBeBytes_lt ((buf.drop 3).take 2)
    rwa [List.length_take, List.length_drop, hbuf] at hlt
  unfold CommonHeader.read
  refine judged_readUint_bind (by omega) ?_
  refine judged_readUint_bind (by simp; omega) ?_
  refine judged_readUint_bind (by simp; omega) ?_
  refine judged_readUint_bind (by simp; omega) ?_
  refine NodeId.judged_read_bind (by simp; omega) ?_
  refine NodeId.judged_read_bind (by simp; omega) ?_
  refine judged_readUint_bind (by simp; omega) ?_
  refine judged_readUint_bind (by simp; omega) ?_
  refine judged_readUint_bind (by simp; omega) ?_
  refine judged_readUint_bind (by simp; omega) (judged_pure ⟨rfl, rfl, ?_, rfl⟩)
  rw [List.drop_drop, List.drop_drop]
  exact Nat.mod_eq_of_lt hlength

/-! ### The kinds of messages -/

variable (clock : Clock) {kind : ProtocolMessageKind}

theorem sound_deserializeReqRspNoData {data : δ} {msgType : ReqRspMessage δ → ProtocolMessage}
    (hkind : dataVerdict kind = fun _ ↦ accepted) :
    (deserializeReqRspNoData clock header data msgType).Sound (.start behind) ↔
      PayloadSafe kind header.msgLength.toNat behind :=
  sound_deserializeReqRspPayload_bind clock hkind fun _ _ hover ↦
    sound_requireSourceRoute_bind hover fun _ ↦ sound_pure hover

theorem sound_deserializeReqRspRtable {msgType : ReqRspMessage RTableData → ProtocolMessage}
    (hkind : dataVerdict kind = fun _ ↦ accepted) :
    (deserializeReqRspRtable clock header msgType missing).Sound (.start behind) ↔
      PayloadSafe kind header.msgLength.toNat behind :=
  sound_deserializeReqRspPayload_bind clock hkind fun _ _ hover ↦
    sound_requireSourceRoute_bind hover fun _ ↦ sound_pure hover

theorem sound_deserializeUlnDisc {msgType : ULNReqRspMessage RTableData → ProtocolMessage}
    (hkind : dataVerdict kind = fun _ ↦ accepted) :
    (deserializeUlnDisc clock header msgType).Sound (.start behind) ↔
      PayloadSafe kind header.msgLength.toNat behind :=
  sound_deserializeReqRspPayload_bind clock hkind fun _ _ hover ↦ sound_pure hover

theorem sound_deserializeQueryRouteReq :
    (deserializeQueryRouteReq clock header).Sound (.start behind) ↔
      PayloadSafe .queryRouteReq header.msgLength.toNat behind := by
  refine sound_deserializeReqRspPayload_bind clock rfl fun parsed c hover ↦
    sound_requireSourceRoute_bind hover fun route ↦ ?_
  split
  · exact sound_fail hover
  · split
    · exact sound_pure hover
    · exact sound_fail hover

theorem sound_deserializeFindNodeReq :
    (deserializeFindNodeReq clock header).Sound (.start behind) ↔
      PayloadSafe .findNodeReq header.msgLength.toNat behind := by
  refine sound_deserializeReqRspPayload_bind clock rfl fun parsed c hover ↦
    sound_requireSourceRoute_bind hover fun route ↦ ?_
  split
  · exact sound_fail hover
  · split
    · exact sound_pure hover
    · exact sound_fail hover

theorem sound_deserializeReqRspWithPayloadData {parseData : Bytes → Decoder FormatError δ}
    {msgType : ReqRspMessage δ → ProtocolMessage} (hdata : Sifts parseData (dataVerdict kind)) :
    (deserializeReqRspWithPayloadData clock header parseData msgType missing).Sound
      (.start behind) ↔
      PayloadSafe kind header.msgLength.toNat behind :=
  sound_withData clock hdata fun _ _ _ hover ↦
    sound_requireSourceRoute_bind hover fun _ ↦ sound_pure hover

theorem sound_deserializeUpdateRouteReq :
    (deserializeUpdateRouteReq clock header).Sound (.start behind) ↔
      PayloadSafe .updateRouteReq header.msgLength.toNat behind :=
  sound_withData clock (sifts_parseRtableUpdateInfoFromBytes clock) fun _ _ _ hover ↦
    sound_requireSourceRoute_bind hover fun _ ↦ sound_pure hover

end Format

open Format Decoder Verdict

/-- **Which bytes can be decoded safely.**  A message is decoded, or an error is reported, without a
panic and without taking bytes behind an object for a part of it, if and only if the announced
length is not less than that of a header, and the first object that is not accepted is not a faulty
one. -/
theorem decoding_safe (clock : Clock) (bytes : Bytes) :
    (fromReader clock).Sound (.start bytes) ↔ Safe bytes := by
  have hbuf := judged_readExact (ε := FormatError) CommonHeader.LEN bytes []
  rw [← Cursor.start_eq_inside, List.length_nil] at hbuf
  by_cases hlength : CommonHeader.LEN ≤ bytes.length
  · rw [field_of_le hlength] at hbuf
    refine hbuf.sound_bind_iff_of_accepted fun buf mid hmid ↦ ?_
    obtain ⟨rfl, rfl⟩ := hmid
    have htake : (bytes.take CommonHeader.LEN).length = 55 := by
      rw [List.length_take]
      exact min_eq_left hlength
    refine (judged_readHeader htake rfl).sound_bind_iff_of_accepted fun header mid hmid ↦ ?_
    obtain ⟨htype, hmsgLength, rfl⟩ := hmid
    rw [List.drop_take, List.take_take] at htype hmsgLength
    have hsafe : Safe bytes ↔ (hasPayload header.msgType = true →
        PayloadSafe header.msgType header.msgLength.toNat (bytes.drop CommonHeader.LEN)) := by
      rw [htype, hmsgLength]
      exact ⟨fun h ↦ h hlength, fun h _ ↦ h⟩
    rw [hsafe, ← Cursor.start_eq_inside]
    generalize bytes.drop CommonHeader.LEN = behind
    by_cases hpayload : hasPayload header.msgType = true
    · rw [imp_iff_right hpayload]
      cases hkind : header.msgType with
      | ulnHello | pathSetupRsp | other => simp [hkind, hasPayload] at hpayload
      | ulnDiscReq | ulnDiscRsp => exact sound_deserializeUlnDisc clock rfl
      | queryRouteReq => exact sound_deserializeQueryRouteReq clock
      | findNodeReq => exact sound_deserializeFindNodeReq clock
      | queryRouteRsp | findNodeRsp => exact sound_deserializeReqRspRtable clock rfl
      | updateRouteReq => exact sound_deserializeUpdateRouteReq clock
      | probeReq | probeRsp | pathSetupReq | pathTeardownReq =>
        exact sound_deserializeReqRspNoData clock rfl
      | error =>
        exact sound_deserializeReqRspWithPayloadData clock sifts_parseErrorDataFromBytes
      | storeReq =>
        exact sound_deserializeReqRspWithPayloadData clock
          (sifts_of_harmless harmless_parseStoreReqDataObject)
      | storeRsp =>
        exact sound_deserializeReqRspWithPayloadData clock
          (sifts_of_harmless harmless_parseStoreRspDataObject)
      | fetchReq =>
        exact sound_deserializeReqRspWithPayloadData clock
          (sifts_of_harmless harmless_parseFetchReqDataObject)
      | fetchRsp =>
        exact sound_deserializeReqRspWithPayloadData clock
          (sifts_parseDataObject judged_parseFetchRspDataObject)
    · -- nothing is read behind the header
      refine iff_of_true ?_ fun h ↦ absurd h hpayload
      cases hkind : header.msgType with
      | ulnHello => exact sound_pure rfl
      | pathSetupRsp | other => exact sound_fail rfl
      | _ => simp [hkind, hasPayload] at hpayload
  · have hsafe : Safe bytes := fun h ↦ absurd h hlength
    rw [field, if_neg hlength, if_neg (by omega)] at hbuf
    exact iff_of_true (((hbuf.bind_rejected _).harmless (by decide)).sound fun _ _ h ↦ h) hsafe

/-- A message of this kind, with this length announced, from and to the node with id zero. -/
def rawMessage (kind : ProtocolMessageKind) (length : Nat) (payload : Bytes) : Bytes :=
  [0, kind.toByte, 0] ++ toBeBytes 2 length ++ List.replicate 50 0 ++ payload

/-- A message that is shorter than its header and a source route that is at its first node both stop
the program.  The length of the value in a response is taken from the object behind it, whose own
header is never read. -/
theorem decoding_unsafe :
    (fromReader fun _ ↦ 0).run (.start (rawMessage .probeReq 0 [])) =
      .panic "attempt to subtract with overflow" ∧
    (fromReader fun _ ↦ 0).run (.start (rawMessage .probeReq 88
      ([0x01, 0, 30] ++ toBeBytes 2 0 ++ List.replicate 28 0))) =
      .panic "assertion `left == right` failed" ∧
    (fun rc ↦ rc.2.overrun) <$> (fromReader fun _ ↦ 0).run (.start (rawMessage .fetchRsp 64
      ([0x83, 0, 3, 0, 0, 1] ++ [0x7f, 0, 0]))) = .ok true :=
  ⟨rfl, rfl, rfl⟩

end Kira
