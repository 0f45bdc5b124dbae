import Kira.Lib.Bytes
import Kira.Lib.Run

/-!
# Decoding bytes

A decoder reads from a string of bytes and returns a value, reports an error or panics.  What is
read is made of objects whose lengths are declared in front of them, and a decoder can go wrong by
reading on past the end of the object it is in.  That is not an error by itself, as the bytes there
exist.  The cursor therefore knows how many of the bytes left lie behind the object, and remembers
whether any of those has been read as part of it.  The program has no such memory; no decoder can
look at it or take it back (`Decoder.persists`).

Reading ends in one of three ways: the decoder *accepts*, it *rejects* with an error, or it is
*faulty*, that is, it panics or reads past its object.  `Judged` says which of them a decoder does
on a cursor, and `Judged.bind` puts the verdicts of the parts together.
-/

set_option autoImplicit false

namespace Kira

open Run

/-- A position in the bytes. -/
structure Cursor where
  bytes : Bytes
  /-- How many of these bytes lie behind the object that is being read. -/
  later : Nat
  /-- Bytes behind an object have been read as part of it. -/
  overrun : Bool
  deriving DecidableEq

def Cursor.start (bytes : Bytes) : Cursor := ⟨bytes, 0, false⟩

/-- In an object of which `body` is left, in front of `rest`. -/
def Cursor.inside (body rest : Bytes) : Cursor := ⟨body ++ rest, rest.length, false⟩

theorem Cursor.start_eq_inside (bytes : Bytes) : start bytes = inside bytes [] := by
  simp [start, inside]

/-- Why reading has ended. -/
inductive ReadError (ε : Type) where
  | unexpectedEof
  | custom (err : ε)
  deriving DecidableEq

/-- A computation that reads. -/
structure Decoder (ε α : Type) where
  run : Cursor → Run (Except (ReadError ε) α × Cursor)
  persists : ∀ {c : Cursor} {r : Except (ReadError ε) α} {c' : Cursor},
    run c = .ok (r, c') → c.overrun = true → c'.overrun = true

namespace Decoder

variable {ε α β : Type}

def lift (x : Run (Except (ReadError ε) α)) : Decoder ε α where
  run c := x >>= fun r ↦ .ok (r, c)
  persists h hover := by
    obtain ⟨r, -, h⟩ := of_bind h
    cases h
    exact hover

protected def bind (d : Decoder ε α) (f : α → Decoder ε β) : Decoder ε β where
  run c := d.run c >>= fun rc ↦
    match rc with
    | (.ok a, c) => (f a).run c
    | (.error err, c) => .ok (.error err, c)
  persists h hover := by
    obtain ⟨⟨r, mid⟩, hd, h⟩ := of_bind h
    have hmid := d.persists hd hover
    cases r with
    | ok a => exact (f a).persists h hmid
    | error err =>
      cases h
      exact hmid

instance : Monad (Decoder ε) where
  pure a := lift (.ok (.ok a))
  bind := Decoder.bind

def fail (err : ε) : Decoder ε α := lift (.ok (.error (.custom err)))

def stop (msg : String) : Decoder ε α := lift (.panic msg)

def assert (cond : Bool) (msg : String) : Decoder ε Unit := if cond then pure () else stop msg

def left : Decoder ε Nat where
  run c := .ok (.ok c.bytes.length, c)
  persists h hover := by
    cases h
    exact hover

/-- The next bytes. -/
def readExact (n : Nat) : Decoder ε Bytes where
  run c :=
    if n ≤ c.bytes.length then
      .ok (.ok (c.bytes.take n),
        { c with
          bytes := c.bytes.drop n
          overrun := c.overrun || decide (c.bytes.length - n < c.later) })
    else .ok (.error .unexpectedEof, { c with bytes := [] })
  persists h hover := by
    split at h
    · cases h
      simp [hover]
    · cases h
      exact hover

/-- A number in so many bytes, the greatest first. -/
def readUint (width : Nat) : Decoder ε Nat := do
  return fromBeBytes (← readExact width)

/-- Leaves out bytes. -/
def skip (n : Nat) : Decoder ε Unit where
  run c := .ok (.ok (), { c with bytes := c.bytes.drop n })
  persists h hover := by
    cases h
    exact hover

/-- Reads an object that has this many bytes. -/
def within (length : Nat) (d : Decoder ε α) : Decoder ε α where
  run c := d.run { c with later := c.bytes.length - length } >>= fun rc ↦
    .ok (rc.1, { rc.2 with later := c.later })
  persists h hover := by
    obtain ⟨⟨r, mid⟩, hd, h⟩ := of_bind h
    have hmid : mid.overrun = true := d.persists hd hover
    cases h
    exact hmid

/-- Reads from other bytes. -/
def nested (bytes : Bytes) (d : Decoder ε α) : Decoder ε α where
  run c := d.run (.start bytes) >>= fun rc ↦
    .ok (rc.1, { c with overrun := c.overrun || rc.2.overrun })
  persists h hover := by
    obtain ⟨⟨r, mid⟩, -, h⟩ := of_bind h
    cases h
    simp [hover]

def mapErr (f : ReadError ε → ReadError ε) (d : Decoder ε α) : Decoder ε α where
  run c := d.run c >>= fun rc ↦
    match rc with
    | (.ok a, c) => .ok (.ok a, c)
    | (.error err, c) => .ok (.error (f err), c)
  persists h hover := by
    obtain ⟨⟨r, mid⟩, hd, h⟩ := of_bind h
    cases r <;> cases h <;> exact d.persists hd hover

/-- Does it this many times, and returns what comes out each time. -/
def times (n : Nat) (d : Decoder ε α) : Decoder ε (List α) :=
  match n with
  | 0 => pure []
  | n + 1 => do
    let a ← d
    let as ← times n d
    return a :: as

/-! ## How decoders run -/

@[simp] theorem run_pure (a : α) (c : Cursor) :
    (pure a : Decoder ε α).run c = .ok (.ok a, c) := rfl

@[simp] theorem run_fail (err : ε) (c : Cursor) :
    (fail err : Decoder ε α).run c = .ok (.error (.custom err), c) := rfl

theorem run_bind_of {d : Decoder ε α} {c mid : Cursor} {a : α}
    (h : d.run c = .ok (.ok a, mid)) (f : α → Decoder ε β) :
    (d >>= f).run c = (f a).run mid := by
  show (d.run c >>= _) = _
  rw [h]
  rfl

variable {n : Nat} {body : Bytes} {f : α → Decoder ε β}

theorem run_readExact (h : n ≤ body.length) (rest : Bytes) :
    (readExact n : Decoder ε Bytes).run (.inside body rest) =
      .ok (.ok (body.take n), .inside (body.drop n) rest) := by
  have hle : n ≤ (body ++ rest).length := by
    rw [List.length_append]
    omega
  have hin : ¬ (body ++ rest).length - n < rest.length := by
    rw [List.length_append]
    omega
  simp only [readExact, Cursor.inside, if_pos hle, hin, decide_false, Bool.or_false,
    List.take_append_of_le_length h, List.drop_append_of_le_length h]

theorem run_skip (h : n ≤ body.length) (rest : Bytes) :
    (skip n : Decoder ε Unit).run (.inside body rest) =
      .ok (.ok (), .inside (body.drop n) rest) := by
  simp only [skip, Cursor.inside, List.drop_append_of_le_length h]

/-! ## What becomes of reading -/

/-- What becomes of bytes that are read. -/
inductive Verdict where
  | accepted
  | rejected
  | faulty
  deriving DecidableEq

/-- The verdict on two parts one after the other. -/
def Verdict.andThen : Verdict → Verdict → Verdict
  | .accepted, v => v
  | .rejected, _ => .rejected
  | .faulty, _ => .faulty

@[simp] theorem Verdict.accepted_andThen (v : Verdict) : Verdict.accepted.andThen v = v := rfl

@[simp] theorem Verdict.rejected_andThen (v : Verdict) :
    Verdict.rejected.andThen v = .rejected := rfl

@[simp] theorem Verdict.faulty_andThen (v : Verdict) : Verdict.faulty.andThen v = .faulty := rfl

@[simp] theorem Verdict.andThen_accepted (v : Verdict) : v.andThen .accepted = v := by
  cases v <;> rfl

theorem Verdict.andThen_assoc (u v w : Verdict) :
    (u.andThen v).andThen w = u.andThen (v.andThen w) := by
  cases u <;> rfl

theorem Verdict.andThen_eq_accepted {v w : Verdict} (h : v.andThen w = .accepted) :
    v = .accepted ∧ w = .accepted := by
  cases v with
  | accepted => exact ⟨rfl, h⟩
  | _ => simp at h

theorem Verdict.andThen_ne_faulty {v w : Verdict} :
    v.andThen w ≠ .faulty ↔ v ≠ .faulty ∧ (v = .accepted → w ≠ .faulty) := by
  cases v <;> simp

/-- The decoder neither panics nor has read past an object. -/
def Sound (d : Decoder ε α) (c : Cursor) : Prop :=
  ∃ r c', d.run c = .ok (r, c') ∧ c'.overrun = false

/-- What a decoder does on a cursor, and what holds of the value and of the cursor if it accepts. -/
def Judged (d : Decoder ε α) (c : Cursor) (verdict : Verdict) (post : α → Cursor → Prop) : Prop :=
  match verdict with
  | .accepted => ∃ a c', d.run c = .ok (.ok a, c') ∧ post a c'
  | .rejected => ∃ err c', d.run c = .ok (.error err, c') ∧ c'.overrun = false
  | .faulty => ¬ d.Sound c

variable {d : Decoder ε α} {c : Cursor} {v w : Verdict} {post : α → Cursor → Prop}
  {post' : β → Cursor → Prop}

theorem Judged.sound_iff (h : d.Judged c v post)
    (hpost : ∀ a c', post a c' → c'.overrun = false) : d.Sound c ↔ v ≠ .faulty := by
  cases v with
  | accepted =>
    obtain ⟨a, c', ha, hc'⟩ := h
    exact iff_of_true ⟨_, c', ha, hpost a c' hc'⟩ (by decide)
  | rejected =>
    obtain ⟨err, c', herr, hc'⟩ := h
    exact iff_of_true ⟨_, c', herr, hc'⟩ (by decide)
  | faulty => exact iff_of_false h (by simp)

theorem Judged.imp {post'' : α → Cursor → Prop} (h : d.Judged c v post)
    (hpost : ∀ a c', post a c' → post'' a c') : d.Judged c v post'' := by
  cases v with
  | accepted =>
    obtain ⟨a, c', ha, hc'⟩ := h
    exact ⟨a, c', ha, hpost a c' hc'⟩
  | rejected | faulty => exact h

theorem not_sound_bind (h : ¬ d.Sound c) (f : α → Decoder ε β) : ¬ (d >>= f).Sound c := by
  rintro ⟨r, c', hrun, hover⟩
  obtain ⟨⟨r', mid⟩, hd, hf⟩ := of_bind hrun
  refine h ⟨r', mid, hd, ?_⟩
  by_contra hmid
  have hmid : mid.overrun = true := by simpa using hmid
  cases r' with
  | ok a => simp [(f a).persists hf hmid] at hover
  | error err =>
    cases hf
    simp [hmid] at hover

theorem Judged.bind_rejected (h : d.Judged c .rejected post) (f : α → Decoder ε β) :
    (d >>= f).Judged c .rejected post' := by
  obtain ⟨err, c', herr, hc'⟩ := h
  refine ⟨err, c', ?_, hc'⟩
  show (d.run c >>= _) = _
  rw [herr]
  rfl

/-- **The verdict on a sequence.** -/
theorem Judged.bind (h : d.Judged c v post)
    (hf : v = .accepted → ∀ a mid, post a mid → (f a).Judged mid w post') :
    (d >>= f).Judged c (v.andThen w) post' := by
  cases v with
  | accepted =>
    obtain ⟨a, mid, ha, hmid⟩ := h
    have hrun := run_bind_of ha f
    have hfa := hf rfl a mid hmid
    cases w with
    | accepted =>
      obtain ⟨b, c', hb, hc'⟩ := hfa
      exact ⟨b, c', hrun.trans hb, hc'⟩
    | rejected =>
      obtain ⟨err, c', herr, hc'⟩ := hfa
      exact ⟨err, c', hrun.trans herr, hc'⟩
    | faulty => exact fun hsound ↦ hfa (by simpa only [Sound, hrun] using hsound)
  | rejected => exact h.bind_rejected f
  | faulty => exact not_sound_bind h f

theorem Judged.bind_accepted (h : d.Judged c .accepted post)
    (hf : ∀ a mid, post a mid → (f a).Judged mid w post') : (d >>= f).Judged c w post' :=
  h.bind fun _ ↦ hf

theorem judged_pure {a : α} (h : post a c) : (pure a : Decoder ε α).Judged c .accepted post :=
  ⟨a, c, rfl, h⟩

theorem Judged.bind_pure {f : α → β} (h : d.Judged c v post)
    (hpost : ∀ a c', post a c' → post' (f a) c') :
    (d >>= fun a ↦ pure (f a)).Judged c v post' := by
  rw [← Verdict.andThen_accepted v]
  exact h.bind fun _ a c' hc' ↦ judged_pure (hpost a c' hc')

theorem judged_fail (err : ε) (h : c.overrun = false) :
    (fail err : Decoder ε α).Judged c .rejected post := ⟨_, _, rfl, h⟩

theorem judged_stop (msg : String) : (stop msg : Decoder ε α).Judged c .faulty post := by
  rintro ⟨r, c', hrun, -⟩
  simp [stop, lift] at hrun

theorem judged_left_bind {f : Nat → Decoder ε α} (h : (f c.bytes.length).Judged c v post) :
    (left >>= f).Judged c v post := by
  have hleft : (left : Decoder ε Nat).Judged c .accepted fun n c' ↦ n = c.bytes.length ∧ c' = c :=
    ⟨_, _, rfl, rfl, rfl⟩
  refine hleft.bind_accepted fun n c' hc' ↦ ?_
  rw [hc'.1, hc'.2]
  exact h

theorem judged_assert_bind {cond : Bool} (msg : String) {f : Unit → Decoder ε α}
    (h : cond = true → (f ()).Judged c v post) :
    (assert cond msg >>= f).Judged c (if cond then v else .faulty) post := by
  cases cond with
  | true => exact h rfl
  | false =>
    have hstop : (stop msg : Decoder ε Unit).Judged c .faulty fun _ _ ↦ True := judged_stop msg
    exact not_sound_bind hstop f

/-- The verdict on reading `n` bytes of an object of which `length` bytes are left. -/
def field (n length later : Nat) : Verdict :=
  if n ≤ length then .accepted else if n ≤ length + later then .faulty else .rejected

theorem judged_readExact (n : Nat) (body rest : Bytes) :
    (readExact n : Decoder ε Bytes).Judged (.inside body rest) (field n body.length rest.length)
      fun bytes c ↦ bytes = body.take n ∧ c = .inside (body.drop n) rest := by
  unfold field
  split
  · rename_i h
    exact ⟨_, _, run_readExact h rest, rfl, rfl⟩
  · rename_i h
    split
    · rename_i hle
      rintro ⟨r, c', hrun, hover⟩
      have hpast : body.length + rest.length - n < rest.length := by omega
      simp only [readExact, Cursor.inside, List.length_append, hle, if_true, hpast, decide_true,
        Bool.or_true] at hrun
      cases hrun
      simp at hover
    · rename_i hlt
      refine ⟨.unexpectedEof, { Cursor.inside body rest with bytes := [] }, ?_, rfl⟩
      simp only [readExact, Cursor.inside, List.length_append, hlt, if_false]

theorem judged_readUint (width : Nat) (body rest : Bytes) :
    (readUint width : Decoder ε Nat).Judged (.inside body rest)
      (field width body.length rest.length)
      fun n c ↦ n = fromBeBytes (body.take width) ∧ c = .inside (body.drop width) rest := by
  exact (judged_readExact width body rest).bind_pure fun bytes c hc ↦ ⟨by rw [hc.1], hc.2⟩

theorem judged_readUint_bind {width : Nat} {rest : Bytes} {f : Nat → Decoder ε β}
    (h : width ≤ body.length)
    (hf : (f (fromBeBytes (body.take width))).Judged (.inside (body.drop width) rest) w post') :
    (readUint width >>= f).Judged (.inside body rest) w post' := by
  have hread := judged_readUint (ε := ε) width body rest
  rw [field, if_pos h] at hread
  refine hread.bind_accepted fun n mid hmid ↦ ?_
  rw [hmid.1, hmid.2]
  exact hf

/-- The verdict on reading so many fields of the same size. -/
def fields (size : Nat) : (n length : Nat) → (later : Nat) → Verdict
  | 0, _, _ => .accepted
  | n + 1, length, later => (field size length later).andThen (fields size n (length - size) later)

/-- The values of so many fields of the same size. -/
def values (size : Nat) (value : Bytes → α) : (n : Nat) → Bytes → List α
  | 0, _ => []
  | n + 1, body => value (body.take size) :: values size value n (body.drop size)

@[simp] theorem length_values (size : Nat) (value : Bytes → α) (n : Nat) (body : Bytes) :
    (values size value n body).length = n := by
  induction n generalizing body with
  | zero => rfl
  | succ n ih => simp [values, ih]

variable {length size : Nat}

theorem field_of_le (h : n ≤ length) (later : Nat) :
    field n length later = .accepted := if_pos h

theorem field_eq_accepted {later : Nat} (h : field n length later = .accepted) :
    n ≤ length := by
  unfold field at h
  split at h
  · assumption
  · split at h <;> simp at h

theorem fields_of_le (h : size * n ≤ length) (later : Nat) :
    fields size n length later = .accepted := by
  induction n generalizing length with
  | zero => rfl
  | succ n ih =>
    rw [Nat.mul_succ] at h
    rw [fields, field_of_le (by omega), ih (by omega)]
    rfl

theorem fields_eq_accepted {later : Nat} (h : fields size n length later = .accepted) :
    size * n ≤ length := by
  induction n generalizing length with
  | zero => simp
  | succ n ih =>
    rw [fields] at h
    cases hfield : field size length later with
    | accepted =>
      rw [hfield, Verdict.accepted_andThen] at h
      have := field_eq_accepted hfield
      have := ih h
      rw [Nat.mul_succ]
      omega
    | _ => simp [hfield] at h

theorem judged_times {value : Bytes → α}
    (h : ∀ body rest, d.Judged (.inside body rest) (field size body.length rest.length)
      fun a c ↦ a = value (body.take size) ∧ c = .inside (body.drop size) rest)
    (n : Nat) (body rest : Bytes) :
    (times n d).Judged (.inside body rest) (fields size n body.length rest.length)
      fun as c ↦ as = values size value n body ∧ c = .inside (body.drop (size * n)) rest := by
  induction n generalizing body with
  | zero => exact judged_pure ⟨rfl, by simp⟩
  | succ n ih =>
    refine (h body rest).bind fun _ a mid hmid ↦ ?_
    obtain ⟨rfl, rfl⟩ := hmid
    have ih := ih (body.drop size)
    rw [List.length_drop] at ih
    refine ih.bind_pure fun as c hc ↦ ⟨by rw [hc.1, values], ?_⟩
    rw [hc.2, List.drop_drop, Nat.mul_succ, Nat.add_comm]

theorem judged_times_all {value : Bytes → α}
    (h : ∀ body rest, d.Judged (.inside body rest) (field size body.length rest.length)
      fun a c ↦ a = value (body.take size) ∧ c = .inside (body.drop size) rest)
    (hlength : size * n = body.length) (rest : Bytes) :
    (times n d).Judged (.inside body rest) .accepted
      fun as c ↦ as = values size value n body ∧ c = .inside [] rest := by
  have htimes := judged_times h n body rest
  rw [fields_of_le hlength.le] at htimes
  refine htimes.imp fun as c hc ↦ ⟨hc.1, ?_⟩
  rw [hc.2, hlength, List.drop_length]

theorem judged_lift {x : Run α} {a : α} (h : x = .ok a) :
    (lift (.ok <$> x) : Decoder ε α).Judged c .accepted fun a' c' ↦ a' = a ∧ c' = c := by
  subst h
  exact ⟨a, c, rfl, rfl, rfl⟩

theorem judged_mapErr (f : ReadError ε → ReadError ε) (h : d.Judged c v post) :
    (d.mapErr f).Judged c v post := by
  have hrun : (d.mapErr f).run c = (d.run c >>= fun rc ↦
      match rc with
      | (.ok a, c) => .ok (.ok a, c)
      | (.error err, c) => .ok (.error (f err), c)) := rfl
  cases v with
  | accepted =>
    obtain ⟨a, c', ha, hc'⟩ := h
    exact ⟨a, c', by rw [hrun, ha]; rfl, hc'⟩
  | rejected =>
    obtain ⟨err, c', herr, hc'⟩ := h
    exact ⟨f err, c', by rw [hrun, herr]; rfl, hc'⟩
  | faulty =>
    rintro ⟨r, c', hr, hc'⟩
    rw [hrun] at hr
    obtain ⟨⟨r', mid⟩, hd, hr⟩ := of_bind hr
    refine h ⟨r', mid, hd, ?_⟩
    cases r' <;> cases hr <;> exact hc'

theorem judged_skip (h : n ≤ body.length) (rest : Bytes) :
    (skip n : Decoder ε Unit).Judged (.inside body rest) .accepted
      fun _ c ↦ c = .inside (body.drop n) rest :=
  ⟨(), _, run_skip h rest, rfl⟩

/-- An object that is not read as a whole ends where the next one starts. -/
theorem judged_within {rest : Bytes} (hlength : body.length = length)
    (h : d.Judged (.inside body rest) v fun a c ↦ post a { c with later := 0 }) :
    (d.within length).Judged (.start (body ++ rest)) v post := by
  subst hlength
  have hinside : ({ Cursor.start (body ++ rest) with
      later := (body ++ rest).length - body.length } : Cursor) = .inside body rest := by
    simp [Cursor.start, Cursor.inside]
  have hrun : (d.within body.length).run (.start (body ++ rest)) =
      (d.run (.inside body rest) >>= fun rc ↦ .ok (rc.1, { rc.2 with later := 0 })) := by
    show (d.run { Cursor.start (body ++ rest) with
      later := (body ++ rest).length - body.length } >>= _) = _
    rw [hinside]
    rfl
  cases v with
  | accepted =>
    obtain ⟨a, c', ha, hc'⟩ := h
    exact ⟨a, { c' with later := 0 }, by rw [hrun, ha]; rfl, hc'⟩
  | rejected =>
    obtain ⟨err, c', herr, hc'⟩ := h
    exact ⟨err, { c' with later := 0 }, by rw [hrun, herr]; rfl, hc'⟩
  | faulty =>
    rintro ⟨r, c', hr, hc'⟩
    rw [hrun] at hr
    obtain ⟨⟨r', mid⟩, hd, hr⟩ := of_bind hr
    cases hr
    exact h ⟨r', mid, hd, hc'⟩

theorem judged_nested {bytes : Bytes} (hover : c.overrun = false)
    (h : d.Judged (.start bytes) v fun a c' ↦ c'.overrun = false ∧ post a c) :
    (d.nested bytes).Judged c v post := by
  have hrun : (d.nested bytes).run c = (d.run (.start bytes) >>= fun rc ↦
      .ok (rc.1, { c with overrun := c.overrun || rc.2.overrun })) := rfl
  have hsame : ({ c with overrun := c.overrun || false } : Cursor) = c := by simp
  cases v with
  | accepted =>
    obtain ⟨a, c', ha, hc', hpost⟩ := h
    refine ⟨a, c, ?_, hpost⟩
    rw [hrun, ha, ok_bind, hc', hsame]
  | rejected =>
    obtain ⟨err, c', herr, hc'⟩ := h
    refine ⟨err, c, ?_, hover⟩
    rw [hrun, herr, ok_bind, hc', hsame]
  | faulty =>
    rintro ⟨r, c', hr, hc'⟩
    rw [hrun] at hr
    obtain ⟨⟨r', mid⟩, hd, hr⟩ := of_bind hr
    cases hr
    exact h ⟨r', mid, hd, by simpa [hover] using hc'⟩

/-! ## Decoding what is there

`Decodes` says what comes out of given bytes, whatever follows them; `Total` says that any bytes of
the right number will do. -/

/-- The decoder reads just these bytes, and `post` holds of what it returns. -/
def Decodes (d : Decoder ε α) (bytes : Bytes) (post : α → Prop) : Prop :=
  ∀ body rest, d.Judged (.inside (bytes ++ body) rest) .accepted
    fun a c ↦ post a ∧ c = .inside body rest

section Decodes

variable {bytes bytes' : Bytes} {holds : α → Prop} {holds' : β → Prop}

theorem Decodes.imp {holds'' : α → Prop} (h : d.Decodes bytes holds)
    (himp : ∀ a, holds a → holds'' a) : d.Decodes bytes holds'' :=
  fun body rest ↦ (h body rest).imp fun a _ hc ↦ ⟨himp a hc.1, hc.2⟩

variable {f : α → Decoder ε β}

theorem Decodes.bind (h : d.Decodes bytes holds)
    (hf : ∀ a, holds a → (f a).Decodes bytes' holds') :
    (d >>= f).Decodes (bytes ++ bytes') holds' := by
  intro body rest
  rw [List.append_assoc]
  refine (h (bytes' ++ body) rest).bind_accepted fun a mid hmid ↦ ?_
  rw [hmid.2]
  exact hf a hmid.1 body rest

theorem Decodes.bind_of_nil (h : d.Decodes [] holds)
    (hf : ∀ a, holds a → (f a).Decodes bytes holds') : (d >>= f).Decodes bytes holds' :=
  h.bind hf

theorem Decodes.bind_nil (h : d.Decodes bytes holds)
    (hf : ∀ a, holds a → (f a).Decodes [] holds') : (d >>= f).Decodes bytes holds' := by
  rw [← List.append_nil bytes]
  exact h.bind hf

theorem decodes_pure {a : α} (h : holds a) : (pure a : Decoder ε α).Decodes [] holds :=
  fun _ _ ↦ judged_pure ⟨h, rfl⟩

theorem Decodes.bind_pure {f : α → β} (h : d.Decodes bytes holds)
    (hf : ∀ a, holds a → holds' (f a)) : (d >>= fun a ↦ pure (f a)).Decodes bytes holds' :=
  fun body rest ↦ (h body rest).bind_pure fun a _ hc ↦ ⟨hf a hc.1, hc.2⟩

theorem Decodes.judged (h : d.Decodes bytes holds) (rest : Bytes) :
    d.Judged (.inside bytes rest) .accepted fun a c ↦ holds a ∧ c = .inside [] rest := by
  have hread := h [] rest
  rwa [List.append_nil] at hread

theorem decodes_readExact (bytes : Bytes) :
    (readExact bytes.length : Decoder ε Bytes).Decodes bytes (· = bytes) := by
  intro body rest
  have hread := judged_readExact (ε := ε) bytes.length (bytes ++ body) rest
  rw [field_of_le (by simp), List.take_left, List.drop_left] at hread
  exact hread

theorem decodes_readUint {width n : Nat} (h : n < 256 ^ width) :
    (readUint width : Decoder ε Nat).Decodes (toBeBytes width n) (· = n) := by
  have hread := decodes_readExact (ε := ε) (toBeBytes width n)
  rw [length_toBeBytes] at hread
  exact hread.bind_pure fun bytes hbytes ↦ by rw [hbytes, fromBeBytes_toBeBytes h]

theorem decodes_readByte (byte : BitVec 8) :
    (readUint 1 : Decoder ε Nat).Decodes [byte] (· = byte.toNat) := by
  have hread := decodes_readExact (ε := ε) [byte]
  exact hread.bind_pure fun bytes hbytes ↦ by rw [hbytes, fromBeBytes_singleton]

theorem Decodes.mapErr (f : ReadError ε → ReadError ε) (h : d.Decodes bytes holds) :
    (d.mapErr f).Decodes bytes holds :=
  fun body rest ↦ judged_mapErr f (h body rest)

theorem decodes_lift {x : Run α} {a : α} (h : x = .ok a) :
    (lift (.ok <$> x) : Decoder ε α).Decodes [] (· = a) :=
  fun _ _ ↦ judged_lift h

theorem decodes_left : (left : Decoder ε Nat).Decodes [] fun _ ↦ True :=
  fun _ _ ↦ ⟨_, _, rfl, trivial, rfl⟩

theorem decodes_assert {cond : Bool} (h : cond = true) (msg : String) :
    (assert cond msg : Decoder ε Unit).Decodes [] fun _ ↦ True := by
  rw [assert, if_pos h]
  exact decodes_pure trivial

theorem decodes_nested (h : d.Judged (.start bytes) .accepted
    fun a c ↦ holds a ∧ c.overrun = false) : (d.nested bytes).Decodes [] holds :=
  fun _ _ ↦ judged_nested rfl (h.imp fun _ _ hc ↦ ⟨hc.2, hc.1, rfl⟩)

theorem Decodes.nested (h : d.Decodes bytes holds) : (d.nested bytes).Decodes [] holds := by
  refine decodes_nested ?_
  rw [Cursor.start_eq_inside]
  exact (h.judged []).imp fun _ _ hc ↦ ⟨hc.1, by rw [hc.2]; rfl⟩

theorem decodes_skip (bytes : Bytes) :
    (skip bytes.length : Decoder ε Unit).Decodes bytes fun _ ↦ True := by
  intro body rest
  refine (judged_skip (by simp) rest).imp fun _ _ hc ↦ ⟨trivial, ?_⟩
  rw [hc, List.drop_left]

theorem decodes_times {γ : Type} {encode : β → Bytes} {f : α → γ} {g : β → γ} {bs : List β}
    (h : ∀ b ∈ bs, d.Decodes (encode b) fun a ↦ f a = g b) :
    (times bs.length d).Decodes (bs.flatMap encode) fun as ↦ as.map f = bs.map g := by
  induction bs with
  | nil => exact decodes_pure rfl
  | cons b bs ih =>
    rw [List.flatMap_cons]
    refine (h b (by simp)).bind fun a ha ↦ ?_
    refine (ih fun b' hb' ↦ h b' (by simp [hb'])).bind_pure fun as has ↦ ?_
    rw [List.map_cons, List.map_cons, ha, has]

/-- Any bytes of this number are read. -/
def Total (d : Decoder ε α) (size : Nat) : Prop :=
  ∀ bytes : Bytes, bytes.length = size → d.Decodes bytes fun _ ↦ True

theorem Total.bind {size size' : Nat} (h : d.Total size) (h' : ∀ a, (f a).Total size') :
    (d >>= f).Total (size + size') := by
  intro bytes hbytes
  rw [← List.take_append_drop size bytes]
  exact (h (bytes.take size) (by simp; omega)).bind fun a _ ↦
    h' a (bytes.drop size) (by simp; omega)

theorem total_pure (a : α) : (pure a : Decoder ε α).Total 0 := by
  intro bytes hbytes
  obtain rfl := List.length_eq_zero_iff.1 hbytes
  exact decodes_pure trivial

theorem total_readExact (n : Nat) : (readExact n : Decoder ε Bytes).Total n := by
  intro bytes hbytes
  subst hbytes
  exact (decodes_readExact bytes).imp fun _ _ ↦ trivial

theorem total_readUint (width : Nat) : (readUint width : Decoder ε Nat).Total width :=
  (total_readExact width).bind fun bytes ↦ total_pure (fromBeBytes bytes)

theorem Total.times {size : Nat} (h : d.Total size) (n : Nat) : (times n d).Total (size * n) := by
  induction n with
  | zero => exact total_pure []
  | succ n ih =>
    rw [Nat.mul_succ, Nat.add_comm (size * n)]
    exact h.bind fun a ↦ ih.bind fun as ↦ total_pure (a :: as)

theorem Total.judged {size : Nat} (h : d.Total size) {body : Bytes} (hlength : body.length = size)
    (rest : Bytes) : d.Judged (.inside body rest) .accepted fun _ c ↦ c = .inside [] rest :=
  ((h body hlength).judged rest).imp fun _ _ hc ↦ hc.2

end Decodes

/-! ## Decoders that are never faulty -/

/-- The decoder accepts or rejects. -/
def Harmless (d : Decoder ε α) (c : Cursor) (post : α → Cursor → Prop) : Prop :=
  ∃ v, v ≠ .faulty ∧ d.Judged c v post

theorem Judged.harmless (h : d.Judged c v post) (hv : v ≠ .faulty) : d.Harmless c post :=
  ⟨v, hv, h⟩

theorem Harmless.bind (h : d.Harmless c post)
    (hf : ∀ a mid, post a mid → (f a).Harmless mid post') : (d >>= f).Harmless c post' := by
  obtain ⟨v, hv, h⟩ := h
  cases v with
  | accepted =>
    obtain ⟨a, mid, ha, hmid⟩ := h
    obtain ⟨w, hw, hf⟩ := hf a mid hmid
    refine ⟨w, hw, ?_⟩
    have hd : d.Judged c .accepted fun a' mid' ↦ a' = a ∧ mid' = mid := ⟨a, mid, ha, rfl, rfl⟩
    refine hd.bind_accepted fun a' mid' heq ↦ ?_
    rw [heq.1, heq.2]
    exact hf
  | rejected => exact ⟨.rejected, hv, h.bind_rejected f⟩
  | faulty => exact absurd rfl hv

theorem harmless_pure {a : α} (h : post a c) : (pure a : Decoder ε α).Harmless c post :=
  (judged_pure h).harmless (by decide)

theorem harmless_fail (err : ε) (h : c.overrun = false) :
    (fail err : Decoder ε α).Harmless c post :=
  (judged_fail err h).harmless (by decide)

theorem harmless_readUint_bind {width : Nat} {rest : Bytes} {f : Nat → Decoder ε β}
    (h : width ≤ body.length)
    (hf : (f (fromBeBytes (body.take width))).Harmless (.inside (body.drop width) rest) post') :
    (readUint width >>= f).Harmless (.inside body rest) post' := by
  obtain ⟨w, hw, hf⟩ := hf
  exact ⟨w, hw, judged_readUint_bind h hf⟩

theorem harmless_nested {bytes : Bytes} (hover : c.overrun = false)
    (h : d.Harmless (.start bytes) fun a c' ↦ c'.overrun = false ∧ post a c) :
    (d.nested bytes).Harmless c post := by
  obtain ⟨v, hv, h⟩ := h
  exact ⟨v, hv, judged_nested hover h⟩

theorem Judged.sound_bind_iff {P : Prop} (h : d.Judged c v post)
    (hf : ∀ a mid, post a mid → ((f a).Sound mid ↔ P)) :
    (d >>= f).Sound c ↔ v ≠ .faulty ∧ (v = .accepted → P) := by
  cases v with
  | accepted =>
    obtain ⟨a, mid, ha, hmid⟩ := h
    rw [Sound, run_bind_of ha f]
    exact (hf a mid hmid).trans ⟨fun hP ↦ ⟨by decide, fun _ ↦ hP⟩, fun hP ↦ hP.2 rfl⟩
  | rejected =>
    have hbind : (d >>= f).Judged c .rejected fun _ _ ↦ True := h.bind_rejected f
    obtain ⟨err, c', herr, hc'⟩ := hbind
    exact iff_of_true ⟨_, c', herr, hc'⟩ ⟨by decide, by simp⟩
  | faulty => exact iff_of_false (not_sound_bind h f) (by simp)

theorem Judged.sound_bind_iff_of_accepted {P : Prop} (h : d.Judged c .accepted post)
    (hf : ∀ a mid, post a mid → ((f a).Sound mid ↔ P)) :
    (d >>= f).Sound c ↔ P :=
  (h.sound_bind_iff hf).trans ⟨fun hP ↦ hP.2 rfl, fun hP ↦ ⟨by decide, fun _ ↦ hP⟩⟩

theorem Harmless.sound (h : d.Harmless c post) (hpost : ∀ a c', post a c' → c'.overrun = false) :
    d.Sound c := by
  obtain ⟨v, hv, h⟩ := h
  exact (h.sound_iff hpost).2 hv

end Decoder

end Kira
