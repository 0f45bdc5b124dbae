import Kira.Runtime

/-!
# Waiting longer and longer

A use case that repeats something waits longer each time: the durations are the powers of a base,
times the first one.  They may be randomized, by up to a half, and there is a limit to their number,
unless the limit only keeps them from growing further.

The power has 32 bits, a duration has 64 bits for its seconds, and a randomized one 64 bits for its
microseconds, of which there has to be at least one.  `Fits` says that the durations of a backoff
stay within these bounds, and `next_right_iff_fits` that this is needed and enough for every call of
`next` in a run to be right.  In such a run the limit is not set after the last duration, since from
then on there is none, with or without limit.
-/

set_option autoImplicit false

namespace Kira

open Run

namespace ExponentialBackoff

def new (base maxRetries startDuration : Nat) : ExponentialBackoff :=
  { newRandom base maxRetries startDuration with randomize := false }

def reset (self : ExponentialBackoff) : ExponentialBackoff := { self with currentRetries := 0 }

def clearLimit (self : ExponentialBackoff) : ExponentialBackoff := { self with limit := false }

def setLimit (self : ExponentialBackoff) : ExponentialBackoff := { self with limit := true }

/-- A random duration around the given one, in microseconds.  The value that is drawn is taken into
the range. -/
def randomized (offset : Nat) (duration : Duration) : Run Duration := do
  let lowerBound := duration / 1000 / 2
  let upperBound := 3 * (duration / 1000) / 2
  assert (lowerBound < upperBound) "cannot sample empty range"
  return (lowerBound + offset % (upperBound - lowerBound)) % 2 ^ 64 * 1000

/-- The next duration.  The power is a number of 32 bits. -/
def next (debug : Bool) (offset : Nat) (self : ExponentialBackoff) :
    Run (Option Duration × ExponentialBackoff) := do
  if self.maxRetries ≤ self.currentRetries then return (none, self)
  else
    let power := self.base ^ self.currentRetries
    assert (!debug || power < 2 ^ 32) "attempt to exponentiate with overflow"
    let duration := power % 2 ^ 32 * self.startDuration
    assert (duration < 2 ^ 64 * 1000000000) "overflow when multiplying duration by scalar"
    let duration ← (if self.randomize then randomized offset duration else pure duration)
    let currentRetries :=
      if self.limit && self.currentRetries + 1 == self.maxRetries && 0 < self.maxRetries then
        self.currentRetries
      else self.currentRetries + 1
    return (some duration, { self with currentRetries := currentRetries })

/-! ## The bounds -/

/-- A random duration around the given one, without bounds. -/
def unboundedRandomized (offset duration : Nat) : Nat :=
  (duration / 1000 / 2 + offset % (3 * (duration / 1000) / 2 - duration / 1000 / 2)) * 1000

def unboundedNext (offset : Nat) (self : ExponentialBackoff) : Nat :=
  let duration := self.base ^ self.currentRetries * self.startDuration
  if self.randomize then unboundedRandomized offset duration else duration

def advanced (self : ExponentialBackoff) : ExponentialBackoff :=
  { self with
    currentRetries :=
      if self.limit && self.currentRetries + 1 == self.maxRetries && 0 < self.maxRetries then
        self.currentRetries
      else self.currentRetries + 1 }

theorem advanced_currentRetries {self : ExponentialBackoff}
    (h : self.currentRetries < self.maxRetries) :
    self.advanced.currentRetries =
      if self.limit = true ∧ self.currentRetries + 1 = self.maxRetries then self.currentRetries
      else self.currentRetries + 1 := by
  have hpos : 0 < self.maxRetries := by omega
  simp [advanced, hpos]

/-- The duration with the `i`-th power is within the bounds. -/
structure FitsAt (self : ExponentialBackoff) (i : Nat) : Prop where
  power : self.base ^ i < 2 ^ 32
  seconds : self.base ^ i * self.startDuration < 2 ^ 64 * 1000000000
  micros : self.randomize = true → 1000 ≤ self.base ^ i * self.startDuration ∧
    3 * (self.base ^ i * self.startDuration / 1000) / 2 ≤ 2 ^ 64

/-- All durations are within the bounds. -/
def Fits (self : ExponentialBackoff) : Prop := ∀ i < self.maxRetries, self.FitsAt i

theorem randomized_eq_iff {d : Nat} :
    (∀ offset, randomized offset d = .ok (unboundedRandomized offset d)) ↔
      1000 ≤ d ∧ 3 * (d / 1000) / 2 ≤ 2 ^ 64 := by
  have hrange : d / 1000 / 2 < 3 * (d / 1000) / 2 ↔ 1000 ≤ d := by omega
  constructor
  · intro h
    have hassert : 1000 ≤ d := by
      obtain ⟨_, hassert, -⟩ := of_bind (h 0)
      exact hrange.1 (by simpa using assert_eq_ok.1 hassert)
    -- the largest of the values is not truncated
    have hlast := h (3 * (d / 1000) / 2 - d / 1000 / 2 - 1)
    simp only [randomized, unboundedRandomized, hrange.2 hassert, decide_true, assert_true,
      ok_bind, pure_eq, ok.injEq] at hlast
    have hmod : (3 * (d / 1000) / 2 - d / 1000 / 2 - 1) % (3 * (d / 1000) / 2 - d / 1000 / 2) =
      3 * (d / 1000) / 2 - d / 1000 / 2 - 1 := Nat.mod_eq_of_lt (by omega)
    rw [hmod] at hlast
    have hlt : d / 1000 / 2 + (3 * (d / 1000) / 2 - d / 1000 / 2 - 1) < 2 ^ 64 := by
      rw [← Nat.eq_of_mul_eq_mul_right (by simp) hlast]
      exact Nat.mod_lt _ (by simp)
    omega
  · rintro ⟨hd, hmicros⟩ offset
    have hdrawn := Nat.mod_lt offset (Nat.sub_pos_of_lt (hrange.2 hd))
    simp only [randomized, unboundedRandomized, hrange.2 hd, decide_true, assert_true,
      ok_bind, pure_eq, ok.injEq]
    rw [Nat.mod_eq_of_lt (by omega)]

variable {self : ExponentialBackoff}

theorem next_of_lt (debug : Bool) (offset : Nat) (h : self.currentRetries < self.maxRetries) :
    self.next debug offset = (do
      let power := self.base ^ self.currentRetries
      assert (!debug || power < 2 ^ 32) "attempt to exponentiate with overflow"
      let duration := power % 2 ^ 32 * self.startDuration
      assert (duration < 2 ^ 64 * 1000000000) "overflow when multiplying duration by scalar"
      let duration ← (if self.randomize then randomized offset duration else pure duration)
      return (some duration, self.advanced)) := by
  rw [next, if_neg (Nat.not_le.2 h)]
  rfl

theorem next_eq_ok {debug : Bool} {offset : Nat} {value : Option Duration}
    {self' : ExponentialBackoff}
    (h : self.next debug offset = .ok (value, self')) :
    (self.maxRetries ≤ self.currentRetries ∧ value = none ∧ self' = self) ∨
      (self.currentRetries < self.maxRetries ∧ (∃ d, value = some d) ∧ self' = self.advanced) := by
  rcases Nat.lt_or_ge self.currentRetries self.maxRetries with hlt | hle
  · rw [next_of_lt _ _ hlt] at h
    obtain ⟨_, -, h⟩ := of_bind h
    obtain ⟨_, -, h⟩ := of_bind h
    obtain ⟨d, -, h⟩ := of_bind h
    cases h
    exact .inr ⟨hlt, ⟨d, rfl⟩, rfl⟩
  · rw [next, if_pos hle] at h
    cases h
    exact .inl ⟨hle, rfl, rfl⟩

/-- What is returned is what there is without bounds if and only if the duration is within them. -/
theorem next_eq_iff (h : self.currentRetries < self.maxRetries) :
    (∀ debug offset, self.next debug offset =
      .ok (some (unboundedNext offset self), self.advanced)) ↔ self.FitsAt self.currentRetries := by
  simp only [next_of_lt _ _ h, unboundedNext]
  constructor
  · intro hnext
    have hpower : self.base ^ self.currentRetries < 2 ^ 32 := by
      obtain ⟨_, hassert, -⟩ := of_bind (hnext true 0)
      simpa using assert_eq_ok.1 hassert
    simp only [hpower, Nat.mod_eq_of_lt hpower, decide_true, Bool.or_true, assert_true,
      ok_bind] at hnext
    have hseconds : self.base ^ self.currentRetries * self.startDuration < 2 ^ 64 * 1000000000 := by
      obtain ⟨_, hassert, -⟩ := of_bind (hnext true 0)
      simpa using assert_eq_ok.1 hassert
    refine ⟨hpower, hseconds, fun hrandom ↦ randomized_eq_iff.1 fun offset ↦ ?_⟩
    have hoffset := hnext true offset
    simp only [hseconds, hrandom, decide_true, assert_true, ok_bind, if_true] at hoffset
    obtain ⟨v, hv, hoffset⟩ := of_bind hoffset
    rw [hv, Option.some.inj (ok_mk_inj hoffset).1]
  · rintro ⟨hpower, hseconds, hmicros⟩ debug offset
    simp only [Nat.mod_eq_of_lt hpower, hpower, hseconds, decide_true, Bool.or_true,
      assert_true, ok_bind]
    cases hrandom : self.randomize with
    | false => rfl
    | true => simp [randomized_eq_iff.2 (hmicros hrandom) offset]

/-! ## Runs -/

/-- A backoff in a run: how many durations there have been since the last reset, and whether the
limit was set for one of these calls. -/
structure History where
  backoff : ExponentialBackoff
  produced : Nat
  limited : Bool

inductive Call where
  | next (debug : Bool) (offset : Nat)
  | reset
  | setLimit
  | clearLimit

namespace History

def step (s : History) : Call → Run History
  | .next debug offset => do
    let (value, backoff) ← s.backoff.next debug offset
    return ⟨backoff, s.produced + value.toList.length, s.limited || s.backoff.limit⟩
  | .reset => .ok ⟨s.backoff.reset, 0, false⟩
  | .setLimit => .ok { s with backoff := s.backoff.setLimit }
  | .clearLimit => .ok { s with backoff := s.backoff.clearLimit }

/-- A call of `next` is right: it returns, in both builds and whatever is drawn, what there is
without bounds; that is the power of the number of durations so far, times the first one, if it is
not randomized; without limit the durations end with the last one, and with it they do not end. -/
def Right (s : History) : Prop :=
  ∀ debug offset, ∃ value backoff, s.backoff.next debug offset = .ok (value, backoff) ∧
    (∀ d, value = some d → d = s.backoff.unboundedNext offset) ∧
    (s.backoff.randomize = false → s.produced < s.backoff.maxRetries →
      value = some (s.backoff.base ^ s.produced * s.backoff.startDuration)) ∧
    (s.limited = false → s.backoff.limit = false →
      (value.isSome ↔ s.produced < s.backoff.maxRetries)) ∧
    (s.backoff.limit = true → 0 < s.backoff.maxRetries → value ≠ none)

/-- The limit is only set before the last duration. -/
def LimitInTime (s : History) : Call → Prop
  | .setLimit => s.backoff.currentRetries < s.backoff.maxRetries ∨ s.backoff.maxRetries = 0
  | _ => True

/-- How the counter of a backoff relates to the durations that there have been. -/
structure Counts (start : ExponentialBackoff) (s : History) : Prop where
  same : ∃ i limit, s.backoff = { start with currentRetries := i, limit := limit }
  before : s.produced < s.backoff.maxRetries → s.backoff.currentRetries = s.produced
  unlimited : s.limited = false → s.backoff.currentRetries = s.produced
  limit : s.backoff.limit = true → s.backoff.currentRetries < s.backoff.maxRetries ∨
    s.backoff.maxRetries = 0

variable {start : ExponentialBackoff} {s s' : History}

theorem Counts.step {call : Call} (hs : Counts start s) (hcall : s.LimitInTime call)
    (h : s.step call = .ok s') : Counts start s' := by
  obtain ⟨⟨i, limit, hsame⟩, hbefore, hunlimited, hlimit⟩ := hs
  cases call with
  | next debug offset =>
    obtain ⟨⟨value, backoff⟩, hnext, h⟩ := of_bind h
    cases h
    rcases next_eq_ok hnext with ⟨hle, rfl, rfl⟩ | ⟨hlt, ⟨d, rfl⟩, rfl⟩
    · exact ⟨⟨i, limit, hsame⟩, hbefore, fun hnot ↦ hunlimited (Bool.or_eq_false_iff.1 hnot).1,
        hlimit⟩
    · refine ⟨⟨_, limit, by rw [advanced, hsame]⟩, fun hlast ↦ ?_, fun hnot ↦ ?_,
        fun hlim ↦ .inl ?_⟩
      · have hlast : s.produced + 1 < s.backoff.maxRetries := hlast
        have hcurrent := hbefore (by omega)
        rw [advanced_currentRetries hlt, if_neg (by omega), hcurrent]
        rfl
      · obtain ⟨hnot, hlim⟩ := Bool.or_eq_false_iff.1 hnot
        rw [advanced_currentRetries hlt, if_neg (by simp [hlim]), hunlimited hnot]
        rfl
      · have hlim : s.backoff.limit = true := hlim
        have hmax : s.backoff.advanced.maxRetries = s.backoff.maxRetries := rfl
        simp only [advanced_currentRetries hlt, hmax, hlim, true_and]
        split <;> omega
  | reset =>
    cases h
    exact ⟨⟨0, limit, by rw [reset, hsame]⟩, fun _ ↦ rfl, fun _ ↦ rfl, fun _ ↦ by
      simp only [reset]; omega⟩
  | setLimit =>
    cases h
    exact ⟨⟨i, true, by rw [setLimit, hsame]⟩, hbefore, hunlimited, fun _ ↦ hcall⟩
  | clearLimit =>
    cases h
    exact ⟨⟨i, false, by rw [clearLimit, hsame]⟩, hbefore, hunlimited, nofun⟩

theorem Counts.right (hs : Counts start s) (hfits : start.Fits) : s.Right := by
  obtain ⟨⟨i, limit, hsame⟩, hbefore, hunlimited, hlimit⟩ := hs
  intro debug offset
  rcases Nat.lt_or_ge s.backoff.currentRetries s.backoff.maxRetries with hlt | hle
  · have hat : s.backoff.FitsAt s.backoff.currentRetries := by
      rw [hsame] at hlt ⊢
      obtain ⟨hpower, hseconds, hmicros⟩ := hfits i hlt
      exact ⟨hpower, hseconds, hmicros⟩
    refine ⟨_, _, (next_eq_iff hlt).2 hat debug offset, fun _ heq ↦ (Option.some.inj heq).symm,
      fun hrandom hprod ↦ ?_, fun hnot _ ↦ ?_, nofun⟩
    · simp [unboundedNext, hrandom, hbefore hprod]
    · simpa [← hunlimited hnot] using hlt
  · refine ⟨none, _, by rw [next, if_pos hle]; rfl, nofun, fun _ hprod ↦ ?_, fun hnot _ ↦ ?_,
      fun hlim hpos ↦ ?_⟩
    · have := hbefore hprod
      omega
    · simpa [← hunlimited hnot] using hle
    · have := hlimit hlim
      omega

def create (randomize : Bool) (base maxRetries startDuration : Nat) : History where
  backoff := if randomize then newRandom base maxRetries startDuration
    else new base maxRetries startDuration
  produced := 0
  limited := false

/-- **The durations of a backoff are right if and only if they fit.**  In every run in which the
limit is only set before the last duration, every call of `next` is right, if all durations are
within the bounds of the numbers; otherwise there is a run in which one is not. -/
theorem next_right_iff_fits (randomize : Bool) (base maxRetries startDuration : Nat) :
    (∀ s, Reachable step LimitInTime (create randomize base maxRetries startDuration) s → s.Right) ↔
      (create randomize base maxRetries startDuration).backoff.Fits := by
  generalize hstart : create randomize base maxRetries startDuration = start
  have hzero : start.backoff.currentRetries = 0 ∧ start.backoff.limit = false ∧
    start.produced = 0 := by
    cases randomize <;> subst hstart <;> exact ⟨rfl, rfl, rfl⟩
  constructor
  · intro hright
    -- without limit the counter reaches each of the powers
    have hreach : ∀ i < start.backoff.maxRetries, ∃ s, Reachable step LimitInTime start s ∧
        s.backoff = { start.backoff with currentRetries := i } := by
      intro i hi
      induction i with
      | zero => exact ⟨start, .start, by rw [← hzero.1]⟩
      | succ i ih =>
        obtain ⟨s, hs, hsame⟩ := ih (by omega)
        obtain ⟨value, backoff, hnext, -⟩ := hright s hs true 0
        have hlt : s.backoff.currentRetries < s.backoff.maxRetries := by
          rw [hsame]
          exact Nat.lt_of_succ_lt hi
        have hstep : s.step (.next true 0) =
            .ok ⟨backoff, s.produced + value.toList.length, s.limited || s.backoff.limit⟩ := by
          simp only [step, hnext, ok_bind, pure_eq]
        refine ⟨_, hs.step (by exact trivial) hstep, ?_⟩
        rcases next_eq_ok hnext with ⟨hle, -⟩ | ⟨-, -, rfl⟩
        · omega
        · simp [advanced, hsame, hzero.2.1]
    intro i hi
    obtain ⟨s, hs, hsame⟩ := hreach i hi
    have hlt : s.backoff.currentRetries < s.backoff.maxRetries := by rwa [hsame]
    have hat := (next_eq_iff hlt).1 fun debug offset ↦ by
      obtain ⟨value, backoff, hnext, hvalue, -⟩ := hright s hs debug offset
      rcases next_eq_ok hnext with ⟨hle, -⟩ | ⟨-, ⟨d, rfl⟩, rfl⟩
      · omega
      · rw [hnext, hvalue d rfl]
    rw [hsame] at hat
    obtain ⟨hpower, hseconds, hmicros⟩ := hat
    exact ⟨hpower, hseconds, hmicros⟩
  · intro hfits s hs
    refine Counts.right (hs.invariant ?_ fun s call s' hs hcall h ↦ hs.step hcall h) hfits
    exact ⟨⟨0, false, by rw [← hzero.1, ← hzero.2.1]⟩, fun _ ↦ by rw [hzero.1, hzero.2.2],
      fun _ ↦ by rw [hzero.1, hzero.2.2], by simp [hzero.2.1]⟩

/-- With base 2, the 33rd duration needs a power of 33 bits: the build that checks for overflows
panics, the other one returns a duration of 0.  And a limit that is set after the last duration does
not bring it back. -/
theorem next_overflows_and_ends :
    (∃ s, Reachable step (fun _ _ ↦ True) (create false 2 33 1000000000) s ∧ s.produced = 32 ∧
      s.backoff.next true 0 = .panic "attempt to exponentiate with overflow" ∧
      ∃ backoff, s.backoff.next false 0 = .ok (some 0, backoff)) ∧
    (∃ s, Reachable step (fun _ _ ↦ True) (create false 2 1 1000000000) s ∧
      s.backoff.limit = true ∧ 0 < s.backoff.maxRetries ∧
      s.backoff.next true 0 = .ok (none, s.backoff)) :=
  ⟨⟨_, reachable_of_runAll (List.replicate 32 (.next true 0)) rfl, rfl, rfl, _, rfl⟩,
    ⟨_, reachable_of_runAll [.next true 0, .setLimit] rfl, rfl, by decide, rfl⟩⟩

end History

end ExponentialBackoff

end Kira
