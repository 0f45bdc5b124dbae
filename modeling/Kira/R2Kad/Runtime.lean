import Kira.Lib.BinaryHeap
import Kira.Runtime

/-!
# The timers of a node

The runtime of a node keeps the timers that its use cases have registered.  The timers that will
fire are in a priority queue; which of them are periodic is kept apart, and a periodic timer is put
into the queue again, under the same id, when it fires.  `nextTimer` hands out the timers that are
due, one at a time, and `handleTimers` is the loop around it, which lets the use cases handle each
of them.

A use case may register and remove timers at any time, but only the node itself sets the clock and
asks for the next timer.  The queues of events and of outputs have no part in this.
-/

set_option autoImplicit false

namespace Kira

open Run

/-- The instant so much later.  The seconds of an instant are a signed number of 64 bits. -/
def Instant.checkedAdd (now : Instant) (duration : Duration) : Option Instant :=
  if now + duration < 2 ^ 63 * 1000000000 then some (now + duration) else none

theorem Instant.checkedAdd_eq_some {now time : Instant} {duration : Duration}
    (h : now.checkedAdd duration = some time) : time = now + duration := by
  unfold checkedAdd at h
  split at h
  · exact (Option.some.inj h).symm
  · exact absurd h (by simp)

theorem Instant.lt_add (now : Instant) {duration : Duration} (h : 0 < duration) :
    now < now + duration :=
  Int.lt_add_of_pos_right now (Int.natCast_pos.2 h)

structure Timer where
  due : Instant
  id : TimerId
  deriving DecidableEq

/-- The timer that is due first is the greatest, so that it is the first in the queue. -/
def Timer.cmp (self other : Timer) : Ordering :=
  (compare self.due other.due).swap.then (compare self.id other.id)

theorem Timer.cmp_eq :
    Timer.cmp = compareLex (fun a b ↦ compareOn Timer.due b a) (compareOn Timer.id) := by
  funext self other
  have hswap : compare other.due self.due = (compare self.due other.due).swap :=
    Std.OrientedCmp.eq_swap
  rw [compareLex, compareOn, compareOn, hswap, Timer.cmp]

instance : Std.TransCmp Timer.cmp :=
  Timer.cmp_eq ▸ inferInstance

/-- The runtime of a node, as far as it concerns timers. -/
structure R2KadRuntime where
  /-- The id of the next timer, a number of 64 bits. -/
  counter : Nat
  timers : BinaryHeap Timer
  periodicTimers : KeyMap TimerId Duration
  currentTime : Instant

namespace R2KadRuntime

def withStartupTime (startupTime : Instant) : R2KadRuntime :=
  { counter := 0
    timers := []
    periodicTimers := ∅
    currentTime := startupTime }

def setCurrentTime (self : R2KadRuntime) (now : Instant) : R2KadRuntime :=
  { self with currentTime := now }

def pollTimeout (self : R2KadRuntime) : Option Instant :=
  (BinaryHeap.peek Timer.cmp self.timers).map Timer.due

def registerTimerWithId (debug : Bool) (self : R2KadRuntime) (duration : Duration) (id : TimerId) :
    Run R2KadRuntime := do
  assert (!debug || 0 < duration) "timers should have positive durations"
  let due ← expect (self.currentTime.checkedAdd duration)
    "overflow when adding duration to instant"
  return { self with timers := ⟨due, id⟩ :: self.timers }

def registerTimer (debug : Bool) (self : R2KadRuntime) (duration : Duration) :
    Run (TimerId × R2KadRuntime) := do
  assert (0 < duration) "Timers should have a positive duration"
  let id := self.counter
  let self ← self.registerTimerWithId debug duration id
  let counter ← expect (if self.counter + 1 < 2 ^ 64 then some (self.counter + 1) else none)
    "TimerId overflow should not occur"
  return (id, { self with counter := counter })

/-- A periodic timer stays registered as periodic, but it is not in the queue any more. -/
def removeTimer (self : R2KadRuntime) (timerId : TimerId) : R2KadRuntime :=
  { self with timers := self.timers.filter fun timer ↦ timer.id ≠ timerId }

def registerPeriodicTimer (debug : Bool) (self : R2KadRuntime) (duration : Duration) :
    Run (TimerId × R2KadRuntime) := do
  let (timerId, self) ← self.registerTimer debug duration
  assert (self.periodicTimers.lookup timerId).isNone "periodic timer should not pre exist"
  return (timerId, { self with periodicTimers := self.periodicTimers.insert timerId duration })

/-- The next timer that is due.  It is taken from the queue, and put back if it is periodic. -/
def nextTimer (debug : Bool) (self : R2KadRuntime) : Run (Option TimerId × R2KadRuntime) :=
  match BinaryHeap.peek Timer.cmp self.timers with
  | none => return (none, self)
  | some dueTimer =>
    if dueTimer.due ≤ self.currentTime then do
      let self := { self with timers := self.timers.erase dueTimer }
      match self.periodicTimers.lookup dueTimer.id with
      | some duration =>
        let self ← self.registerTimerWithId debug duration dueTimer.id
        return (some dueTimer.id, self)
      | none => return (some dueTimer.id, self)
    else return (none, self)

/-- The first part of `handle_timeout`, after the clock was set: the use cases handle the timers
that are due, until there are no more of them or an error comes up.  The use cases have a state of
their own; `none` says that the loop was not finished within this number of rounds. -/
def handleTimers {σ ε : Type} (debug : Bool)
    (processEvent : σ → TimerId → R2KadRuntime → Run (Except ε Unit × σ × R2KadRuntime)) :
    Nat → σ → R2KadRuntime → Run (Option (Except ε Unit × σ × R2KadRuntime))
  | 0, _, _ => return none
  | rounds + 1, pipeline, self => do
    match ← self.nextTimer debug with
    | (none, self) => return some (.ok (), pipeline, self)
    | (some dueTimer, self) =>
      match ← processEvent pipeline dueTimer self with
      | (.error e, pipeline, self) => return some (.error e, pipeline, self)
      | (.ok (), pipeline, self) => handleTimers debug processEvent rounds pipeline self

/-! ## What the functions do -/

variable {debug : Bool} {self self' : R2KadRuntime} {duration : Duration} {id : TimerId}

theorem registerTimerWithId_eq_ok
    (h : self.registerTimerWithId debug duration id = .ok self') :
    self' = { self with timers := ⟨self.currentTime + duration, id⟩ :: self.timers } := by
  obtain ⟨-, -, h⟩ := of_bind h
  obtain ⟨due, hdue, h⟩ := of_bind h
  rw [← Instant.checkedAdd_eq_some (expect_eq_ok.1 hdue)]
  exact (ok.inj h).symm

theorem registerTimer_eq_ok (h : self.registerTimer debug duration = .ok (id, self')) :
    0 < duration ∧ id = self.counter ∧
      self' = { self with
        counter := self.counter + 1
        timers := ⟨self.currentTime + duration, self.counter⟩ :: self.timers } := by
  obtain ⟨_, hpos, h⟩ := of_bind h
  obtain ⟨pushed, hpushed, h⟩ := of_bind h
  obtain rfl := registerTimerWithId_eq_ok hpushed
  obtain ⟨counter, hcounter, h⟩ := of_bind h
  have hnext : counter = self.counter + 1 := by
    have hsome := expect_eq_ok.1 hcounter
    split at hsome
    · exact (Option.some.inj hsome).symm
    · exact absurd hsome (by simp)
  cases h
  exact ⟨by simpa using assert_eq_ok.1 hpos, rfl, by rw [hnext]⟩

theorem registerPeriodicTimer_eq_ok
    (h : self.registerPeriodicTimer debug duration = .ok (id, self')) :
    0 < duration ∧ id = self.counter ∧
      self' = { self with
        counter := self.counter + 1
        timers := ⟨self.currentTime + duration, self.counter⟩ :: self.timers
        periodicTimers := self.periodicTimers.insert self.counter duration } := by
  obtain ⟨⟨timerId, mid⟩, hmid, h⟩ := of_bind h
  obtain ⟨hpos, rfl, rfl⟩ := registerTimer_eq_ok hmid
  obtain ⟨-, -, h⟩ := of_bind h
  cases h
  exact ⟨hpos, rfl, rfl⟩

theorem due_le_of_peek {timers : BinaryHeap Timer} {first timer : Timer}
    (h : BinaryHeap.peek Timer.cmp timers = some first) (hmem : timer ∈ timers) :
    first.due ≤ timer.due := by
  have hle := BinaryHeap.isLE_of_peek h timer hmem
  by_contra hlt
  have hcmp : compare timer.due first.due = .lt := compare_lt_iff_lt.2 (not_le.1 hlt)
  simp [Timer.cmp, hcmp, Ordering.then] at hle

/-- No timer is due. -/
def Quiet (self : R2KadRuntime) : Prop := ∀ timer ∈ self.timers, self.currentTime < timer.due

/-- What `nextTimer` does: either there is no timer that is due, or the timer that is due first is
taken from the queue, and put back if it is periodic. -/
theorem nextTimer_eq_ok {answer : Option TimerId}
    (h : self.nextTimer debug = .ok (answer, self')) :
    (answer = none ∧ self' = self ∧ self.Quiet) ∨
      ∃ timer ∈ self.timers, answer = some timer.id ∧ timer.due ≤ self.currentTime ∧
        (∀ other ∈ self.timers, timer.due ≤ other.due) ∧
        self' = { self with
          timers := ((self.periodicTimers.lookup timer.id).toList.map fun duration : Duration ↦
            ⟨self.currentTime + duration, timer.id⟩) ++ self.timers.erase timer } := by
  unfold nextTimer at h
  split at h
  · rename_i hnone
    cases h
    exact .inl ⟨rfl, rfl, by simp [Quiet, BinaryHeap.peek_eq_none.1 hnone]⟩
  · rename_i timer hpeek
    split at h
    · rename_i hdue
      refine .inr ⟨timer, BinaryHeap.mem_of_peek hpeek, ?_⟩
      dsimp only at h
      split at h
      · rename_i duration hperiod
        obtain ⟨pushed, hpushed, h⟩ := of_bind h
        obtain rfl := registerTimerWithId_eq_ok hpushed
        cases h
        exact ⟨rfl, hdue, fun other ↦ due_le_of_peek hpeek, by rw [hperiod]; rfl⟩
      · rename_i hperiod
        cases h
        exact ⟨rfl, hdue, fun other ↦ due_le_of_peek hpeek, by rw [hperiod]; rfl⟩
    · rename_i hdue
      cases h
      exact .inl ⟨rfl, rfl, fun other hother ↦
        lt_of_lt_of_le (not_le.1 hdue) (due_le_of_peek hpeek hother)⟩

end R2KadRuntime

end Kira
