import Kira.R2Kad.Runtime

/-!
# Timers fire when they are due

What is expected of the timers of a node is an `Agenda`: for each timer that is to fire, the instant
at which it is due, and for each periodic timer its period.  The agenda depends only on which timers
were registered and removed and which were handed out; a periodic timer that is handed out is on the
agenda again, one period after that.

The runtime keeps to the agenda (`Tracks`): its queue holds the timers of the agenda, each of them
once.  So a call of `nextTimer` answers with the timer of the agenda that is due first, and only if
it is due (`Agenda.Allows`).  The rest follows for every sequence of calls that an agenda allows: a
timer that was issued and is not on the agenda any more never comes back, as ids are not used twice,
and as time does not go back and durations are positive, whatever is put on the agenda is due after
all that was handed out before.
-/

set_option autoImplicit false

namespace Kira

open Run

/-! ## Calls of the runtime -/

/-- The operations on timers.  The last two of them are reserved to the node itself. -/
inductive TimerOp where
  | registerTimer (duration : Duration)
  | registerPeriodicTimer (duration : Duration)
  | removeTimer (timerId : TimerId)
  | setCurrentTime (now : Instant)
  | nextTimer
  deriving DecidableEq

namespace TimerOp

/-- Calls the runtime; the answer is a timer, if there is one. -/
def perform (debug : Bool) (rt : R2KadRuntime) : TimerOp → Run (Option TimerId × R2KadRuntime)
  | registerTimer duration => do
    let (id, rt) ← rt.registerTimer debug duration
    return (some id, rt)
  | registerPeriodicTimer duration => do
    let (id, rt) ← rt.registerPeriodicTimer debug duration
    return (some id, rt)
  | removeTimer timerId => return (none, rt.removeTimer timerId)
  | setCurrentTime now => return (none, rt.setCurrentTime now)
  | nextTimer => rt.nextTimer debug

/-- Time does not go back. -/
def Proper (rt : R2KadRuntime) : TimerOp → Prop
  | setCurrentTime now => rt.currentTime ≤ now
  | _ => True

/-- After which time a timer is to fire. -/
def duration : TimerOp → Option Duration
  | registerTimer duration | registerPeriodicTimer duration => some duration
  | _ => none

/-- The time between two firings of a timer. -/
def period : TimerOp → Option Duration
  | registerPeriodicTimer duration => some duration
  | _ => none

/-- The operations that a use case can ask for. -/
def Request : TimerOp → Prop
  | registerTimer _ | registerPeriodicTimer _ | removeTimer _ => True
  | setCurrentTime _ | nextTimer => False

end TimerOp

/-- An operation that was performed, with its answer and the runtime before and after it. -/
structure TimerCall where
  before : R2KadRuntime
  op : TimerOp
  answer : Option TimerId
  after : R2KadRuntime

namespace TimerCall

/-- When the call was made. -/
def now (call : TimerCall) : Instant := call.before.currentTime

/-- The timer that was issued. -/
def issued (call : TimerCall) : Option TimerId :=
  match call.op with
  | .registerTimer _ | .registerPeriodicTimer _ => call.answer
  | _ => none

/-- The timer that has fired. -/
def yielded (call : TimerCall) : Option TimerId :=
  match call.op with
  | .nextTimer => call.answer
  | _ => none

end TimerCall

/-- A sequence of operations was performed, from one state of the runtime to another. -/
inductive TimerRun (debug : Bool) : R2KadRuntime → List TimerCall → R2KadRuntime → Prop
  | nil (rt : R2KadRuntime) : TimerRun debug rt [] rt
  | cons {rt rt' last : R2KadRuntime} {op : TimerOp} {answer : Option TimerId}
      {calls : List TimerCall} (hproper : op.Proper rt)
      (h : op.perform debug rt = .ok (answer, rt')) (hcalls : TimerRun debug rt' calls last) :
      TimerRun debug rt (⟨rt, op, answer, rt'⟩ :: calls) last

theorem TimerRun.split {debug : Bool} {rt last : R2KadRuntime} {past rest : List TimerCall}
    {call : TimerCall} (h : TimerRun debug rt (past ++ call :: rest) last) :
    TimerRun debug rt past call.before ∧ call.op.Proper call.before ∧
      call.op.perform debug call.before = .ok (call.answer, call.after) ∧
      TimerRun debug call.after rest last := by
  induction past generalizing rt with
  | nil =>
    cases h with
    | cons hproper h hcalls => exact ⟨.nil _, hproper, h, hcalls⟩
  | cons first past ih =>
    cases h with
    | cons hproper h hcalls =>
      obtain ⟨hpast, hcall⟩ := ih hcalls
      exact ⟨.cons hproper h hpast, hcall⟩

/-! ## The agenda -/

/-- The timers that were issued, when they are due, and how often they fire. -/
structure Agenda where
  issued : List TimerId
  armed : TimerId → Option Instant
  period : TimerId → Option Duration

namespace Agenda

/-- No timer has been issued. -/
def empty : Agenda := ⟨[], fun _ ↦ none, fun _ ↦ none⟩

/-- What a call does to the agenda. -/
def after (agenda : Agenda) (call : TimerCall) : Agenda where
  issued := agenda.issued ++ call.issued.toList
  armed id :=
    if call.issued = some id then call.op.duration.map fun duration : Duration ↦ call.now + duration
    else if call.op = .removeTimer id then none
    else if call.yielded = some id then
      (agenda.period id).map fun duration : Duration ↦ call.now + duration
    else agenda.armed id
  period id := if call.issued = some id then call.op.period else agenda.period id

/-- What calls do to the agenda. -/
def afterAll (agenda : Agenda) (calls : List TimerCall) : Agenda := calls.foldl after agenda

/-- Whatever is on the agenda was issued, and periods are positive. -/
structure Wf (agenda : Agenda) : Prop where
  armed_issued {id : TimerId} {due : Instant} : agenda.armed id = some due → id ∈ agenda.issued
  period_issued {id : TimerId} {duration : Duration} :
    agenda.period id = some duration → id ∈ agenda.issued
  period_pos {id : TimerId} {duration : Duration} : agenda.period id = some duration → 0 < duration

/-- A call that keeps to the agenda. -/
structure Allows (agenda : Agenda) (call : TimerCall) : Prop where
  issued {id : TimerId} : call.issued = some id → id ∉ agenda.issued
  duration_pos {duration : Duration} : call.op.duration = some duration → 0 < duration
  /-- The timer that is handed out is due, and it is the first one on the agenda. -/
  yielded {id : TimerId} : call.yielded = some id → ∃ due, agenda.armed id = some due ∧
    due ≤ call.now ∧ ∀ id' due', agenda.armed id' = some due' → due ≤ due'
  /-- Nothing is handed out only if nothing is due. -/
  quiet {id : TimerId} {due : Instant} : call.op = .nextTimer → call.answer = none →
    agenda.armed id = some due → call.now < due
  now_le : call.now ≤ call.after.currentTime

variable {agenda : Agenda} {call : TimerCall} {id : TimerId}

theorem Wf.empty : empty.Wf where
  armed_issued h := absurd h (by simp [Agenda.empty])
  period_issued h := absurd h (by simp [Agenda.empty])
  period_pos h := absurd h (by simp [Agenda.empty])

theorem armed_after {due : Instant} (hwf : agenda.Wf) (hallows : agenda.Allows call)
    (h : (agenda.after call).armed id = some due) :
    agenda.armed id = some due ∨ call.now < due := by
  simp only [after] at h
  split_ifs at h with hissued hremoved hyielded
  · obtain ⟨duration, hduration, rfl⟩ := Option.map_eq_some_iff.1 h
    exact .inr (Instant.lt_add _ (hallows.duration_pos hduration))
  · obtain ⟨duration, hduration, rfl⟩ := Option.map_eq_some_iff.1 h
    exact .inr (Instant.lt_add _ (hwf.period_pos hduration))
  · exact .inl h

theorem period_after (hallows : agenda.Allows call) (hid : id ∈ agenda.issued) :
    (agenda.after call).period id = agenda.period id :=
  if_neg fun hissued ↦ hallows.issued hissued hid

theorem Wf.after (hwf : agenda.Wf) (hallows : agenda.Allows call) : (agenda.after call).Wf where
  armed_issued {id due} h := by
    simp only [Agenda.after, List.mem_append, Option.mem_toList] at h ⊢
    split_ifs at h with hissued hremoved hyielded
    · exact .inr hissued
    · obtain ⟨due, harmed, -⟩ := hallows.yielded hyielded
      exact .inl (hwf.armed_issued harmed)
    · exact .inl (hwf.armed_issued h)
  period_issued {id duration} h := by
    simp only [Agenda.after, List.mem_append, Option.mem_toList] at h ⊢
    split_ifs at h with hissued
    · exact .inr hissued
    · exact .inl (hwf.period_issued h)
  period_pos {id duration} h := by
    simp only [Agenda.after] at h
    split_ifs at h with hissued
    · cases hop : call.op with
      | registerPeriodicTimer duration' =>
        rw [hop] at h
        exact hallows.duration_pos (by rw [hop]; exact h)
      | _ => simp [hop, TimerOp.period] at h
    · exact hwf.period_pos h

/-! ### Sequences of calls -/

/-- Each of the calls keeps to the agenda of its time. -/
def AllowsAll : Agenda → List TimerCall → Prop
  | _, [] => True
  | agenda, call :: calls => agenda.Allows call ∧ (agenda.after call).AllowsAll calls

variable {past calls rest : List TimerCall}

theorem allowsAll_append :
    agenda.AllowsAll (past ++ rest) ↔ agenda.AllowsAll past ∧
      (agenda.afterAll past).AllowsAll rest := by
  induction past generalizing agenda with
  | nil => simp [AllowsAll, afterAll]
  | cons call past ih => simp [AllowsAll, afterAll, ih, and_assoc]

theorem Wf.afterAll (hwf : agenda.Wf) (h : agenda.AllowsAll calls) :
    (agenda.afterAll calls).Wf := by
  induction calls generalizing agenda with
  | nil => exact hwf
  | cons call calls ih => exact ih (hwf.after h.1) h.2

theorem issued_afterAll : (agenda.afterAll calls).issued =
    agenda.issued ++ calls.filterMap TimerCall.issued := by
  induction calls generalizing agenda with
  | nil => simp [afterAll]
  | cons call calls ih =>
    rw [afterAll, List.foldl_cons, ← afterAll, ih, after]
    cases hissued : call.issued <;> simp [hissued]

theorem nodup_issued (hnodup : agenda.issued.Nodup) (h : agenda.AllowsAll calls) :
    (agenda.afterAll calls).issued.Nodup := by
  induction calls generalizing agenda with
  | nil => exact hnodup
  | cons call calls ih =>
    refine ih ?_ h.2
    simp only [after]
    cases hissued : call.issued with
    | none => simpa using hnodup
    | some id =>
      have hnew := h.1.issued hissued
      simp only [Option.toList_some, List.nodup_append, hnodup, List.nodup_singleton, true_and,
        List.mem_singleton]
      rintro id' hid' _ rfl rfl
      exact hnew hid'

theorem period_afterAll (hid : id ∈ agenda.issued) (h : agenda.AllowsAll calls) :
    (agenda.afterAll calls).period id = agenda.period id := by
  induction calls generalizing agenda with
  | nil => rfl
  | cons call calls ih =>
    rw [afterAll, List.foldl_cons, ← afterAll, ih (by simp [after, hid]) h.2, period_after h.1 hid]

/-- The timer will not fire any more. -/
structure Retired (agenda : Agenda) (id : TimerId) : Prop where
  issued : id ∈ agenda.issued
  armed : agenda.armed id = none

theorem Retired.after (hretired : agenda.Retired id) (hallows : agenda.Allows call) :
    (agenda.after call).Retired id where
  issued := by simp [Agenda.after, hretired.issued]
  armed := by
    have hyielded : call.yielded ≠ some id := by
      intro hyielded
      obtain ⟨due, harmed, -⟩ := hallows.yielded hyielded
      exact absurd (hretired.armed.symm.trans harmed) (by simp)
    have hissued : call.issued ≠ some id := fun h ↦ hallows.issued h hretired.issued
    simp [Agenda.after, hretired.armed, hyielded, hissued]

/-- A timer that is not on the agenda any more is never handed out again. -/
theorem Retired.not_yielded (hretired : agenda.Retired id) (h : agenda.AllowsAll calls) :
    ∀ call ∈ calls, call.yielded ≠ some id := by
  induction calls generalizing agenda with
  | nil => simp
  | cons first calls ih =>
    intro call hcall hyielded
    obtain rfl | hcall := List.mem_cons.1 hcall
    · obtain ⟨due, harmed, -⟩ := h.1.yielded hyielded
      exact absurd (hretired.armed.symm.trans harmed) (by simp)
    · exact ih (hretired.after h.1) h.2 call hcall hyielded

theorem countP_yielded_le (hperiod : agenda.period id = none) (hwf : agenda.Wf)
    (hcalls : ∀ call ∈ calls, call.issued = some id → call.op.period = none)
    (h : agenda.AllowsAll calls) : calls.countP (fun call ↦ call.yielded = some id) ≤ 1 := by
  induction calls generalizing agenda with
  | nil => simp
  | cons call calls ih =>
    have hperiod' : (agenda.after call).period id = none := by
      simp only [after]
      split_ifs with hissued
      · exact hcalls call List.mem_cons_self hissued
      · exact hperiod
    by_cases hyielded : call.yielded = some id
    · obtain ⟨due, harmed, -⟩ := h.1.yielded hyielded
      have hid := hwf.armed_issued harmed
      have hissued : call.issued ≠ some id := fun hissued ↦ h.1.issued hissued hid
      have hretired : (agenda.after call).Retired id :=
        ⟨by simp [after, hid], by simp [after, hyielded, hperiod, hissued]⟩
      have hrest : calls.countP (fun call ↦ call.yielded = some id) = 0 :=
        List.countP_eq_zero.2 fun call hcall ↦ by
          simpa using hretired.not_yielded h.2 call hcall
      simp [hyielded, hrest]
    · rw [List.countP_cons_of_neg (by simpa using hyielded)]
      exact ih hperiod' (hwf.after h.1)
        (fun call hcall ↦ hcalls call (List.mem_cons_of_mem _ hcall))
        h.2

/-- After a timer was handed out, what is on the agenda is not due before it. -/
structure NotBefore (agenda : Agenda) (due now : Instant) : Prop where
  armed {id : TimerId} {due' : Instant} : agenda.armed id = some due' → due ≤ due'
  now : due ≤ now

theorem Allows.notBefore {due : Instant} (hwf : agenda.Wf) (hallows : agenda.Allows call)
    (hnow : due ≤ call.now) (hfirst : ∀ id due', agenda.armed id = some due' → due ≤ due') :
    (agenda.after call).NotBefore due call.after.currentTime where
  armed harmed := by
    obtain harmed | hlater := armed_after hwf hallows harmed
    · exact hfirst _ _ harmed
    · exact hnow.trans hlater.le
  now := hnow.trans hallows.now_le

/-- The timers are handed out in the order in which they are due. -/
theorem NotBefore.yielded {due : Instant} {rt : R2KadRuntime} {last : R2KadRuntime} {debug : Bool}
    (hrun : TimerRun debug rt (calls ++ call :: rest) last)
    (hbefore : agenda.NotBefore due rt.currentTime) (hwf : agenda.Wf)
    (h : agenda.AllowsAll (calls ++ call :: rest)) (hyielded : call.yielded = some id) :
    ∃ due', (agenda.afterAll calls).armed id = some due' ∧ due ≤ due' := by
  induction calls generalizing agenda rt with
  | nil =>
    obtain ⟨due', harmed, -⟩ := h.1.yielded hyielded
    exact ⟨due', harmed, hbefore.armed harmed⟩
  | cons first calls ih =>
    cases hrun with
    | cons hproper hperform hcalls =>
      have hbefore' := h.1.notBefore hwf hbefore.now fun _ _ ↦ hbefore.armed
      exact ih hcalls hbefore' (hwf.after h.1) h.2

end Agenda

/-! ## The runtime keeps to the agenda -/

/-- The queue of the runtime holds the timers of the agenda. -/
structure Tracks (rt : R2KadRuntime) (agenda : Agenda) : Prop where
  wf : agenda.Wf
  nodup : rt.timers.Nodup
  mem_timers {timer : Timer} : timer ∈ rt.timers ↔ agenda.armed timer.id = some timer.due
  lookup (id : TimerId) : rt.periodicTimers.lookup id = agenda.period id
  lt_counter {id : TimerId} : id ∈ agenda.issued → id < rt.counter

namespace Tracks

variable {debug : Bool} {rt rt' last : R2KadRuntime} {agenda : Agenda} {calls : List TimerCall}
  {op : TimerOp} {answer : Option TimerId} {duration : Duration}

theorem start (startupTime : Instant) : Tracks (.withStartupTime startupTime) .empty where
  wf := .empty
  nodup := List.nodup_nil
  mem_timers := by simp [R2KadRuntime.withStartupTime, Agenda.empty]
  lookup id := by simp [R2KadRuntime.withStartupTime, Agenda.empty]
  lt_counter h := absurd h (by simp [Agenda.empty])

theorem not_mem_timers (h : Tracks rt agenda) {timer : Timer} (hid : rt.counter ≤ timer.id) :
    timer ∉ rt.timers :=
  fun hmem ↦ (h.lt_counter (h.wf.armed_issued (h.mem_timers.1 hmem))).not_ge hid

theorem counter_not_issued (h : Tracks rt agenda) : rt.counter ∉ agenda.issued :=
  fun hid ↦ (h.lt_counter hid).false

/-- A new timer comes into the queue and onto the agenda. -/
theorem register (h : Tracks rt agenda) (hduration : op.duration = some duration)
    (hpos : 0 < duration) {periodicTimers : KeyMap TimerId Duration}
    (hlookup : ∀ id, periodicTimers.lookup id =
      if rt.counter = id then op.period else rt.periodicTimers.lookup id)
    (hrt' : rt' = { rt with
      counter := rt.counter + 1
      timers := ⟨rt.currentTime + duration, rt.counter⟩ :: rt.timers
      periodicTimers := periodicTimers }) :
    agenda.Allows ⟨rt, op, some rt.counter, rt'⟩ ∧
      Tracks rt' (agenda.after ⟨rt, op, some rt.counter, rt'⟩) := by
  have hissued : TimerCall.issued ⟨rt, op, some rt.counter, rt'⟩ = some rt.counter := by
    cases op <;> simp_all [TimerOp.duration, TimerCall.issued]
  have hyielded : TimerCall.yielded ⟨rt, op, some rt.counter, rt'⟩ = none := by
    cases op <;> simp_all [TimerOp.duration, TimerCall.yielded]
  have hop (id : TimerId) : op ≠ .removeTimer id := by
    cases op <;> simp_all [TimerOp.duration]
  have hallows : agenda.Allows ⟨rt, op, some rt.counter, rt'⟩ :=
    { issued := fun hid ↦ by
        obtain rfl := Option.some.inj (hissued.symm.trans hid)
        exact h.counter_not_issued
      duration_pos := fun hd ↦ by
        obtain rfl := Option.some.inj (hduration.symm.trans hd)
        exact hpos
      yielded := fun hy ↦ absurd (hyielded.symm.trans hy) (by simp)
      quiet := fun _ ↦ nofun
      now_le := by rw [hrt']; exact le_rfl }
  refine ⟨hallows, h.wf.after hallows, ?_, fun {timer} ↦ ?_, fun id ↦ ?_, fun {id} hid ↦ ?_⟩
  · rw [hrt']
    exact List.nodup_cons.2 ⟨h.not_mem_timers le_rfl, h.nodup⟩
  · have harmed : (agenda.after ⟨rt, op, some rt.counter, rt'⟩).armed timer.id =
        if rt.counter = timer.id then some (rt.currentTime + duration)
        else agenda.armed timer.id := by
      simp [Agenda.after, hissued, hyielded, hop, hduration, TimerCall.now]
    rw [harmed, hrt', List.mem_cons]
    split
    · rename_i hid
      have hold : timer ∉ rt.timers := h.not_mem_timers hid.le
      simp only [hold, or_false, Option.some.injEq]
      exact ⟨fun heq ↦ by rw [heq], fun hdue ↦ by rw [hdue, hid]⟩
    · rename_i hid
      have hne : timer ≠ ⟨rt.currentTime + duration, rt.counter⟩ := fun heq ↦ hid (by rw [heq])
      simp only [hne, false_or, h.mem_timers]
  · simp only [Agenda.after, hissued, Option.some.injEq]
    rw [hrt', hlookup, h.lookup]
  · rw [hrt']
    simp only [Agenda.after, hissued, Option.toList_some, List.mem_append,
      List.mem_singleton] at hid
    obtain hid | rfl := hid
    · exact (h.lt_counter hid).trans (Nat.lt_succ_self _)
    · exact Nat.lt_succ_self _

theorem keep (h : Tracks rt agenda) {call : TimerCall} (hallows : agenda.Allows call)
    (hissued : call.issued = none) (hyielded : call.yielded = none)
    (hop : ∀ id, call.op ≠ .removeTimer id) (htimers : rt'.timers = rt.timers)
    (hperiodic : rt'.periodicTimers = rt.periodicTimers) (hcounter : rt'.counter = rt.counter) :
    Tracks rt' (agenda.after call) where
  wf := h.wf.after hallows
  nodup := htimers ▸ h.nodup
  mem_timers {timer} := by simp [htimers, Agenda.after, hissued, hyielded, hop, h.mem_timers]
  lookup id := by simp [hperiodic, Agenda.after, hissued, h.lookup]
  lt_counter {id} hid := by
    rw [hcounter]
    exact h.lt_counter (by simpa [Agenda.after, hissued] using hid)

/-- The timer that is due first leaves the queue, and comes back if it is periodic. -/
theorem yield (h : Tracks rt agenda) {timer : Timer} (hmem : timer ∈ rt.timers)
    (hallows : agenda.Allows ⟨rt, .nextTimer, some timer.id, rt'⟩)
    (hrt' : rt' = { rt with
      timers := ((rt.periodicTimers.lookup timer.id).toList.map fun duration : Duration ↦
        ⟨rt.currentTime + duration, timer.id⟩) ++ rt.timers.erase timer }) :
    Tracks rt' (agenda.after ⟨rt, .nextTimer, some timer.id, rt'⟩) := by
  have harmed (id : TimerId) :
      (agenda.after ⟨rt, .nextTimer, some timer.id, rt'⟩).armed id = if timer.id = id then
        (rt.periodicTimers.lookup timer.id).map fun duration : Duration ↦ rt.currentTime + duration
        else agenda.armed id := by
    by_cases hid : timer.id = id
    · subst hid
      simp [Agenda.after, TimerCall.issued, TimerCall.yielded, TimerCall.now, h.lookup]
    · simp [Agenda.after, TimerCall.issued, TimerCall.yielded, hid]
  have hthis : agenda.armed timer.id = some timer.due := h.mem_timers.1 hmem
  have hother (other : Timer) : other ∈ rt.timers.erase timer ↔
      other.id ≠ timer.id ∧ agenda.armed other.id = some other.due := by
    rw [h.nodup.mem_erase_iff, h.mem_timers]
    refine and_congr_left fun hold ↦ ?_
    refine ⟨fun hne hid ↦ hne ?_, fun hid heq ↦ hid (by rw [heq])⟩
    rw [hid, hthis] at hold
    cases other
    cases timer
    simp_all
  refine ⟨h.wf.after hallows, ?_, fun {other} ↦ ?_, ?_, ?_⟩
  · rw [hrt']
    cases hperiod : rt.periodicTimers.lookup timer.id with
    | none => simpa using h.nodup.erase timer
    | some duration =>
      refine List.nodup_cons.2 ⟨fun hmem ↦ ?_, h.nodup.erase timer⟩
      exact ((hother _).1 hmem).1 rfl
  · rw [harmed, hrt', List.mem_append, hother]
    split
    · rename_i hid
      cases hperiod : rt.periodicTimers.lookup timer.id with
      | none => simp [hid]
      | some duration =>
        cases other
        simp_all [eq_comm]
    · rename_i hid
      cases hperiod : rt.periodicTimers.lookup timer.id with
      | none => simp [Ne.symm hid]
      | some duration =>
        have hne : other ≠ ⟨rt.currentTime + duration, timer.id⟩ := fun heq ↦ hid (by rw [heq])
        simp [hne, Ne.symm hid]
  · intro id
    simp [hrt', Agenda.after, TimerCall.issued, h.lookup]
  · intro id hid
    rw [hrt']
    exact h.lt_counter (by simpa [Agenda.after, TimerCall.issued] using hid)

/-- **A step.**  A call keeps to the agenda, and the runtime holds the timers of the agenda again
after it. -/
theorem step (h : Tracks rt agenda) (hproper : op.Proper rt)
    (hperform : op.perform debug rt = .ok (answer, rt')) :
    agenda.Allows ⟨rt, op, answer, rt'⟩ ∧ Tracks rt' (agenda.after ⟨rt, op, answer, rt'⟩) := by
  cases op with
  | registerTimer duration =>
    obtain ⟨⟨id, rt₁⟩, hregister, hperform⟩ := of_bind hperform
    obtain ⟨hpos, rfl, hrt₁⟩ := R2KadRuntime.registerTimer_eq_ok hregister
    cases hperform
    refine h.register rfl hpos (fun id ↦ ?_) hrt₁
    split
    · rename_i hid
      rw [h.lookup]
      exact Option.eq_none_iff_forall_ne_some.2 fun duration hperiod ↦
        h.counter_not_issued (hid ▸ h.wf.period_issued hperiod)
    · rfl
  | registerPeriodicTimer duration =>
    obtain ⟨⟨id, rt₁⟩, hregister, hperform⟩ := of_bind hperform
    obtain ⟨hpos, rfl, hrt₁⟩ := R2KadRuntime.registerPeriodicTimer_eq_ok hregister
    cases hperform
    refine h.register rfl hpos (fun id ↦ ?_) hrt₁
    rw [KeyMap.lookup_insert_eq]
    simp [TimerOp.period, eq_comm]
  | removeTimer timerId =>
    cases hperform
    have hallows : agenda.Allows ⟨rt, .removeTimer timerId, none, rt.removeTimer timerId⟩ :=
      ⟨nofun, nofun, nofun, nofun, le_rfl⟩
    refine ⟨hallows, h.wf.after hallows, h.nodup.filter _, fun {timer} ↦ ?_, h.lookup, ?_⟩
    · rw [R2KadRuntime.removeTimer, List.mem_filter, h.mem_timers]
      by_cases hid : timer.id = timerId
      · simp [Agenda.after, TimerCall.issued, hid]
      · simp [Agenda.after, TimerCall.issued, TimerCall.yielded, hid, Ne.symm hid]
    · intro id hid
      exact h.lt_counter (by simpa [Agenda.after, TimerCall.issued] using hid)
  | setCurrentTime now =>
    cases hperform
    have hallows : agenda.Allows ⟨rt, .setCurrentTime now, none, rt.setCurrentTime now⟩ :=
      ⟨nofun, nofun, nofun, nofun, hproper⟩
    exact ⟨hallows, h.keep hallows rfl rfl nofun rfl rfl rfl⟩
  | nextTimer =>
    obtain ⟨rfl, rfl, hquiet⟩ | ⟨timer, hmem, rfl, hdue, hfirst, hrt'⟩ :=
      R2KadRuntime.nextTimer_eq_ok hperform
    · have hallows : agenda.Allows ⟨rt', .nextTimer, none, rt'⟩ :=
        ⟨nofun, nofun, nofun, fun {id due} _ _ harmed ↦
          hquiet ⟨due, id⟩ (h.mem_timers.2 harmed), le_rfl⟩
      exact ⟨hallows, h.keep hallows rfl rfl nofun rfl rfl rfl⟩
    · have hallows : agenda.Allows ⟨rt, .nextTimer, some timer.id, rt'⟩ :=
        { issued := nofun
          duration_pos := nofun
          yielded := by
            rintro _ ⟨⟩
            exact ⟨timer.due, h.mem_timers.1 hmem, hdue, fun id due harmed ↦
              hfirst ⟨due, id⟩ (h.mem_timers.2 harmed)⟩
          quiet := fun _ ↦ nofun
          now_le := by rw [hrt']; exact le_rfl }
      exact ⟨hallows, h.yield hmem hallows hrt'⟩

/-- **A run.**  All calls keep to the agenda of their time. -/
theorem run (h : Tracks rt agenda) (hrun : TimerRun debug rt calls last) :
    agenda.AllowsAll calls ∧ Tracks last (agenda.afterAll calls) := by
  induction hrun generalizing agenda with
  | nil => exact ⟨trivial, h⟩
  | cons hproper hperform _ ih =>
    obtain ⟨hallows, hstep⟩ := h.step hproper hperform
    obtain ⟨hall, hlast⟩ := ih hstep
    exact ⟨⟨hallows, hall⟩, hlast⟩

end Tracks

/-! ## The loop over the timers that are due -/

/-- The use cases change the timers by requests only. -/
def OnlyRequests {σ ε : Type} (debug : Bool)
    (processEvent : σ → TimerId → R2KadRuntime → Run (Except ε Unit × σ × R2KadRuntime)) : Prop :=
  ∀ pipeline dueTimer rt result pipeline' rt',
    processEvent pipeline dueTimer rt = .ok (result, pipeline', rt') →
      ∃ calls, TimerRun debug rt calls rt' ∧ ∀ call ∈ calls, call.op.Request

/-- The timers that are due. -/
def R2KadRuntime.dueTimers (rt : R2KadRuntime) : Nat :=
  rt.timers.countP fun timer ↦ timer.due ≤ rt.currentTime

variable {debug : Bool} {rt rt' last : R2KadRuntime} {agenda : Agenda} {calls : List TimerCall}

/-- A timer that is registered is not due, so requests do not make timers due. -/
theorem dueTimers_perform {op : TimerOp} {answer : Option TimerId} (hop : op.Request)
    (h : op.perform debug rt = .ok (answer, rt')) :
    rt'.dueTimers ≤ rt.dueTimers ∧ rt'.currentTime = rt.currentTime := by
  have hpush {duration : Duration} (hpos : 0 < duration) (id : TimerId) :
      List.countP (fun timer : Timer ↦ timer.due ≤ rt.currentTime)
        (⟨rt.currentTime + duration, id⟩ :: rt.timers) = rt.dueTimers :=
    List.countP_cons_of_neg (by simpa using hpos.ne')
  cases op with
  | registerTimer duration =>
    obtain ⟨⟨id, rt₁⟩, hregister, h⟩ := of_bind h
    obtain ⟨hpos, rfl, rfl⟩ := R2KadRuntime.registerTimer_eq_ok hregister
    cases h
    exact ⟨(hpush hpos _).le, rfl⟩
  | registerPeriodicTimer duration =>
    obtain ⟨⟨id, rt₁⟩, hregister, h⟩ := of_bind h
    obtain ⟨hpos, rfl, rfl⟩ := R2KadRuntime.registerPeriodicTimer_eq_ok hregister
    cases h
    exact ⟨(hpush hpos _).le, rfl⟩
  | removeTimer timerId =>
    cases h
    exact ⟨List.Sublist.countP_le List.filter_sublist, rfl⟩
  | setCurrentTime now | nextTimer => exact hop.elim

theorem dueTimers_run (hrun : TimerRun debug rt calls last)
    (hcalls : ∀ call ∈ calls, call.op.Request) : last.dueTimers ≤ rt.dueTimers := by
  induction hrun with
  | nil => exact le_rfl
  | cons _ hperform _ ih =>
    obtain ⟨hle, -⟩ := dueTimers_perform (hcalls _ List.mem_cons_self) hperform
    exact (ih fun call hcall ↦ hcalls call (List.mem_cons_of_mem _ hcall)).trans hle

/-- A periodic timer is not due when it is put back, so fewer timers are due after one of them was
handed out. -/
theorem dueTimers_nextTimer {id : TimerId} (hperiod : ∀ id duration,
      rt.periodicTimers.lookup id = some duration → 0 < duration)
    (h : rt.nextTimer debug = .ok (some id, rt')) : rt'.dueTimers < rt.dueTimers := by
  obtain ⟨hnone, -⟩ | ⟨timer, hmem, -, hdue, -, hrt'⟩ := R2KadRuntime.nextTimer_eq_ok h
  · exact absurd hnone (by simp)
  · have hback : List.countP (fun timer : Timer ↦ timer.due ≤ rt.currentTime)
        ((rt.periodicTimers.lookup timer.id).toList.map fun duration : Duration ↦
          ⟨rt.currentTime + duration, timer.id⟩) = 0 := by
      refine List.countP_eq_zero.2 fun back hback ↦ ?_
      obtain ⟨duration, hduration, rfl⟩ := List.mem_map.1 hback
      have hpos := hperiod _ _ (Option.mem_toList.1 hduration)
      simpa using hpos.ne'
    have hcount : rt.dueTimers = (rt.timers.erase timer).countP
        (fun timer : Timer ↦ timer.due ≤ rt.currentTime) + 1 := by
      rw [R2KadRuntime.dueTimers, (List.perm_cons_erase hmem).countP_eq,
        List.countP_cons_of_pos (by simpa using hdue)]
    rw [hrt', hcount, R2KadRuntime.dueTimers, List.countP_append, hback, Nat.zero_add]
    exact Nat.lt_succ_self _

/-- **The loop over the timers that are due comes to an end**: whatever the use cases register,
fewer timers are due in each round. -/
theorem handleTimers_ends {σ ε : Type}
    {processEvent : σ → TimerId → R2KadRuntime → Run (Except ε Unit × σ × R2KadRuntime)}
    (hrequests : OnlyRequests debug processEvent) (pipeline : σ) (h : Tracks rt agenda)
    {rounds : Nat} (hrounds : rt.dueTimers < rounds) :
    rt.handleTimers debug processEvent rounds pipeline ≠ .ok none := by
  induction rounds generalizing rt agenda pipeline with
  | zero => exact absurd hrounds (Nat.not_lt_zero _)
  | succ rounds ih =>
    intro hnone
    obtain ⟨⟨answer, rt₁⟩, hnext, hnone⟩ := of_bind hnone
    cases answer with
    | none => exact absurd hnone (by simp)
    | some dueTimer =>
      obtain ⟨⟨result, pipeline', rt₂⟩, hprocess, hnone⟩ := of_bind hnone
      cases result with
      | error e => exact absurd hnone (by simp)
      | ok =>
        obtain ⟨calls, hrun, hcalls⟩ := hrequests _ _ _ _ _ _ hprocess
        obtain ⟨-, h₁⟩ := h.step (show TimerOp.nextTimer.Proper rt from trivial) hnext
        obtain ⟨-, h₂⟩ := h₁.run hrun
        have hless : rt₁.dueTimers < rt.dueTimers := dueTimers_nextTimer
          (fun id duration hperiod ↦ h.wf.period_pos ((h.lookup id).symm.trans hperiod)) hnext
        have hle : rt₂.dueTimers ≤ rt₁.dueTimers := dueTimers_run hrun hcalls
        exact ih pipeline' h₂ (by omega) hnone

/-! ## All runs -/

/-- What is expected of a sequence of calls.  When a timer is due depends on the calls before. -/
structure FiresAsScheduled (calls : List TimerCall) : Prop where
  nodup_issued : (calls.filterMap TimerCall.issued).Nodup
  /-- A timer is not handed out before it is due. -/
  not_early {past rest : List TimerCall} {call : TimerCall} {id : TimerId} :
    calls = past ++ call :: rest → call.yielded = some id →
      ∃ due, (Agenda.empty.afterAll past).armed id = some due ∧ due ≤ call.now
  /-- Of two timers, the one that is handed out first is due no later than the other. -/
  in_order {past between rest : List TimerCall} {first second : TimerCall} {id id' : TimerId} :
    calls = past ++ first :: (between ++ second :: rest) →
      first.yielded = some id → second.yielded = some id' →
        ∃ due due', (Agenda.empty.afterAll past).armed id = some due ∧
          (Agenda.empty.afterAll (past ++ first :: between)).armed id' = some due' ∧ due ≤ due'
  /-- A timer that is not periodic is handed out at most once. -/
  at_most_once {call : TimerCall} {duration : Duration} {id : TimerId} :
    call ∈ calls → call.op = .registerTimer duration → call.answer = some id →
      calls.countP (fun call ↦ call.yielded = some id) ≤ 1
  /-- When a periodic timer was handed out, it is in the queue once, one period later. -/
  again {past rest : List TimerCall} {registration call : TimerCall} {duration : Duration}
    {id : TimerId} :
    calls = past ++ call :: rest → registration ∈ past →
      registration.op = .registerPeriodicTimer duration → registration.answer = some id →
        call.yielded = some id →
          call.after.timers.filter (fun timer ↦ timer.id = id) = [⟨call.now + duration, id⟩] ∧
            call.now < call.now + duration
  /-- A timer that was removed is not handed out. -/
  not_removed {past rest : List TimerCall} {removal call : TimerCall} {id : TimerId} :
    calls = past ++ removal :: rest → id ∈ past.filterMap TimerCall.issued →
      removal.op = .removeTimer id → call ∈ rest → call.yielded ≠ some id
  /-- If nothing is handed out, then nothing is due. -/
  none_left {past rest : List TimerCall} {call : TimerCall} :
    calls = past ++ call :: rest → call.op = .nextTimer → call.answer = none →
      call.after.Quiet ∧
        ∀ id due, (Agenda.empty.afterAll past).armed id = some due → call.now < due

namespace Agenda

variable {past rest between : List TimerCall} {call : TimerCall} {id : TimerId}

theorem afterAll_append {agenda : Agenda} :
    agenda.afterAll (past ++ rest) = (agenda.afterAll past).afterAll rest :=
  List.foldl_append

theorem mem_issued_afterAll :
    id ∈ (empty.afterAll past).issued ↔ id ∈ past.filterMap TimerCall.issued := by
  rw [issued_afterAll, empty, List.nil_append]

theorem period_of_registration {registration : TimerCall} {duration : Duration}
    (h : empty.AllowsAll past) (hmem : registration ∈ past)
    (hop : registration.op = .registerPeriodicTimer duration)
    (hanswer : registration.answer = some id) :
    (empty.afterAll past).period id = some duration := by
  obtain ⟨before, rest, rfl⟩ := List.append_of_mem hmem
  obtain ⟨-, -, hrest⟩ := allowsAll_append.1 h
  have hissued : registration.issued = some id := by rw [TimerCall.issued, hop]; exact hanswer
  rw [afterAll_append]
  refine (period_afterAll ?_ hrest).trans ?_
  · simp [after, hissued]
  · simp [after, hissued, hop, TimerOp.period]

end Agenda

theorem Tracks.filter_timers {id : TimerId} {due : Instant} (h : Tracks rt agenda)
    (harmed : agenda.armed id = some due) :
    rt.timers.filter (fun timer ↦ timer.id = id) = [⟨due, id⟩] := by
  refine List.perm_singleton.1 ((List.perm_ext_iff_of_nodup (h.nodup.filter _)
    (List.nodup_singleton _)).2 fun timer ↦ ?_)
  rw [List.mem_filter, h.mem_timers, List.mem_singleton]
  constructor
  · rintro ⟨hthis, hid⟩
    have hid : timer.id = id := by simpa using hid
    rw [hid, harmed] at hthis
    rw [Option.some.inj hthis, ← hid]
  · rintro rfl
    exact ⟨harmed, by simp⟩

theorem eq_of_issued {call other : TimerCall} {id : TimerId}
    (h : (calls.filterMap TimerCall.issued).Nodup) (hcall : call ∈ calls) (hother : other ∈ calls)
    (hissued : call.issued = some id) (hissued' : other.issued = some id) : other = call := by
  by_contra hne
  let Apart (call other : TimerCall) : Prop := ∀ id, call.issued = some id → other.issued ≠ some id
  have hsymm : Std.Symm Apart := ⟨fun _ _ hapart id hid hid' ↦ hapart id hid' hid⟩
  have hpairwise : calls.Pairwise Apart :=
    (List.pairwise_filterMap.1 h).imp fun hxy id hid hid' ↦ hxy id hid id hid' rfl
  exact hpairwise.forall hother hcall hne id hissued' hissued

theorem firesAsScheduled_of_run {startupTime : Instant}
    (hrun : TimerRun debug (.withStartupTime startupTime) calls last) :
    FiresAsScheduled calls := by
  obtain ⟨hall, -⟩ := (Tracks.start startupTime).run hrun
  have hnodup : (calls.filterMap TimerCall.issued).Nodup := by
    simpa [Agenda.issued_afterAll, Agenda.empty] using Agenda.nodup_issued List.nodup_nil hall
  refine ⟨hnodup, ?_, ?_, ?_, ?_, ?_, ?_⟩
  · rintro past rest call id rfl hyielded
    obtain ⟨-, hallows, -⟩ := Agenda.allowsAll_append.1 hall
    obtain ⟨due, harmed, hdue, -⟩ := hallows.yielded hyielded
    exact ⟨due, harmed, hdue⟩
  · rintro past between rest first second id id' rfl hfirst hsecond
    obtain ⟨hpast, hallows, hrest⟩ := Agenda.allowsAll_append.1 hall
    obtain ⟨due, harmed, hdue, hmin⟩ := hallows.yielded hfirst
    have hwf := Agenda.Wf.empty.afterAll hpast
    obtain ⟨-, -, -, hrun⟩ := hrun.split
    obtain ⟨due', harmed', hle⟩ :=
      (hallows.notBefore hwf hdue hmin).yielded hrun (hwf.after hallows) hrest hsecond
    exact ⟨due, due', harmed, by rw [Agenda.afterAll_append]; exact harmed', hle⟩
  · intro call duration id hcall hop hanswer
    have hissued : call.issued = some id := by rw [TimerCall.issued, hop]; exact hanswer
    refine Agenda.countP_yielded_le rfl .empty (fun other hother hissued' ↦ ?_) hall
    rw [eq_of_issued hnodup hcall hother hissued hissued', hop]
    rfl
  · rintro past rest registration call duration id rfl hmem hop hanswer hyielded
    obtain ⟨hpast, hallows, -⟩ := Agenda.allowsAll_append.1 hall
    have hperiod := Agenda.period_of_registration hpast hmem hop hanswer
    obtain ⟨due, harmed, -⟩ := hallows.yielded hyielded
    have hwf := Agenda.Wf.empty.afterAll hpast
    have hissued : call.issued ≠ some id := fun h ↦ hallows.issued h (hwf.armed_issued harmed)
    have hop' : call.op ≠ .removeTimer id := fun h ↦ by simp [TimerCall.yielded, h] at hyielded
    obtain ⟨hrun, hproper, hperform, -⟩ := hrun.split
    obtain ⟨-, hafter⟩ := ((Tracks.start startupTime).run hrun).2.step hproper hperform
    refine ⟨hafter.filter_timers ?_, Instant.lt_add _ (hwf.period_pos hperiod)⟩
    simp [Agenda.after, hissued, hop', hyielded, hperiod]
  · rintro past rest removal call id rfl hissued hop hcall
    obtain ⟨-, hallows, hrest⟩ := Agenda.allowsAll_append.1 hall
    have hnone : removal.issued = none := by simp [TimerCall.issued, hop]
    have hretired : ((Agenda.empty.afterAll past).after removal).Retired id :=
      ⟨by simpa [Agenda.after, hnone] using Agenda.mem_issued_afterAll.2 hissued,
        by simp [Agenda.after, hnone, hop]⟩
    exact hretired.not_yielded hrest call hcall
  · rintro past rest call rfl hop hanswer
    obtain ⟨-, hallows, -⟩ := Agenda.allowsAll_append.1 hall
    obtain ⟨-, -, hperform, -⟩ := hrun.split
    rw [hop, hanswer] at hperform
    obtain ⟨-, hsame, hquiet⟩ | ⟨_, _, hsome, _⟩ := R2KadRuntime.nextTimer_eq_ok hperform
    · exact ⟨hsame ▸ hquiet, fun id due ↦ hallows.quiet hop hanswer⟩
    · exact absurd hsome (by simp)

/-- **The timers fire as they are due**, whatever calls are made as long as time does not go back.
And the loop over the timers that are due comes to an end, whatever use cases there are. -/
theorem timers_fire_as_scheduled {startupTime : Instant}
    (hrun : TimerRun debug (.withStartupTime startupTime) calls rt) :
    FiresAsScheduled calls ∧
      ∀ (σ ε : Type)
        (processEvent : σ → TimerId → R2KadRuntime → Run (Except ε Unit × σ × R2KadRuntime)),
        OnlyRequests debug processEvent → ∀ (pipeline : σ) (now : Instant),
          ∃ rounds, (rt.setCurrentTime now).handleTimers debug processEvent rounds pipeline ≠
            .ok none := by
  refine ⟨firesAsScheduled_of_run hrun, fun σ ε processEvent hrequests pipeline now ↦ ?_⟩
  obtain ⟨-, htracks⟩ := (Tracks.start startupTime).run hrun
  have hnow : Tracks (rt.setCurrentTime now) (Agenda.empty.afterAll calls) :=
    { htracks with }
  exact ⟨_, handleTimers_ends hrequests pipeline hnow (Nat.lt_succ_self _)⟩

/-- A timer and a periodic one: both are due at the same time, and the periodic one fires again. -/
theorem periodic_timer_fires_again : ∃ calls rt,
    TimerRun true (.withStartupTime 0) calls rt ∧ FiresAsScheduled calls ∧
      calls.filterMap TimerCall.yielded = [1, 0, 1] := by
  have hrun : TimerRun true (.withStartupTime 0) _ _ :=
    .cons (show TimerOp.Proper _ (.registerTimer 5) from trivial) rfl <|
    .cons (show TimerOp.Proper _ (.registerPeriodicTimer 3) from trivial) rfl <|
    .cons (show TimerOp.Proper _ (.setCurrentTime 5) from (by decide : (0 : Int) ≤ 5)) rfl <|
    .cons (show TimerOp.Proper _ .nextTimer from trivial) rfl <|
    .cons (show TimerOp.Proper _ .nextTimer from trivial) rfl <|
    .cons (show TimerOp.Proper _ .nextTimer from trivial) rfl <|
    .cons (show TimerOp.Proper _ (.setCurrentTime 8) from (by decide : (5 : Int) ≤ 8)) rfl <|
    .cons (show TimerOp.Proper _ .nextTimer from trivial) rfl <|
    .cons (show TimerOp.Proper _ (.removeTimer 1) from trivial) rfl <| .nil _
  exact ⟨_, _, hrun, (timers_fire_as_scheduled hrun).1, rfl⟩

/-! ## When to look again -/

/-- The first timer of the queue is handed out once it is due.  Only a periodic one may fail, if
its next instant is out of range. -/
theorem R2KadRuntime.nextTimer_of_due {first : Timer}
    (hpeek : BinaryHeap.peek Timer.cmp rt.timers = some first) (hdue : first.due ≤ rt.currentTime)
    (hpos : ∀ period, rt.periodicTimers.lookup first.id = some period → 0 < period) :
    ((∀ period, rt.periodicTimers.lookup first.id = some period →
        (rt.currentTime.checkedAdd period).isSome = true) →
      ∃ rt', rt.nextTimer debug = .ok (some first.id, rt')) ∧
    ∀ answer rt', rt.nextTimer debug = .ok (answer, rt') → answer = some first.id := by
  rw [nextTimer, hpeek]
  simp only [if_pos hdue]
  cases hperiod : rt.periodicTimers.lookup first.id with
  | none =>
    refine ⟨fun _ ↦ ⟨_, rfl⟩, fun answer rt' h ↦ ?_⟩
    exact (ok_mk_inj h).1.symm
  | some period =>
    refine ⟨fun h ↦ ?_, fun answer rt' h ↦ ?_⟩
    · obtain ⟨time, htime⟩ := Option.isSome_iff_exists.1 (h period rfl)
      have hassert : (!debug || decide (0 < period)) = true := by simp [hpos period hperiod]
      simp only [registerTimerWithId, assert_of hassert, ok_bind, htime, expect_some]
      exact ⟨_, rfl⟩
    · obtain ⟨_, -, h⟩ := of_bind h
      exact (ok_mk_inj h).1.symm

/-- **Sleeping until `pollTimeout` misses no timer.**  After any calls that is the instant at which
the first timer of the agenda is due, and there is none exactly if the agenda is empty.  Before that
instant no timer is handed out, and from then on the first one is, unless it is periodic and the
instant at which it would be due again is out of range. -/
theorem pollTimeout_earliest {startupTime : Instant}
    (hrun : TimerRun debug (.withStartupTime startupTime) calls rt) :
    (rt.pollTimeout = none ↔ ∀ id, (Agenda.empty.afterAll calls).armed id = none) ∧
    ∀ due, rt.pollTimeout = some due →
      (∀ id due', (Agenda.empty.afterAll calls).armed id = some due' → due ≤ due') ∧
      (∀ now < due, (rt.setCurrentTime now).nextTimer debug = .ok (none, rt.setCurrentTime now)) ∧
      ∀ now ≥ due, ∃ id, (Agenda.empty.afterAll calls).armed id = some due ∧
        ((∀ period, (Agenda.empty.afterAll calls).period id = some period →
            (now.checkedAdd period).isSome = true) →
          ∃ rt', (rt.setCurrentTime now).nextTimer debug = .ok (some id, rt')) ∧
        ∀ answer rt', (rt.setCurrentTime now).nextTimer debug = .ok (answer, rt') →
          answer = some id := by
  obtain ⟨-, htracks⟩ := (Tracks.start startupTime).run hrun
  have hmem {id : TimerId} {due : Instant} :
      (Agenda.empty.afterAll calls).armed id = some due ↔ ⟨due, id⟩ ∈ rt.timers :=
    ⟨fun h ↦ htracks.mem_timers.2 h, fun h ↦ htracks.mem_timers.1 h⟩
  constructor
  · rw [R2KadRuntime.pollTimeout, Option.map_eq_none_iff, BinaryHeap.peek_eq_none]
    refine ⟨fun hnil id ↦ ?_, fun hnone ↦ List.eq_nil_iff_forall_not_mem.2 fun timer htimer ↦ ?_⟩
    · rw [Option.eq_none_iff_forall_ne_some]
      intro due hdue
      simp [hmem, hnil] at hdue
    · have harmed := htracks.mem_timers.1 htimer
      simp [hnone] at harmed
  · intro due hpoll
    obtain ⟨first, hpeek, rfl⟩ := Option.map_eq_some_iff.1 hpoll
    refine ⟨fun id due' harmed ↦ R2KadRuntime.due_le_of_peek hpeek (hmem.1 harmed),
      fun now hlt ↦ ?_, fun now hle ↦
        ⟨first.id, htracks.mem_timers.1 (BinaryHeap.mem_of_peek hpeek), ?_⟩⟩
    · simp [R2KadRuntime.nextTimer, R2KadRuntime.setCurrentTime, hpeek, not_le.2 hlt]
    · rw [← htracks.lookup first.id]
      refine (rt.setCurrentTime now).nextTimer_of_due hpeek hle fun period hperiod ↦ ?_
      exact htracks.wf.period_pos ((htracks.lookup first.id).symm.trans hperiod)

/-- Two timers have been registered, and the node sleeps until the first one is due. -/
theorem pollTimeout_of_two : ∃ calls rt, TimerRun true (.withStartupTime 0) calls rt ∧
    rt.pollTimeout = some 3 ∧
    ∀ id due, (Agenda.empty.afterAll calls).armed id = some due → 3 ≤ due := by
  have hrun : TimerRun true (.withStartupTime 0) _ _ :=
    .cons (show TimerOp.Proper _ (.registerTimer 5) from trivial) rfl <|
    .cons (show TimerOp.Proper _ (.registerPeriodicTimer 3) from trivial) rfl <| .nil _
  exact ⟨_, _, hrun, rfl, ((pollTimeout_earliest hrun).2 3 rfl).1⟩

end Kira
