import Kira.R2Kad.Runtime

/-!
# The timers that are still to fire

A use case that lives on timers has to know which of its timers are still to fire.  It has
registered them itself, under ids that nobody else gets, and nobody else takes them away; so two
lemmas say what happens to them between two of its turns: other timers may be registered
(`Extends`), and a timer may be handed out (`pending_nextTimer`), which is pending afterwards if and
only if it is periodic.

`Wf` is what the runtime takes care of: no id is in the queue twice, and the ids that have been
given away are below the counter.
-/

set_option autoImplicit false

namespace Kira

namespace R2KadRuntime

/-- The timer is still to fire. -/
def Pending (self : R2KadRuntime) (id : TimerId) : Prop := ∃ timer ∈ self.timers, timer.id = id

/-- The timer is put into the queue again whenever it fires. -/
def Periodic (self : R2KadRuntime) (id : TimerId) : Prop :=
  (self.periodicTimers.lookup id).isSome = true

instance (self : R2KadRuntime) (id : TimerId) : Decidable (self.Periodic id) :=
  inferInstanceAs (Decidable (_ = _))

/-- The runtime keeps its queue in order. -/
structure Wf (rt : R2KadRuntime) : Prop where
  nodup : (rt.timers.map Timer.id).Nodup
  lt_counter {id : TimerId} : rt.Pending id → id < rt.counter
  periodic_lt {id : TimerId} : rt.Periodic id → id < rt.counter

theorem wf_withStartupTime (startupTime : Instant) : (withStartupTime startupTime).Wf where
  nodup := List.nodup_nil
  lt_counter := by
    rintro id ⟨timer, hmem, -⟩
    cases hmem
  periodic_lt h := by cases h

/-- What one runtime has of timers, the other one has as well, and nothing else but new timers. -/
structure Extends (before after : R2KadRuntime) : Prop where
  counter_le : before.counter ≤ after.counter
  pending_iff {id : TimerId} : id < before.counter → (after.Pending id ↔ before.Pending id)
  periodic_iff {id : TimerId} : id < before.counter → (after.Periodic id ↔ before.Periodic id)

variable {debug : Bool} {self self' : R2KadRuntime} {duration : Duration} {id : TimerId}

/-! ## Registering timers -/

theorem pending_registerTimer (h : self.registerTimer debug duration = .ok (id, self')) :
    id = self.counter ∧ self'.counter = self.counter + 1 ∧ self'.Pending id ∧
      ∀ other, self.Pending other → self'.Pending other := by
  obtain ⟨-, rfl, rfl⟩ := registerTimer_eq_ok h
  refine ⟨rfl, rfl, ⟨_, List.mem_cons_self, rfl⟩, ?_⟩
  rintro other ⟨timer, hmem, hid⟩
  exact ⟨timer, List.mem_cons_of_mem _ hmem, hid⟩

theorem pending_cons {due : Instant} {other : TimerId}
    (htimers : self'.timers = ⟨due, id⟩ :: self.timers) :
    self'.Pending other ↔ other = id ∨ self.Pending other := by
  simp only [Pending, htimers, List.mem_cons, exists_eq_or_imp, eq_comm]

theorem Wf.cons {due : Instant} (hwf : self.Wf)
    (htimers : self'.timers = ⟨due, self.counter⟩ :: self.timers)
    (hcounter : self'.counter = self.counter + 1)
    (hperiodic : ∀ other, self'.Periodic other → other = self.counter ∨ self.Periodic other) :
    self'.Wf where
  nodup := by
    rw [htimers, List.map_cons, List.nodup_cons]
    refine ⟨fun hmem ↦ ?_, hwf.nodup⟩
    obtain ⟨timer, htimer, hid⟩ := List.mem_map.1 hmem
    exact absurd (hwf.lt_counter ⟨timer, htimer, hid⟩) (Nat.lt_irrefl _)
  lt_counter hpending := by
    rw [hcounter]
    rcases (pending_cons htimers).1 hpending with rfl | hpending
    · exact Nat.lt_succ_self _
    · exact Nat.lt_succ_of_lt (hwf.lt_counter hpending)
  periodic_lt h := by
    rw [hcounter]
    rcases hperiodic _ h with rfl | h
    · exact Nat.lt_succ_self _
    · exact Nat.lt_succ_of_lt (hwf.periodic_lt h)

theorem extends_cons {due : Instant} (htimers : self'.timers = ⟨due, self.counter⟩ :: self.timers)
    (hcounter : self'.counter = self.counter + 1)
    (hperiodic : ∀ other < self.counter, self'.Periodic other ↔ self.Periodic other) :
    self.Extends self' where
  counter_le := hcounter ▸ Nat.le_succ _
  pending_iff hid := by
    rw [pending_cons htimers]
    exact or_iff_right (Nat.ne_of_lt hid)
  periodic_iff hid := hperiodic _ hid

theorem registerTimer_spec (hwf : self.Wf)
    (h : self.registerTimer debug duration = .ok (id, self')) :
    self'.Wf ∧ self.Extends self' ∧ self'.counter = self.counter + 1 ∧ id = self.counter ∧
      self'.Pending id ∧ ¬ self'.Periodic id := by
  obtain ⟨-, rfl, rfl⟩ := registerTimer_eq_ok h
  refine ⟨hwf.cons rfl rfl fun _ ↦ .inr, extends_cons rfl rfl fun _ _ ↦ .rfl, rfl, rfl,
    ⟨_, List.mem_cons_self, rfl⟩, fun hperiodic ↦ ?_⟩
  exact absurd (hwf.periodic_lt hperiodic) (Nat.lt_irrefl _)

theorem registerPeriodicTimer_spec (hwf : self.Wf)
    (h : self.registerPeriodicTimer debug duration = .ok (id, self')) :
    self'.Wf ∧ self.Extends self' ∧ self'.counter = self.counter + 1 ∧ id = self.counter ∧
      self'.Pending id ∧ self'.Periodic id := by
  obtain ⟨-, rfl, rfl⟩ := registerPeriodicTimer_eq_ok h
  have hperiodic : ∀ other, Periodic { self with
        counter := self.counter + 1
        timers := ⟨self.currentTime + duration, self.counter⟩ :: self.timers
        periodicTimers := self.periodicTimers.insert self.counter duration } other ↔
      other = self.counter ∨ self.Periodic other := by
    intro other
    simp only [Periodic, KeyMap.lookup_insert_eq]
    split <;> simp_all
  refine ⟨hwf.cons rfl rfl fun other ↦ (hperiodic other).1,
    extends_cons rfl rfl fun other hother ↦ (hperiodic other).trans ?_, rfl, rfl,
    ⟨_, List.mem_cons_self, rfl⟩, (hperiodic _).2 (.inl rfl)⟩
  exact or_iff_right (Nat.ne_of_lt hother)

/-- The timers that were registered in the meantime. -/
def registeredSince (before after : R2KadRuntime) : List TimerId :=
  List.range' before.counter (after.counter - before.counter)

theorem mem_registeredSince {before after : R2KadRuntime} {id : TimerId} :
    id ∈ before.registeredSince after ↔ before.counter ≤ id ∧ id < after.counter := by
  have hrange : ∀ a b i : Nat, a ≤ i ∧ i < a + (b - a) ↔ a ≤ i ∧ i < b := by omega
  rw [registeredSince, List.mem_range'_1]
  exact hrange _ _ _

/-! ## Handing timers out -/

theorem counter_nextTimer {due : Option TimerId} (h : self.nextTimer debug = .ok (due, self')) :
    self'.counter = self.counter := by
  rcases nextTimer_eq_ok h with ⟨-, rfl, -⟩ | ⟨timer, -, -, -, -, rfl⟩ <;> rfl

/-- A timer that is handed out was pending.  It is pending afterwards if and only if it is periodic,
and nothing else changes. -/
theorem nextTimer_spec {due : Option TimerId} (hwf : self.Wf)
    (h : self.nextTimer debug = .ok (due, self')) :
    self'.Wf ∧ self'.counter = self.counter ∧
      (∀ id, self'.Periodic id ↔ self.Periodic id) ∧
      (∀ id, due = some id → self.Pending id ∧ (self'.Pending id ↔ self.Periodic id)) ∧
      ∀ id, due ≠ some id → (self'.Pending id ↔ self.Pending id) := by
  rcases nextTimer_eq_ok h with ⟨rfl, rfl, -⟩ | ⟨timer, hmem, rfl, -, -, rfl⟩
  · exact ⟨hwf, rfl, fun _ ↦ Iff.rfl, by simp, fun _ _ ↦ Iff.rfl⟩
  -- no other timer in the queue has the same id
  have hrest : ∀ id, (∃ other ∈ self.timers.erase timer, other.id = id) ↔
      id ≠ timer.id ∧ self.Pending id := by
    intro id
    constructor
    · rintro ⟨other, hother, rfl⟩
      obtain ⟨hne, hother⟩ := (hwf.nodup.of_map.mem_erase_iff).1 hother
      exact ⟨fun heq ↦ hne (List.inj_on_of_nodup_map hwf.nodup hother hmem heq), other, hother, rfl⟩
    · rintro ⟨hne, other, hother, rfl⟩
      exact ⟨other, (List.mem_erase_of_ne fun heq ↦ hne (congrArg Timer.id heq)).2 hother, rfl⟩
  have hpending : ∀ id, Pending { self with
        timers := ((self.periodicTimers.lookup timer.id).toList.map fun duration : Duration ↦
          ⟨self.currentTime + duration, timer.id⟩) ++ self.timers.erase timer } id ↔
      (id = timer.id ∧ self.Periodic timer.id) ∨ id ≠ timer.id ∧ self.Pending id := by
    intro id
    rw [← hrest id]
    cases hperiod : self.periodicTimers.lookup timer.id with
    | none => simp [Pending, Periodic, hperiod]
    | some duration => simp [Pending, Periodic, hperiod, eq_comm]
  refine ⟨⟨?_, fun h ↦ ?_, hwf.periodic_lt⟩, rfl, fun _ ↦ Iff.rfl, ?_, fun id hne ↦ ?_⟩
  · have hsub : (self.timers.erase timer).map Timer.id |>.Nodup :=
      hwf.nodup.sublist (List.erase_sublist.map _)
    cases hperiod : self.periodicTimers.lookup timer.id with
    | none => simpa [hperiod] using hsub
    | some duration =>
      have hnot : timer.id ∉ (self.timers.erase timer).map Timer.id := by
        intro hin
        obtain ⟨other, hother, hid⟩ := List.mem_map.1 hin
        exact ((hrest timer.id).1 ⟨other, hother, hid⟩).1 rfl
      simpa [hperiod] using ⟨by simpa using hnot, hsub⟩
  · rcases (hpending _).1 h with ⟨rfl, -⟩ | ⟨-, h⟩
    · exact hwf.lt_counter ⟨timer, hmem, rfl⟩
    · exact hwf.lt_counter h
  · intro id heq
    cases heq
    refine ⟨⟨timer, hmem, rfl⟩, (hpending _).trans ?_⟩
    simp
  · have hne' : id ≠ timer.id := fun heq ↦ hne (congrArg some heq.symm)
    rw [hpending id]
    simp [hne']

end R2KadRuntime

end Kira
