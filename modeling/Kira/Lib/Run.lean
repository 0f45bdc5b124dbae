import Mathlib.Data.List.Forall2
import Mathlib.Tactic.Common

/-!
# Computations that may panic, and runs of a system made of them

A function of the modelled language either returns or panics — an index out of range, an `expect` on
an absent value, a failed assertion, an overflowing shift.  `Run α` is the type of such a
computation: `Run.ok a` returned `a`, `Run.panic msg` stopped the program.  A panic is not an error
value: what the language itself calls an error is part of `α`.

The second half is about sequences of operations.  A system is a state type, a type of operations
and a step function `σ → ι → Run σ`; `Reachable step allowed s₀ s` says that `s` is reached from
`s₀` by operations each of which is `allowed` in the state it is applied to and returns.  With
`allowed` a result that only holds for well-behaved callers says which callers it means; with `fun _
_ ↦ True` every run is considered.  `Reachable.invariant` is the one induction over runs.

What a step answers, and what has happened before, is lost in a reachable state.  `Traced step s₀
past s` is the run with its history: `past` lists the transitions that have led from `s₀` to `s`.

A system that decides by itself what to do next has a step function `σ → Run (Option σ)` instead;
`Completes` says that its run comes to an end, and lists the states of the run.
-/

set_option autoImplicit false

universe u v

/-- The outcome of a computation that may panic. -/
inductive Run (α : Type u) where
  | ok (a : α)
  | panic (msg : String)
  deriving DecidableEq, Repr

namespace Run

variable {α β : Type u}

/-- Sequencing: a panic skips everything that follows. -/
protected def bind (x : Run α) (f : α → Run β) : Run β :=
  match x with
  | ok a => f a
  | panic msg => panic msg

instance : Monad Run where
  pure := ok
  bind := Run.bind

@[simp] theorem pure_eq (a : α) : (pure a : Run α) = ok a := rfl

@[simp] theorem ok_bind (a : α) (f : α → Run β) : (ok a >>= f) = f a := rfl

@[simp] theorem panic_bind (msg : String) (f : α → Run β) :
    ((panic msg : Run α) >>= f) = panic msg := rfl

variable {msg : String} {f : α → Run β}

variable {x : Run α} {b : β} {l : List α}

/-- A sequence returns exactly when its first half does and its second half does on the result. -/
theorem bind_eq_ok :
    (x >>= f) = ok b ↔ ∃ a, x = ok a ∧ f a = ok b := by
  cases x with
  | ok a | panic msg => simp

theorem of_bind (h : (x >>= f) = ok b) : ∃ a, x = ok a ∧ f a = ok b :=
  bind_eq_ok.1 h

theorem bind_eq_panic :
    (x >>= f) = panic msg ↔ x = panic msg ∨ ∃ a, x = ok a ∧ f a = panic msg := by
  cases x with
  | ok a | panic msg => simp

theorem ok_mk_inj {a a' : α} {b' : β} (h : ok (a, b) = ok (a', b')) : a = a' ∧ b = b' :=
  Prod.mk.inj (ok.inj h)

theorem ok_mk₃_inj {γ : Type u} {a a' : α} {b' : β} {c c' : γ}
    (h : ok (a, b, c) = ok (a', b', c')) : a = a' ∧ b = b' ∧ c = c' :=
  ⟨(ok_mk_inj h).1, Prod.mk.inj (ok_mk_inj h).2⟩

/-- What is evaluated once and has a property may be used as any value with that property. -/
theorem exists_ok {p q : α → Prop} (h : ∃ a, x = ok a ∧ p a)
    (hq : ∀ a, x = ok a → p a → q a) : ∃ a, x = ok a ∧ q a := by
  obtain ⟨a, ha, hp⟩ := h
  exact ⟨a, ha, hq a ha hp⟩

/-- The computation returns, and what it returns has the property; this can be evaluated. -/
def Holds (p : α → Prop) : Run α → Prop
  | ok a => p a
  | panic _ => False

instance {p : α → Prop} [DecidablePred p] : DecidablePred (Holds p)
  | ok a => inferInstanceAs (Decidable (p a))
  | panic _ => inferInstanceAs (Decidable False)

theorem Holds.exists_ok {p : α → Prop} (h : x.Holds p) : ∃ a, x = ok a ∧ p a := by
  cases x with
  | ok a => exact ⟨a, rfl, h⟩
  | panic msg => exact h.elim

instance : LawfulMonad Run :=
  LawfulMonad.mk' Run (fun x ↦ by cases x <;> rfl) (fun _ _ ↦ rfl)
    (fun x _ _ ↦ by cases x <;> rfl)

theorem mapM_eq_ok {bs : List β} :
    l.mapM f = ok bs ↔ List.Forall₂ (fun a b ↦ f a = ok b) l bs := by
  induction l generalizing bs with
  | nil =>
    simp only [List.mapM_nil, pure_eq, ok.injEq, List.forall₂_nil_left_iff]
    exact eq_comm
  | cons a l ih =>
    rw [List.mapM_cons, List.forall₂_cons_left_iff, bind_eq_ok]
    constructor
    · rintro ⟨first, hfirst, h⟩
      obtain ⟨rest, hrest, h⟩ := of_bind h
      exact ⟨first, rest, hfirst, ih.1 hrest, (ok.inj h).symm⟩
    · rintro ⟨first, rest, hfirst, hrest, rfl⟩
      exact ⟨first, hfirst, by rw [ih.2 hrest]; rfl⟩

theorem exists_of_mem_mapM {bs : List β} (h : l.mapM f = ok bs)
    (hb : b ∈ bs) : ∃ a ∈ l, f a = ok b := by
  obtain ⟨hlength, hget⟩ := List.forall₂_iff_get.1 (mapM_eq_ok.1 h)
  obtain ⟨i, hi, rfl⟩ := List.mem_iff_getElem.1 hb
  exact ⟨_, List.getElem_mem _, hget i (hlength ▸ hi) hi⟩

theorem exists_mem_of_mapM {bs : List β} (h : l.mapM f = ok bs) {a : α} (ha : a ∈ l) :
    ∃ b ∈ bs, f a = ok b := by
  obtain ⟨hlength, hget⟩ := List.forall₂_iff_get.1 (mapM_eq_ok.1 h)
  obtain ⟨i, hi, rfl⟩ := List.mem_iff_getElem.1 ha
  exact ⟨_, List.getElem_mem _, hget i hi (hlength ▸ hi)⟩

/-- What holds at the start of a loop and is kept by each round holds at its end. -/
theorem foldlM_invariant {I : β → Prop} {f : β → α → Run β}
    (hstep : ∀ a ∈ l, ∀ b b', I b → f b a = ok b' → I b') {b' : β} (hb : I b)
    (h : l.foldlM f b = ok b') : I b' := by
  induction l generalizing b with
  | nil =>
    obtain rfl := Run.ok.inj h
    exact hb
  | cons a l ih =>
    rw [List.foldlM_cons] at h
    obtain ⟨mid, hmid, h⟩ := of_bind h
    exact ih (fun a ha ↦ hstep a (List.mem_cons_of_mem _ ha))
      (hstep a List.mem_cons_self b mid hb hmid) h

theorem exists_of_foldlM_eq_panic {f : β → α → Run β}
    (h : l.foldlM f b = panic msg) : ∃ b, ∃ a ∈ l, f b a = panic msg := by
  induction l generalizing b with
  | nil => simp at h
  | cons a l ih =>
    rw [List.foldlM_cons] at h
    rcases bind_eq_panic.1 h with h | ⟨mid, -, h⟩
    · exact ⟨b, a, List.mem_cons_self, h⟩
    · obtain ⟨b, a, ha, h⟩ := ih h
      exact ⟨b, a, List.mem_cons_of_mem _ ha, h⟩

/-- `Option::expect`. -/
def expect (x : Option α) (msg : String) : Run α :=
  match x with
  | some a => ok a
  | none => panic msg

@[simp] theorem expect_some (a : α) (msg : String) : expect (some a) msg = ok a := rfl

theorem expect_eq_ok {x : Option α} {a : α} :
    expect x msg = ok a ↔ x = some a := by
  cases x <;> simp [expect]

/-- `Option::unwrap`. -/
abbrev unwrap (x : Option α) : Run α := expect x "called `Option::unwrap()` on a `None` value"

@[simp] theorem unwrap_some (a : α) : unwrap (some a) = ok a := rfl

/-- `Result::expect` and `Result::unwrap`. -/
theorem expect_toOption_eq_ok {ε : Type v} {x : Except ε α} {a : α} :
    expect x.toOption msg = ok a ↔ x = .ok a := by
  cases x <;> simp [expect, Except.toOption]

/-- `assert!`. -/
def assert (cond : Bool) (msg : String) : Run Unit :=
  if cond then ok () else panic msg

@[simp] theorem assert_true (msg : String) : assert true msg = ok () := rfl

theorem assert_eq_ok {cond : Bool} : assert cond msg = ok () ↔ cond = true := by
  cases cond <;> simp [assert]

theorem assert_of {cond : Bool} (h : cond = true) : assert cond msg = ok () :=
  assert_eq_ok.2 h

/-! ### Panics that do not occur -/

/-- The computation does not panic with any of these messages. -/
def Avoids (msgs : List String) (x : Run α) : Prop := ∀ msg ∈ msgs, x ≠ panic msg

variable {msgs : List String}

theorem avoids_ok (a : α) : (ok a).Avoids msgs := fun _ _ ↦ nofun

theorem avoids_panic (h : msg ∉ msgs) : (panic msg : Run α).Avoids msgs := by
  rintro _ hmem ⟨⟩
  exact h hmem

theorem Avoids.bind (hx : x.Avoids msgs) (hf : ∀ a, x = ok a → (f a).Avoids msgs) :
    (x >>= f).Avoids msgs := by
  cases x with
  | ok a => exact hf a rfl
  | panic msg => exact fun msg' hmem heq ↦ hx msg' hmem (congrArg panic (panic.inj heq))

theorem avoids_assert {cond : Bool} (h : cond = false → msg ∉ msgs) :
    (assert cond msg).Avoids msgs := by
  cases cond with
  | true => exact avoids_ok ()
  | false => exact avoids_panic (h rfl)

theorem avoids_expect {x : Option α} (h : x = none → msg ∉ msgs) :
    (expect x msg).Avoids msgs := by
  cases x with
  | some a => exact avoids_ok a
  | none => exact avoids_panic (h rfl)

end Run

/-! ## Runs of a system -/

section Runs

variable {σ : Type u} {ι : Type v}

/-- The states reached from `s₀` by operations that are `allowed` where they are applied and that
return. -/
inductive Reachable (step : σ → ι → Run σ) (allowed : σ → ι → Prop) (s₀ : σ) : σ → Prop
  | start : Reachable step allowed s₀ s₀
  | step {s s' : σ} {op : ι} (hs : Reachable step allowed s₀ s) (hop : allowed s op)
      (h : step s op = .ok s') : Reachable step allowed s₀ s'

variable {step : σ → ι → Run σ} {allowed allowed' : σ → ι → Prop} {s₀ : σ}

/-- **The invariant rule.**  What holds at the start and is preserved by every allowed step holds
in every reachable state. -/
theorem Reachable.invariant {I : σ → Prop} (h₀ : I s₀)
    (hstep : ∀ s op s', I s → allowed s op → step s op = .ok s' → I s') {s : σ}
    (hs : Reachable step allowed s₀ s) : I s := by
  induction hs with
  | start => exact h₀
  | step _ hop h ih => exact hstep _ _ _ ih hop h

/-- Makes steps one after the other. -/
def runAll (step : σ → ι → Run σ) : σ → List ι → Run σ
  | s, [] => .ok s
  | s, op :: ops => step s op >>= fun s' ↦ runAll step s' ops

/-- The states after each operation of a sequence. -/
def traceAll (step : σ → ι → Run σ) : σ → List ι → Run (List σ)
  | _, [] => .ok []
  | s, op :: ops => step s op >>= fun s' ↦ traceAll step s' ops >>= fun states ↦ .ok (s' :: states)

theorem Reachable.runAll {s s' : σ} {ops : List ι} (hs : Reachable step allowed s₀ s)
    (hops : ∀ op ∈ ops, ∀ s, allowed s op) (h : runAll step s ops = .ok s') :
    Reachable step allowed s₀ s' := by
  induction ops generalizing s with
  | nil =>
    obtain rfl : s = s' := Run.ok.inj h
    exact hs
  | cons op ops ih =>
    obtain ⟨s₁, hstep, h⟩ := Run.of_bind h
    exact ih (.step hs (hops op List.mem_cons_self s) hstep)
      (fun op hop ↦ hops op (List.mem_cons_of_mem _ hop)) h

theorem reachable_of_runAll {s : σ} (ops : List ι) (h : runAll step s₀ ops = .ok s) :
    Reachable step (fun _ _ ↦ True) s₀ s :=
  .runAll .start (fun _ _ _ ↦ trivial) h

/-- The test is met wherever an operation of the sequence is applied. -/
def testAll (step : σ → ι → Run σ) (test : σ → ι → Bool) : σ → List ι → Bool
  | _, [] => true
  | s, op :: ops => test s op &&
    match step s op with
    | .ok s' => testAll step test s' ops
    | .panic _ => true

theorem reachable_of_testAll {test : σ → ι → Bool} (htest : ∀ s op, test s op → allowed s op)
    {s s' : σ} {ops : List ι} (hs : Reachable step allowed s₀ s) (hops : testAll step test s ops)
    (h : runAll step s ops = .ok s') : Reachable step allowed s₀ s' := by
  induction ops generalizing s with
  | nil =>
    obtain rfl : s = s' := Run.ok.inj h
    exact hs
  | cons op ops ih =>
    obtain ⟨s₁, hstep, h⟩ := Run.of_bind h
    obtain ⟨hop, hops⟩ := (Bool.and_eq_true _ _).mp hops
    rw [hstep] at hops
    exact ih (.step hs (htest s op hop) hstep) hops h

/-! ### Runs with their history -/

/-- An operation that was performed, with its answer and the states before and after it. -/
structure Transition (σ : Type u) (ι : Type v) (ω : Type u) where
  before : σ
  op : ι
  answer : ω
  after : σ

/-- The state `s` is reached from `s₀` by these transitions. -/
inductive Traced {ω : Type u} (step : σ → ι → Run (σ × ω)) (s₀ : σ) :
    List (Transition σ ι ω) → σ → Prop
  | start : Traced step s₀ [] s₀
  | step {past : List (Transition σ ι ω)} {s s' : σ} {op : ι} {answer : ω}
      (hs : Traced step s₀ past s) (h : step s op = .ok (s', answer)) :
      Traced step s₀ (past ++ [⟨s, op, answer, s'⟩]) s'

/-- The invariant rule for runs with their history. -/
theorem Traced.invariant {ω : Type u} {step : σ → ι → Run (σ × ω)}
    {I : List (Transition σ ι ω) → σ → Prop} (h₀ : I [] s₀)
    (hstep : ∀ past s op answer s', I past s → step s op = .ok (s', answer) →
      I (past ++ [⟨s, op, answer, s'⟩]) s') {past : List (Transition σ ι ω)} {s : σ}
    (hs : Traced step s₀ past s) : I past s := by
  induction hs with
  | start => exact h₀
  | step _ h ih => exact hstep _ _ _ _ _ ih h

/-! ### Runs that stop by themselves -/

/-- The states of a run from `s` on, up to the one in which the system stops. -/
inductive Completes (step : σ → Run (Option σ)) : σ → List σ → Prop
  | stop {s : σ} (h : step s = .ok none) : Completes step s [s]
  | step {s s' : σ} {states : List σ} (h : step s = .ok (some s'))
      (h' : Completes step s' states) : Completes step s (s :: states)

end Runs
