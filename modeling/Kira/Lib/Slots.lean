import Mathlib.Data.List.ReduceOption

/-!
# An array of optional slots

A container with a fixed number of places, each of which holds a value or is empty: the list of its
slots, of which only the occupied ones (`List.reduceOption`) are visible to a reader.  `fill` puts a
value into the first empty slot, and `updateFirst` writes the first slot whose value satisfies a
test — with another value, or with `none` to clear it.

What they do to the visible values is `fill_perm` and `updateFirst_split`; neither changes the
number of slots.
-/

set_option autoImplicit false

universe u

namespace Slots

variable {α : Type u}

/-- Puts a value into the first empty slot, if there is one. -/
def fill (a : α) : List (Option α) → Option (List (Option α))
  | [] => none
  | none :: rest => some (some a :: rest)
  | some x :: rest => (fill a rest).map (some x :: ·)

/-- Writes the first occupied slot that passes the test. -/
def updateFirst (p : α → Bool) (new : Option α) : List (Option α) → List (Option α)
  | [] => []
  | none :: rest => none :: updateFirst p new rest
  | some x :: rest => if p x then new :: rest else some x :: updateFirst p new rest

/-! ## Filling -/

theorem fill_eq_none_iff (a : α) (s : List (Option α)) : fill a s = none ↔ none ∉ s := by
  induction s with
  | nil => simp [fill]
  | cons x rest ih => cases x <;> simp [fill, ih]

variable {s : List (Option α)}

theorem fill_length {a : α} {s' : List (Option α)} (h : fill a s = some s') :
    s'.length = s.length := by
  induction s generalizing s' with
  | nil => simp [fill] at h
  | cons x rest ih =>
    cases x with
    | none =>
      obtain rfl : some a :: rest = s' := by simpa [fill] using h
      rfl
    | some x =>
      obtain ⟨r, hr, rfl⟩ : ∃ r, fill a rest = some r ∧ some x :: r = s' := by
        simpa [fill] using h
      simp [ih hr]

/-- **Filling adds one value** and keeps the others. -/
theorem fill_perm {a : α} {s' : List (Option α)} (h : fill a s = some s') :
    s'.reduceOption.Perm (a :: s.reduceOption) := by
  induction s generalizing s' with
  | nil => simp [fill] at h
  | cons x rest ih =>
    cases x with
    | none =>
      obtain rfl : some a :: rest = s' := by simpa [fill] using h
      simp
    | some x =>
      obtain ⟨r, hr, rfl⟩ : ∃ r, fill a rest = some r ∧ some x :: r = s' := by
        simpa [fill] using h
      simpa using ((ih hr).cons x).trans (.swap a x _)

/-! ## Writing -/

@[simp] theorem updateFirst_length (p : α → Bool) (new : Option α) (s : List (Option α)) :
    (updateFirst p new s).length = s.length := by
  induction s with
  | nil => rfl
  | cons x rest ih =>
    cases x with
    | none => simp [updateFirst, ih]
    | some x => by_cases h : p x = true <;> simp [updateFirst, h, ih]

theorem updateFirst_of_find?_eq_none {p : α → Bool} (new : Option α)
    (h : s.reduceOption.find? p = none) : updateFirst p new s = s := by
  induction s with
  | nil => rfl
  | cons x rest ih =>
    cases x with
    | none => rw [updateFirst, ih (by simpa using h)]
    | some x =>
      rw [List.reduceOption_cons_of_some, List.find?_cons] at h
      split at h
      · simp at h
      · rename_i hx
        rw [updateFirst, if_neg (by simp [hx]), ih h]

/-- **Writing replaces one value**: the first that passes the test, in its place. -/
theorem updateFirst_split {p : α → Bool} (new : Option α) {a : α}
    (h : s.reduceOption.find? p = some a) :
    ∃ l₁ l₂, s.reduceOption = l₁ ++ a :: l₂ ∧ (∀ x ∈ l₁, p x = false) ∧
      (updateFirst p new s).reduceOption = l₁ ++ (new.toList ++ l₂) := by
  induction s with
  | nil => simp at h
  | cons x rest ih =>
    cases x with
    | none =>
      obtain ⟨l₁, l₂, h₁, h₂, h₃⟩ := ih (by simpa using h)
      exact ⟨l₁, l₂, by simpa using h₁, h₂, by simpa [updateFirst] using h₃⟩
    | some x =>
      rw [List.reduceOption_cons_of_some, List.find?_cons] at h
      split at h
      · rename_i hx
        obtain rfl : x = a := by simpa using h
        refine ⟨[], rest.reduceOption, by simp, by simp, ?_⟩
        rw [updateFirst, if_pos hx]
        cases new <;> simp
      · rename_i hx
        obtain ⟨l₁, l₂, h₁, h₂, h₃⟩ := ih h
        refine ⟨x :: l₁, l₂, by simp [h₁], ?_, ?_⟩
        · intro y hy
          rcases List.mem_cons.1 hy with rfl | hy
          · simpa using hx
          · exact h₂ y hy
        · rw [updateFirst, if_neg (by simp [hx]), List.reduceOption_cons_of_some, h₃]
          rfl

end Slots
