import Mathlib.Data.List.Sort
import Kira.Lib.Run

/-!
# Iterators and slices

The iterator and slice operations the modelled program is written with, as functions on lists, each
with the lemma that says what it yields.

* `chunks n l` cuts a slice into pieces of length `n` from the front, `rchunksExact n l` from the
  back.
* `minBy` and `minByM` return the *first* of several minimal elements, `maxByKey` the *last* of
  several maximal ones.
* `collect n groups` is the loop that gathers the contents of group after group and leaves off as
  soon as it has `n` elements.  Groups are computations, since getting at their contents may panic.
  By `collect_ok` what comes out are all the elements of the groups visited, and the loop left off
  only once it had enough.  If the groups are visited in the order of some criterion, nothing that
  was left out beats anything that was collected.
-/

set_option autoImplicit false

namespace Iter

variable {α : Type}

/-! ## Slices -/

/-- The pieces of length `n`, counted from the front; the last one may be shorter. -/
def chunks (n : Nat) (l : List α) : List (List α) :=
  (List.range ((l.length + n - 1) / n)).map fun j ↦ (l.drop (j * n)).take n

/-- The pieces of length `n`, counted from the back; what is left over at the front is skipped. -/
def rchunksExact (n : Nat) (l : List α) : List (List α) :=
  (List.range (l.length / n)).map fun j ↦ (l.drop (l.length - (j + 1) * n)).take n

theorem flatten_map_range_take (n m : Nat) (l : List α) :
    ((List.range m).map fun j ↦ (l.drop (j * n)).take n).flatten = l.take (m * n) := by
  induction m with
  | zero => simp
  | succ m ih =>
    rw [List.range_succ, List.map_append, List.flatten_append, ih, Nat.succ_mul, List.take_add]
    simp

variable {n : Nat} {l : List α} {cmp : α → α → Run Ordering}

theorem chunks_flatten (hn : 0 < n) (l : List α) : (chunks n l).flatten = l := by
  rw [chunks, flatten_map_range_take, List.take_of_length_le]
  have h := Nat.div_add_mod (l.length + n - 1) n
  have hlt := Nat.mod_lt (l.length + n - 1) hn
  rw [Nat.mul_comm] at h
  omega

theorem flatten_map_range_drop_perm (n m : Nat) (l : List α) (h : m * n ≤ l.length) :
    ((List.range m).map fun j ↦ (l.drop (l.length - (j + 1) * n)).take n).flatten.Perm
      (l.drop (l.length - m * n)) := by
  induction m with
  | zero => simp
  | succ m ih =>
    rw [Nat.succ_mul] at h
    have hsplit : l.drop (l.length - (m + 1) * n) =
        (l.drop (l.length - (m + 1) * n)).take n ++ l.drop (l.length - m * n) := by
      conv => lhs; rw [← List.take_append_drop n (l.drop (l.length - (m + 1) * n))]
      rw [List.drop_drop]
      congr 2
      rw [Nat.succ_mul]
      omega
    rw [List.range_succ, List.map_append, List.flatten_append, hsplit]
    refine ((ih (by omega)).append_right _).trans ?_
    simpa using List.perm_append_comm

/-- Cut from the back, the pieces of a slice whose length is a multiple of theirs make it up. -/
theorem rchunksExact_flatten_perm (h : n ∣ l.length) :
    (rchunksExact n l).flatten.Perm l := by
  have hlen : l.length / n * n = l.length := Nat.div_mul_cancel h
  refine (flatten_map_range_drop_perm n (l.length / n) l (Nat.le_of_eq hlen)).trans ?_
  simp [hlen]

theorem exists_of_mem_take_drop {x : Nat} {a : α} (h : a ∈ (l.drop x).take n) :
    ∃ i, x ≤ i ∧ i < x + n ∧ l[i]? = some a := by
  obtain ⟨i, hi⟩ := List.mem_iff_getElem?.1 h
  rw [List.getElem?_take] at hi
  split at hi
  · rename_i hlt
    rw [List.getElem?_drop] at hi
    exact ⟨x + i, Nat.le_add_right _ _, Nat.add_lt_add_left hlt x, hi⟩
  · simp at hi

theorem flatten_map_flatMap {β : Type} (f : α → List β) (l : List (List α)) :
    (l.map fun x ↦ x.flatMap f).flatten = l.flatten.flatMap f := by
  induction l with
  | nil => rfl
  | cons x l ih => simp [ih]

theorem flatten_flatMap {β : Type} (f : α → List (List β)) (l : List α) :
    (l.flatMap f).flatten = l.flatMap fun x ↦ (f x).flatten := by
  induction l with
  | nil => rfl
  | cons x l ih => simp [ih]

theorem flatMap_range_getElem? {β : Type} (f : α → List β) (l : List α) (n : Nat) :
    ((List.range n).flatMap fun i ↦ (l[i]?).toList.flatMap f) = (l.take n).flatMap f := by
  induction n with
  | zero => simp
  | succ n ih =>
    rw [List.range_succ, List.flatMap_append, ih, List.take_add_one, List.flatMap_append]
    simp

theorem of_mem_zipIdx_rchunksExact {c : List α} {j : Nat} (h : (c, j) ∈ (rchunksExact n l).zipIdx) :
    j < l.length / n ∧ c = (l.drop (l.length - (j + 1) * n)).take n := by
  have hj : (rchunksExact n l)[j]? = some c := List.mem_zipIdx_iff_getElem?.1 h
  simp only [rchunksExact, List.getElem?_map, Option.map_eq_some_iff] at hj
  obtain ⟨i, hi, rfl⟩ := hj
  obtain ⟨hlt, rfl⟩ := List.getElem?_eq_some_iff.1 hi
  simpa using hlt

theorem map_zipIdx_of_forall {β : Type} {f : α × Nat → β} {h : α → β}
    (hf : ∀ p ∈ l.zipIdx, f p = h p.1) : l.zipIdx.map f = l.map h := by
  rw [List.map_congr_left hf]
  conv => rhs; rw [← List.zipIdx_map_fst 0 l]
  rw [List.map_map]
  rfl

/-! ## Extremal elements -/

/-- The first of the minimal elements. -/
def minBy (cmp : α → α → Ordering) : List α → Option α
  | [] => none
  | x :: xs => some (xs.foldl (fun best y ↦ if cmp best y = .gt then y else best) x)

/-- The smaller of two elements, the first if they are equal. -/
def pickM (cmp : α → α → Run Ordering) (best y : α) : Run α := do
  let ord ← cmp best y
  return if ord = .gt then y else best

/-- The first of the minimal elements, for a comparison that may panic. -/
def minByM (cmp : α → α → Run Ordering) : List α → Run (Option α)
  | [] => return none
  | x :: xs => do
    let best ← xs.foldlM (pickM cmp) x
    return some best

/-- The last of the elements with the largest key. -/
def maxByKey (key : α → Nat) : List α → Option α
  | [] => none
  | x :: xs => some (xs.foldl (fun best y ↦ if key best ≤ key y then y else best) x)

theorem foldl_pick_spec {replaces R : α → α → Prop} [DecidableRel replaces] (hrefl : ∀ x, R x x)
    (htrans : ∀ x y z, R x y → R y z → R x z) (hyes : ∀ x y, replaces x y → R y x)
    (hno : ∀ x y, ¬ replaces x y → R x y) (xs : List α) (x : α) :
    let best := xs.foldl (fun best y ↦ if replaces best y then y else best) x
    best ∈ x :: xs ∧ ∀ y ∈ x :: xs, R best y := by
  induction xs generalizing x with
  | nil => simpa using hrefl x
  | cons z zs ih =>
    obtain ⟨hmem, hbest⟩ := ih (if replaces x z then z else x)
    simp only [List.foldl_cons]
    have hpicked := hbest _ List.mem_cons_self
    have hrest : ∀ y ∈ zs, R _ y := fun y hy ↦ hbest y (List.mem_cons_of_mem _ hy)
    by_cases h : replaces x z
    · simp only [if_pos h] at hmem hpicked hrest ⊢
      refine ⟨List.mem_cons_of_mem x hmem, ?_⟩
      simpa using ⟨htrans _ _ _ hpicked (hyes x z h), hpicked, hrest⟩
    · simp only [if_neg h] at hmem hpicked hrest ⊢
      refine ⟨by simp at hmem ⊢; tauto, ?_⟩
      simpa using ⟨hpicked, htrans _ _ _ hpicked (hno x z h), hrest⟩

theorem minBy_spec (key : α → Nat) {cmp : α → α → Ordering}
    (hcmp : ∀ x y, cmp x y = .gt ↔ key y < key x) {m : α} (h : minBy cmp l = some m) :
    m ∈ l ∧ ∀ y ∈ l, key m ≤ key y := by
  cases l with
  | nil => simp [minBy] at h
  | cons x xs =>
    cases h
    exact foldl_pick_spec (R := fun x y ↦ key x ≤ key y) (fun _ ↦ Nat.le_refl _)
      (fun _ _ _ ↦ Nat.le_trans)
      (fun x y h ↦ Nat.le_of_lt ((hcmp x y).1 h))
      (fun x y h ↦ Nat.le_of_not_lt fun hlt ↦ h ((hcmp x y).2 hlt)) xs x

theorem minBy_eq_none_iff (cmp : α → α → Ordering) (l : List α) : minBy cmp l = none ↔ l = [] := by
  cases l <;> simp [minBy]

theorem foldlM_pickM_mem (cmp : α → α → Run Ordering) (xs : List α) (x m : α)
    (h : xs.foldlM (pickM cmp) x = .ok m) : m ∈ x :: xs := by
  induction xs generalizing x with
  | nil =>
    cases h
    exact List.mem_cons_self
  | cons z zs ih =>
    rw [List.foldlM_cons] at h
    obtain ⟨b, hb, h⟩ := Run.of_bind h
    obtain ⟨ord, -, hb⟩ := Run.of_bind hb
    have hm := ih b h
    by_cases ho : ord = .gt
    · obtain rfl : z = b := by simpa [ho] using hb
      exact List.mem_cons_of_mem x hm
    · obtain rfl : x = b := by simpa [ho] using hb
      rcases List.mem_cons.1 hm with rfl | hm
      · exact List.mem_cons_self
      · exact List.mem_cons_of_mem x (List.mem_cons_of_mem z hm)

theorem minByM_mem {m : α} (h : minByM cmp l = .ok (some m)) : m ∈ l := by
  cases l with
  | nil => simp [minByM] at h
  | cons x xs =>
    obtain ⟨b, hb, h⟩ := Run.of_bind h
    obtain rfl : b = m := by simpa using h
    exact foldlM_pickM_mem cmp xs x b hb

/-- Only what the comparison makes of the elements themselves counts. -/
theorem minByM_congr {cmp' : α → α → Run Ordering}
    (h : ∀ a ∈ l, ∀ b ∈ l, cmp a b = cmp' a b) : minByM cmp l = minByM cmp' l := by
  cases l with
  | nil => rfl
  | cons x xs =>
    -- the smallest so far is always one of the elements
    have hfold : ∀ ys : List α, (∀ y ∈ ys, y ∈ x :: xs) → ∀ best ∈ x :: xs,
        ys.foldlM (pickM cmp) best = ys.foldlM (pickM cmp') best := by
      intro ys
      induction ys with
      | nil => exact fun _ _ _ ↦ rfl
      | cons y ys ih =>
        intro hys best hbest
        have hy := hys y List.mem_cons_self
        rw [List.foldlM_cons, List.foldlM_cons, pickM, pickM, h best hbest y hy]
        cases cmp' best y with
        | panic msg => rfl
        | ok ord =>
          refine ih (fun z hz ↦ hys z (List.mem_cons_of_mem _ hz)) _ ?_
          split
          · exact hy
          · exact hbest
    rw [minByM, minByM, hfold xs (fun _ ↦ List.mem_cons_of_mem _) x List.mem_cons_self]

theorem minByM_ok (cmp : α → α → Ordering) (l : List α) :
    minByM (fun a b ↦ .ok (cmp a b)) l = .ok (minBy cmp l) := by
  cases l with
  | nil => rfl
  | cons x xs =>
    have hfold : ∀ best, xs.foldlM (pickM fun a b ↦ .ok (cmp a b)) best =
        .ok (xs.foldl (fun best y ↦ if cmp best y = .gt then y else best) best) := by
      induction xs with
      | nil => exact fun _ ↦ rfl
      | cons y ys ih => exact fun best ↦ ih _
    rw [minByM, hfold]
    rfl

theorem minByM_ne_none (hl : l ≠ []) :
    minByM cmp l ≠ .ok none := by
  cases l with
  | nil => exact absurd rfl hl
  | cons x xs =>
    intro h
    obtain ⟨b, -, h⟩ := Run.of_bind h
    simp at h

theorem exists_of_minByM_eq_panic {msg : String}
    (h : minByM cmp l = .panic msg) : ∃ a b, cmp a b = .panic msg := by
  cases l with
  | nil => cases h
  | cons x xs =>
    rcases Run.bind_eq_panic.1 h with h | ⟨_, -, h⟩
    · obtain ⟨a, b, -, h⟩ := Run.exists_of_foldlM_eq_panic h
      rcases Run.bind_eq_panic.1 h with h | ⟨_, -, h⟩
      · exact ⟨a, b, h⟩
      · cases h
    · cases h

theorem exists_maxByKey (key : α → Nat) (hl : l ≠ []) :
    ∃ m, maxByKey key l = some m := by
  cases l with
  | nil => exact absurd rfl hl
  | cons x xs => exact ⟨_, rfl⟩

theorem maxByKey_spec {key : α → Nat} {m : α} (h : maxByKey key l = some m) :
    m ∈ l ∧ ∀ y ∈ l, key y ≤ key m := by
  cases l with
  | nil => simp [maxByKey] at h
  | cons x xs =>
    cases h
    exact foldl_pick_spec (R := fun x y ↦ key y ≤ key x) (fun _ ↦ Nat.le_refl _)
      (fun _ _ _ hxy hyz ↦ Nat.le_trans hyz hxy) (fun _ _ h ↦ h)
      (fun _ _ h ↦ Nat.le_of_not_le h) xs x

/-! ## Collecting until there is enough -/

/-- Gathers the contents of the groups in turn and leaves off at the first group after which there
are at least `n` elements. -/
def collect (n : Nat) : List (Run (List α)) → List α → Run (List α)
  | [], result => return result
  | group :: groups, result => do
    let content ← group
    if n ≤ (result ++ content).length then return result ++ content
    else collect n groups (result ++ content)

/-- **What is collected**: the contents of a first part of the groups.  Before the last of them
there was not enough yet, and if groups remain there is enough now. -/
theorem collect_ok (n : Nat) (groups : List (List α)) (result : List α) :
    ∃ taken rest, groups = taken ++ rest ∧
      collect n (groups.map Run.ok) result = .ok (result ++ taken.flatten) ∧
      (rest ≠ [] → n ≤ (result ++ taken.flatten).length) ∧
      (∀ init last, taken = init ++ [last] → init ≠ [] → (result ++ init.flatten).length < n) := by
  induction groups generalizing result with
  | nil => exact ⟨[], [], rfl, by simp [collect], by simp, by simp⟩
  | cons group groups ih =>
    by_cases h : n ≤ (result ++ group).length
    · refine ⟨[group], groups, rfl, ?_, ?_, ?_⟩
      · rw [List.map_cons, collect, Run.ok_bind, if_pos h]
        simp
      · intro _
        simpa using h
      · intro init last heq hne
        cases init with
        | nil => exact absurd rfl hne
        | cons => simp at heq
    · obtain ⟨taken, rest, hsplit, hcol, henough, hbefore⟩ := ih (result ++ group)
      refine ⟨group :: taken, rest, by rw [hsplit]; rfl, ?_, ?_, ?_⟩
      · rw [List.map_cons, collect, Run.ok_bind, if_neg h, hcol]
        simp
      · simpa [List.append_assoc] using henough
      · intro init last heq hne
        cases init with
        | nil => exact absurd rfl hne
        | cons g init =>
          rw [List.cons_append, List.cons.injEq] at heq
          obtain ⟨rfl, heq⟩ := heq
          rw [List.flatten_cons, ← List.append_assoc]
          by_cases hinit : init = []
          · subst hinit
            simpa using h
          · exact hbefore init last heq hinit

/-! ## The front of a sorted list -/

/-- In a sorted list the elements with a property that passes to earlier elements are at the
front. -/
theorem forall_mem_take_of_le_countP {r : α → α → Prop} {p : α → Bool}
    (hdown : ∀ a b, r a b → p b = true → p a = true) (hsorted : l.Pairwise r)
    (hn : n ≤ l.countP p) : ∀ x ∈ l.take n, p x = true := by
  induction l generalizing n with
  | nil => simp
  | cons a t ih =>
    obtain ⟨hhead, htail⟩ := List.pairwise_cons.1 hsorted
    cases n with
    | zero => simp
    | succ n =>
      have ha : p a = true := by
        obtain ⟨b, hb, hpb⟩ := List.countP_pos_iff.1 (Nat.lt_of_lt_of_le (Nat.succ_pos n) hn)
        rcases List.mem_cons.1 hb with rfl | hbt
        · exact hpb
        · exact hdown a b (hhead b hbt) hpb
      rw [List.countP_cons_of_pos ha] at hn
      intro x hx
      rcases List.mem_cons.1 hx with rfl | hxt
      · exact ha
      · exact ih htail (by omega) x hxt

end Iter
