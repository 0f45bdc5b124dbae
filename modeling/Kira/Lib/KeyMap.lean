import Mathlib.Data.List.AList

/-!
# Maps by key

A hash map is an association list in which no key occurs twice, Mathlib's `AList`.  The order of the
entries is an artefact: every fact is stated through `lookup` or through membership in `values`.

Mathlib brings `lookup`, `insert` and `erase`.  Added here are the values of a map, the change of
all values in place, the selection of entries, and the lookups of the changed maps in one equation
each.
-/

set_option autoImplicit false

namespace Kira

/-- Finite maps. -/
abbrev KeyMap (κ ν : Type) := AList fun _ : κ ↦ ν

namespace KeyMap

variable {κ ν : Type}

def values (m : KeyMap κ ν) : List ν := m.entries.map Sigma.snd

def mapValues (m : KeyMap κ ν) (f : ν → ν) : KeyMap κ ν where
  entries := m.entries.map fun e ↦ ⟨e.1, f e.2⟩
  nodupKeys := by
    have h :
        (m.entries.map fun e ↦ (⟨e.1, f e.2⟩ : Sigma fun _ : κ ↦ ν)).keys = m.entries.keys := by
      simp [List.keys]
    exact (congrArg List.Nodup h).mpr m.nodupKeys

theorem values_mapValues (m : KeyMap κ ν) (f : ν → ν) :
    (m.mapValues f).values = m.values.map f := by
  simp [values, mapValues]

@[simp] theorem values_empty : (∅ : KeyMap κ ν).values = [] := rfl

variable [DecidableEq κ]

variable {m : KeyMap κ ν}

theorem mem_values {v : ν} : v ∈ m.values ↔ ∃ key, m.lookup key = some v := by
  constructor
  · intro h
    obtain ⟨⟨key, w⟩, hmem, rfl⟩ := List.mem_map.1 h
    exact ⟨key, AList.mem_lookup_iff.2 hmem⟩
  · rintro ⟨key, h⟩
    exact List.mem_map.2 ⟨⟨key, v⟩, AList.mem_lookup_iff.1 h, rfl⟩

theorem lookup_insert_eq (m : KeyMap κ ν) (key key' : κ) (v : ν) :
    (m.insert key v).lookup key' = if key' = key then some v else m.lookup key' := by
  by_cases h : key' = key
  · rw [if_pos h, h, AList.lookup_insert]
  · rw [if_neg h, AList.lookup_insert_ne h]

theorem lookup_erase_eq (m : KeyMap κ ν) (key key' : κ) :
    (m.erase key).lookup key' = if key' = key then none else m.lookup key' := by
  by_cases h : key' = key
  · rw [if_pos h, h, AList.lookup_erase]
  · rw [if_neg h, AList.lookup_erase_ne h]

theorem lookup_foldl_erase (m : KeyMap κ ν) (keys : List κ) (key : κ) :
    (keys.foldl (fun m key ↦ m.erase key) m).lookup key =
      if key ∈ keys then none else m.lookup key := by
  induction keys generalizing m with
  | nil => simp
  | cons first rest ih =>
    rw [List.foldl_cons, ih, lookup_erase_eq]
    by_cases hrest : key ∈ rest
    · simp [hrest]
    · by_cases hfirst : key = first <;> simp [hrest, hfirst]

theorem lookup_of_insert {key key' : κ} {v w : ν}
    (h : (m.insert key v).lookup key' = some w) : w = v ∨ m.lookup key' = some w := by
  rw [lookup_insert_eq] at h
  split at h
  · exact .inl (Option.some.inj h).symm
  · exact .inr h

theorem lookup_of_erase {key key' : κ} {w : ν}
    (h : (m.erase key).lookup key' = some w) : m.lookup key' = some w := by
  rw [lookup_erase_eq] at h
  split at h
  · simp at h
  · exact h

theorem lookup_mapValues (m : KeyMap κ ν) (f : ν → ν) (key : κ) :
    (m.mapValues f).lookup key = (m.lookup key).map f := by
  ext v
  rw [← Option.mem_def, AList.mem_lookup_iff, mapValues, List.mem_map, Option.map_eq_some_iff]
  constructor
  · rintro ⟨⟨key', w⟩, hmem, heq⟩
    obtain ⟨rfl, hw⟩ := Sigma.mk.inj heq
    exact ⟨w, AList.mem_lookup_iff.2 hmem, eq_of_heq hw⟩
  · rintro ⟨w, hw, rfl⟩
    exact ⟨⟨key, w⟩, AList.mem_lookup_iff.1 hw, rfl⟩

/-- The map with those entries only whose value passes the test. -/
def retain (m : KeyMap κ ν) (p : ν → Bool) : KeyMap κ ν where
  entries := m.entries.filter fun e ↦ p e.2
  nodupKeys := by
    have h : (m.entries.filter fun e ↦ p e.2).keys.Sublist m.entries.keys :=
      List.filter_sublist.map Sigma.fst
    exact h.nodup m.nodupKeys

theorem lookup_retain (m : KeyMap κ ν) (p : ν → Bool) (key : κ) :
    (m.retain p).lookup key = (m.lookup key).filter p := by
  ext v
  rw [← Option.mem_def, AList.mem_lookup_iff, retain, List.mem_filter, Option.filter_eq_some_iff,
    ← AList.mem_lookup_iff, Option.mem_def]

theorem nodup_map_values {keyOf : ν → κ}
    (h : ∀ key v, m.lookup key = some v → keyOf v = key) : (m.values.map keyOf).Nodup := by
  have hkeys : m.values.map keyOf = m.entries.keys := by
    rw [values, List.map_map, List.keys]
    refine List.map_congr_left ?_
    intro e he
    exact h e.1 e.2 (AList.mem_lookup_iff.2 he)
  rw [hkeys]
  exact m.nodupKeys

end KeyMap

end Kira
