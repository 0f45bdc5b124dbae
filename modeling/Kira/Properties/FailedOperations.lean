import Kira.Domain.RoutingTable.UnlimitedULNLawful

/-!
# What a failed operation leaves behind

An addition, an insertion or a replacement that returns an error should not have changed what the
table stores.  The table with a neighbour map changes the map before it asks the inner table, and
does not take that back when the inner table refuses:

* a neighbour that is not valid any more is taken out of the map as soon as a longer path to it is
  to be added, and is lost if that fails (`entry_lost`);
* a replacement puts the new contact into the map first, and leaves it there if there is nothing to
  be replaced.

`failed_unchanged_iff` says for every table and every argument when an error means that nothing has
changed.  The table need not be tidy, so what is stored is a relation here and not a lookup:
`Stored` holds of every contact that either part of the table has under an id.
-/

set_option autoImplicit false

namespace Kira

open RoutingTable

namespace UnlimitedULNRoutingTable

variable {k acc : Nat}

/-- The table stores the contact under this id. -/
def Stored (t : UnlimitedULNRoutingTable k acc) (id : NodeId) (c : Contact) : Prop :=
  t.unContacts.lookup id = some c ∨ (c ∈ t.inner.iter ∧ c.id = id)

/-- The two tables store the same. -/
def SameContents (t t' : UnlimitedULNRoutingTable k acc) : Prop :=
  ∀ id c, Stored t' id c ↔ Stored t id c

/-! ## Additions and insertions -/

/-- The contact can be refused without harm: there is no neighbour of this id that is not valid any
more, unless the inner table has the very same contact. -/
def RefusalKeeps (t : UnlimitedULNRoutingTable k acc) (c : Contact) : Prop :=
  ∀ entry, t.unContacts.lookup c.id = some entry →
    c.isUln = true ∨ entry.isValid = true ∨ (entry ∈ t.inner.iter ∧ entry.id = c.id)

theorem sameContents_iff_of_refused {t t' : UnlimitedULNRoutingTable k acc} {c : Contact}
    (hmap : t'.unContacts = mapAfterRefusal t.unContacts c)
    (hmem : ∀ x, x ∈ t'.inner.iter ↔ x ∈ t.inner.iter) :
    SameContents t t' ↔ RefusalKeeps t c := by
  unfold SameContents Stored
  cases hlook : t.unContacts.lookup c.id with
  | none => simp [hmap, hmem, mapAfterRefusal, RefusalKeeps, hlook]
  | some entry =>
    by_cases hkept : c.isUln = true ∨ entry.isValid = true
    · have hkept' : (c.isUln || entry.isValid) = true := by simpa using hkept
      have hkeeps : RefusalKeeps t c := by
        intro e he
        obtain rfl := Option.some.inj (hlook.symm.trans he)
        rcases hkept with h | h
        · exact .inl h
        · exact .inr (.inl h)
      simp [hmap, hmem, mapAfterRefusal, hlook, hkept', hkeeps]
    · have herase : t'.unContacts = t.unContacts.erase c.id := by
        rw [hmap, mapAfterRefusal, hlook]
        exact if_neg (by simpa using hkept)
      rw [herase]
      constructor
      · intro h e he
        obtain rfl := Option.some.inj (hlook.symm.trans he)
        have := (h c.id entry).2 (.inl hlook)
        rw [AList.lookup_erase, hmem] at this
        exact .inr (.inr (by simpa using this))
      · intro h id x
        rw [KeyMap.lookup_erase_eq, hmem]
        by_cases hid : id = c.id
        · subst hid
          rw [if_pos rfl, hlook]
          have hentry := (h entry hlook).resolve_left (fun hc ↦ hkept (.inl hc))
          have hentry := hentry.resolve_left (fun hc ↦ hkept (.inr hc))
          constructor
          · rintro (h | h)
            · simp at h
            · exact .inr h
          · rintro (h | h)
            · cases h
              exact .inr hentry
            · exact .inr h
        · rw [if_neg hid]

/-! ## Replacements -/

theorem sameContents_iff_of_replace {t t' : UnlimitedULNRoutingTable k acc} {id : NodeId}
    {c : Contact} {err : ReplacementError} (h : t.replace id c = (.error err, t')) :
    SameContents t t' ↔ c ∈ t.inner.iter ∧ c.id = id := by
  rw [replace] at h
  cases hlook : t.unContacts.lookup id with
  | some entry => simp [hlook] at h
  | none =>
    have ht' : t' = ⟨t.unContacts.insert id c, t.inner⟩ := by
      simp only [hlook] at h
      rcases FlatRoutingTable.replace_cases t.inner id c with ⟨old, -, -, heq⟩ | ⟨err', heq⟩
      · simp [heq] at h
      · simpa [heq] using (congrArg Prod.snd h).symm
    subst ht'
    unfold SameContents Stored
    constructor
    · intro h
      have := (h id c).1 (.inl (AList.lookup_insert ..))
      simpa [hlook] using this
    · intro hc i x
      rw [KeyMap.lookup_insert_eq]
      by_cases hi : i = id
      · subst hi
        rw [if_pos rfl, hlook]
        constructor
        · rintro (h | h)
          · cases h
            exact .inr hc
          · exact .inr h
        · rintro (h | h)
          · simp at h
          · exact .inr h
      · rw [if_neg hi]

end UnlimitedULNRoutingTable

open UnlimitedULNRoutingTable

/-- **When an error means that nothing has changed.**  For additions and insertions: as long as the
contact is not stored as a neighbour that is not valid any more.  For replacements: never, but for
the case that the inner table has the very same contact. -/
theorem failed_unchanged_iff {k acc : Nat} (t : UnlimitedULNRoutingTable k acc) :
    (∀ c err t', RoutingTable.add t c = .ok (.error err, t') →
      (SameContents t t' ↔ RefusalKeeps t c)) ∧
    (∀ c err t', RoutingTable.insert t c = .ok (.error err, t') →
      (SameContents t t' ↔ RefusalKeeps t c)) ∧
    (∀ id c err t', RoutingTable.replace t id c = (.error err, t') →
      (SameContents t t' ↔ c ∈ t.inner.iter ∧ c.id = id)) := by
  refine ⟨?_, ?_, ?_⟩
  · intro c err t' h
    obtain rfl := (add_cases h).refused
    exact sameContents_iff_of_refused rfl fun _ ↦ Iff.rfl
  · intro c err t' h
    obtain ⟨hmap, hsplits⟩ := insert_refused h
    exact sameContents_iff_of_refused hmap hsplits.mem_iter_iff
  · intro id c err t' h
    exact sameContents_iff_of_replace h

def neighborFive : Contact := .ofIds [5] (by decide) .MIN

/-- The node 5 over the node 3, on a path that has not been validated. -/
def unvalidatedFive : Contact :=
  .new 0 { Path.via 3 [5] with pathState := .notValidated }
    .MIN

/-- A valid neighbour survives a failed addition. -/
theorem valid_neighbor_kept : ∃ (t t' : UnlimitedULNRoutingTable 1 1) (err : AddError),
    t.contact 5 = some neighborFive ∧
      RoutingTable.add t unvalidatedFive = .ok (.error err, t') ∧ SameContents t t' := by
  have hrun : ∃ t t' : UnlimitedULNRoutingTable 1 1,
      TableOp.apply (.new 0 (by decide) (by decide)) (.add neighborFive) = .ok t ∧
      t.contact 5 = some neighborFive ∧
      RoutingTable.add t unvalidatedFive = .ok (.error (.alreadyExists 5), t') ∧
      t.unContacts.lookup unvalidatedFive.id = some neighborFive :=
    ⟨_, _, rfl, by decide +kernel, rfl, by decide +kernel⟩
  obtain ⟨t, t', -, hcontact, hadd, hlook⟩ := hrun
  refine ⟨t, t', _, hcontact, hadd, ((failed_unchanged_iff t).1 _ _ _ hadd).2 ?_⟩
  intro entry hentry
  obtain rfl := Option.some.inj (hlook.symm.trans hentry)
  exact .inr (.inl (by decide))

/-- **An entry is lost.**  A neighbour that has become invalid is gone after a failed attempt to add
a path to it that has yet to be validated. -/
theorem entry_lost : ∃ t t' : UnlimitedULNRoutingTable 1 1,
    runAll TableOp.apply (.new 0 (by decide) (by decide))
      [.add neighborFive, .modify 5 (Contact.setState (.invalid .empty))] = .ok t ∧
    RoutingTable.add t unvalidatedFive = .ok (.error .needsValidation, t') ∧
    (t.contact 5).isSome = true ∧ t'.contact 5 = none := by
  exact ⟨_, _, rfl, rfl, by decide +kernel, by decide +kernel⟩

end Kira
