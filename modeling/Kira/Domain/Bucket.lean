import Mathlib.Data.List.Nodup
import Kira.Lib.Slots
import Kira.Domain.Contact

/-!
# Buckets

A bucket has a fixed number of slots for contacts.  The operations work on the slots; callers see
the `contacts`, in slot order.  A bucket does not know which ids belong into it: that is the table's
business.

The program identifies a contact in a bucket by the *first* slot with its id.  As long as ids do not
repeat there is only one, and the lemmas that need that say so.
-/

set_option autoImplicit false

namespace Kira

open Run

inductive BucketInsertionError where
  | duplicateId (id : NodeId)
  | full
  | needsValidation
  deriving DecidableEq

inductive ReplacementError where
  | notFound (id : NodeId)
  | duplicateId (id : NodeId)
  deriving DecidableEq

/-- At most `k` contacts. -/
structure Bucket (k : Nat) where
  slots : List (Option Contact)
  length_slots : slots.length = k
  deriving DecidableEq

namespace Bucket

variable {k : Nat}

def new : Bucket k := ⟨List.replicate k none, List.length_replicate⟩

def contacts (self : Bucket k) : List Contact := self.slots.reduceOption

def isEmpty (self : Bucket k) : Bool := !self.slots.any Option.isSome

def isFull (self : Bucket k) : Bool := !self.slots.any Option.isNone

def get (self : Bucket k) (id : NodeId) : Option Contact :=
  self.contacts.find? fun contact ↦ contact.id == id

def contains (self : Bucket k) (id : NodeId) : Bool :=
  self.contacts.any fun contact ↦ contact.id == id

/-- Writes the slot of the contact with this id, if there is one. -/
def write (self : Bucket k) (id : NodeId) (new : Option Contact) : Bucket k :=
  ⟨Slots.updateFirst (fun contact ↦ contact.id == id) new self.slots,
    (Slots.updateFirst_length ..).trans self.length_slots⟩

def insert (self : Bucket k) (contact : Contact) :
    Run (Except BucketInsertionError (Bucket k)) := do
  if self.contains contact.id then
    return .error (.duplicateId contact.id)
  let path ← expect contact.path "contact for insertion needs active path"
  if path.isNotvalidated then
    return .error .needsValidation
  match h : Slots.fill contact self.slots with
  | some slots => return .ok ⟨slots, (Slots.fill_length h).trans self.length_slots⟩
  | none => return .error .full

/-- Puts `withContact` in the place of the contact with the id `replaceId`.  The error about a
duplicate names the id that was to be replaced. -/
def replace (self : Bucket k) (replaceId : NodeId) (withContact : Contact) :
    Except ReplacementError (Contact × Bucket k) :=
  match self.get replaceId with
  | none => .error (.notFound replaceId)
  | some oldContact =>
    if self.contains withContact.id then .error (.duplicateId replaceId)
    else .ok (oldContact, self.write replaceId (some withContact))

def remove (self : Bucket k) (id : NodeId) : Option Contact × Bucket k :=
  (self.get id, self.write id none)

/-- The valid contacts with their shared prefix to a target, for a grouping that has been
checked. -/
def iterValidWithPrefix (self : Bucket k) (target : NodeId) (sharedPrefixGrouping : Nat) :
    List (SharedPrefix × Contact) :=
  (self.contacts.filter Contact.isValid).map fun c ↦
    (target.sharedPrefix c.id sharedPrefixGrouping, c)

/-- The equality of buckets: slot by slot, with the equality of contacts. -/
def eq (self other : Bucket k) : Bool :=
  (self.slots.zip other.slots).all fun
    | (some a, some b) => a.eq b
    | (none, none) => true
    | _ => false

/-! ## Looking up -/

@[simp] theorem contacts_new : (new : Bucket k).contacts = [] := by
  simp [new, contacts]

theorem contains_iff (self : Bucket k) (id : NodeId) :
    self.contains id = true ↔ ∃ c ∈ self.contacts, c.id = id := by
  simp [contains]

variable {self : Bucket k}

variable {id : NodeId} {c : Contact}

theorem get_eq_some (h : self.get id = some c) :
    c ∈ self.contacts ∧ c.id = id :=
  ⟨List.mem_of_find?_eq_some h, by simpa using List.find?_some h⟩

theorem get_eq_none_iff (self : Bucket k) (id : NodeId) :
    self.get id = none ↔ ∀ c ∈ self.contacts, c.id ≠ id := by
  simp [get]

theorem contains_eq_isSome (self : Bucket k) (id : NodeId) :
    self.contains id = (self.get id).isSome := by
  rw [contains, get, List.isSome_find?]

theorem get_eq_some_iff (hn : (self.contacts.map Contact.id).Nodup) :
    self.get id = some c ↔ c ∈ self.contacts ∧ c.id = id := by
  constructor
  · exact get_eq_some
  · rintro ⟨hc, rfl⟩
    cases h : self.get c.id with
    | none => exact absurd rfl ((get_eq_none_iff self c.id).1 h c hc)
    | some c' =>
      obtain ⟨hc', hid⟩ := get_eq_some h
      rw [List.inj_on_of_nodup_map hn hc' hc hid]

theorem isFull_iff (self : Bucket k) : self.isFull = true ↔ none ∉ self.slots := by
  simp only [isFull, Bool.not_eq_true', List.any_eq_false, Option.isNone_iff_eq_none]
  exact ⟨fun h hm ↦ h none hm rfl, fun h x hx hnone ↦ h (hnone ▸ hx)⟩

theorem contacts_length_of_isFull (h : self.isFull = true) :
    self.contacts.length = k := by
  have hn := (isFull_iff self).1 h
  refine Eq.trans ?_ self.length_slots
  rw [contacts, List.reduceOption_length_eq_iff]
  intro x hx
  cases x with
  | none => exact absurd hx hn
  | some x => rfl

theorem isFull_of_le_length (h : k ≤ self.contacts.length) :
    self.isFull = true := by
  rw [isFull_iff]
  intro hnone
  have heq : self.slots.reduceOption.length = self.slots.length := by
    refine Nat.le_antisymm (List.reduceOption_length_le _) ?_
    rw [self.length_slots]
    exact h
  exact absurd (List.reduceOption_length_eq_iff.1 heq none hnone) (by simp)

/-! ## Changing -/

/-- **Everything an insertion can do.** -/
inductive Inserted (self : Bucket k) (contact : Contact) :
    Except BucketInsertionError (Bucket k) → Prop
  | duplicate (h : self.contains contact.id = true) :
      Inserted self contact (.error (.duplicateId contact.id))
  | needsValidation {path : Path} (h : self.contains contact.id = false)
      (hpath : contact.path = some path) (hval : path.isNotvalidated = true) :
      Inserted self contact (.error .needsValidation)
  | full {path : Path} (h : self.contains contact.id = false) (hpath : contact.path = some path)
      (hval : path.isNotvalidated = false) (hfull : self.isFull = true) :
      Inserted self contact (.error .full)
  | inserted {path : Path} {self' : Bucket k} (h : self.contains contact.id = false)
      (hpath : contact.path = some path) (hval : path.isNotvalidated = false)
      (hperm : self'.contacts.Perm (contact :: self.contacts)) :
      Inserted self contact (.ok self')

theorem insert_cases {contact : Contact} {r : Except BucketInsertionError (Bucket k)}
    (h : self.insert contact = .ok r) :
    Inserted self contact r := by
  unfold insert at h
  by_cases hc : self.contains contact.id = true
  · rw [if_pos hc] at h
    cases h
    exact .duplicate hc
  · rw [if_neg hc] at h
    rw [Bool.not_eq_true] at hc
    obtain ⟨path, hp, h⟩ := of_bind h
    rw [expect_eq_ok] at hp
    by_cases hv : path.isNotvalidated = true
    · rw [if_pos hv] at h
      cases h
      exact .needsValidation hc hp hv
    · rw [if_neg hv] at h
      rw [Bool.not_eq_true] at hv
      split at h
      · rename_i slots hslots
        cases h
        exact .inserted hc hp hv (Slots.fill_perm hslots)
      · rename_i hslots
        cases h
        exact .full hc hp hv ((isFull_iff self).2 ((Slots.fill_eq_none_iff ..).1 hslots))

theorem write_of_get_eq_none (h : self.get id = none) (new : Option Contact) :
    self.write id new = self := by
  cases self
  simp only [write, mk.injEq]
  exact Slots.updateFirst_of_find?_eq_none new h

/-- Writing a contact's slot replaces that contact in its place. -/
theorem write_split (h : self.get id = some c) (new : Option Contact) :
    ∃ l₁ l₂, self.contacts = l₁ ++ c :: l₂ ∧ (∀ x ∈ l₁, x.id ≠ id) ∧
      (self.write id new).contacts = l₁ ++ (new.toList ++ l₂) := by
  obtain ⟨l₁, l₂, h₁, h₂, h₃⟩ := Slots.updateFirst_split new h
  exact ⟨l₁, l₂, h₁, fun x hx ↦ by simpa using h₂ x hx, h₃⟩

theorem mem_write {new : Option Contact} {x : Contact}
    (h : x ∈ (self.write id new).contacts) : x ∈ self.contacts ∨ new = some x := by
  cases hg : self.get id with
  | none =>
    rw [write_of_get_eq_none hg] at h
    exact .inl h
  | some c =>
    obtain ⟨l₁, l₂, h₁, -, h₃⟩ := write_split hg new
    rw [h₃, List.mem_append, List.mem_append, Option.mem_toList] at h
    rw [h₁, List.mem_append, List.mem_cons]
    rcases h with h | h | h
    · exact .inl (.inl h)
    · exact .inr h
    · exact .inl (.inr (.inr h))

theorem mem_write_iff (hn : (self.contacts.map Contact.id).Nodup)
    (h : self.get id = some c) (new : Option Contact) (x : Contact) :
    x ∈ (self.write id new).contacts ↔ (x ∈ self.contacts ∧ x.id ≠ id) ∨ new = some x := by
  obtain ⟨l₁, l₂, h₁, hbefore, h₃⟩ := write_split h new
  have hid : c.id = id := (get_eq_some h).2
  have hafter : ∀ y ∈ l₂, y.id ≠ id := by
    intro y hy hyid
    rw [h₁, List.map_append, List.map_cons] at hn
    have := (List.nodup_cons.1 (List.nodup_append.1 hn).2.1).1
    exact this (hid.trans hyid.symm ▸ List.mem_map_of_mem hy)
  rw [h₃, h₁, List.mem_append, List.mem_append, Option.mem_toList, List.mem_append, List.mem_cons]
  constructor
  · rintro (hx | hx | hx)
    · exact .inl ⟨.inl hx, hbefore x hx⟩
    · exact .inr hx
    · exact .inl ⟨.inr (.inr hx), hafter x hx⟩
  · rintro (⟨hx | rfl | hx, hne⟩ | hx)
    · exact .inl hx
    · exact absurd hid hne
    · exact .inr (.inr hx)
    · exact .inr (.inl hx)

/-- A write keeps ids from repeating if what it writes keeps the id or brings a new one. -/
theorem nodup_write (hn : (self.contacts.map Contact.id).Nodup) (id : NodeId)
    {new : Option Contact} (hnew : ∀ c, new = some c → c.id = id ∨ self.contains c.id = false) :
    ((self.write id new).contacts.map Contact.id).Nodup := by
  cases h : self.get id with
  | none => rwa [write_of_get_eq_none h]
  | some c =>
    obtain ⟨l₁, l₂, h₁, hbefore, h₃⟩ := write_split h new
    have hid : c.id = id := (get_eq_some h).2
    cases new with
    | none =>
      rw [h₃]
      rw [h₁] at hn
      exact hn.sublist (((List.sublist_cons_self c l₂).append_left l₁).map _)
    | some c' =>
      -- compared with before, the id of one entry has changed, to one that is nowhere else
      have hother : c'.id ∉ (l₁ ++ l₂).map Contact.id := by
        intro hmem
        obtain ⟨y, hy, hyid⟩ := List.mem_map.1 hmem
        have hy' : y ∈ self.contacts := by
          rw [h₁, List.mem_append, List.mem_cons]
          rcases List.mem_append.1 hy with hy | hy
          · exact .inl hy
          · exact .inr (.inr hy)
        rcases hnew c' rfl with heq | hfresh
        · rw [h₁, List.map_append, List.map_cons, List.nodup_middle, ← List.map_append] at hn
          refine (List.nodup_cons.1 hn).1 (List.mem_map.2 ⟨y, hy, ?_⟩)
          rw [hyid, heq, hid]
        · have : self.contains c'.id = true := (contains_iff self c'.id).2 ⟨y, hy', hyid⟩
          simp [this] at hfresh
      rw [h₃, Option.toList_some, List.singleton_append, List.map_append, List.map_cons,
        List.nodup_middle, ← List.map_append]
      rw [h₁, List.map_append, List.map_cons, List.nodup_middle, ← List.map_append] at hn
      exact List.nodup_cons.2 ⟨hother, (List.nodup_cons.1 hn).2⟩

end Bucket

end Kira
