import Kira.Domain.RoutingTable.Lawful

/-!
# A routing table that reports what happens to it

The observable table passes every operation on to the table it wraps and tells its observers what
came of it.  All observers are told the same, in the same order, so the model keeps a log, `events`.

Three rules decide what is reported, and each of them leaves something out.

* `add`, `remove`, `replace` and `splitBucket` report what they *returned*.  Nothing is reported
  when the wrapped table returns an error, whatever it did before.
* Whoever changes a contact in place holds a guard, and the guard reports the change when it is
  dropped (`guardDrop`), unless the two contacts are equal.  Equality of contacts only looks at the
  ids of paths.
* An update that leaves the two paths, the sequence number and the state alone is not passed on
  (`isNoticed`).

The observable table is a lawful routing table if the wrapped one is.
-/

set_option autoImplicit false

namespace Kira

open Run RoutingTable

/-- What the observers of a table are told. -/
inductive RoutingTableEvent where
  | newContact (contact : Contact)
  | updatedContact (new old : Contact)
  | removedContact (contact : Contact)
  | updatedBucket (index : Nat)
  | newBucket (index : Nat)
  deriving DecidableEq

/-- The two contacts agree in their paths, their sequence number and their state. -/
def Contact.sameView (old new : Contact) : Bool :=
  old.path == new.path && old.proposedPath == new.proposedPath &&
    old.stateSeqNr == new.stateSeqNr && old.state.eq new.state

/-- Whether observers are told about an event. -/
def RoutingTableEvent.isNoticed : RoutingTableEvent → Bool
  | .updatedContact new old => !old.sameView new
  | _ => true

/-- An event about a bucket and not about a contact. -/
def RoutingTableEvent.isBucket : RoutingTableEvent → Bool
  | .updatedBucket _ => true
  | .newBucket _ => true
  | _ => false

def notifyAll (event : RoutingTableEvent) : List RoutingTableEvent :=
  if event.isNoticed then [event] else []

/-- What observers are told when the guard of a contact is dropped. -/
def guardDrop (original contact : Contact) : List RoutingTableEvent :=
  if contact.eq original then [] else notifyAll (.updatedContact contact original)

/-- A table with the events that are still to be told. -/
structure ObservableRoutingTable (T : Type) where
  inner : T
  events : List RoutingTableEvent

namespace ObservableRoutingTable

variable {T : Type} {k : Nat} [RoutingTable T k]

def ofTable (routingTable : T) : ObservableRoutingTable T :=
  { inner := routingTable, events := [] }

def add (self : ObservableRoutingTable T) (contact : Contact) :
    Run (Except AddError Unit × ObservableRoutingTable T) := do
  match ← RoutingTable.add self.inner contact with
  | (.error err, inner) => return (.error err, { self with inner })
  | (.ok (), inner) =>
    return (.ok (), { inner, events := self.events ++ notifyAll (.newContact contact) })

def remove (self : ObservableRoutingTable T) (id : NodeId) :
    Option Contact × ObservableRoutingTable T :=
  match RoutingTable.remove self.inner id with
  | (none, inner) => (none, { self with inner })
  | (some contact, inner) =>
    (some contact, { inner, events := self.events ++ notifyAll (.removedContact contact) })

def replace (self : ObservableRoutingTable T) (id : NodeId) (withContact : Contact) :
    Except ReplacementError Contact × ObservableRoutingTable T :=
  match RoutingTable.replace self.inner id withContact with
  | (.error err, inner) => (.error err, { self with inner })
  | (.ok replaced, inner) =>
    (.ok replaced,
      { inner, events := self.events ++ notifyAll (.updatedContact withContact replaced) })

def contactMut {α : Type} (self : ObservableRoutingTable T) (id : NodeId)
    (f : Contact → Run (α × Contact)) : Run (Option α × ObservableRoutingTable T) := do
  let guarded ← RoutingTable.contactMut self.inner id fun original ↦ do
    let (a, contact) ← f original
    return ((a, guardDrop original contact), contact)
  match guarded with
  | (none, inner) => return (none, { self with inner })
  | (some (a, events), inner) => return (some a, { inner, events := self.events ++ events })

/-- Whether a split is taken to have changed the bucket that was split: some contact has a path
different from that of the contact it is paired with.  Contacts that are left over are not
compared. -/
def bucketChanged (bucketOld bucketNew : Bucket k) : Bool :=
  (bucketOld.contacts.zip bucketNew.contacts).any fun p ↦ p.1.path != p.2.path

def splitBucket (self : ObservableRoutingTable T) (id : NodeId) :
    Run (Except BucketSplitError Nat × ObservableRoutingTable T) := do
  let bucketOld := RoutingTable.bucket self.inner id
  match ← RoutingTable.splitBucket self.inner id with
  | (.error err, inner) => return (.error err, { self with inner })
  | (.ok index, inner) =>
    let bucketNew ← RoutingTable.bucketByIndex inner index
    let updated :=
      if bucketChanged bucketOld bucketNew then notifyAll (.updatedBucket index) else []
    return (.ok index,
      { inner, events := self.events ++ (updated ++ notifyAll (.newBucket (index + 1))) })

def iterMut (self : ObservableRoutingTable T) (f : Contact → Contact) : ObservableRoutingTable T :=
  { inner := RoutingTable.iterMut self.inner f
    events := self.events ++ (RoutingTable.iter self.inner).flatMap fun c ↦ guardDrop c (f c) }

instance : RoutingTable (ObservableRoutingTable T) k where
  root self := RoutingTable.root self.inner
  add := add
  remove := remove
  replace := replace
  contact self := RoutingTable.contact self.inner
  contactMut := contactMut
  contains self := RoutingTable.contains self.inner
  splitBucket := splitBucket
  bucket self := RoutingTable.bucket self.inner
  bucketByIndex self := RoutingTable.bucketByIndex self.inner
  getBucketIndex self := RoutingTable.getBucketIndex self.inner
  getBucketPrefixLength self := RoutingTable.getBucketPrefixLength self.inner
  closest self := RoutingTable.closest self.inner
  iter self := RoutingTable.iter self.inner
  iterMut := iterMut

/-! ## What is reported -/

variable {self self' : ObservableRoutingTable T}

theorem add_cases {c : Contact} {r : Except AddError Unit} (h : self.add c = .ok (r, self')) :
    RoutingTable.add self.inner c = .ok (r, self'.inner) ∧
      self'.events = self.events ++
        (match r with | .ok () => [.newContact c] | .error _ => []) := by
  obtain ⟨⟨r₁, inner⟩, hadd, h⟩ := of_bind h
  cases r₁ with
  | error err =>
    cases h
    exact ⟨hadd, by simp⟩
  | ok u =>
    obtain ⟨rfl, rfl⟩ : .ok () = r ∧ ⟨inner, self.events ++ [.newContact c]⟩ = self' := by
      simpa [notifyAll, RoutingTableEvent.isNoticed] using h
    exact ⟨hadd, rfl⟩

theorem remove_cases (self : ObservableRoutingTable T) (id : NodeId) :
    (self.remove id).1 = (RoutingTable.remove self.inner id).1 ∧
      (self.remove id).2.inner = (RoutingTable.remove self.inner id).2 ∧
      (self.remove id).2.events = self.events ++
        (RoutingTable.remove self.inner id).1.toList.map .removedContact := by
  rw [remove]
  cases h : RoutingTable.remove self.inner id with
  | mk removed inner =>
    cases removed with
    | none => exact ⟨rfl, rfl, (List.append_nil _).symm⟩
    | some c => exact ⟨rfl, rfl, rfl⟩

theorem replace_cases (self : ObservableRoutingTable T) (id : NodeId) (c : Contact) :
    (self.replace id c).1 = (RoutingTable.replace self.inner id c).1 ∧
      (self.replace id c).2.inner = (RoutingTable.replace self.inner id c).2 ∧
      (self.replace id c).2.events = self.events ++
        (match (RoutingTable.replace self.inner id c).1 with
          | .ok old => notifyAll (.updatedContact c old) | .error _ => []) := by
  rw [replace]
  cases h : RoutingTable.replace self.inner id c with
  | mk r inner =>
    cases r with
    | error err => exact ⟨rfl, rfl, (List.append_nil _).symm⟩
    | ok old => exact ⟨rfl, rfl, rfl⟩

theorem splitBucket_cases {id : NodeId}
    {r : Except BucketSplitError Nat} (h : self.splitBucket id = .ok (r, self')) :
    RoutingTable.splitBucket self.inner id = .ok (r, self'.inner) ∧
      ((∃ err, r = .error err) ∧ self'.events = self.events ∨
        ∃ i b, r = .ok i ∧ RoutingTable.bucketByIndex self'.inner i = .ok b ∧
          self'.events = self.events ++
            ((if bucketChanged (RoutingTable.bucket self.inner id)
              b then [.updatedBucket i] else []) ++
              [.newBucket (i + 1)])) := by
  obtain ⟨⟨r₁, inner⟩, hsplit, h⟩ := of_bind h
  cases r₁ with
  | error err =>
    cases h
    exact ⟨hsplit, .inl ⟨⟨err, rfl⟩, rfl⟩⟩
  | ok i =>
    obtain ⟨b, hb, h⟩ := of_bind h
    cases h
    exact ⟨hsplit, .inr ⟨i, b, rfl, hb, rfl⟩⟩

theorem insert_inner {c : Contact}
    {r : Except InsertionError Unit} (h : RoutingTable.insert self c = .ok (r, self')) :
    RoutingTable.insert self.inner c = .ok (r, self'.inner) := by
  unfold RoutingTable.insert at h ⊢
  generalize NodeId.BITS + 1 = rounds at h ⊢
  induction rounds generalizing self with
  | zero => simp [insertRounds] at h
  | succ rounds ih =>
    rw [insertRounds] at h ⊢
    obtain ⟨⟨ra, t₁⟩, hadd, h⟩ := of_bind h
    rw [(add_cases hadd).1, ok_bind]
    cases ra with
    | ok =>
      cases h
      rfl
    | error err =>
      cases err with
      | needsValidation | alreadyExists id =>
        cases h
        rfl
      | notAdded =>
        obtain ⟨⟨rs, t₂⟩, hsplit, h⟩ := of_bind h
        simp only [(splitBucket_cases hsplit).1, ok_bind]
        cases rs with
        | error err =>
          cases h
          rfl
        | ok i => exact ih h

/-- An insertion reports splits, and then the contact if it was stored. -/
theorem insert_events {c : Contact}
    {r : Except InsertionError Unit} (h : RoutingTable.insert self c = .ok (r, self')) :
    ∃ buckets : List RoutingTableEvent, (∀ e ∈ buckets, e.isBucket = true) ∧
      self'.events = self.events ++
        (buckets ++ match r with | .ok () => [.newContact c] | .error _ => []) := by
  let P (t : ObservableRoutingTable T) : Prop := ∃ buckets : List RoutingTableEvent,
    (∀ e ∈ buckets, e.isBucket = true) ∧ t.events = self.events ++ buckets
  have hsplit : ∀ {t t' : ObservableRoutingTable T} {r : Except BucketSplitError Nat}, P t →
      t.splitBucket c.id = .ok (r, t') → P t' := by
    rintro t t' r ⟨buckets, hbuckets, hevents⟩ hsplit
    rcases (splitBucket_cases hsplit).2 with ⟨-, hsame⟩ | ⟨i, b, -, -, hmore⟩
    · exact ⟨buckets, hbuckets, hsame.trans hevents⟩
    · refine ⟨_, ?_, by rw [hmore, hevents, List.append_assoc]⟩
      intro e he
      rcases List.mem_append.1 he with he | he
      · exact hbuckets e he
      · rcases List.mem_append.1 he with he | he
        · split at he
          · rw [List.mem_singleton.1 he]
            rfl
          · simp at he
        · rw [List.mem_singleton.1 he]
          rfl
  have hadd : ∀ {t t' : ObservableRoutingTable T} {err : AddError}, P t →
      t.add c = .ok (.error err, t') → P t' := by
    rintro t t' err ⟨buckets, hbuckets, hevents⟩ hadd
    exact ⟨buckets, hbuckets, by rw [(add_cases hadd).2, hevents, List.append_nil]⟩
  have hround : ∀ t t₁ t₂, P t → RoutingTable.add t c = .ok (.error .notAdded, t₁) →
      RoutingTable.splitBucket t₁ c.id = .ok t₂ → P t₂.2 :=
    fun t t₁ t₂ ht hadd' hsplit' ↦ hsplit (hadd ht hadd') hsplit'
  rcases insertRounds_induction hround _ self ⟨[], by simp, by simp⟩ h with
    ⟨t, ⟨buckets, hbuckets, hevents⟩, hok, rfl⟩ | ⟨t, err, ht, herr, -, rfl⟩ |
    ⟨t, t₁, err, ht, herr, hfail, rfl⟩
  · refine ⟨buckets, hbuckets, ?_⟩
    rw [(add_cases hok).2, hevents, List.append_assoc]
  · obtain ⟨buckets, hbuckets, hevents⟩ := hadd ht herr
    exact ⟨buckets, hbuckets, by rw [hevents, List.append_nil]⟩
  · obtain ⟨buckets, hbuckets, hevents⟩ := hsplit (hadd ht herr) hfail
    exact ⟨buckets, hbuckets, by rw [hevents, List.append_nil]⟩

/-! ## The laws -/

variable [LawfulRoutingTable T k]

open LawfulRoutingTable

def write (self : ObservableRoutingTable T) (id : NodeId) (c : Contact) :
    ObservableRoutingTable T :=
  { inner := LawfulRoutingTable.write self.inner id c
    events := self.events ++ match RoutingTable.contact self.inner id with
      | some original => guardDrop original c
      | none => [] }

theorem contactMut_eq {α : Type} (self : ObservableRoutingTable T) (id : NodeId)
    (f : Contact → Run (α × Contact)) :
    self.contactMut id f = match RoutingTable.contact self.inner id with
      | none => .ok (none, self)
      | some c => f c >>= fun p ↦ .ok (some p.1, self.write id p.2) := by
  rw [contactMut, LawfulRoutingTable.contactMut_eq]
  cases hc : RoutingTable.contact self.inner id with
  | none => rfl
  | some original =>
    cases hf : f original with
    | panic msg => simp [hf]
    | ok p => simp [hf, write, hc]

instance : LawfulRoutingTable (ObservableRoutingTable T) k where
  Tidy self := Tidy self.inner
  write := write
  contactMut_eq := contactMut_eq
  contains_eq self := contains_eq self.inner
  mem_of_contact h := LawfulRoutingTable.mem_of_contact (T := T) h
  mem_add h := mem_add (T := T) (add_cases h).1
  mem_splitBucket h := mem_splitBucket (T := T) (splitBucket_cases h).1
  mem_write self id c := mem_write self.inner id c
  mem_remove self id := by
    have h := mem_remove self.inner id
    rwa [← (remove_cases self id).2.1] at h
  mem_replace self id c := by
    have h := mem_replace self.inner id c
    rwa [← (replace_cases self id c).2.1] at h
  mem_iterMut self f := mem_iterMut self.inner f
  mem_closest h := mem_closest (T := T) h
  contact_eq_some_iff ht := contact_eq_some_iff (T := T) ht
  mem_bucket ht h := mem_bucket (T := T) ht h
  mem_bucketByIndex h := mem_bucketByIndex (T := T) h
  nodup_iter ht := nodup_iter (T := T) ht
  bucket_congr h := bucket_congr (T := T) h
  add_effect ht h := add_effect (T := T) ht (add_cases h).1
  splitBucket_effect ht h := splitBucket_effect (T := T) ht (splitBucket_cases h).1
  write_effect ht h hfits := write_effect (T := T) ht h hfits
  remove_effect {self} ht id := by
    have h := remove_effect (T := T) ht id
    rwa [← (remove_cases self id).1, ← (remove_cases self id).2.1] at h
  iterMut_effect ht hf := iterMut_effect (T := T) ht hf

theorem write_events {id : NodeId} {original : Contact}
    (h : RoutingTable.contact self.inner id = some original) (c : Contact) :
    (LawfulRoutingTable.write self id c).events = self.events ++ guardDrop original c := by
  show self.events ++ _ = _
  rw [h]

end ObservableRoutingTable

end Kira
