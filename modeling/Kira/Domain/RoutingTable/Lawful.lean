import Kira.Domain.RoutingTable

/-!
# What a routing table is for

Seen from outside, a routing table is a map from ids to contacts.  `Contents` is that map, and
`LawfulRoutingTable` says how the operations of an implementation act on it.

* **For every table**, whatever state callers have brought it into: an operation stores no other
  contact than the one it was given or the one a writer left behind.
* **For a tidy table**: lookup and iteration agree, and every operation is the corresponding update
  of the map.  What tidy means is up to the implementation.  The laws also say which writes keep a
  table tidy (`Fits`): a writer may change everything about a contact but its id, or put a contact
  that is not stored yet into the place of another one of the same bucket.

`insert` is derived from `add` and `splitBucket`, so its laws are derived here, once for all tables
(`insert_effect`, `mem_insert`).  At the end are sequences of operations: `TableOp` with its step
function, and the rule that a run of well-behaved operations ends in a tidy table (`tidy_of_run`).
-/

set_option autoImplicit false

namespace Kira

open Run RoutingTable

/-- What a table stores, as a map from ids. -/
abbrev Contents := NodeId → Option Contact

/-- What an addition does to the contents.  Usually a failed one does nothing; but a table may let
go of a contact that is not valid in order to make room, and fail all the same. -/
inductive AddEffect (m : Contents) (c : Contact) : Except AddError Unit → Contents → Prop
  | stored (h : ∀ old, m c.id = some old → c.isUln = true ∨ old.isValid = false) :
      AddEffect m c (.ok ()) (Function.update m c.id (some c))
  | refused (err : AddError) (h : (m c.id).isSome = true ↔ ∃ id, err = .alreadyExists id) :
      AddEffect m c (.error err) m
  | dropped {old : Contact} (err : AddError) (herr : ∀ id, err ≠ .alreadyExists id)
      (h : m c.id = some old) (hold : old.isValid = false) (hc : c.isUln = false) :
      AddEffect m c (.error err) (Function.update m c.id none)

variable {c : Contact}

theorem AddEffect.isSome_iff {m m' : Contents} {err : AddError}
    (h : AddEffect m c (.error err) m') :
    (m' c.id).isSome = true ↔ ∃ id, err = .alreadyExists id := by
  cases h with
  | refused _ h => exact h
  | dropped _ h => simp [h]

theorem AddEffect.replaces {m m' : Contents} (h : AddEffect m c (.ok ()) m') :
    ∀ old, m c.id = some old → c.isUln = true ∨ old.isValid = false := by
  cases h with
  | stored h => exact h

/-- What an insertion does to the contents: the same, with splits in between. -/
inductive InsertEffect (m : Contents) (c : Contact) : Except InsertionError Unit → Contents → Prop
  | stored (h : ∀ old, m c.id = some old → c.isUln = true ∨ old.isValid = false) :
      InsertEffect m c (.ok ()) (Function.update m c.id (some c))
  | refused (err : InsertionError)
      (h : (m c.id).isSome = true ↔ ∃ id, err = .add (.alreadyExists id)) :
      InsertEffect m c (.error err) m
  | dropped {old : Contact} (err : InsertionError) (herr : ∀ id, err ≠ .add (.alreadyExists id))
      (h : m c.id = some old) (hold : old.isValid = false) (hc : c.isUln = false) :
      InsertEffect m c (.error err) (Function.update m c.id none)

theorem InsertEffect.isSome_iff {m m' : Contents} {err : InsertionError}
    (h : InsertEffect m c (.error err) m') :
    (m' c.id).isSome = true ↔ ∃ id, err = .add (.alreadyExists id) := by
  cases h with
  | refused _ h => exact h
  | dropped _ h => simp [h]

/-- The contents after a writer has put `c` into the place of the contact with this id. -/
def Contents.written (m : Contents) (id : NodeId) (c : Contact) : Contents :=
  Function.update (Function.update m id none) c.id (some c)

theorem Contents.written_self (m : Contents) {id : NodeId} (h : c.id = id) :
    m.written id c = Function.update m id (some c) := by
  rw [written, h, Function.update_idem]

/-- A contact may be written into the place of the contact with this id: the id stays, or the place
is in a bucket in which the new contact belongs as well. -/
def Fits {T : Type} {k : Nat} [RoutingTable T k] (t : T) (id : NodeId) (c : Contact) : Prop :=
  c.id = id ∨ ((∃ old ∈ (bucket t id).contacts, old.id = id) ∧
    getBucketIndex t c.id = getBucketIndex t id ∧ contact t c.id = none)

/-- The laws of a routing table. -/
class LawfulRoutingTable (T : Type) (k : outParam Nat) [RoutingTable T k] where
  Tidy : T → Prop
  write : T → NodeId → Contact → T
  contactMut_eq {α : Type} (t : T) (id : NodeId) (f : Contact → Run (α × Contact)) :
    contactMut t id f = match contact t id with
      | none => .ok (none, t)
      | some c => f c >>= fun p ↦ .ok (some p.1, write t id p.2)
  contains_eq (t : T) (id : NodeId) : contains t id = (contact t id).isSome
  mem_of_contact {t : T} {id : NodeId} {c : Contact} : contact t id = some c → c ∈ iter t
  /-- An addition stores no contact but the one it was given. -/
  mem_add {t t' : T} {c : Contact} {r : Except AddError Unit} : add t c = .ok (r, t') →
    root t' = root t ∧ ∀ x ∈ iter t', x = c ∨ x ∈ iter t
  /-- A split keeps what is stored. -/
  mem_splitBucket {t t' : T} {id : NodeId} {r : Except BucketSplitError Nat} :
    splitBucket t id = .ok (r, t') → root t' = root t ∧ ∀ x, x ∈ iter t' ↔ x ∈ iter t
  /-- A writer stores no contact but the one it leaves behind. -/
  mem_write (t : T) (id : NodeId) (c : Contact) :
    root (write t id c) = root t ∧ ∀ x ∈ iter (write t id c), x = c ∨ x ∈ iter t
  mem_remove (t : T) (id : NodeId) :
    root (remove t id).2 = root t ∧ ∀ x ∈ iter (remove t id).2, x ∈ iter t
  mem_replace (t : T) (id : NodeId) (c : Contact) :
    root (replace t id c).2 = root t ∧ ∀ x ∈ iter (replace t id c).2, x = c ∨ x ∈ iter t
  mem_iterMut (t : T) (f : Contact → Contact) :
    root (iterMut t f) = root t ∧ iter (iterMut t f) = (iter t).map f
  /-- A search returns valid contacts, with their shared prefix to the target. -/
  mem_closest {t : T} {target : NodeId} {n : Nat} {g : NonZeroU8} {res : List PrefixContact} :
    closest t target n g = .ok (.ok res) →
      g.get ≤ NodeId.BITS ∧ ∀ x ∈ res, x ∈ candidatesOf (iter t) target g.get
  contact_eq_some_iff {t : T} {id : NodeId} {c : Contact} (ht : Tidy t) :
    contact t id = some c ↔ c ∈ iter t ∧ c.id = id
  mem_bucket {t : T} {id : NodeId} {c : Contact} (ht : Tidy t) : c ∈ (bucket t id).contacts →
    c ∈ iter t ∧ getBucketIndex t c.id = getBucketIndex t id
  mem_bucketByIndex {t : T} {i : Nat} {b : Bucket k} {c : Contact} :
    bucketByIndex t i = .ok b → c ∈ b.contacts → c ∈ iter t
  nodup_iter {t : T} (ht : Tidy t) : ((iter t).map Contact.id).Nodup
  bucket_congr {t : T} {a b : NodeId} : getBucketIndex t a = getBucketIndex t b →
    bucket t a = bucket t b
  add_effect {t t' : T} {c : Contact} {r : Except AddError Unit} (ht : Tidy t) :
    add t c = .ok (r, t') → Tidy t' ∧ AddEffect (contact t) c r (contact t')
  splitBucket_effect {t t' : T} {id : NodeId} {r : Except BucketSplitError Nat} (ht : Tidy t) :
    splitBucket t id = .ok (r, t') → Tidy t' ∧ contact t' = contact t
  write_effect {t : T} {id : NodeId} {c old : Contact} (ht : Tidy t) (h : contact t id = some old)
    (hfits : Fits t id c) :
    Tidy (write t id c) ∧ contact (write t id c) = Contents.written (contact t) id c
  remove_effect {t : T} (ht : Tidy t) (id : NodeId) : (remove t id).1 = contact t id ∧
    Tidy (remove t id).2 ∧ contact (remove t id).2 = Function.update (contact t) id none
  iterMut_effect {t : T} {f : Contact → Contact} (ht : Tidy t)
    (hf : ∀ c ∈ iter t, (f c).id = c.id) :
    Tidy (iterMut t f) ∧ ∀ id, contact (iterMut t f) id = (contact t id).map f

namespace LawfulRoutingTable

variable {T : Type} {k : Nat} [RoutingTable T k] [LawfulRoutingTable T k]

variable {c : Contact}

theorem contact_id {t : T} (ht : Tidy t) {id : NodeId} (h : contact t id = some c) :
    c.id = id :=
  ((contact_eq_some_iff ht).1 h).2

theorem contact_of_mem {t : T} (ht : Tidy t) (h : c ∈ iter t) :
    contact t c.id = some c :=
  (contact_eq_some_iff ht).2 ⟨h, rfl⟩

theorem contactMut_cases {α : Type} {t t' : T} {id : NodeId} {f : Contact → Run (α × Contact)}
    {a : Option α} (h : contactMut t id f = .ok (a, t')) :
    (contact t id = none ∧ a = none ∧ t' = t) ∨
    (∃ c a' c', contact t id = some c ∧ f c = .ok (a', c') ∧ a = some a' ∧ t' = write t id c') := by
  rw [contactMut_eq] at h
  cases hc : contact t id with
  | none =>
    rw [hc] at h
    cases h
    exact .inl ⟨rfl, rfl, rfl⟩
  | some c =>
    rw [hc] at h
    obtain ⟨⟨a', c'⟩, hf, h⟩ := of_bind h
    cases h
    exact .inr ⟨c, a', c', rfl, hf, rfl, rfl⟩

/-! ## Inserting -/

theorem mem_insert {t t' : T} {r : Except InsertionError Unit}
    (h : RoutingTable.insert t c = .ok (r, t')) :
    root t' = root t ∧ ∀ x ∈ iter t', x = c ∨ x ∈ iter t := by
  -- splits alone, and failed additions, leave at most the contact itself behind
  have hsplit : ∀ (s r : T) s', (root s = root t ∧ ∀ x ∈ iter s, x = c ∨ x ∈ iter t) →
      add s c = .ok (.error .notAdded, r) → splitBucket r c.id = .ok s' →
      (root s'.2 = root t ∧ ∀ x ∈ iter s'.2, x = c ∨ x ∈ iter t) := by
    rintro s r s' ⟨hroot, hs⟩ hadd hsplit
    have h1 := mem_add hadd
    have h2 := mem_splitBucket hsplit
    refine ⟨h2.1.trans (h1.1.trans hroot), ?_⟩
    intro x hx
    rcases h1.2 x ((h2.2 x).1 hx) with rfl | hx
    · exact .inl rfl
    · exact hs x hx
  rcases insertRounds_induction hsplit _ t ⟨rfl, fun x hx ↦ .inr hx⟩ h with
    ⟨t₁, ⟨hroot, hP⟩, hadd, -⟩ | ⟨t₁, err, ⟨hroot, hP⟩, hadd, -, -⟩ |
    ⟨t₁, t₂, err, ⟨hroot, hP⟩, hadd, hfail, -⟩
  · exact ⟨(mem_add hadd).1.trans hroot, fun x hx ↦
      ((mem_add hadd).2 x hx).elim .inl (hP x)⟩
  · exact ⟨(mem_add hadd).1.trans hroot, fun x hx ↦
      ((mem_add hadd).2 x hx).elim .inl (hP x)⟩
  · refine ⟨(mem_splitBucket hfail).1.trans ((mem_add hadd).1.trans hroot), fun x hx ↦ ?_⟩
    exact ((mem_add hadd).2 x (((mem_splitBucket hfail).2 x).1 hx)).elim .inl (hP x)

/-- The contents on the way through an insertion: those of the start, or without the contact that
had to go. -/
inductive Underway (m : Contents) (c : Contact) : Contents → Prop
  | unchanged : Underway m c m
  | dropped {old : Contact} (h : m c.id = some old) (hold : old.isValid = false)
      (hc : c.isUln = false) : Underway m c (Function.update m c.id none)

theorem Underway.add_error {m m₁ m₂ : Contents} (h : Underway m c m₁) {err : AddError}
    (heff : AddEffect m₁ c (.error err) m₂) : Underway m c m₂ := by
  cases h with
  | unchanged =>
    cases heff with
    | refused => exact .unchanged
    | dropped _ _ hold hinv hc => exact .dropped hold hinv hc
  | dropped hold hinv hc =>
    cases heff with
    | refused => exact .dropped hold hinv hc
    | dropped _ _ hold' => simp at hold'

theorem Underway.stored {m m₁ m₂ : Contents} (h : Underway m c m₁)
    (heff : AddEffect m₁ c (.ok ()) m₂) : InsertEffect m c (.ok ()) m₂ := by
  cases h with
  | unchanged =>
    cases heff with
    | stored hold => exact .stored hold
  | dropped hold hinv hc =>
    cases heff with
    | stored =>
      rw [Function.update_idem]
      refine .stored ?_
      intro old h
      obtain rfl := Option.some.inj (hold.symm.trans h)
      exact .inr hinv

theorem Underway.insertEffect {m m₁ : Contents} (h : Underway m c m₁) {err : InsertionError}
    (herr : (m₁ c.id).isSome = true ↔ ∃ id, err = .add (.alreadyExists id)) :
    InsertEffect m c (.error err) m₁ := by
  cases h with
  | unchanged => exact .refused err herr
  | dropped hold hinv hc =>
    refine .dropped err ?_ hold hinv hc
    simpa using herr

/-- **What an insertion does**: it stores the contact, or it refuses it, with or without letting go
of a contact that was not valid. -/
theorem insert_effect {t t' : T} (ht : Tidy t) {r : Except InsertionError Unit}
    (h : RoutingTable.insert t c = .ok (r, t')) :
    Tidy t' ∧ InsertEffect (contact t) c r (contact t') := by
  have hsplit : ∀ (s r : T) s', (Tidy s ∧ Underway (contact t) c (contact s)) →
      add s c = .ok (.error .notAdded, r) → splitBucket r c.id = .ok s' →
      (Tidy s'.2 ∧ Underway (contact t) c (contact s'.2)) := by
    rintro s r s' ⟨hs, hu⟩ hadd hsplit
    obtain ⟨h1, heff⟩ := add_effect hs hadd
    obtain ⟨h2, heq⟩ := splitBucket_effect h1 hsplit
    exact ⟨h2, heq ▸ hu.add_error heff⟩
  rcases insertRounds_induction hsplit _ t ⟨ht, .unchanged⟩ h with
    ⟨t₁, ⟨hs, hu⟩, hadd, rfl⟩ | ⟨t₁, err, ⟨hs, hu⟩, hadd, -, rfl⟩ |
    ⟨t₁, t₂, err, ⟨hs, hu⟩, hadd, hfail, rfl⟩
  · obtain ⟨h1, heff⟩ := add_effect hs hadd
    exact ⟨h1, hu.stored heff⟩
  · obtain ⟨h1, heff⟩ := add_effect hs hadd
    refine ⟨h1, (hu.add_error heff).insertEffect ?_⟩
    simpa using heff.isSome_iff
  · obtain ⟨h1, heff⟩ := add_effect hs hadd
    obtain ⟨h2, heq⟩ := splitBucket_effect h1 hfail
    refine ⟨h2, heq ▸ (hu.add_error heff).insertEffect ?_⟩
    simpa using heff.isSome_iff

end LawfulRoutingTable

/-! ## Sequences of operations -/

/-- The operations of a routing table.  A writer is any function on contacts. -/
inductive TableOp where
  | add (c : Contact)
  | insert (c : Contact)
  | splitBucket (id : NodeId)
  | remove (id : NodeId)
  | replace (id : NodeId) (c : Contact)
  | modify (id : NodeId) (f : Contact → Contact)
  | modifyAll (f : Contact → Contact)

namespace TableOp

variable {T : Type} {k : Nat} [RoutingTable T k]

def apply (t : T) : TableOp → Run T
  | .add c => do
    let (_, t) ← RoutingTable.add t c
    return t
  | .insert c => do
    let (_, t) ← RoutingTable.insert t c
    return t
  | .splitBucket id => do
    let (_, t) ← RoutingTable.splitBucket t id
    return t
  | .remove id => return (RoutingTable.remove t id).2
  | .replace id c => return (RoutingTable.replace t id c).2
  | .modify id f => do
    let (_, t) ← contactMut t id fun c ↦ .ok ((), f c)
    return t
  | .modifyAll f => return iterMut t f

/-- The operation keeps every contact in its place: writers leave the id alone, or exchange the
contact for one that belongs into the same bucket; a replacement is up to the table. -/
def WellBehaved (replaceable : T → NodeId → Contact → Prop) (t : T) : TableOp → Prop
  | .replace id c => replaceable t id c
  | .modify id f => ∀ c, contact t id = some c → Fits t id (f c)
  | .modifyAll f => ∀ c ∈ iter t, (f c).id = c.id
  | _ => True

/-- The contact is one that the operation may store. -/
def Brings (t : T) (x : Contact) : TableOp → Prop
  | .add c => x = c
  | .insert c => x = c
  | .replace _ c => x = c
  | .modify id f => ∃ c, contact t id = some c ∧ x = f c
  | .modifyAll f => ∃ c ∈ iter t, f c = x
  | _ => False

/-- The operations of a caller who adds, splits and removes, never stores the root, and only writes
to contacts in a way that leaves their ids alone, as every change of their state does. -/
def KeepsIds (t : T) : TableOp → Prop
  | .add c => c.id ≠ root t
  | .insert c => c.id ≠ root t
  | .replace _ _ => False
  | .modify _ f => ∀ c, (f c).id = c.id
  | .modifyAll f => ∀ c, (f c).id = c.id
  | _ => True

variable [LawfulRoutingTable T k]

open LawfulRoutingTable

/-- What an operation has done to a table when it returns. -/
inductive Applied (t : T) : TableOp → T → Prop
  | add {c : Contact} {r : Except AddError Unit} {t' : T} (h : RoutingTable.add t c = .ok (r, t')) :
      Applied t (.add c) t'
  | insert {c : Contact} {r : Except InsertionError Unit} {t' : T}
      (h : RoutingTable.insert t c = .ok (r, t')) : Applied t (.insert c) t'
  | splitBucket {id : NodeId} {r : Except BucketSplitError Nat} {t' : T}
      (h : RoutingTable.splitBucket t id = .ok (r, t')) : Applied t (.splitBucket id) t'
  | remove (id : NodeId) : Applied t (.remove id) (RoutingTable.remove t id).2
  | replace (id : NodeId) (c : Contact) : Applied t (.replace id c) (RoutingTable.replace t id c).2
  | absent {id : NodeId} {f : Contact → Contact} : Applied t (.modify id f) t
  | modify {id : NodeId} {f : Contact → Contact} {c : Contact} (h : contact t id = some c) :
      Applied t (.modify id f) (write t id (f c))
  | modifyAll (f : Contact → Contact) : Applied t (.modifyAll f) (iterMut t f)

variable {op : TableOp} {t : T}

theorem applied_of_apply {t' : T} (h : op.apply t = .ok t') : Applied t op t' := by
  cases op with
  | add c =>
    obtain ⟨⟨r, t₁⟩, hadd, h⟩ := of_bind h
    cases h
    exact .add hadd
  | insert c =>
    obtain ⟨⟨r, t₁⟩, hins, h⟩ := of_bind h
    cases h
    exact .insert hins
  | splitBucket id =>
    obtain ⟨⟨r, t₁⟩, hsplit, h⟩ := of_bind h
    cases h
    exact .splitBucket hsplit
  | modify id f =>
    obtain ⟨⟨a, t₁⟩, hmut, h⟩ := of_bind h
    cases h
    rcases contactMut_cases hmut with ⟨-, -, rfl⟩ | ⟨c, u, c', hc, hf, -, rfl⟩
    · exact .absent
    · cases hf
      exact .modify hc
  | remove id =>
    cases h
    exact .remove id
  | replace id c =>
    cases h
    exact .replace id c
  | modifyAll f =>
    cases h
    exact .modifyAll f

/-- **Whatever is stored after an operation** was stored before or has been brought by it. -/
theorem mem_apply {t' : T} (h : op.apply t = .ok t') :
    root t' = root t ∧ ∀ x ∈ iter t', op.Brings t x ∨ x ∈ iter t := by
  cases applied_of_apply h with
  | add h => exact mem_add h
  | insert h => exact mem_insert h
  | splitBucket h => exact ⟨(mem_splitBucket h).1, fun x hx ↦ .inr (((mem_splitBucket h).2 x).1 hx)⟩
  | remove id => exact ⟨(mem_remove t id).1, fun x hx ↦ .inr ((mem_remove t id).2 x hx)⟩
  | replace id c => exact mem_replace t id c
  | absent => exact ⟨rfl, fun x hx ↦ .inr hx⟩
  | modify hc =>
    refine ⟨(mem_write t _ _).1, fun x hx ↦ ?_⟩
    exact ((mem_write t _ _).2 x hx).imp_left fun h ↦ ⟨_, hc, h⟩
  | modifyAll f =>
    refine ⟨(mem_iterMut t f).1, fun x hx ↦ ?_⟩
    rw [(mem_iterMut t f).2, List.mem_map] at hx
    obtain ⟨c, hc, rfl⟩ := hx
    exact .inl ⟨c, hc, rfl⟩

/-- **Well-behaved operations keep a table tidy**, if replacements do. -/
theorem tidy_apply {replaceable : T → NodeId → Contact → Prop}
    (hreplace : ∀ (t : T) id c, Tidy t → replaceable t id c → Tidy (RoutingTable.replace t id c).2)
    {t' : T} (ht : Tidy t) (hop : op.WellBehaved replaceable t)
    (h : op.apply t = .ok t') : Tidy t' := by
  cases applied_of_apply h with
  | add h => exact (add_effect ht h).1
  | insert h => exact (insert_effect ht h).1
  | splitBucket h => exact (splitBucket_effect ht h).1
  | remove id => exact (remove_effect ht id).2.1
  | replace id c => exact hreplace t id c ht hop
  | absent => exact ht
  | modify hc => exact (write_effect ht hc (hop _ hc)).1
  | modifyAll f => exact (iterMut_effect ht hop).1

/-- **A run of well-behaved operations ends in a tidy table.** -/
theorem tidy_of_run {replaceable : T → NodeId → Contact → Prop}
    (hreplace : ∀ (t : T) id c, Tidy t → replaceable t id c → Tidy (RoutingTable.replace t id c).2)
    {t₀ : T} (h₀ : Tidy t₀) (h : Reachable apply (WellBehaved replaceable) t₀ t) : Tidy t :=
  h.invariant h₀ fun _ _ _ ht hop hstep ↦ tidy_apply hreplace ht hop hstep

theorem KeepsIds.wellBehaved (ht : Tidy t) (h : op.KeepsIds t)
    (replaceable : T → NodeId → Contact → Prop) : op.WellBehaved replaceable t := by
  cases op with
  | replace id c => exact absurd h (by simp [KeepsIds])
  | modify id f =>
    intro c hc
    exact .inl ((h c).trans (contact_id ht hc))
  | modifyAll f => exact fun c _ ↦ h c
  | add c | insert c | splitBucket id | remove id => trivial

theorem KeepsIds.ne_root (hroot : ∀ c ∈ iter t, c.id ≠ root t)
    (h : op.KeepsIds t) {x : Contact} (hx : op.Brings t x) : x.id ≠ root t := by
  cases op with
  | add c | insert c => exact hx ▸ h
  | replace id c => exact absurd h (by simp [KeepsIds])
  | modify id f =>
    obtain ⟨c, hc, rfl⟩ := hx
    rw [h c]
    exact hroot c (mem_of_contact hc)
  | modifyAll f =>
    obtain ⟨c, hc, rfl⟩ := hx
    rw [h c]
    exact hroot c hc
  | splitBucket id | remove id => exact absurd hx (by simp [Brings])

/-- A tidy table that does not store its root. -/
structure Healthy (t : T) : Prop where
  tidy : Tidy t
  rootFree : ∀ c ∈ iter t, c.id ≠ root t

theorem Healthy.apply {t' : T} (ht : Healthy t) (hop : op.KeepsIds t)
    (h : op.apply t = .ok t') : Healthy t' := by
  obtain ⟨hroot, hmem⟩ := mem_apply h
  have hgood : op.WellBehaved (fun _ _ _ ↦ False) t := hop.wellBehaved ht.tidy _
  refine ⟨tidy_apply (by simp) ht.tidy hgood h, ?_⟩
  intro x hx
  rw [hroot]
  exact (hmem x hx).elim (hop.ne_root ht.rootFree) (ht.rootFree x)

/-- **A run that keeps the ids** ends in a tidy table that does not store its root. -/
theorem healthy_of_run {t₀ : T} (h₀ : Healthy t₀) (h : Reachable apply KeepsIds t₀ t) :
    Healthy t :=
  h.invariant h₀ fun _ _ _ ht hop hstep ↦ ht.apply hop hstep

end TableOp

end Kira
