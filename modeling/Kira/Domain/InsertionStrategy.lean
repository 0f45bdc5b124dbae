import Kira.Domain.PathSimplifier

/-!
# The insertion strategy

Contacts learnt from messages do not go into the routing table directly.  `UNSStrategy.insert` first
refuses what is of no use (a contact in a state that makes no claim about its path, the node itself,
a path through the node itself or over a first hop that is not a neighbour), rewrites the path
(`prepare`), and then

* stores the contact, if the table takes it;
* updates the contact that the table has under this id already (`updateExisting`);
* displaces a contact with a longer path from a full bucket (`replaceInFullBucket`).

A contact in state `Unknown` is never stored; it can only update a contact that is there.

`Outcome` lists everything that can come of this, and `insert_cases` shows that the list is
complete.  All that is proved about the strategy is proved from that list, for every lawful routing
table.
-/

set_option autoImplicit false

namespace Kira

open Run RoutingTable

/-- What became of the contact. -/
inductive InsertionStrategyResult where
  | dropped
  | inserted
  | replaced (id : NodeId)
  | updated
  | needsValidation
  deriving DecidableEq, Repr

namespace UNSStrategy

/-- What an insertion depends on besides the contact and the table: the order of paths, the underlay
neighbour table, and the readings of the clock during the call. -/
structure Context where
  order : PathOrder
  ulnContains : NodeId → Bool
  /-- When a path is found to be a single hop. -/
  validated : Timestamp
  /-- When the age of the new information is taken. -/
  ageContact : Timestamp
  /-- When the age of the stored contact is taken. -/
  ageExisting : Timestamp
  /-- When a proposed path is promoted. -/
  promoted : Timestamp

variable {T : Type} {k : Nat} [RoutingTable T k]

/-- Takes the path of `contact` over into the stored contact, unless that knows better. -/
def updateContact (ctx : Context) (contact existing : Contact) :
    Run (InsertionStrategyResult × Contact) := do
  assert (existing.id == contact.id) "Returned contact has to have same id"
  if contact.isOlderThan ctx.ageContact ctx.ageExisting existing then
    return (.dropped, existing)
  else if existing.stateSeqNr.val ≤ contact.stateSeqNr.val then
    let path ← expect contact.path "contact is expected to have a path"
    match ← existing.assessPathCandidateAndUpdate ctx.order ctx.promoted path with
    | (true, existing) => return (.updated, existing)
    | (false, existing) => return (.dropped, existing)
  else
    return (.dropped, existing)

/-- Updates the contact that is stored under the id of `contact`. -/
def updateExisting (ctx : Context) (contact : Contact) (table : T) :
    Run (InsertionStrategyResult × T) := do
  match ← contactMut table contact.id (updateContact ctx contact) with
  | (some result, table) => return (result, table)
  | (none, _) =>
    .panic "update_existing should only be called after detecting an id to be present"

def sizes (bucket : Bucket k) : Run (List (Contact × Nat)) :=
  bucket.contacts.mapM fun c ↦ do
    let path ← unwrap c.path
    return (c, path.size)

/-- Puts `contact` in the place of the contact with the longest path in its bucket, if that is
longer than its own. -/
def replaceInFullBucket (contact : Contact) (table : T) : Run (InsertionStrategyResult × T) := do
  let bucket := bucket table contact.id
  assert (!bucket.isEmpty) "replace_in_full_bucket is called on empty bucket"
  assert bucket.isFull "replace_in_full_bucket is called on non-full bucket"
  assert (!bucket.contains contact.id)
    "replace_in_full_bucket is called containing the replacement candidate"
  assert contact.isValid "replace_in_full_bucket is called with invalid contact"
  let path ← unwrap contact.path
  let sizes ← sizes bucket
  match Iter.maxByKey Prod.snd (sizes.filter fun c ↦ path.size < c.2) with
  | none => return (.dropped, table)
  | some (replaceable, _) =>
    if path.isNotvalidated then
      return (.needsValidation, table)
    else
      match ← contactMut table replaceable.id fun _ ↦ .ok ((), contact) with
      | (some (), table) => return (.replaced replaceable.id, table)
      | (none, _) => .panic "contact inside rt bucket"

/-- Removes the cycles of the contact's path and shortens it.  A path of one hop needs no
validation. -/
def prepare (ctx : Context) (table : T) (contact : Contact) (path : Path) : Run Contact := do
  let path ← ShortestFirstPathSimplifier.simplify table ctx.ulnContains path.removeCyclesInPlace
  if path.size = 1 then
    return contact.setPath (path.setValid ctx.validated)
  else
    return contact.setPath path

/-- What follows the table's own insertion. -/
def afterInsert (ctx : Context) (contact : Contact) (table : T) :
    Except InsertionError Unit → Run (InsertionStrategyResult × T)
  | .ok () => return (.inserted, table)
  | .error (.bucketSplit _) => replaceInFullBucket contact table
  | .error (.add .notAdded) => replaceInFullBucket contact table
  | .error (.add (.alreadyExists _)) => updateExisting ctx contact table
  | .error (.add .needsValidation) => return (.needsValidation, table)

/-- What is done with a contact whose path has been rewritten. -/
def insertPrepared (ctx : Context) (contact : Contact) (table : T) :
    Run (InsertionStrategyResult × T) := do
  if contact.state == .unknown then
    if contains table contact.id then
      updateExisting ctx contact table
    else
      return (.needsValidation, table)
  else
    let (insertionResult, table) ← RoutingTable.insert table contact
    afterInsert ctx contact table insertionResult

def insert (ctx : Context) (contact : Contact) (table : T) :
    Run (InsertionStrategyResult × T) := do
  if !(contact.isValid || contact.state == .unknown) then
    return (.dropped, table)
  else if contact.id == root table then
    return (.dropped, table)
  else
    let path ← unwrap contact.path
    if path.contains (root table) then
      return (.dropped, table)
    else if path.size > 1 && !ctx.ulnContains path.first then
      return (.dropped, table)
    else
      let contact ← prepare ctx table contact path
      insertPrepared ctx contact table

/-! ## Everything an insertion can do -/

/-- What becomes of the stored contact: it stays as it is, or it takes over a path from information
that is no older than its own. -/
inductive Updated (ctx : Context) (contact existing : Contact) :
    InsertionStrategyResult → Contact → Prop
  | kept : Updated ctx contact existing .dropped existing
  | taken {existing' : Contact} {path : Path}
      (hssn : existing.stateSeqNr.val ≤ contact.stateSeqNr.val) (hpath : contact.path = some path)
      (hsuitable : existing.pathSuitable ctx.order path = .ok true)
      (h : Contact.Assessed path existing true existing') :
      Updated ctx contact existing .updated existing'

variable {t t' : T} {ctx : Context} {res : InsertionStrategyResult} {c : Contact}

theorem Updated.id_eq {contact existing existing' : Contact}
    (h : Updated ctx contact existing res existing') :
    existing'.id = existing.id := by
  cases h with
  | kept => rfl
  | taken _ _ _ h => exact h.id_eq

theorem updateContact_cases {contact existing existing' : Contact}
    (h : updateContact ctx contact existing = .ok (res, existing')) :
    existing.id = contact.id ∧ Updated ctx contact existing res existing' := by
  obtain ⟨_, hid, h⟩ := of_bind h
  refine ⟨by simpa using assert_eq_ok.1 hid, ?_⟩
  split at h
  · cases h
    exact .kept
  · split at h
    · rename_i hssn
      obtain ⟨path, hpath, h⟩ := of_bind h
      obtain ⟨⟨taken, existing₁⟩, hassess, h⟩ := of_bind h
      have hcases := Contact.assess_cases hassess
      cases taken with
      | false =>
        cases h
        cases hcases
        exact .kept
      | true =>
        cases h
        exact .taken hssn (expect_eq_ok.1 hpath) (Contact.suitable_of_assess hassess) hcases
    · cases h
      exact .kept

theorem mem_sizes {bucket : Bucket k} {l : List (Contact × Nat)} (h : sizes bucket = .ok l)
    {n : Nat} (hc : (c, n) ∈ l) :
    c ∈ bucket.contacts ∧ ∃ path, c.path = some path ∧ path.size = n := by
  unfold sizes at h
  generalize bucket.contacts = contacts at h ⊢
  induction contacts generalizing l with
  | nil =>
    cases h
    simp at hc
  | cons x xs ih =>
    rw [List.mapM_cons] at h
    obtain ⟨y, hy, h⟩ := of_bind h
    obtain ⟨path, hpath, hy⟩ := of_bind hy
    obtain ⟨ys, hys, h⟩ := of_bind h
    cases hy
    cases h
    rcases List.mem_cons.1 hc with hc | hc
    · obtain ⟨rfl, rfl⟩ : c = x ∧ n = path.size := by simpa using hc
      exact ⟨List.mem_cons_self .., path, expect_eq_ok.1 hpath, rfl⟩
    · exact (ih hc hys).imp_left (List.mem_cons_of_mem x)

/-- The contact `old` may have to make room for `contact`: they belong into the same bucket, which
is full, and `contact` has the shorter path. -/
structure Displaceable (t : T) (contact old : Contact) : Prop where
  mem : old ∈ (bucket t contact.id).contacts
  full : (bucket t contact.id).isFull = true
  absent : (bucket t contact.id).contains contact.id = false
  valid : contact.isValid = true
  shorter : ∃ path oldPath, contact.path = some path ∧ old.path = some oldPath ∧
    path.isNotvalidated = false ∧ path.size < oldPath.size

variable [LawfulRoutingTable T k]

open LawfulRoutingTable

theorem updateExisting_cases {contact : Contact}
    (h : updateExisting ctx contact t = .ok (res, t')) :
    ∃ existing existing', RoutingTable.contact t contact.id = some existing ∧
      existing.id = contact.id ∧ Updated ctx contact existing res existing' ∧
      t' = write t contact.id existing' := by
  obtain ⟨⟨a, t₁⟩, hmut, h⟩ := of_bind h
  rcases contactMut_cases hmut with ⟨-, rfl, -⟩ | ⟨existing, res', existing', hc, hf, rfl, rfl⟩
  · simp at h
  · cases h
    obtain ⟨hid, hup⟩ := updateContact_cases hf
    exact ⟨existing, existing', hc, hid, hup, rfl⟩

theorem replaceInFullBucket_cases {contact : Contact}
    (h : replaceInFullBucket contact t = .ok (res, t')) :
    (t' = t ∧ (res = .dropped ∨ res = .needsValidation)) ∨
    (∃ old stored, Displaceable t contact old ∧ RoutingTable.contact t old.id = some stored ∧
      res = .replaced old.id ∧ t' = write t old.id contact) := by
  obtain ⟨_, -, h⟩ := of_bind h
  obtain ⟨_, hfull, h⟩ := of_bind h
  obtain ⟨_, habsent, h⟩ := of_bind h
  obtain ⟨_, hvalid, h⟩ := of_bind h
  obtain ⟨path, hpath, h⟩ := of_bind h
  obtain ⟨sizes, hsizes, h⟩ := of_bind h
  cases hmax : Iter.maxByKey Prod.snd (sizes.filter fun c ↦ path.size < c.2) with
  | none =>
    obtain ⟨rfl, rfl⟩ : .dropped = res ∧ t = t' := by simpa [hmax] using h
    exact .inl ⟨rfl, .inl rfl⟩
  | some p =>
    obtain ⟨old, n⟩ := p
    obtain ⟨hmem, -⟩ := Iter.maxByKey_spec hmax
    obtain ⟨hmem, hlt⟩ := List.mem_filter.1 hmem
    obtain ⟨hold, oldPath, holdPath, rfl⟩ := mem_sizes hsizes hmem
    simp only [hmax] at h
    split at h
    · cases h
      exact .inl ⟨rfl, .inr rfl⟩
    · rename_i hval
      obtain ⟨⟨a, t₁⟩, hmut, h⟩ := of_bind h
      rcases contactMut_cases hmut with ⟨-, rfl, -⟩ | ⟨stored, u, c', hc, hf, rfl, rfl⟩
      · simp at h
      · obtain rfl : contact = c' := by simpa using hf
        obtain ⟨rfl, rfl⟩ : .replaced old.id = res ∧ write t old.id contact = t' := by
          simpa using h
        refine .inr ⟨old, stored, ⟨hold, assert_eq_ok.1 hfull, ?_, assert_eq_ok.1 hvalid,
          path, oldPath, expect_eq_ok.1 hpath, holdPath, ?_, by simpa using hlt⟩, hc, rfl, rfl⟩
        · simpa using assert_eq_ok.1 habsent
        · simpa using hval

/-- The table after an insertion into it was not made, or made and refused. -/
inductive Refused (t : T) (contact : Contact) : T → Prop
  | untried (hstate : contact.state = .unknown) : Refused t contact t
  | tried {t₁ : T} {err : InsertionError} (hknown : contact.state ≠ .unknown)
      (h : RoutingTable.insert t contact = .ok (.error err, t₁)) : Refused t contact t₁

/-- What becomes of a contact whose path has been rewritten. -/
inductive Outcome (ctx : Context) (t : T) (contact : Contact) :
    InsertionStrategyResult → T → Prop
  | stored {t' : T} (hknown : contact.state ≠ .unknown)
      (h : RoutingTable.insert t contact = .ok (.ok (), t')) : Outcome ctx t contact .inserted t'
  | kept {res : InsertionStrategyResult} {t₁ : T} (h : Refused t contact t₁)
      (hres : res = .dropped ∨ res = .needsValidation) : Outcome ctx t contact res t₁
  | updated {res : InsertionStrategyResult} {t₁ : T} {existing existing' : Contact}
      (h : Refused t contact t₁) (hc : RoutingTable.contact t₁ contact.id = some existing)
      (hid : existing.id = contact.id) (hup : Updated ctx contact existing res existing') :
      Outcome ctx t contact res (write t₁ contact.id existing')
  | replaced {t₁ : T} {err : InsertionError} {old oldStored : Contact}
      (hknown : contact.state ≠ .unknown)
      (h : RoutingTable.insert t contact = .ok (.error err, t₁))
      (herr : ∀ id, err ≠ .add (.alreadyExists id)) (hold : Displaceable t₁ contact old)
      (hc : RoutingTable.contact t₁ old.id = some oldStored) :
      Outcome ctx t contact (.replaced old.id) (write t₁ old.id contact)

theorem insertPrepared_cases {contact : Contact}
    (h : insertPrepared ctx contact t = .ok (res, t')) :
    Outcome ctx t contact res t' := by
  unfold insertPrepared at h
  split at h
  · rename_i hstate
    have hrefused : Refused t contact t := .untried (by simpa using hstate)
    split at h
    · obtain ⟨existing, existing', hc, hid, hup, rfl⟩ := updateExisting_cases h
      exact .updated hrefused hc hid hup
    · cases h
      exact .kept hrefused (.inr rfl)
  · rename_i hstate
    have hknown : contact.state ≠ .unknown := by simpa using hstate
    obtain ⟨⟨r, t₁⟩, hins, h⟩ := of_bind h
    -- the two errors that say the bucket is full are answered alike
    have hfull : ∀ err, r = .error err → (∀ id, err ≠ .add (.alreadyExists id)) →
        replaceInFullBucket contact t₁ = .ok (res, t') → Outcome ctx t contact res t' := by
      rintro err rfl herr h
      rcases replaceInFullBucket_cases h with ⟨rfl, hres⟩ | ⟨old, stored, hold, hc, rfl, rfl⟩
      · exact .kept (.tried hknown hins) hres
      · exact .replaced hknown hins herr hold hc
    match r with
    | .ok () =>
      obtain ⟨rfl, rfl⟩ : .inserted = res ∧ t₁ = t' := by simpa [afterInsert] using h
      exact .stored hknown hins
    | .error (.bucketSplit _) => exact hfull _ rfl (by simp) h
    | .error (.add .notAdded) => exact hfull _ rfl (by simp) h
    | .error (.add (.alreadyExists _)) =>
      obtain ⟨existing, existing', hc, hid, hup, rfl⟩ := updateExisting_cases h
      exact .updated (.tried hknown hins) hc hid hup
    | .error (.add .needsValidation) =>
      obtain ⟨rfl, rfl⟩ : .needsValidation = res ∧ t₁ = t' := by simpa [afterInsert] using h
      exact .kept (.tried hknown hins) (.inr rfl)

/-- A contact that is not turned away: its state makes a claim about the path, it is not the node
itself, and its path neither leads through the node nor over a foreign first hop. -/
structure Admitted (ctx : Context) (t : T) (contact : Contact) (path : Path) : Prop where
  state : contact.isValid = true ∨ contact.state = .unknown
  ne_root : contact.id ≠ root t
  path_eq : contact.path = some path
  root_not_mem : root t ∉ path.ids
  firstHop : 1 < path.size → ctx.ulnContains path.first = true

omit [LawfulRoutingTable T k] in
/-- A contact is turned away without a trace, or its path is rewritten and the strategy goes on. -/
theorem insert_admits {contact : Contact} (h : insert ctx contact t = .ok (res, t')) :
    (res = .dropped ∧ t' = t) ∨
    (∃ path prepared, Admitted ctx t contact path ∧ prepare ctx t contact path = .ok prepared ∧
      insertPrepared ctx prepared t = .ok (res, t')) := by
  have hdropped : ∀ {r : Run (InsertionStrategyResult × T)}, r = .ok (.dropped, t) →
      r = .ok (res, t') → res = .dropped ∧ t' = t := by
    rintro _ rfl h
    cases h
    exact ⟨rfl, rfl⟩
  unfold insert at h
  split at h
  · exact .inl (hdropped rfl h)
  split at h
  · exact .inl (hdropped rfl h)
  rename_i hstate hroot
  obtain ⟨path, hpath, h⟩ := of_bind h
  split at h
  · exact .inl (hdropped rfl h)
  split at h
  · exact .inl (hdropped rfl h)
  rename_i hloop hfirst
  obtain ⟨prepared, hprepared, h⟩ := of_bind h
  refine .inr ⟨path, prepared, ⟨?_, ?_, expect_eq_ok.1 hpath, ?_, ?_⟩, hprepared, h⟩
  · simpa [Decidable.or_iff_not_imp_left] using hstate
  · simpa using hroot
  · rwa [← Path.contains_iff]
  · intro hsize
    by_contra hnot
    exact hfirst (by simpa [hsize] using hnot)

/-- **Everything an insertion can do.** -/
theorem insert_cases {contact : Contact} (h : insert ctx contact t = .ok (res, t')) :
    (res = .dropped ∧ t' = t) ∨
    (∃ path prepared, Admitted ctx t contact path ∧ prepare ctx t contact path = .ok prepared ∧
      Outcome ctx t prepared res t') := by
  rcases insert_admits h with hdropped | ⟨path, prepared, hadm, hprep, h⟩
  · exact .inl hdropped
  · exact .inr ⟨path, prepared, hadm, hprep, insertPrepared_cases h⟩

/-- The path of a prepared contact: what simplifying leaves of the path without cycles.  A single
hop counts as validated. -/
theorem prepare_cases {T : Type} {k : Nat} [RoutingTable T k] {t : T}
    {contact prepared : Contact} {path : Path} (h : prepare ctx t contact path = .ok prepared) :
    ∃ path', prepared = contact.setPath path' ∧
      ShortestFirstPathSimplifier.Simplified t ctx.ulnContains path.removeCyclesInPlace path' ∧
      (path'.size = 1 → path'.isValid = true) ∧
      (path'.size ≠ 1 → path'.pathState = path.pathState) := by
  obtain ⟨path₁, hsimp, h⟩ := of_bind h
  obtain ⟨hstate, hcases⟩ := ShortestFirstPathSimplifier.simplify_cases hsimp
  split at h
  · rename_i hsize
    cases h
    refine ⟨_, rfl, ?_, fun _ ↦ rfl, fun hne ↦ absurd hsize hne⟩
    cases hcases with
    | shortened hids huln => exact .shortened hids huln
    | spliced h => exact .spliced ⟨h.stored, h.valid, h.path_eq, h.shorter, h.ids_eq⟩
  · rename_i hsize
    cases h
    exact ⟨path₁, rfl, hcases, fun hone ↦ absurd hone hsize, fun _ ↦ hstate⟩

/-! ## What that means for the contents -/

theorem Refused.mem {t₁ : T} (h : Refused t c t₁) :
    root t₁ = root t ∧ ∀ x ∈ iter t₁, x = c ∨ x ∈ iter t := by
  cases h with
  | untried => exact ⟨rfl, fun x hx ↦ .inr hx⟩
  | tried _ h => exact mem_insert h

/-- **Whatever is stored after an insertion** was stored before, is the contact itself, or is a
contact that has taken over its path. -/
theorem Outcome.mem (h : Outcome ctx t c res t') :
    root t' = root t ∧ ∀ x ∈ iter t', x = c ∨ x ∈ iter t ∨
      ∃ existing res, (existing = c ∨ existing ∈ iter t) ∧ existing.id = c.id ∧
        Updated ctx c existing res x := by
  cases h with
  | stored _ h => exact ⟨(mem_insert h).1, fun x hx ↦ ((mem_insert h).2 x hx).imp_right .inl⟩
  | kept h => exact ⟨h.mem.1, fun x hx ↦ (h.mem.2 x hx).imp_right .inl⟩
  | @updated res t₁ existing existing' h hc hid hup =>
    obtain ⟨hroot, hmem⟩ := mem_write t₁ c.id existing'
    refine ⟨hroot.trans h.mem.1, fun x hx ↦ ?_⟩
    rcases hmem x hx with rfl | hx
    · exact .inr (.inr ⟨existing, res, h.mem.2 _ (mem_of_contact hc), hid, hup⟩)
    · exact (h.mem.2 x hx).imp_right .inl
  | @replaced t₁ err old oldStored _ h =>
    obtain ⟨hroot, hmem⟩ := mem_write t₁ old.id c
    refine ⟨hroot.trans (mem_insert h).1, fun x hx ↦ ?_⟩
    rcases hmem x hx with rfl | hx
    · exact .inl rfl
    · exact ((mem_insert h).2 x hx).imp_right .inl

/-- What holds of the stored contacts and of the new one holds after an insertion, if a contact
keeps it when it takes over the path. -/
theorem Outcome.forall_iter {P : Contact → Prop} (h : Outcome ctx t c res t') (hc : P c)
    (ht : ∀ x ∈ iter t, P x)
    (htaken : ∀ path existing existing', c.path = some path → existing.id = c.id → P existing →
      Contact.Assessed path existing true existing' → P existing') : ∀ x ∈ iter t', P x := by
  intro x hx
  rcases h.mem.2 x hx with rfl | hx | ⟨existing, res, hexisting, hid, hup⟩
  · exact hc
  · exact ht x hx
  · have hold : P existing := by
      rcases hexisting with rfl | hexisting
      · exact hc
      · exact ht existing hexisting
    cases hup with
    | kept => exact hold
    | taken _ hpath _ hassessed => exact htaken _ existing x hpath hid hold hassessed

/-- What an insertion does to the contents of a tidy table.  Only a contact whose state is known is
ever stored, or makes the table let go of another one. -/
inductive Effect (ctx : Context) (m : Contents) (c : Contact) :
    InsertionStrategyResult → Contents → Prop
  | stored (hknown : c.state ≠ .unknown)
      (h : ∀ old, m c.id = some old → c.isUln = true ∨ old.isValid = false) :
      Effect ctx m c .inserted (Function.update m c.id (some c))
  | kept {res : InsertionStrategyResult} {m₁ : Contents} (h : Underway m c m₁)
      (hunknown : c.state = .unknown → m₁ = m)
      (hres : res = .dropped ∨ res = .needsValidation) : Effect ctx m c res m₁
  | updated {res : InsertionStrategyResult} {existing existing' : Contact}
      (h : m c.id = some existing) (hup : Updated ctx c existing res existing') :
      Effect ctx m c res (Function.update m c.id (some existing'))
  | replaced {m₁ : Contents} {old : Contact} (hknown : c.state ≠ .unknown)
      (h : Underway m c m₁) (hnone : m₁ c.id = none) (hold : m₁ old.id = some old) :
      Effect ctx m c (.replaced old.id) (m₁.written old.id c)

theorem underway_of_insert {t₁ : T} (ht : Tidy t) {err : InsertionError}
    (h : RoutingTable.insert t c = .ok (.error err, t₁)) :
    Tidy t₁ ∧ Underway (contact t) c (contact t₁) := by
  obtain ⟨ht₁, heff⟩ := insert_effect ht h
  refine ⟨ht₁, ?_⟩
  generalize contact t₁ = m₁ at heff
  cases heff with
  | refused => exact .unchanged
  | dropped _ _ h hold hc => exact .dropped h hold hc

theorem Refused.underway {t₁ : T} (ht : Tidy t) (h : Refused t c t₁) :
    Tidy t₁ ∧ Underway (contact t) c (contact t₁) ∧ (c.state = .unknown → t₁ = t) := by
  cases h with
  | untried => exact ⟨ht, .unchanged, fun _ ↦ rfl⟩
  | tried hknown h =>
    obtain ⟨ht₁, hunder⟩ := underway_of_insert ht h
    exact ⟨ht₁, hunder, fun hunknown ↦ absurd hunknown hknown⟩

theorem contact_eq_none_of_insert {t₁ : T} (ht : Tidy t) {err : InsertionError}
    (h : RoutingTable.insert t c = .ok (.error err, t₁))
    (herr : ∀ id, err ≠ .add (.alreadyExists id)) : contact t₁ c.id = none := by
  have hiff := (insert_effect ht h).2.isSome_iff
  simpa [herr] using hiff

theorem Displaceable.fits (ht : Tidy t) {old : Contact} (h : Displaceable t c old)
    (hnone : contact t c.id = none) : contact t old.id = some old ∧ Fits t old.id c := by
  obtain ⟨hmem, hindex⟩ := mem_bucket ht h.mem
  exact ⟨contact_of_mem ht hmem,
    .inr ⟨⟨old, bucket_congr hindex ▸ h.mem, rfl⟩, hindex.symm, hnone⟩⟩

/-- **An insertion keeps a table tidy**, and this is what it does to the contents. -/
theorem Outcome.effect (ht : Tidy t) (h : Outcome ctx t c res t') :
    Tidy t' ∧ Effect ctx (contact t) c res (contact t') := by
  cases h with
  | stored hknown h =>
    obtain ⟨ht', heff⟩ := insert_effect ht h
    refine ⟨ht', ?_⟩
    generalize contact t' = m' at heff
    cases heff with
    | stored h => exact .stored hknown h
  | kept h hres =>
    obtain ⟨ht₁, hunder, hunknown⟩ := h.underway ht
    exact ⟨ht₁, .kept hunder (fun hstate ↦ congrArg contact (hunknown hstate)) hres⟩
  | @updated _ t₁ existing existing' h hc hid hup =>
    obtain ⟨ht₁, hunder, -⟩ := h.underway ht
    have hid' : existing'.id = c.id := hup.id_eq.trans hid
    obtain ⟨ht', hcontact⟩ := write_effect ht₁ hc (.inl hid')
    refine ⟨ht', ?_⟩
    rw [hcontact, Contents.written_self _ hid']
    generalize contact t₁ = m₁ at hunder hc
    -- the contact is still there, so none has been let go of
    cases hunder with
    | unchanged => exact .updated hc hup
    | dropped => simp at hc
  | @replaced t₁ err old oldStored hknown h herr hold hc =>
    obtain ⟨ht₁, hunder⟩ := underway_of_insert ht h
    have hnone := contact_eq_none_of_insert ht h herr
    obtain ⟨hstored, hfits⟩ := hold.fits ht₁ hnone
    obtain ⟨ht', hcontact⟩ := write_effect ht₁ hc hfits
    refine ⟨ht', ?_⟩
    rw [hcontact]
    exact .replaced hknown hunder hnone hstored

theorem insert_tidy (ht : Tidy t) (h : insert ctx c t = .ok (res, t')) : Tidy t' := by
  rcases insert_cases h with ⟨-, rfl⟩ | ⟨path, prepared, -, -, hout⟩
  · exact ht
  · exact (hout.effect ht).1

theorem Updated.isUln {existing existing' : Contact} {path : Path}
    (hup : Updated ctx c existing res existing') (hpath : c.path = some path)
    (hvalid : path.isValid = true) (hone : path.size = 1) :
    res = .dropped ∨ existing'.isUln = true := by
  cases hup with
  | kept => exact .inl rfl
  | taken _ hpath' _ h =>
    obtain rfl := Option.some.inj (hpath.symm.trans hpath')
    cases h with
    | @activated _ active _ _ hactive hids =>
      exact .inr ((Contact.isUln_iff _).2 ⟨active, hactive, by rwa [Path.size, hids]⟩)
    | proposed _ hnot => simp [hvalid] at hnot

/-- **An underlay neighbour is stored as one**, whatever the path is that it was reported with. -/
theorem isUln_of_insert {path : Path} (ht : Tidy t) (hpath : c.path = some path)
    (hlast : path.last = c.id) (huln : ctx.ulnContains c.id = true)
    (h : insert ctx c t = .ok (res, t')) :
    res = .dropped ∨ res = .needsValidation ∨
      ∃ stored, contact t' c.id = some stored ∧ stored.isUln = true := by
  rcases insert_cases h with ⟨rfl, -⟩ | ⟨path₁, prepared, hadm, hprep, hout⟩
  · exact .inl rfl
  obtain rfl := Option.some.inj (hpath.symm.trans hadm.path_eq)
  obtain ⟨simplified, hsimp, hprep⟩ := of_bind hprep
  have hone : simplified.size = 1 :=
    ShortestFirstPathSimplifier.simplify_of_neighbor (by simpa [hlast] using huln) hsimp
  rw [if_pos hone] at hprep
  cases hprep
  have heff := (hout.effect ht).2
  generalize contact t' = m' at heff
  cases heff with
  | stored | replaced =>
    refine .inr (.inr ⟨_, Function.update_self .., ?_⟩)
    exact (Contact.isUln_iff _).2 ⟨_, rfl, hone⟩
  | kept _ _ hres => exact hres.imp_right .inl
  | updated _ hup =>
    refine (hup.isUln rfl rfl hone).imp_right fun hu ↦ .inr ⟨_, Function.update_self .., hu⟩

/-! ## Sequences of insertions -/

structure Call where
  ctx : Context
  contact : Contact

def Call.apply (t : T) (call : Call) : Run T := do
  let (_, t) ← insert call.ctx call.contact t
  return t

omit [LawfulRoutingTable T k] in
theorem Call.apply_eq_ok {call : Call} (h : call.apply t = .ok t') :
    ∃ res, insert call.ctx call.contact t = .ok (res, t') := by
  obtain ⟨⟨res, t₁⟩, hins, h⟩ := of_bind h
  cases h
  exact ⟨res, hins⟩

end UNSStrategy

/-- What is done to a routing table: its own operations, and insertions through the strategy. -/
inductive Operation where
  | table (op : TableOp)
  | strategy (call : UNSStrategy.Call)

def Operation.apply {T : Type} {k : Nat} [RoutingTable T k] (t : T) : Operation → Run T
  | .table op => op.apply t
  | .strategy call => call.apply t

end Kira
