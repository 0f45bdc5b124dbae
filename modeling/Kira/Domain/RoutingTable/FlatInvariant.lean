import Kira.Domain.RoutingTable.FlatGeometry

/-!
# What the operations of the flat table do

For each operation that changes the table, one statement says what it can do (`add_cases`,
`splitBucket_cases`) and one what is stored afterwards.

A table is `Tidy` if every contact lies in the bucket of its id and no bucket holds two contacts
with one id.  Then the table is a map: looking an id up finds the one contact with that id, wherever
it lies (`Tidy.contact_eq_some_iff`).  Adding, removing and splitting keep a table tidy.
Overwriting a contact in place keeps it tidy only if the id stays the same, or belongs into the same
bucket and is not there yet (`Tidy.write`): the program writes into the bucket of the *old* id,
whatever the new one is, and so does `replace`.
-/

set_option autoImplicit false

namespace Kira

open Run

namespace FlatRoutingTable

variable {k acc : Nat}

/-! ## Buckets and indices -/

variable {t : FlatRoutingTable k acc} {id : NodeId} {i : Nat} {x : Contact}

theorem getBucketIndex_congr {s : FlatRoutingTable k acc} (hroot : s.root = t.root)
    (hnum : s.numBuckets = t.numBuckets) (id : NodeId) :
    s.getBucketIndex id = t.getBucketIndex id := by
  rw [getBucketIndex, getBucketIndex, hroot, hnum]

@[simp] theorem setBucket_root (self : FlatRoutingTable k acc) (i : Nat) (b : Bucket k) :
    (self.setBucket i b).root = self.root := rfl

@[simp] theorem setBucket_numBuckets (self : FlatRoutingTable k acc) (i : Nat) (b : Bucket k) :
    (self.setBucket i b).numBuckets = self.numBuckets := by
  simp [numBuckets, setBucket]

@[simp] theorem getBucketIndex_setBucket (self : FlatRoutingTable k acc) (i : Nat) (b : Bucket k)
    (id : NodeId) : (self.setBucket i b).getBucketIndex id = self.getBucketIndex id :=
  getBucketIndex_congr (setBucket_root self i b) (setBucket_numBuckets self i b) id

theorem buckets_getBucketIndex (self : FlatRoutingTable k acc) (id : NodeId) :
    self.buckets[self.getBucketIndex id]? = some (self.bucket id) := by
  rw [bucket, List.getElem?_eq_getElem (self.getBucketIndex_lt id)]
  rfl

variable {self self' : FlatRoutingTable k acc} {b : Bucket k} {c : Contact}
  {r : Except AddError Unit}

theorem bucket_congr {id' : NodeId} (h : self.getBucketIndex id = self.getBucketIndex id') :
    self.bucket id = self.bucket id' := by
  have h1 := buckets_getBucketIndex self id
  rw [h, buckets_getBucketIndex] at h1
  exact (Option.some.inj h1).symm

theorem buckets_setBucket (self : FlatRoutingTable k acc)
    (h : self.buckets[i]? = some b) (b' : Bucket k) (j : Nat) :
    (self.setBucket i b').buckets[j]? = if i = j then some b' else self.buckets[j]? := by
  have hi : i < self.buckets.length := (List.getElem?_eq_some_iff.1 h).1
  rw [setBucket, List.getElem?_set]
  by_cases hij : i = j
  · rw [if_pos hij, if_pos hij, if_pos (hij ▸ hi)]
  · rw [if_neg hij, if_neg hij]

theorem bucket_setBucket (self : FlatRoutingTable k acc)
    (h : self.buckets[i]? = some b) (b' : Bucket k) (id : NodeId) :
    (self.setBucket i b').bucket id =
      if i = self.getBucketIndex id then b' else self.bucket id := by
  have h' := buckets_getBucketIndex (self.setBucket i b') id
  rw [getBucketIndex_setBucket, buckets_setBucket self h, buckets_getBucketIndex] at h'
  split at h'
  · rename_i hij
    rw [if_pos hij]
    exact (Option.some.inj h').symm
  · rename_i hij
    rw [if_neg hij]
    exact (Option.some.inj h').symm

theorem mem_iter_iff (self : FlatRoutingTable k acc) (x : Contact) :
    x ∈ self.iter ↔ ∃ (i : Nat) (b : Bucket k), self.buckets[i]? = some b ∧ x ∈ b.contacts := by
  rw [iter, List.mem_flatMap]
  constructor
  · rintro ⟨b, hb, hx⟩
    obtain ⟨i, hi⟩ := List.mem_iff_getElem?.1 hb
    exact ⟨i, b, hi, hx⟩
  · rintro ⟨i, b, hi, hx⟩
    exact ⟨b, List.mem_of_getElem? hi, hx⟩

theorem mem_iter_of_mem_bucket (self : FlatRoutingTable k acc)
    (h : x ∈ (self.bucket id).contacts) : x ∈ self.iter :=
  (mem_iter_iff self x).2 ⟨_, _, buckets_getBucketIndex self id, h⟩

theorem mem_iter_setBucket (self : FlatRoutingTable k acc)
    (h : self.buckets[i]? = some b) (b' : Bucket k) (x : Contact) :
    x ∈ (self.setBucket i b').iter ↔
      x ∈ b'.contacts ∨ ∃ (j : Nat) (c : Bucket k), j ≠ i ∧ self.buckets[j]? = some c ∧
        x ∈ c.contacts := by
  rw [mem_iter_iff]
  constructor
  · rintro ⟨j, c, hc, hx⟩
    rw [buckets_setBucket self h] at hc
    split at hc
    · cases hc
      exact .inl hx
    · rename_i hij
      exact .inr ⟨j, c, fun hji ↦ hij hji.symm, hc, hx⟩
  · rintro (hx | ⟨j, c, hj, hc, hx⟩)
    · exact ⟨i, b', by rw [buckets_setBucket self h, if_pos rfl], hx⟩
    · exact ⟨j, c, by rw [buckets_setBucket self h, if_neg fun hij ↦ hj hij.symm]; exact hc, hx⟩

theorem mem_iter_setBucket_of_perm (self : FlatRoutingTable k acc) {b' : Bucket k}
    (h : self.buckets[i]? = some b) (hperm : b'.contacts.Perm (c :: b.contacts)) (x : Contact) :
    x ∈ (self.setBucket i b').iter ↔ x = c ∨ x ∈ self.iter := by
  rw [mem_iter_setBucket self h, mem_iter_iff, hperm.mem_iff, List.mem_cons]
  constructor
  · rintro ((rfl | hx) | ⟨j, d, -, hd, hx⟩)
    · exact .inl rfl
    · exact .inr ⟨i, b, h, hx⟩
    · exact .inr ⟨j, d, hd, hx⟩
  · rintro (rfl | ⟨j, d, hd, hx⟩)
    · exact .inl (.inl rfl)
    · by_cases hj : j = i
      · subst hj
        obtain rfl : b = d := Option.some.inj (h.symm.trans hd)
        exact .inl (.inr hx)
      · exact .inr ⟨j, d, hj, hd, hx⟩

theorem mem_iter_of_mem_write (self : FlatRoutingTable k acc) {new : Option Contact}
    (h : x ∈ (self.setBucket (self.getBucketIndex id)
      ((self.bucket id).write id new)).iter) : x ∈ self.iter ∨ new = some x := by
  rw [mem_iter_setBucket self (buckets_getBucketIndex self id)] at h
  rcases h with h | ⟨j, c, -, hc, hx⟩
  · exact (Bucket.mem_write h).imp_left (mem_iter_of_mem_bucket self)
  · exact .inl ((mem_iter_iff self x).2 ⟨j, c, hc, hx⟩)

/-! ## Adding -/

/-- **Everything an addition can do.** -/
inductive Added (self : FlatRoutingTable k acc) (c : Contact) :
    Except AddError Unit → FlatRoutingTable k acc → Prop
  | added {path : Path} {bucket : Bucket k} (hnew : self.contains c.id = false)
      (hpath : c.path = some path) (hval : path.isNotvalidated = false)
      (hperm : bucket.contacts.Perm (c :: (self.bucket c.id).contacts)) :
      Added self c (.ok ()) (self.setBucket (self.getBucketIndex c.id) bucket)
  | alreadyExists (h : self.contains c.id = true) :
      Added self c (.error (.alreadyExists c.id)) self
  | needsValidation {path : Path} (hnew : self.contains c.id = false) (hpath : c.path = some path)
      (hval : path.isNotvalidated = true) : Added self c (.error .needsValidation) self
  | notAdded {path : Path} (hnew : self.contains c.id = false) (hpath : c.path = some path)
      (hval : path.isNotvalidated = false) (hfull : (self.bucket c.id).isFull = true) :
      Added self c (.error .notAdded) self

theorem add_cases (h : self.add c = .ok (r, self')) : Added self c r self' := by
  obtain ⟨res, hres, h⟩ := of_bind h
  cases Bucket.insert_cases hres with
  | duplicate hdup =>
    cases h
    exact .alreadyExists hdup
  | needsValidation hnew hpath hval =>
    cases h
    exact .needsValidation hnew hpath hval
  | full hnew hpath hval hfull =>
    cases h
    exact .notAdded hnew hpath hval hfull
  | inserted hnew hpath hval hperm =>
    cases h
    exact .added hnew hpath hval hperm

theorem Added.root_eq (h : Added self c r self') : self'.root = self.root := by
  cases h <;> rfl

theorem Added.numBuckets_eq (h : Added self c r self') : self'.numBuckets = self.numBuckets := by
  cases h <;> simp

theorem Added.eq_of_error {err : AddError} (h : Added self c (.error err) self') :
    self' = self := by
  cases h <;> rfl

theorem Added.mem_iter_iff (h : Added self c (.ok ()) self') (x : Contact) :
    x ∈ self'.iter ↔ x = c ∨ x ∈ self.iter := by
  cases h with
  | added _ _ _ hperm =>
    exact mem_iter_setBucket_of_perm self (buckets_getBucketIndex self c.id) hperm x

theorem Added.mem_iter (h : Added self c r self') (hx : x ∈ self'.iter) :
    x = c ∨ x ∈ self.iter := by
  cases r with
  | ok u => exact (h.mem_iter_iff x).1 hx
  | error err => exact .inr (h.eq_of_error ▸ hx)

/-! ## Tidy tables -/

/-- Every contact lies in the bucket of its id, and no bucket holds two contacts with one id. -/
structure Tidy (table : FlatRoutingTable k acc) : Prop where
  /-- Contacts are where they belong. -/
  home : ∀ (i : Nat) (b : Bucket k), table.buckets[i]? = some b →
    ∀ c ∈ b.contacts, table.getBucketIndex c.id = i
  nodup : ∀ (i : Nat) (b : Bucket k), table.buckets[i]? = some b → (b.contacts.map Contact.id).Nodup

@[simp] theorem iter_new (root : NodeId) (acc_pos : 0 < acc) (acc_lt : acc < 64) :
    (FlatRoutingTable.new root acc_pos acc_lt : FlatRoutingTable k acc).iter = [] := by
  simp [iter, FlatRoutingTable.new]

theorem tidy_new (root : NodeId) (acc_pos : 0 < acc) (acc_lt : acc < 64) :
    (FlatRoutingTable.new root acc_pos acc_lt : FlatRoutingTable k acc).Tidy := by
  have h : ∀ (i : Nat) (b : Bucket k),
      (FlatRoutingTable.new root acc_pos acc_lt : FlatRoutingTable k acc).buckets[i]? =
      some b → b.contacts = [] := by
    intro i b hb
    obtain rfl : b = .new := by simpa [FlatRoutingTable.new] using List.mem_of_getElem? hb
    exact Bucket.contacts_new
  constructor
  · intro i b hb c hc
    simp [h i b hb] at hc
  · intro i b hb
    simp [h i b hb]

namespace Tidy

variable {self self' : FlatRoutingTable k acc}

theorem mem_bucket_iff (ht : self.Tidy) (id : NodeId) (x : Contact) :
    x ∈ (self.bucket id).contacts ↔
      x ∈ self.iter ∧ self.getBucketIndex x.id = self.getBucketIndex id := by
  constructor
  · intro h
    exact ⟨mem_iter_of_mem_bucket self h, ht.home _ _ (buckets_getBucketIndex self id) x h⟩
  · rintro ⟨hx, hidx⟩
    obtain ⟨i, b, hb, hxb⟩ := (mem_iter_iff self x).1 hx
    obtain rfl := ht.home i b hb x hxb
    rw [hidx, buckets_getBucketIndex] at hb
    exact Option.some.inj hb ▸ hxb

/-- **A tidy table is a map**: a lookup finds the one contact with that id. -/
theorem contact_eq_some_iff (ht : self.Tidy) (id : NodeId) (c : Contact) :
    self.contact id = some c ↔ c ∈ self.iter ∧ c.id = id := by
  rw [contact, Bucket.get_eq_some_iff (ht.nodup _ _ (buckets_getBucketIndex self id)),
    ht.mem_bucket_iff]
  constructor
  · rintro ⟨⟨hc, -⟩, hid⟩
    exact ⟨hc, hid⟩
  · rintro ⟨hc, rfl⟩
    exact ⟨⟨hc, rfl⟩, rfl⟩

theorem contact_eq_none_iff (ht : self.Tidy) (id : NodeId) :
    self.contact id = none ↔ ∀ c ∈ self.iter, c.id ≠ id := by
  rw [Option.eq_none_iff_forall_ne_some]
  constructor
  · intro h c hc hid
    exact h c ((ht.contact_eq_some_iff id c).2 ⟨hc, hid⟩)
  · intro h c hc
    obtain ⟨hm, hid⟩ := (ht.contact_eq_some_iff id c).1 hc
    exact h c hm hid

theorem nodup_iter (ht : self.Tidy) : (self.iter.map Contact.id).Nodup := by
  rw [iter, List.map_flatMap, List.nodup_flatMap]
  refine ⟨?_, ?_⟩
  · intro b hb
    obtain ⟨i, hi⟩ := List.mem_iff_getElem?.1 hb
    exact ht.nodup i b hi
  · rw [List.pairwise_iff_getElem]
    intro i j hi hj hij id hidi hidj
    obtain ⟨c, hc, rfl⟩ := List.mem_map.1 hidi
    obtain ⟨d, hd, hid⟩ := List.mem_map.1 hidj
    have h1 := ht.home i _ (List.getElem?_eq_getElem hi) c hc
    have h2 := ht.home j _ (List.getElem?_eq_getElem hj) d hd
    rw [hid, h1] at h2
    omega

/-- Changing the contents of one bucket keeps the table tidy if that bucket stays in order. -/
theorem setBucket (ht : self.Tidy) {i : Nat} {b b' : Bucket k} (h : self.buckets[i]? = some b)
    (hhome : ∀ c ∈ b'.contacts, self.getBucketIndex c.id = i)
    (hnodup : (b'.contacts.map Contact.id).Nodup) : (self.setBucket i b').Tidy := by
  constructor
  · intro j c hc x hx
    rw [getBucketIndex_setBucket]
    rw [buckets_setBucket self h] at hc
    split at hc
    · rename_i hij
      cases hc
      exact hij ▸ hhome x hx
    · exact ht.home j c hc x hx
  · intro j c hc
    rw [buckets_setBucket self h] at hc
    split at hc
    · cases hc
      exact hnodup
    · exact ht.nodup j c hc

theorem added (ht : self.Tidy) {c : Contact} {r : Except AddError Unit}
    (h : Added self c r self') : self'.Tidy := by
  cases h with
  | added hnew _ _ hperm =>
    have hb := buckets_getBucketIndex self c.id
    refine ht.setBucket hb ?_ ?_
    · intro x hx
      rcases List.mem_cons.1 (hperm.mem_iff.1 hx) with rfl | hx
      · rfl
      · exact ht.home _ _ hb x hx
    · rw [(hperm.map Contact.id).nodup_iff, List.map_cons, List.nodup_cons]
      refine ⟨?_, ht.nodup _ _ hb⟩
      intro hmem
      obtain ⟨y, hy, hyid⟩ := List.mem_map.1 hmem
      have : self.contains c.id = true := (Bucket.contains_iff _ _).2 ⟨y, hy, hyid⟩
      simp [this] at hnew
  | alreadyExists | needsValidation | notAdded => exact ht

/-- Writing the place of a contact keeps the table tidy if what is written belongs into the same
bucket and its id is new there, unless it is the old one. -/
theorem setBucket_write (ht : self.Tidy) (id : NodeId) {new : Option Contact}
    (hnew : ∀ c, new = some c → c.id = id ∨
      (self.getBucketIndex c.id = self.getBucketIndex id ∧ self.contains c.id = false)) :
    (self.setBucket (self.getBucketIndex id) ((self.bucket id).write id new)).Tidy := by
  have hb := buckets_getBucketIndex self id
  refine ht.setBucket hb ?_ (Bucket.nodup_write (ht.nodup _ _ hb) id ?_)
  · intro x hx
    rcases Bucket.mem_write hx with hx | hx
    · exact ht.home _ _ hb x hx
    · rcases hnew x hx with heq | ⟨hidx, -⟩
      · rw [heq]
      · exact hidx
  · intro c hc
    refine (hnew c hc).imp_right ?_
    rintro ⟨hidx, hfresh⟩
    rw [contains] at hfresh
    have : self.bucket c.id = self.bucket id := by
      have h1 := buckets_getBucketIndex self c.id
      rw [hidx, hb] at h1
      exact (Option.some.inj h1).symm
    rwa [this] at hfresh

theorem mem_iter_setBucket_write (ht : self.Tidy) {id : NodeId} {c : Contact}
    (h : self.contact id = some c) (new : Option Contact) (x : Contact) :
    x ∈ (self.setBucket (self.getBucketIndex id) ((self.bucket id).write id new)).iter ↔
      (x ∈ self.iter ∧ x.id ≠ id) ∨ new = some x := by
  have hb := buckets_getBucketIndex self id
  rw [mem_iter_setBucket self hb, Bucket.mem_write_iff (ht.nodup _ _ hb) h, ht.mem_bucket_iff]
  constructor
  · rintro ((⟨⟨hx, -⟩, hne⟩ | hx) | ⟨j, d, hj, hd, hx⟩)
    · exact .inl ⟨hx, hne⟩
    · exact .inr hx
    · refine .inl ⟨(mem_iter_iff self x).2 ⟨j, d, hd, hx⟩, ?_⟩
      rintro rfl
      exact hj (ht.home j d hd x hx).symm
  · rintro (⟨hx, hne⟩ | hx)
    · by_cases hidx : self.getBucketIndex x.id = self.getBucketIndex id
      · exact .inl (.inl ⟨⟨hx, hidx⟩, hne⟩)
      · obtain ⟨j, d, hd, hxd⟩ := (mem_iter_iff self x).1 hx
        exact .inr ⟨j, d, ht.home j d hd x hxd ▸ hidx, hd, hxd⟩
    · exact .inl (.inr hx)

end Tidy

/-! ## Removing -/

theorem remove_fst (self : FlatRoutingTable k acc) (id : NodeId) :
    (self.remove id).1 = self.contact id := rfl

theorem remove_snd (self : FlatRoutingTable k acc) (id : NodeId) :
    (self.remove id).2 =
      self.setBucket (self.getBucketIndex id) ((self.bucket id).write id none) := rfl

@[simp] theorem remove_root (self : FlatRoutingTable k acc) (id : NodeId) :
    (self.remove id).2.root = self.root := rfl

theorem mem_iter_of_mem_remove (h : x ∈ (self.remove id).2.iter) :
    x ∈ self.iter :=
  (mem_iter_of_mem_write self h).resolve_right (by simp)

theorem setBucket_self (self : FlatRoutingTable k acc) (id : NodeId) :
    self.setBucket (self.getBucketIndex id) (self.bucket id) = self := by
  have h : self.buckets.set (self.getBucketIndex id) (self.bucket id) = self.buckets := by
    apply List.ext_getElem?
    intro j
    rw [List.getElem?_set]
    by_cases hj : self.getBucketIndex id = j
    · rw [if_pos hj, ← hj, if_pos (self.getBucketIndex_lt id), buckets_getBucketIndex]
    · rw [if_neg hj]
  cases self
  simpa [setBucket] using h

theorem remove_of_contact_eq_none (h : self.contact id = none) :
    (self.remove id).2 = self := by
  rw [remove_snd, Bucket.write_of_get_eq_none h, setBucket_self]

namespace Tidy

variable {self : FlatRoutingTable k acc}

theorem remove (ht : self.Tidy) (id : NodeId) : (self.remove id).2.Tidy :=
  ht.setBucket_write id (by simp)

theorem mem_iter_remove (ht : self.Tidy) (id : NodeId) (x : Contact) :
    x ∈ (self.remove id).2.iter ↔ x ∈ self.iter ∧ x.id ≠ id := by
  cases h : self.contact id with
  | none =>
    rw [remove_of_contact_eq_none h]
    exact ⟨fun hx ↦ ⟨hx, (ht.contact_eq_none_iff id).1 h x hx⟩, fun hx ↦ hx.1⟩
  | some c =>
    rw [remove_snd, ht.mem_iter_setBucket_write h]
    simp

end Tidy

/-! ## Overwriting -/

@[simp] theorem write_root (self : FlatRoutingTable k acc) (id : NodeId) (c : Contact) :
    (self.write id c).root = self.root := rfl

namespace Tidy

variable {self : FlatRoutingTable k acc}

theorem write (ht : self.Tidy) {id : NodeId} {c : Contact}
    (hc : c.id = id ∨
      (self.getBucketIndex c.id = self.getBucketIndex id ∧ self.contains c.id = false)) :
    (self.write id c).Tidy :=
  ht.setBucket_write id (by rintro _ ⟨⟩; exact hc)

theorem mem_iter_write (ht : self.Tidy) {id : NodeId} {old : Contact}
    (h : self.contact id = some old) (c x : Contact) :
    x ∈ (self.write id c).iter ↔ (x ∈ self.iter ∧ x.id ≠ id) ∨ x = c := by
  rw [FlatRoutingTable.write, ht.mem_iter_setBucket_write h, Option.some_inj, eq_comm (a := c)]

end Tidy

/-! ## Replacing -/

/-- **Everything a replacement can do**: it fails and leaves the table alone, or it overwrites the
contact with the replaced id by one whose id is not in that bucket yet. -/
theorem replace_cases (self : FlatRoutingTable k acc) (id : NodeId) (c : Contact) :
    (∃ old, self.contact id = some old ∧ (self.bucket id).contains c.id = false ∧
      self.replace id c = (.ok old, self.write id c)) ∨
    (∃ err, self.replace id c = (.error err, self)) := by
  unfold replace Bucket.replace
  cases h : (self.bucket id).get id with
  | none => exact .inr ⟨_, rfl⟩
  | some old =>
    by_cases hc : (self.bucket id).contains c.id = true
    · exact .inr ⟨.duplicateId id, by simp only [hc, if_true]⟩
    · exact .inl ⟨old, h, by simpa using hc, by simp only [hc]; rfl⟩

/-! ## Splitting -/

theorem readd_spec {contacts : List Contact} (h : self.readd contacts = .ok self') :
    self'.root = self.root ∧ self'.numBuckets = self.numBuckets ∧ (self.Tidy → self'.Tidy) ∧
      ∀ x, x ∈ self'.iter ↔ x ∈ contacts ∨ x ∈ self.iter := by
  induction contacts generalizing self with
  | nil =>
    obtain rfl : self = self' := by simpa [readd] using h
    exact ⟨rfl, rfl, fun ht ↦ ht, fun x ↦ by simp⟩
  | cons c contacts ih =>
    rw [readd] at h
    obtain ⟨⟨r, t⟩, ha, h⟩ := of_bind h
    have hadded := add_cases ha
    cases r with
    | error err => simp at h
    | ok u =>
      obtain ⟨hroot, hnum, htidy, hmem⟩ := ih h
      refine ⟨hroot.trans hadded.root_eq, hnum.trans hadded.numBuckets_eq,
        fun ht ↦ htidy (ht.added hadded), fun x ↦ ?_⟩
      rw [hmem, hadded.mem_iter_iff, List.mem_cons]
      tauto

@[simp] theorem withNewLevel_root (self : FlatRoutingTable k acc)
    (h : self.buckets.length < maxBuckets acc) : (self.withNewLevel h).root = self.root := rfl

theorem withNewLevel_numBuckets (self : FlatRoutingTable k acc)
    (h : self.buckets.length < maxBuckets acc) :
    (self.withNewLevel h).numBuckets = self.numBuckets + levelWidth acc := by
  have hpos := self.numBuckets_pos
  simp only [numBuckets, withNewLevel, List.length_append, List.length_dropLast,
    List.length_replicate, List.length_singleton] at hpos ⊢
  omega

theorem getBucketIndex_eq_of_lt {s : FlatRoutingTable k acc} (hroot : t.root = s.root)
    (hnum : s.numBuckets ≤ t.numBuckets)
    (h : s.getBucketIndex id < s.numBuckets - 1) : t.getBucketIndex id = s.getBucketIndex id := by
  rw [getBucketIndex] at h
  rw [getBucketIndex, getBucketIndex, hroot]
  split at h
  · omega
  · rename_i hb
    rw [if_neg hb, if_neg hb]
    dsimp only at h ⊢
    omega

theorem buckets_withNewLevel (self : FlatRoutingTable k acc)
    (h : self.buckets.length < maxBuckets acc)
    (hb : (self.withNewLevel h).buckets[i]? = some b) :
    (i < self.numBuckets - 1 ∧ self.buckets[i]? = some b) ∨
      (self.numBuckets - 1 ≤ i ∧ b = .new) := by
  simp only [withNewLevel, List.append_assoc] at hb
  rw [numBuckets]
  by_cases hi : i < self.buckets.length - 1
  · refine .inl ⟨hi, ?_⟩
    rwa [List.getElem?_append_left (by simpa using hi), List.getElem?_dropLast, if_pos hi] at hb
  · refine .inr ⟨Nat.le_of_not_lt hi, ?_⟩
    rw [List.getElem?_append_right (by simpa using Nat.le_of_not_lt hi)] at hb
    rcases List.mem_append.1 (List.mem_of_getElem? hb) with hm | hm
    · exact (List.mem_replicate.1 hm).2
    · exact List.mem_singleton.1 hm

theorem Tidy.withNewLevel (ht : self.Tidy) (h : self.buckets.length < maxBuckets acc) :
    (self.withNewLevel h).Tidy := by
  have hnum := self.withNewLevel_numBuckets h
  constructor
  · intro i b hb c hc
    rcases buckets_withNewLevel self h hb with ⟨hi, hb'⟩ | ⟨-, rfl⟩
    · have hidx := ht.home i b hb' c hc
      rw [getBucketIndex_eq_of_lt (withNewLevel_root self h) (by omega) (by omega), hidx]
    · simp at hc
  · intro i b hb
    rcases buckets_withNewLevel self h hb with ⟨-, hb'⟩ | ⟨-, rfl⟩
    · exact ht.nodup i b hb'
    · simp

theorem mem_iter_withNewLevel (self : FlatRoutingTable k acc)
    (h : self.buckets.length < maxBuckets acc)
    (hlast : self.buckets[self.numBuckets - 1]? = some b) (x : Contact) :
    x ∈ b.contacts ∨ x ∈ (self.withNewLevel h).iter ↔ x ∈ self.iter := by
  rw [mem_iter_iff, mem_iter_iff]
  constructor
  · rintro (hx | ⟨i, c, hc, hx⟩)
    · exact ⟨_, b, hlast, hx⟩
    · rcases buckets_withNewLevel self h hc with ⟨-, hc'⟩ | ⟨-, rfl⟩
      · exact ⟨i, c, hc', hx⟩
      · simp at hx
  · rintro ⟨i, c, hc, hx⟩
    have hlt : i < self.buckets.length := (List.getElem?_eq_some_iff.1 hc).1
    rcases Nat.lt_or_eq_of_le (Nat.le_sub_one_of_lt hlt) with hi | rfl
    · refine .inr ⟨i, c, ?_, hx⟩
      simp only [FlatRoutingTable.withNewLevel, List.append_assoc]
      rwa [List.getElem?_append_left (by simpa using hi), List.getElem?_dropLast, if_pos hi]
    · obtain rfl : b = c := Option.some.inj (hlast.symm.trans hc)
      exact .inl hx

/-- **Everything a split can do.** -/
inductive Split (self : FlatRoutingTable k acc) (id : NodeId) :
    Except BucketSplitError Nat → FlatRoutingTable k acc → Prop
  | maxBucketsReached (h : maxBuckets acc ≤ self.numBuckets) :
      Split self id (.error .maxBucketsReached) self
  | unsplittable (h : self.numBuckets < maxBuckets acc)
      (hidx : self.getBucketIndex id ≠ self.numBuckets - 1) :
      Split self id (.error .unsplittable) self
  | split {self' : FlatRoutingTable k acc} (h : self.buckets.length < maxBuckets acc)
      (hidx : self.getBucketIndex id = self.numBuckets - 1)
      (hreadd : (self.withNewLevel h).readd (self.bucket id).contacts = .ok self') :
      Split self id (.ok (self.numBuckets - 1)) self'

theorem splitBucket_cases {r : Except BucketSplitError Nat}
    (h : self.splitBucket id = .ok (r, self')) :
    Split self id r self' := by
  unfold splitBucket at h
  split at h
  · rename_i hlt
    split at h
    · rename_i hne
      cases h
      exact .unsplittable hlt hne
    · rename_i heq
      rw [Decidable.not_not] at heq
      obtain ⟨t, ht, h⟩ := of_bind h
      cases h
      rw [heq]
      exact .split hlt heq ht
  · rename_i hge
    cases h
    exact .maxBucketsReached (Nat.le_of_not_lt hge)

namespace Split

variable {self self' : FlatRoutingTable k acc} {id : NodeId} {r : Except BucketSplitError Nat}

theorem eq_of_error {err : BucketSplitError} (h : Split self id (.error err) self') :
    self' = self := by
  cases h <;> rfl

theorem root_eq (h : Split self id r self') : self'.root = self.root := by
  cases h with
  | split h _ hreadd => exact (readd_spec hreadd).1
  | maxBucketsReached | unsplittable => rfl

/-- **A split keeps what is stored.** -/
theorem mem_iter_iff (h : Split self id r self') (x : Contact) :
    x ∈ self'.iter ↔ x ∈ self.iter := by
  cases h with
  | split h hidx hreadd =>
    have hlast := buckets_getBucketIndex self id
    rw [hidx] at hlast
    rw [(readd_spec hreadd).2.2.2, mem_iter_withNewLevel self h hlast]
  | maxBucketsReached | unsplittable => rfl

theorem tidy (h : Split self id r self') (ht : self.Tidy) : self'.Tidy := by
  cases h with
  | split h _ hreadd => exact (readd_spec hreadd).2.2.1 (ht.withNewLevel h)
  | maxBucketsReached | unsplittable => exact ht

theorem numBuckets_eq {i : Nat} (h : Split self id (.ok i) self') :
    self'.numBuckets = self.numBuckets + levelWidth acc := by
  cases h with
  | split h _ hreadd => rw [(readd_spec hreadd).2.1, withNewLevel_numBuckets]

end Split

/-- The second table is the first with some of its buckets split. -/
structure SplitsTo (t t' : FlatRoutingTable k acc) : Prop where
  root_eq : t'.root = t.root
  numBuckets_le : t.numBuckets ≤ t'.numBuckets
  mem_iter_iff : ∀ x, x ∈ t'.iter ↔ x ∈ t.iter
  tidy : t.Tidy → t'.Tidy

theorem Split.splitsTo {r : Except BucketSplitError Nat}
    (h : Split self id r self') : SplitsTo self self' where
  root_eq := h.root_eq
  numBuckets_le := by
    cases r with
    | error err => rw [h.eq_of_error]
    | ok i =>
      rw [h.numBuckets_eq]
      exact Nat.le_add_right _ _
  mem_iter_iff := h.mem_iter_iff
  tidy := h.tidy

namespace SplitsTo

variable {t t' t'' : FlatRoutingTable k acc}

theorem refl (t : FlatRoutingTable k acc) : SplitsTo t t :=
  ⟨rfl, Nat.le_refl _, fun _ ↦ Iff.rfl, id⟩

theorem trans (h : SplitsTo t t') (h' : SplitsTo t' t'') : SplitsTo t t'' where
  root_eq := h'.root_eq.trans h.root_eq
  numBuckets_le := h.numBuckets_le.trans h'.numBuckets_le
  mem_iter_iff x := (h'.mem_iter_iff x).trans (h.mem_iter_iff x)
  tidy ht := h'.tidy (h.tidy ht)

theorem getBucketIndex_eq (h : SplitsTo t t') (id : NodeId) :
    t.getBucketIndex id = min (t'.getBucketIndex id) (t.numBuckets - 1) := by
  have hle := h.numBuckets_le
  rw [getBucketIndex, getBucketIndex, h.root_eq]
  split
  · omega
  · dsimp only
    omega

theorem mem_bucket (h : SplitsTo t t') (ht : t.Tidy) {id : NodeId} {x : Contact}
    (hx : x ∈ (t'.bucket id).contacts) : x ∈ (t.bucket id).contacts := by
  obtain ⟨hmem, hindex⟩ := ((h.tidy ht).mem_bucket_iff id x).1 hx
  refine (ht.mem_bucket_iff id x).2 ⟨(h.mem_iter_iff x).1 hmem, ?_⟩
  rw [h.getBucketIndex_eq, h.getBucketIndex_eq, hindex]

theorem isFull (h : SplitsTo t t') (ht : t.Tidy) {id : NodeId}
    (hfull : (t'.bucket id).isFull = true) : (t.bucket id).isFull = true := by
  have hnodup := (h.tidy ht).nodup _ _ (buckets_getBucketIndex t' id)
  have hsub : (t'.bucket id).contacts ⊆ (t.bucket id).contacts := fun x hx ↦ h.mem_bucket ht hx
  have hle := (List.subperm_of_subset (List.Nodup.of_map _ hnodup) hsub).length_le
  rw [Bucket.contacts_length_of_isFull hfull] at hle
  exact Bucket.isFull_of_le_length hle

end SplitsTo

/-- How many levels a table can still get. -/
def levelsLeft (self : FlatRoutingTable k acc) : Nat := NodeId.BITS / acc - self.levels

theorem Split.levelsLeft_lt {t' : FlatRoutingTable k acc}
    (h : Split t id (.ok i) t') : t'.levelsLeft < t.levelsLeft := by
  have hnum := h.numBuckets_eq
  rw [t.numBuckets_eq, Nat.add_right_comm, ← Nat.succ_mul] at hnum
  have hlev := levels_eq_of_numBuckets hnum
  have hle := t'.levels_le
  rw [levelsLeft, levelsLeft, hlev]
  omega

theorem levelsLeft_le (self : FlatRoutingTable k acc) : self.levelsLeft ≤ NodeId.BITS :=
  (Nat.sub_le _ _).trans (Nat.div_le_self _ _)

/-- **An insertion never runs out of rounds.** -/
theorem insertRounds_eq_insert (self : FlatRoutingTable k acc) (c : Contact) :
    ∀ rounds, NodeId.BITS < rounds →
      RoutingTable.insertRounds rounds self c = RoutingTable.insert self c := by
  have hstep : ∀ rounds, NodeId.BITS < rounds →
      RoutingTable.insertRounds (rounds + 1) self c = RoutingTable.insertRounds rounds self c := by
    intro rounds hr
    refine RoutingTable.insertRounds_of_measure levelsLeft ?_ ?_ rounds self c ?_
    · intro t c r t' h
      have := (add_cases h).numBuckets_eq
      rw [levelsLeft, levelsLeft, levels, levels, this]
    · intro t id i t' h
      exact (splitBucket_cases h).levelsLeft_lt
    · exact self.levelsLeft_le.trans_lt hr
  intro rounds hr
  induction rounds with
  | zero => omega
  | succ rounds ih =>
    rcases Nat.lt_or_eq_of_le (Nat.le_of_lt_succ hr) with hlt | rfl
    · rw [hstep rounds hlt, ih hlt]
    · rfl

/-! ## Writing to all contacts -/

@[simp] theorem iterMut_root (self : FlatRoutingTable k acc) (f : Contact → Contact) :
    (self.iterMut f).root = self.root := rfl

@[simp] theorem iterMut_numBuckets (self : FlatRoutingTable k acc) (f : Contact → Contact) :
    (self.iterMut f).numBuckets = self.numBuckets := by
  simp [numBuckets, iterMut]

theorem buckets_iterMut {f : Contact → Contact} (h : (self.iterMut f).buckets[i]? = some b) :
    ∃ b₀, self.buckets[i]? = some b₀ ∧ b.contacts = b₀.contacts.map f := by
  simp only [iterMut, List.getElem?_map, Option.map_eq_some_iff] at h
  obtain ⟨b₀, hb₀, rfl⟩ := h
  exact ⟨b₀, hb₀, List.reduceOption_map⟩

theorem iter_iterMut (self : FlatRoutingTable k acc) (f : Contact → Contact) :
    (self.iterMut f).iter = self.iter.map f := by
  simp only [iter, iterMut, List.flatMap_map, List.map_flatMap]
  congr 1
  funext b
  exact List.reduceOption_map

/-- Writing to all contacts keeps the table tidy if the ids stay. -/
theorem Tidy.iterMut (ht : self.Tidy) {f : Contact → Contact}
    (hf : ∀ c ∈ self.iter, (f c).id = c.id) : (self.iterMut f).Tidy := by
  have hmem : ∀ (i : Nat) (b : Bucket k), self.buckets[i]? = some b → ∀ c ∈ b.contacts,
      (f c).id = c.id :=
    fun i b hb c hc ↦ hf c ((mem_iter_iff self c).2 ⟨i, b, hb, hc⟩)
  constructor
  · intro i b hb c hc
    obtain ⟨b₀, hb₀, hcon⟩ := buckets_iterMut hb
    rw [hcon, List.mem_map] at hc
    obtain ⟨c₀, hc₀, rfl⟩ := hc
    rw [hmem i b₀ hb₀ c₀ hc₀,
      getBucketIndex_congr (iterMut_root self f) (iterMut_numBuckets self f)]
    exact ht.home i b₀ hb₀ c₀ hc₀
  · intro i b hb
    obtain ⟨b₀, hb₀, hcon⟩ := buckets_iterMut hb
    have hids : b₀.contacts.map (Contact.id ∘ f) = b₀.contacts.map Contact.id :=
      List.map_congr_left (hmem i b₀ hb₀)
    rw [hcon, List.map_map, hids]
    exact ht.nodup i b₀ hb₀

end FlatRoutingTable

end Kira
