import Kira.Runtime

/-!
# The local hash table

Each node has a table of its own for the pairs of the distributed hash table that it keeps:
`SingleValueHashTable` has one value for a key, `ComplexHashTable` a set of them.  What the
distributed hash table relies on is `LawfulLocalHashTable`: a value that has been stored is there,
and it has metadata.  `LawfulEntryMeta` says what each operation does to the metadata, and that it
leaves other keys alone.

The metadata of a key are the times of its last access and of its last republish.  The program can
also record a republish, but no use case does.  A time can lie before the origin of the clock, as it
is computed from an age that another node has sent.
-/

set_option autoImplicit false

namespace Kira

/-- The instant so long ago.  The seconds of an instant are a signed number of 64 bits. -/
def Instant.checkedSub (now : Instant) (age : Age) : Option Instant :=
  let time := now - age.toNat * 1000000
  if -2 ^ 63 * 1000000000 ≤ time then some time else none

/-- From the origin of the clock on, every age gives an instant. -/
theorem Instant.checkedSub_isSome (now : Timestamp) (age : Age) :
    (Instant.checkedSub now age).isSome = true := by
  have hage := age.isLt
  have htime : -2 ^ 63 * 1000000000 ≤ (now : Int) - age.toNat * 1000000 := by omega
  rw [checkedSub, if_pos htime]
  rfl

theorem Instant.eq_of_checkedSub {now time : Instant} {age : Age}
    (h : Instant.checkedSub now age = some time) : time = now - age.toNat * 1000000 := by
  simp only [checkedSub] at h
  split at h
  · exact (Option.some.inj h).symm
  · simp at h

/-- The time that has passed since an instant, if any has. -/
def Instant.saturatingDurationSince (now earlier : Instant) : Duration := (now - earlier).toNat

/-- The access time is never changed to an earlier one. -/
def accessedAt (accessed : Option Instant) (now : Instant) : Option Instant :=
  match accessed with
  | none => some now
  | some lastAccessed => if lastAccessed < now then some now else some lastAccessed

structure EntryMeta where
  lastAccess : Option Instant
  lastRepublish : Option Instant
  deriving DecidableEq

namespace EntryMeta

def new : EntryMeta := ⟨none, none⟩

def access (self : EntryMeta) (now : Instant) : EntryMeta :=
  { self with lastAccess := accessedAt self.lastAccess now }

end EntryMeta

/-- The interface of a local hash table. -/
class LocalHashTable (H : Type) where
  default : H
  store : H → NodeId → Bytes → StoreResult × H
  fetch : H → NodeId → Except FetchErr (List Bytes)
  /-- All keys with their values, in some order. -/
  fetchAll : H → List (NodeId × List Bytes)
  /-- Removes a key, and says whether it was stored. -/
  remove : H → NodeId → Bool × H
  metadata : H → NodeId → Option EntryMeta
  access : H → NodeId → Instant → Option H

/-- A value that has been stored is there. -/
class LawfulLocalHashTable (H : Type) [LocalHashTable H] : Prop where
  store_ok (t : H) (key : NodeId) (value : Bytes) :
    ∃ ok, (LocalHashTable.store t key value).1 = .ok ok
  fetch_store (t : H) (key : NodeId) (value : Bytes) :
    ∃ values, LocalHashTable.fetch (LocalHashTable.store t key value).2 key = .ok values ∧
      value ∈ values
  access_isSome {t : H} {key : NodeId} {values : List Bytes} (now : Instant) :
    LocalHashTable.fetch t key = .ok values → (LocalHashTable.access t key now).isSome = true
  fetch_access {t t' : H} {key : NodeId} {now : Instant} :
    LocalHashTable.access t key now = some t' →
      LocalHashTable.fetch t' key = LocalHashTable.fetch t key

/-- What the operations do to the metadata and the values of each key. -/
class LawfulEntryMeta (H : Type) [LocalHashTable H] : Prop where
  metadata_default (key : NodeId) : LocalHashTable.metadata (LocalHashTable.default : H) key = none
  metadata_store (t : H) (key : NodeId) (value : Bytes) (key' : NodeId) :
    LocalHashTable.metadata (LocalHashTable.store t key value).2 key' =
      if key' = key then some ((LocalHashTable.metadata t key).getD .new)
      else LocalHashTable.metadata t key'
  metadata_access {t t' : H} {key : NodeId} {now : Instant} (key' : NodeId) :
    LocalHashTable.access t key now = some t' → LocalHashTable.metadata t' key' =
      if key' = key then (LocalHashTable.metadata t key).map fun entry ↦ entry.access now
      else LocalHashTable.metadata t key'
  metadata_remove (t : H) (key key' : NodeId) :
    LocalHashTable.metadata (LocalHashTable.remove t key).2 key' =
      if key' = key then none else LocalHashTable.metadata t key'
  fetch_store_ne (t : H) {key key' : NodeId} (value : Bytes) : key' ≠ key →
    LocalHashTable.fetch (LocalHashTable.store t key value).2 key' = LocalHashTable.fetch t key'
  fetch_access_eq {t t' : H} {key : NodeId} {now : Instant} (key' : NodeId) :
    LocalHashTable.access t key now = some t' →
      LocalHashTable.fetch t' key' = LocalHashTable.fetch t key'
  fetch_remove_ne (t : H) {key key' : NodeId} : key' ≠ key →
    LocalHashTable.fetch (LocalHashTable.remove t key).2 key' = LocalHashTable.fetch t key'
  /-- A key has values if and only if it has metadata. -/
  fetch_isOk (t : H) (key : NodeId) :
    (LocalHashTable.fetch t key).isOk = (LocalHashTable.metadata t key).isSome
  /-- All keys that are stored are listed, once. -/
  mem_fetchAll (t : H) (key : NodeId) : key ∈ (LocalHashTable.fetchAll t).map Prod.fst ↔
    (LocalHashTable.metadata t key).isSome = true
  nodup_fetchAll (t : H) : ((LocalHashTable.fetchAll t).map Prod.fst).Nodup

/-- Both tables map each key to an entry, that has the values and the metadata. -/
structure EntryTable (H E : Type) [LocalHashTable H] where
  entries : H → KeyMap NodeId E
  values : E → List Bytes
  metadata : E → EntryMeta
  access : Instant → E → E
  entries_default : entries LocalHashTable.default = ∅
  fetch_eq (t : H) (key : NodeId) : LocalHashTable.fetch t key =
    ((entries t).lookup key).elim (.error .notFoundErr) fun entry ↦ .ok (values entry)
  fetchAll_eq (t : H) : LocalHashTable.fetchAll t =
    (entries t).entries.map fun entry ↦ (entry.1, values entry.2)
  metadata_eq (t : H) (key : NodeId) :
    LocalHashTable.metadata t key = ((entries t).lookup key).map metadata
  remove_eq (t : H) (key : NodeId) : entries (LocalHashTable.remove t key).2 = (entries t).erase key
  access_eq (t : H) (key : NodeId) (now : Instant) : (LocalHashTable.access t key now).map entries =
    ((entries t).lookup key).map fun entry ↦ (entries t).insert key (access now entry)
  store_eq (t : H) (key : NodeId) (value : Bytes) : ∃ entry,
    metadata entry = (((entries t).lookup key).map metadata).getD .new ∧
    ∀ key', (entries (LocalHashTable.store t key value).2).lookup key' =
      if key' = key then some entry else (entries t).lookup key'
  values_access (now : Instant) (entry : E) : values (access now entry) = values entry
  metadata_access (now : Instant) (entry : E) : metadata (access now entry) =
    (metadata entry).access now

namespace EntryTable

variable {H E : Type} [LocalHashTable H]

theorem lookup_access (self : EntryTable H E) {t t' : H} {key : NodeId} {now : Instant}
    (h : LocalHashTable.access t key now = some t') (key' : NodeId) :
    (self.entries t').lookup key' =
      if key' = key then ((self.entries t).lookup key).map (self.access now)
      else (self.entries t).lookup key' := by
  have heq := self.access_eq t key now
  rw [h, Option.map_some, eq_comm, Option.map_eq_some_iff] at heq
  obtain ⟨entry, hentry, hinsert⟩ := heq
  rw [← hinsert, KeyMap.lookup_insert_eq, hentry]
  rfl

theorem lawful (self : EntryTable H E) : LawfulEntryMeta H where
  metadata_default key := by
    rw [self.metadata_eq, self.entries_default]
    rfl
  metadata_store t key value key' := by
    obtain ⟨entry, hmeta, hlook⟩ := self.store_eq t key value
    rw [self.metadata_eq, hlook, self.metadata_eq, self.metadata_eq, ← hmeta]
    split <;> rfl
  metadata_access key' h := by
    rw [self.metadata_eq, self.lookup_access h, self.metadata_eq, self.metadata_eq]
    split
    · simp only [Option.map_map, Function.comp_def, self.metadata_access]
    · rfl
  metadata_remove t key key' := by
    rw [self.metadata_eq, self.remove_eq, KeyMap.lookup_erase_eq, self.metadata_eq]
    split <;> rfl
  fetch_store_ne t key key' value h := by
    obtain ⟨entry, -, hlook⟩ := self.store_eq t key value
    rw [self.fetch_eq, hlook, if_neg h, self.fetch_eq]
  fetch_access_eq key' h := by
    rw [self.fetch_eq, self.lookup_access h, self.fetch_eq]
    split
    · rename_i hkey
      rw [hkey]
      cases (self.entries _).lookup _ with
      | none => rfl
      | some entry => simp [self.values_access]
    · rfl
  fetch_remove_ne t key key' h := by
    rw [self.fetch_eq, self.remove_eq, KeyMap.lookup_erase_eq, if_neg h, self.fetch_eq]
  fetch_isOk t key := by
    rw [self.fetch_eq, self.metadata_eq]
    cases (self.entries t).lookup key <;> rfl
  mem_fetchAll t key := by
    rw [self.fetchAll_eq, self.metadata_eq, Option.isSome_map, AList.lookup_isSome, List.map_map]
    rfl
  nodup_fetchAll t := by
    rw [self.fetchAll_eq, List.map_map]
    exact (self.entries t).nodupKeys

end EntryTable

/-! ## Several values for a key -/

namespace ComplexHashTable

structure Entry where
  /-- A set of values, in some order. -/
  values : List Bytes
  accessed : Option Instant
  republished : Option Instant

def Entry.metadata (self : Entry) : EntryMeta := ⟨self.accessed, self.republished⟩

end ComplexHashTable

/-- All values stored for a key. -/
structure ComplexHashTable where
  inner : KeyMap NodeId ComplexHashTable.Entry

namespace ComplexHashTable

def store (self : ComplexHashTable) (key : NodeId) (value : Bytes) :
    StoreResult × ComplexHashTable :=
  match self.inner.lookup key with
  | some entry =>
    if value ∈ entry.values then (.ok .updated, self)
    else (.ok .inserted, ⟨self.inner.insert key { entry with values := value :: entry.values }⟩)
  | none => (.ok .created, ⟨self.inner.insert key ⟨[value], none, none⟩⟩)

def fetch (self : ComplexHashTable) (key : NodeId) : Except FetchErr (List Bytes) :=
  match self.inner.lookup key with
  | some entry => .ok entry.values
  | none => .error .notFoundErr

def access (self : ComplexHashTable) (key : NodeId) (now : Instant) : Option ComplexHashTable :=
  (self.inner.lookup key).map fun entry ↦
    ⟨self.inner.insert key { entry with accessed := accessedAt entry.accessed now }⟩

def fetchAll (self : ComplexHashTable) : List (NodeId × List Bytes) :=
  self.inner.entries.map fun entry ↦ (entry.1, entry.2.values)

def remove (self : ComplexHashTable) (key : NodeId) : Bool × ComplexHashTable :=
  ((self.inner.lookup key).isSome, ⟨self.inner.erase key⟩)

def metadata (self : ComplexHashTable) (key : NodeId) : Option EntryMeta :=
  (self.inner.lookup key).map Entry.metadata

instance : LocalHashTable ComplexHashTable where
  default := ⟨∅⟩
  store := store
  fetch := fetch
  fetchAll := fetchAll
  remove := remove
  metadata := metadata
  access := access

theorem store_fetch (self : ComplexHashTable) (key : NodeId) (value : Bytes) :
    (∃ ok, (self.store key value).1 = .ok ok) ∧
      ∃ values, (self.store key value).2.fetch key = .ok values ∧ value ∈ values := by
  unfold store
  cases hlook : self.inner.lookup key with
  | none => exact ⟨⟨_, rfl⟩, [value], by simp [fetch], List.mem_singleton.2 rfl⟩
  | some entry =>
    dsimp only
    split
    · rename_i hmem
      exact ⟨⟨_, rfl⟩, entry.values, by simp [fetch, hlook], hmem⟩
    · exact ⟨⟨_, rfl⟩, value :: entry.values, by simp [fetch], List.mem_cons_self⟩

theorem access_fetch {self : ComplexHashTable} {key : NodeId} (now : Instant) :
    (∀ values, self.fetch key = .ok values → (self.access key now).isSome = true) ∧
      ∀ t, self.access key now = some t → t.fetch key = self.fetch key := by
  unfold access fetch
  cases self.inner.lookup key with
  | none => simp
  | some entry => simp [AList.lookup_insert]

instance : LawfulLocalHashTable ComplexHashTable where
  store_ok self key value := (store_fetch self key value).1
  fetch_store self key value := (store_fetch self key value).2
  access_isSome now h := (access_fetch now).1 _ h
  fetch_access h := (access_fetch _).2 _ h

theorem lookup_store (self : ComplexHashTable) (key : NodeId) (value : Bytes) (key' : NodeId) :
    (self.store key value).2.inner.lookup key' =
      if key' = key then some (match self.inner.lookup key with
        | some entry => { entry with values := entry.values.insert value }
        | none => ⟨[value], none, none⟩)
      else self.inner.lookup key' := by
  unfold store
  cases hlook : self.inner.lookup key with
  | none => simp [KeyMap.lookup_insert_eq]
  | some entry =>
    dsimp only
    split
    · rename_i hmem
      split
      · rename_i hkey
        rw [hkey, hlook, List.insert_of_mem hmem]
      · rfl
    · rename_i hmem
      simp [KeyMap.lookup_insert_eq, List.insert_of_not_mem hmem]

theorem mem_fetch_store (self : ComplexHashTable) (key : NodeId) (value : Bytes) :
    ∃ values, (self.store key value).2.fetch key = .ok values ∧
      ∀ other, other ∈ values ↔ (∃ old, self.fetch key = .ok old ∧ other ∈ old) ∨
        value = other := by
  simp only [fetch, lookup_store, if_pos]
  cases self.inner.lookup key with
  | none => exact ⟨[value], rfl, by simp [eq_comm]⟩
  | some entry =>
    exact ⟨entry.values.insert value, rfl, by simp [List.mem_insert_iff, or_comm, eq_comm]⟩

def entryTable : EntryTable ComplexHashTable Entry where
  entries := inner
  values := Entry.values
  metadata := Entry.metadata
  access now entry := { entry with accessed := accessedAt entry.accessed now }
  entries_default := rfl
  fetch_eq self key := by
    simp only [LocalHashTable.fetch, fetch]
    cases self.inner.lookup key <;> rfl
  fetchAll_eq _ := rfl
  metadata_eq _ _ := rfl
  remove_eq _ _ := rfl
  access_eq self key now := by
    simp only [LocalHashTable.access, access, Option.map_map]
    rfl
  store_eq self key value := by
    refine ⟨_, ?_, fun key' ↦ lookup_store self key value key'⟩
    cases self.inner.lookup key <;> rfl
  values_access _ _ := rfl
  metadata_access _ _ := rfl

instance : LawfulEntryMeta ComplexHashTable := entryTable.lawful

end ComplexHashTable

/-! ## One value for a key -/

namespace SingleValueHashTable

structure Entry where
  value : Bytes
  accessed : Option Instant
  republished : Option Instant

def Entry.metadata (self : Entry) : EntryMeta := ⟨self.accessed, self.republished⟩

end SingleValueHashTable

/-- The value stored last for a key. -/
structure SingleValueHashTable where
  inner : KeyMap NodeId SingleValueHashTable.Entry

namespace SingleValueHashTable

/-- The value takes the place of the one that is stored. -/
def store (self : SingleValueHashTable) (key : NodeId) (value : Bytes) :
    StoreResult × SingleValueHashTable :=
  match self.inner.lookup key with
  | some entry => (.ok .updated, ⟨self.inner.insert key { entry with value := value }⟩)
  | none => (.ok .created, ⟨self.inner.insert key ⟨value, none, none⟩⟩)

def fetch (self : SingleValueHashTable) (key : NodeId) : Except FetchErr (List Bytes) :=
  match self.inner.lookup key with
  | some entry => .ok [entry.value]
  | none => .error .notFoundErr

def access (self : SingleValueHashTable) (key : NodeId) (now : Instant) :
    Option SingleValueHashTable :=
  (self.inner.lookup key).map fun entry ↦
    ⟨self.inner.insert key { entry with accessed := accessedAt entry.accessed now }⟩

def fetchAll (self : SingleValueHashTable) : List (NodeId × List Bytes) :=
  self.inner.entries.map fun entry ↦ (entry.1, [entry.2.value])

def remove (self : SingleValueHashTable) (key : NodeId) : Bool × SingleValueHashTable :=
  ((self.inner.lookup key).isSome, ⟨self.inner.erase key⟩)

def metadata (self : SingleValueHashTable) (key : NodeId) : Option EntryMeta :=
  (self.inner.lookup key).map Entry.metadata

instance : LocalHashTable SingleValueHashTable where
  default := ⟨∅⟩
  store := store
  fetch := fetch
  fetchAll := fetchAll
  remove := remove
  metadata := metadata
  access := access

theorem store_fetch (self : SingleValueHashTable) (key : NodeId) (value : Bytes) :
    (∃ ok, (self.store key value).1 = .ok ok) ∧
      (self.store key value).2.fetch key = .ok [value] := by
  unfold store
  cases self.inner.lookup key with
  | none | some entry => exact ⟨⟨_, rfl⟩, by simp [fetch]⟩

theorem access_fetch {self : SingleValueHashTable} {key : NodeId} (now : Instant) :
    (∀ values, self.fetch key = .ok values → (self.access key now).isSome = true) ∧
      ∀ t, self.access key now = some t → t.fetch key = self.fetch key := by
  unfold access fetch
  cases self.inner.lookup key with
  | none => simp
  | some entry => simp [AList.lookup_insert]

instance : LawfulLocalHashTable SingleValueHashTable where
  store_ok self key value := (store_fetch self key value).1
  fetch_store self key value := ⟨_, (store_fetch self key value).2, List.mem_singleton.2 rfl⟩
  access_isSome now h := (access_fetch now).1 _ h
  fetch_access h := (access_fetch _).2 _ h

def entryTable : EntryTable SingleValueHashTable Entry where
  entries := inner
  values entry := [entry.value]
  metadata := Entry.metadata
  access now entry := { entry with accessed := accessedAt entry.accessed now }
  entries_default := rfl
  fetch_eq self key := by
    simp only [LocalHashTable.fetch, fetch]
    cases self.inner.lookup key <;> rfl
  fetchAll_eq _ := rfl
  metadata_eq _ _ := rfl
  remove_eq _ _ := rfl
  access_eq self key now := by
    simp only [LocalHashTable.access, access, Option.map_map]
    rfl
  store_eq self key value := by
    simp only [LocalHashTable.store, store]
    cases self.inner.lookup key with
    | none => exact ⟨⟨value, none, none⟩, rfl, fun key' ↦ KeyMap.lookup_insert_eq _ _ _ _⟩
    | some entry =>
      exact ⟨{ entry with value := value }, rfl, fun key' ↦ KeyMap.lookup_insert_eq _ _ _ _⟩
  values_access _ _ := rfl
  metadata_access _ _ := rfl

instance : LawfulEntryMeta SingleValueHashTable := entryTable.lawful

end SingleValueHashTable

end Kira
