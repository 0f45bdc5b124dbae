import Kira.UseCases.DistributedHashTable.Running

/-!
# What the distributed hash table does to the local one

Every event that a node handles comes down to one of a few deeds: a pair is stored, a key is
fetched, the garbage is collected, or the local hash table stays as it is.  `handleEvent_done` is
the one case analysis of the events; `Done` says what a deed does to the metadata of every key, and
that the values of a key that is still there are the same unless one was stored.

The garbage collection goes through the keys one by one.  What it does to a key depends on the
metadata of that key alone, so their order does not matter, and the keys that are looked up are
those that have not expired and need republishing (`garbageCollection_eq`).
-/

set_option autoImplicit false

namespace Kira

open Run

namespace DistributedHashTable

variable {H : Type} [LocalHashTable H]

namespace Running

/-! ## Deeds -/

/-- What an event amounts to. -/
inductive Deed where
  | store (key : NodeId) (value : Bytes) (accessed : Instant)
  | fetch (key : NodeId) (accessed : Instant)
  | collect (now : Instant)
  | nothing
  deriving DecidableEq

/-- When a pair that is stored counts as accessed. -/
def accessTime (now : Instant) (lastAccessedMs : Option Age) : Instant :=
  match lastAccessedMs with
  | some age => now - age.toNat * 1000000
  | none => now

section

variable {T : Type} {k : Nat} [RoutingTable T k]

/-- Pairs are stored at their final destination only, but every key that is there can be fetched. -/
def deed (self : Running H) (o : Occurrence T) : Deed :=
  match o.event with
  | .message (.storeReq req) =>
    if req.commonHeader.destId = RoutingTable.root o.routingTable then
      .store req.data.handle req.data.data (accessTime o.now req.data.lastAccessedMs)
    else .nothing
  | .message (.fetchReq req) =>
    if (LocalHashTable.fetch self.hashTable req.data.handle).isOk then
      .fetch req.data.handle o.now
    else .nothing
  | .timer id =>
    if self.timerHooks.lookup id = some .garbageCollection then .collect o.now else .nothing
  | _ => .nothing

end

/-- The metadata of a key after a deed. -/
def Deed.onMetadata (expired : Instant → EntryMeta → Bool) (key : NodeId)
    (metadata : Option EntryMeta) : Deed → Option EntryMeta
  | .store key' _ accessed =>
    if key = key' then some ((metadata.getD .new).access accessed) else metadata
  | .fetch key' accessed =>
    if key = key' then metadata.map fun entry ↦ entry.access accessed else metadata
  | .collect now => metadata.filter fun entry ↦ !expired now entry
  | .nothing => metadata

/-- A deed has been done. -/
structure Done (before after : Running H) (deed : Deed) : Prop where
  config : after.config = before.config
  metadata (key : NodeId) : LocalHashTable.metadata after.hashTable key =
    deed.onMetadata before.expired key (LocalHashTable.metadata before.hashTable key)
  /-- A key that is still there has the same values, unless one was stored. -/
  fetch (key : NodeId) : (∀ value accessed, deed ≠ .store key value accessed) →
    (LocalHashTable.metadata after.hashTable key).isSome = true →
    LocalHashTable.fetch after.hashTable key = LocalHashTable.fetch before.hashTable key
  stored {key : NodeId} {value : Bytes} {accessed : Instant} : deed = .store key value accessed →
    LocalHashTable.fetch after.hashTable key =
      LocalHashTable.fetch (LocalHashTable.store before.hashTable key value).2 key

section

variable {T : Type} {k : Nat} [RoutingTable T k] {debug : Bool} {o : Occurrence T}
  {self self' : Running H} {outputs : List Output}

/-- The key is stored and has not expired. -/
def kept (self : Running H) (now : Instant) (key : NodeId) : Bool :=
  (LocalHashTable.metadata self.hashTable key).any fun entry ↦ !self.expired now entry

/-- The key is looked up by a garbage collection. -/
def due (self : Running H) (now : Instant) (key : NodeId) : Bool :=
  self.kept now key && self.keyRepublishNeeded now key

omit [LocalHashTable H] in
theorem expired_congr (h : self'.config = self.config) : self'.expired = self.expired := by
  funext now entry
  simp only [expired, h]

variable {key : NodeId}

/-- Whether a key is due depends on its own metadata only. -/
theorem due_congr (hconfig : self'.config = self.config)
    (h : LocalHashTable.metadata self'.hashTable key = LocalHashTable.metadata self.hashTable key)
    (now : Instant) : self'.due now key = self.due now key := by
  simp only [due, kept, keyRepublishNeeded, h, hconfig, expired_congr hconfig]

theorem sendFindNodeReq_lookup {neighbors : Nat} {nonce : Nonce} {output : Output}
    (h : sendFindNodeReq debug o key neighbors nonce = .ok output) : output.lookup = some key := by
  unfold sendFindNodeReq at h
  split at h
  · obtain ⟨req, hreq, h⟩ := of_bind h
    obtain ⟨effects, -, h⟩ := of_bind h
    cases h
    unfold constructReqRspMsgKbr at hreq
    obtain ⟨hop, -, hreq⟩ := of_bind hreq
    split at hreq
    · simp at hreq
    · cases hreq
      rfl
  · simp at h

omit [LocalHashTable H] in
theorem initRepublishKey_eq
    (h : self.initRepublishKey debug o key = .ok (self', outputs)) :
    self'.config = self.config ∧ self'.hashTable = self.hashTable ∧
      outputs.filterMap Output.lookup = [key] := by
  obtain ⟨redundancy, -, h⟩ := of_bind h
  obtain ⟨sent, hsent, h⟩ := of_bind h
  cases h
  refine ⟨rfl, rfl, ?_⟩
  rw [List.filterMap_cons, sendFindNodeReq_lookup hsent]
  rfl

variable [LawfulEntryMeta H]

theorem collectKey_eq (h : self.collectKey debug o key = .ok (self', outputs)) :
    self'.config = self.config ∧
    outputs.filterMap Output.lookup = (if self.due o.now key then [key] else []) ∧
    (∀ key', LocalHashTable.metadata self'.hashTable key' = if key' = key
      then (LocalHashTable.metadata self.hashTable key).filter fun entry ↦ !self.expired o.now entry
      else LocalHashTable.metadata self.hashTable key') ∧
    ∀ key', (LocalHashTable.metadata self'.hashTable key').isSome = true →
      LocalHashTable.fetch self'.hashTable key' = LocalHashTable.fetch self.hashTable key' := by
  obtain ⟨entry, hentry, h⟩ := of_bind h
  rw [expect_eq_ok] at hentry
  split at h
  · -- the key has expired
    rename_i hexpired
    obtain ⟨-, -, h⟩ := of_bind h
    cases h
    refine ⟨rfl, by simp [due, kept, hentry, hexpired], fun key' ↦ ?_, fun key' hsome ↦ ?_⟩
    · dsimp only
      rw [LawfulEntryMeta.metadata_remove, hentry]
      simp [Option.filter_some, hexpired]
    · dsimp only at hsome ⊢
      refine LawfulEntryMeta.fetch_remove_ne _ fun hkey ↦ ?_
      rw [LawfulEntryMeta.metadata_remove, if_pos hkey] at hsome
      simp at hsome
  · rename_i hexpired
    have hkept : self.kept o.now key = true := by simp [kept, hentry, hexpired]
    have hsame (key' : NodeId) : LocalHashTable.metadata self.hashTable key' = if key' = key
        then (LocalHashTable.metadata self.hashTable key).filter
          fun entry ↦ !self.expired o.now entry
        else LocalHashTable.metadata self.hashTable key' := by
      split
      · rename_i hkey
        simp [hkey, hentry, Option.filter_some, hexpired]
      · rfl
    split at h
    · rename_i hneeded
      obtain ⟨hconfig, htable, hlookup⟩ := initRepublishKey_eq h
      rw [htable]
      exact ⟨hconfig, by simp [hlookup, due, hkept, hneeded], hsame, fun _ _ ↦ rfl⟩
    · rename_i hneeded
      cases h
      exact ⟨rfl, by simp [due, hneeded], hsame, fun _ _ ↦ rfl⟩

/-- The keys that have expired are gone, and the others that need it are looked up. -/
theorem collectKeys_eq {keys : List NodeId} (hnodup : keys.Nodup)
    (h : collectKeys debug o self keys = .ok (self', outputs)) :
    self'.config = self.config ∧
    outputs.filterMap Output.lookup = keys.filter (self.due o.now) ∧
    (∀ key, LocalHashTable.metadata self'.hashTable key = if key ∈ keys
      then (LocalHashTable.metadata self.hashTable key).filter fun entry ↦ !self.expired o.now entry
      else LocalHashTable.metadata self.hashTable key) ∧
    ∀ key, (LocalHashTable.metadata self'.hashTable key).isSome = true →
      LocalHashTable.fetch self'.hashTable key = LocalHashTable.fetch self.hashTable key := by
  induction keys generalizing self self' outputs with
  | nil =>
    cases h
    exact ⟨rfl, rfl, by simp, fun _ _ ↦ rfl⟩
  | cons key keys ih =>
    obtain ⟨⟨mid, first⟩, hfirst, h⟩ := of_bind h
    obtain ⟨⟨last, rest⟩, hrest, h⟩ := of_bind h
    cases h
    obtain ⟨hkey, hnodup⟩ := List.nodup_cons.1 hnodup
    obtain ⟨hconfig, hlookup, hmeta, hfetch⟩ := collectKey_eq hfirst
    obtain ⟨hconfig', hlookup', hmeta', hfetch'⟩ := ih hnodup hrest
    refine ⟨hconfig'.trans hconfig, ?_, fun key' ↦ ?_, fun key' hsome ↦ ?_⟩
    · -- the keys to come have the same metadata as before
      have hdue : keys.filter (mid.due o.now) = keys.filter (self.due o.now) := by
        refine List.filter_congr fun key' hkey' ↦ due_congr hconfig ?_ _
        rw [hmeta, if_neg]
        rintro rfl
        exact hkey hkey'
      rw [List.filterMap_append, hlookup, hlookup', hdue, List.filter_cons]
      split <;> rfl
    · rw [hmeta', hmeta, expired_congr hconfig]
      by_cases heq : key' = key
      · simp [heq, hkey]
      · simp [heq]
    · refine (hfetch' key' hsome).trans (hfetch key' ?_)
      rw [hmeta'] at hsome
      split at hsome
      · exact Option.isSome_of_isSome_filter _ _ hsome
      · exact hsome

theorem garbageCollection_eq (h : self.garbageCollection debug o = .ok (self', outputs)) :
    self'.config = self.config ∧
    (∀ key, key ∈ outputs.filterMap Output.lookup ↔ self.due o.now key = true) ∧
    (∀ key, LocalHashTable.metadata self'.hashTable key =
      (LocalHashTable.metadata self.hashTable key).filter fun entry ↦ !self.expired o.now entry) ∧
    ∀ key, (LocalHashTable.metadata self'.hashTable key).isSome = true →
      LocalHashTable.fetch self'.hashTable key = LocalHashTable.fetch self.hashTable key := by
  obtain ⟨hconfig, hlookup, hmeta, hfetch⟩ :=
    collectKeys_eq (LawfulEntryMeta.nodup_fetchAll self.hashTable) h
  refine ⟨hconfig, fun key ↦ ?_, fun key ↦ ?_, hfetch⟩
  · rw [hlookup, List.mem_filter, LawfulEntryMeta.mem_fetchAll, and_iff_right_iff_imp]
    intro hdue
    cases hentry : LocalHashTable.metadata self.hashTable key with
    | none => simp [due, kept, hentry] at hdue
    | some entry => rfl
  · rw [hmeta]
    split
    · rfl
    · rename_i hmem
      rw [LawfulEntryMeta.mem_fetchAll, Option.not_isSome_iff_eq_none] at hmem
      rw [hmem]
      rfl

end

section

variable {T : Type} {k : Nat} [RoutingTable T k] {debug : Bool} {o : Occurrence T}
  {self self' : Running H} {outputs : List Output}

theorem Done.of_eq (hconfig : self'.config = self.config)
    (htable : self'.hashTable = self.hashTable) :
    self.Done self' .nothing where
  config := hconfig
  metadata key := by rw [htable, Deed.onMetadata]
  fetch key _ _ := by rw [htable]
  stored h := by cases h

theorem handleTimer_cases {id : TimerId} (h : self.handleTimer debug o id = .ok (self', outputs)) :
    (self.timerHooks.lookup id = some .garbageCollection ∧ ∃ hooks timer sent,
      { self with timerHooks := hooks }.garbageCollection debug o = .ok (self', sent) ∧
      outputs = timer :: sent ∧ timer.lookup = none) ∨
    (self.timerHooks.lookup id ≠ some .garbageCollection ∧ self'.config = self.config ∧
      self'.hashTable = self.hashTable ∧ outputs = []) := by
  rw [handleTimer.eq_def] at h
  split at h
  · rename_i hnone
    cases h
    exact .inr ⟨by simp [hnone], rfl, rfl, rfl⟩
  · rename_i nonce hsome
    cases h
    exact .inr ⟨by simp [hsome], rfl, rfl, rfl⟩
  · rename_i hsome
    obtain ⟨⟨self'', sent⟩, hcollect, h⟩ := of_bind h
    cases h
    exact .inl ⟨hsome, _, _, sent, hcollect, rfl, rfl⟩

theorem handleFindNodeRsp_eq {rsp : ReqRspMessage RTableData}
    (h : self.handleFindNodeRsp o rsp = .ok (self', outputs)) :
    self'.config = self.config ∧ self'.hashTable = self.hashTable := by
  rw [handleFindNodeRsp.eq_def] at h
  split at h
  · cases h
    exact ⟨rfl, rfl⟩
  · split at h
    · cases h
      exact ⟨rfl, rfl⟩
    · split at h
      obtain ⟨route, -, h⟩ := of_bind h
      obtain ⟨sent, -, h⟩ := of_bind h
      cases h
      exact ⟨rfl, rfl⟩

variable [LawfulEntryMeta H]

theorem Done.store {key : NodeId} {value : Bytes} {accessed : Instant}
    (hconfig : self'.config = self.config)
    (h : LocalHashTable.access (LocalHashTable.store self.hashTable key value).2 key accessed =
      some self'.hashTable) : self.Done self' (.store key value accessed) where
  config := hconfig
  metadata key' := by
    rw [LawfulEntryMeta.metadata_access key' h, LawfulEntryMeta.metadata_store,
      LawfulEntryMeta.metadata_store, Deed.onMetadata]
    split
    · rename_i hkey
      rw [if_pos rfl, hkey]
      rfl
    · rfl
  fetch key' hne _ := by
    rw [LawfulEntryMeta.fetch_access_eq key' h]
    refine LawfulEntryMeta.fetch_store_ne _ _ fun hkey ↦ ?_
    exact hne value accessed (by rw [hkey])
  stored heq := by
    cases heq
    exact LawfulEntryMeta.fetch_access_eq key h

theorem Done.fetched {key : NodeId} {accessed : Instant} (hconfig : self'.config = self.config)
    (h : LocalHashTable.access self.hashTable key accessed = some self'.hashTable) :
    self.Done self' (.fetch key accessed) where
  config := hconfig
  metadata key' := by
    rw [LawfulEntryMeta.metadata_access key' h, Deed.onMetadata]
    split
    · rename_i hkey
      rw [hkey]
    · rfl
  fetch key' _ _ := LawfulEntryMeta.fetch_access_eq key' h
  stored heq := by cases heq

variable {dht : DistributedHashTable H} {effects : List Effect}

theorem handleFetchReq_done {req : ReqRspMessage FetchReqData}
    (hevent : o.event = .message (.fetchReq req))
    (h : self.handleFetchReq debug o.routingTable o.ulnTable o.now req = .ok (dht, effects)) :
    self.Done { self with toDistributedHashTable := dht } (self.deed o) := by
  rw [deed, hevent]
  dsimp only
  rw [handleFetchReq] at h
  split at h
  · rename_i values hvalues
    obtain ⟨hashTable, haccess, h⟩ := of_bind h
    obtain ⟨back, -, h⟩ := of_bind h
    obtain ⟨sent, -, h⟩ := of_bind h
    cases h
    rw [expect_eq_ok] at haccess
    rw [hvalues]
    exact .fetched rfl haccess
  · rename_i err herr
    have hself : dht = self.toDistributedHashTable := by
      split at h
      · obtain ⟨back, -, h⟩ := of_bind h
        obtain ⟨sent, -, h⟩ := of_bind h
        exact (ok_mk_inj h).1.symm
      · obtain ⟨sent, -, h⟩ := of_bind h
        exact (ok_mk_inj h).1.symm
    rw [herr, hself]
    exact .of_eq rfl rfl

variable [LawfulLocalHashTable H]

omit [LawfulEntryMeta H] in
theorem store_access {dht' : DistributedHashTable H} {rootId : NodeId}
    {ulnTable : InMemoryULNTable} {now : Timestamp}
    {message : ReqRspMessage (StoreReqData LHTInput)}
    (h : dht.store rootId ulnTable now message = .ok (dht', effects)) :
    LocalHashTable.access
      (LocalHashTable.store dht.hashTable message.data.handle message.data.data).2
      message.data.handle (accessTime now message.data.lastAccessedMs) = some dht'.hashTable := by
  obtain ⟨ok, hok⟩ :=
    LawfulLocalHashTable.store_ok dht.hashTable message.data.handle message.data.data
  generalize hres : LocalHashTable.store dht.hashTable message.data.handle message.data.data = res
    at hok
  obtain ⟨result, stored⟩ := res
  obtain rfl : result = .ok ok := hok
  rw [DistributedHashTable.store] at h
  simp only [hres] at h
  cases hage : message.data.lastAccessedMs with
  | some age =>
    rw [hage] at h
    obtain ⟨time, htime, h⟩ := of_bind h
    obtain ⟨hashTable, haccess, h⟩ := of_bind h
    cases h
    rw [expect_eq_ok] at htime haccess
    rw [← haccess, Instant.eq_of_checkedSub htime]
    rfl
  | none =>
    rw [hage] at h
    obtain ⟨hashTable, haccess, h⟩ := of_bind h
    obtain ⟨back, -, h⟩ := of_bind h
    obtain ⟨sent, -, h⟩ := of_bind h
    cases h
    rw [expect_eq_ok] at haccess
    exact haccess

theorem handleStoreReq_done {req : ReqRspMessage (StoreReqData LHTInput)}
    (hevent : o.event = .message (.storeReq req))
    (h : self.handleStoreReq debug o.routingTable o.ulnTable o.now req = .ok (dht, effects)) :
    self.Done { self with toDistributedHashTable := dht } (self.deed o) := by
  rw [deed, hevent]
  dsimp only
  rw [handleStoreReq] at h
  split at h
  · rename_i hdest
    rw [if_pos hdest]
    exact .store rfl (store_access h)
  · rename_i hdest
    obtain ⟨sent, -, h⟩ := of_bind h
    cases h
    rw [if_neg hdest]
    exact .of_eq rfl rfl

/-- **What an event does to the local hash table.** -/
theorem handleEvent_done (h : self.handleEvent debug o = .ok (self', outputs)) :
    self.Done self' (self.deed o) := by
  rw [handleEvent.eq_def] at h
  split at h
  · rename_i req hevent
    obtain ⟨⟨dht, effects⟩, hreq, h⟩ := of_bind h
    cases h
    exact handleStoreReq_done hevent hreq
  · rename_i req hevent
    obtain ⟨⟨dht, effects⟩, hreq, h⟩ := of_bind h
    cases h
    exact handleFetchReq_done hevent hreq
  · rename_i rsp hevent
    obtain ⟨hconfig, htable⟩ := handleFindNodeRsp_eq h
    rw [deed, hevent]
    exact .of_eq hconfig htable
  · rename_i message hstore hfetch hfind hevent
    cases h
    rw [deed, hevent]
    cases message with
    | storeReq req => exact absurd hevent (by simpa using hstore req)
    | fetchReq req => exact absurd hevent (by simpa using hfetch req)
    | _ => exact .of_eq rfl rfl
  · rename_i id hevent
    rw [deed, hevent]
    dsimp only
    rcases handleTimer_cases h with
      ⟨hhook, hooks, timer, sent, hcollect, -⟩ | ⟨hhook, hconfig, htable, -⟩
    · obtain ⟨hconfig, -, hmeta, hfetch⟩ := garbageCollection_eq hcollect
      rw [if_pos hhook]
      exact ⟨hconfig, hmeta, fun key _ hsome ↦ hfetch key hsome, fun heq ↦ by cases heq⟩
    · rw [if_neg hhook]
      exact .of_eq hconfig htable
  · rename_i event hevent
    obtain ⟨sent, -, h⟩ := of_bind h
    cases h
    rw [deed, hevent]
    exact .of_eq rfl rfl
  · rename_i callback hevent
    cases h
    rw [deed, hevent]
    exact .of_eq rfl rfl

end

end Running

end DistributedHashTable

end Kira
