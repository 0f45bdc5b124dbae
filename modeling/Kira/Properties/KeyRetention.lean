import Kira.Domain.RoutingTable.Flat
import Kira.UseCases.DistributedHashTable.Deeds
import Mathlib.Order.Bounds.Basic

/-!
# How long a key is kept

A key is removed by the first garbage collection that finds it not accessed for too long.  The node
only remembers the time of the last access of a key it has, while what counts as an access is spread
over the run: values that are stored, possibly with an age that another node has sent, and values
that are fetched.

`Tracked` ties the two together.  The time that is remembered is one of those accesses, and any
later one is too old to count (`Stale`), as it lies before the removal of the key.  Time does not go
back, so what is too old once stays so.
-/

set_option autoImplicit false

namespace Kira

namespace DistributedHashTable.Running

open LocalHashTable

/-! ## The history of a key -/

/-- The time at which a deed accesses the key. -/
def Deed.accessOf (key : NodeId) : Deed → Option Instant
  | .store key' _ accessed => if key = key' then some accessed else none
  | .fetch key' accessed => if key = key' then some accessed else none
  | .collect _ => none
  | .nothing => none

/-- The value that a deed stores under the key. -/
def Deed.valueOf (key : NodeId) : Deed → Option Bytes
  | .store key' value _ => if key = key' then some value else none
  | _ => none

theorem Deed.valueOf_eq_some {key : NodeId} {value : Bytes} {deed : Deed} :
    deed.valueOf key = some value ↔ ∃ accessed, deed = .store key value accessed := by
  unfold valueOf
  split
  · split
    · rename_i hkey
      simp [hkey]
    · rename_i hkey
      simp [Ne.symm hkey]
  · rename_i hstore
    constructor
    · intro h
      cases h
    · rintro ⟨accessed, h⟩
      exact absurd h (hstore _ _ _)

section

variable {H T : Type} [LocalHashTable H] {k : Nat} [RoutingTable T k]

/-- An event that a node has handled. -/
abbrev Passage (H T : Type) := Transition (Running H) (Occurrence T) (List Output)

def Passage.deed (p : Passage H T) : Deed := p.before.deed p.op

/-- The key is in the local hash table. -/
def Has (self : Running H) (key : NodeId) : Prop := (fetch self.hashTable key).isOk = true

/-- The times at which a key was accessed. -/
def accesses (past : List (Passage H T)) (key : NodeId) : Set Instant :=
  {time | ∃ p ∈ past, (Passage.deed p).accessOf key = some time}

/-- The values stored under a key since it was last created, that is, since the first deed behind
the last state without the key. -/
def valuesSince (key : NodeId) (past : List (Passage H T)) : Set Bytes :=
  past.foldl (fun values p ↦ {value | p.before.Has key ∧ value ∈ values} ∪
    {value | (Passage.deed p).valueOf key = some value}) ∅

variable {past : List (Passage H T)} {p : Passage H T} {key : NodeId}

theorem mem_accesses_append {time : Instant} : time ∈ accesses (past ++ [p]) key ↔
    time ∈ accesses past key ∨ (Passage.deed p).accessOf key = some time := by
  simp [accesses, or_and_right, exists_or]

theorem mem_valuesSince_append {value : Bytes} : value ∈ valuesSince key (past ++ [p]) ↔
    p.before.Has key ∧ value ∈ valuesSince key past ∨
      (Passage.deed p).valueOf key = some value := by
  simp [valuesSince]

theorem has_iff [LawfulEntryMeta H] {self : Running H} :
    self.Has key ↔ ∃ entry, metadata self.hashTable key = some entry := by
  rw [Has, LawfulEntryMeta.fetch_isOk, Option.isSome_iff_exists]

/-! ## Accesses and the time that is remembered -/

/-- Too long ago for the key to be kept, at some time of the run. -/
def Stale (timeout : Duration) (past : List (Passage H T)) (time : Instant) : Prop :=
  ∃ p ∈ past, timeout < p.op.now - time

omit [LocalHashTable H] in
theorem Stale.append {timeout : Duration} {time : Instant} (h : Stale timeout past time) :
    Stale timeout (past ++ [p]) time := by
  obtain ⟨q, hq, htime⟩ := h
  exact ⟨q, List.mem_append_left _ hq, htime⟩

omit [LocalHashTable H] in
theorem Stale.lt {timeout : Duration} {time : Instant} (h : Stale timeout past time)
    {now : Timestamp} (hpast : ∀ p ∈ past, p.op.now ≤ now) : timeout < now - time := by
  obtain ⟨p, hp, hlt⟩ := h
  have hle : (p.op.now : Instant) ≤ now := Int.ofNat_le.2 (hpast p hp)
  exact lt_of_lt_of_le hlt (sub_le_sub_right hle time)

/-- The times that are remembered are the latest that count. -/
structure Tracked (config : DistributedHashTableConfig) (past : List (Passage H T))
    (node : Running H) : Prop where
  config_eq : node.config = config
  accessed {key : NodeId} {entry : EntryMeta} : metadata node.hashTable key = some entry →
    ∃ time ∈ accesses past key, entry.lastAccess = some time
  covered {key : NodeId} {time : Instant} : time ∈ accesses past key →
    (∃ entry last, metadata node.hashTable key = some entry ∧ entry.lastAccess = some last ∧
      time ≤ last) ∨ Stale config.keyValueTimeout past time

theorem accessedAt_some (last now : Instant) :
    accessedAt (some last) now = some (max last now) := by
  rw [accessedAt]
  split
  · rename_i hlt
    rw [max_eq_right hlt.le]
  · rename_i hle
    rw [max_eq_left (not_lt.1 hle)]

theorem lastAccess_access (entry : Option EntryMeta) (now : Instant) :
    ∃ last, ((entry.getD .new).access now).lastAccess = some last ∧ now ≤ last ∧
      (∀ time, (entry.bind EntryMeta.lastAccess) = some time → time ≤ last) ∧
      (last = now ∨ entry.bind EntryMeta.lastAccess = some last) := by
  cases hlast : entry.bind EntryMeta.lastAccess with
  | none =>
    refine ⟨now, ?_, le_refl now, by simp, .inl rfl⟩
    cases entry with
    | none => rfl
    | some entry =>
      rw [Option.bind_some] at hlast
      simp [EntryMeta.access, hlast, accessedAt]
  | some time =>
    obtain ⟨entry, rfl, htime⟩ := Option.bind_eq_some_iff.1 hlast
    refine ⟨max time now, ?_, le_max_right _ _, ?_, ?_⟩
    · simp only [Option.getD_some, EntryMeta.access, htime, accessedAt_some]
    · rintro _ ⟨⟩
      exact le_max_left _ _
    · rcases le_total time now with hle | hle
      · exact .inl (max_eq_right hle)
      · exact .inr (by rw [max_eq_left hle])

variable {config : DistributedHashTableConfig} {node node' : Running H}

theorem Tracked.touch (h : Tracked config past node) {now : Instant}
    (hconfig : node'.config = node.config)
    (hmeta : ∀ key', metadata node'.hashTable key' = if key' = key
      then some (((metadata node.hashTable key).getD .new).access now)
      else metadata node.hashTable key')
    (hdeed : ∀ key', (Passage.deed p).accessOf key' = if key' = key then some now else none) :
    Tracked config (past ++ [p]) node' := by
  obtain ⟨last, hlast, hnow, hle, horigin⟩ := lastAccess_access (metadata node.hashTable key) now
  have hmem : now ∈ accesses (past ++ [p]) key :=
    mem_accesses_append.2 (.inr (by rw [hdeed, if_pos rfl]))
  refine ⟨hconfig.trans h.config_eq, fun {key' entry} hentry ↦ ?_, fun {key' time} htime ↦ ?_⟩
  · rw [hmeta] at hentry
    split at hentry
    · rename_i hkey
      subst hkey
      cases hentry
      refine ⟨last, ?_, hlast⟩
      rcases horigin with rfl | horigin
      · exact hmem
      · obtain ⟨entry, hentry, hold⟩ := Option.bind_eq_some_iff.1 horigin
        obtain ⟨time, htime, heq⟩ := h.accessed hentry
        obtain rfl := Option.some.inj (hold.symm.trans heq)
        exact mem_accesses_append.2 (.inl htime)
    · obtain ⟨time, htime, heq⟩ := h.accessed hentry
      exact ⟨time, mem_accesses_append.2 (.inl htime), heq⟩
  · by_cases hkey : key' = key
    · subst hkey
      have hcover (hle' : time ≤ last) : ∃ entry last, metadata node'.hashTable key' = some entry ∧
          entry.lastAccess = some last ∧ time ≤ last :=
        ⟨_, last, (hmeta key').trans (if_pos rfl), hlast, hle'⟩
      rcases mem_accesses_append.1 htime with hold | hnew
      · rcases h.covered hold with ⟨entry, old, hentry, hold, hle'⟩ | hstale
        · exact .inl (hcover (hle'.trans (hle old (by rw [hentry, Option.bind_some, hold]))))
        · exact .inr hstale.append
      · rw [hdeed, if_pos rfl] at hnew
        cases hnew
        exact .inl (hcover hnow)
    · rcases mem_accesses_append.1 htime with hold | hnew
      · rw [hmeta, if_neg hkey]
        exact (h.covered hold).imp_right Stale.append
      · rw [hdeed, if_neg hkey] at hnew
        simp at hnew

omit [LocalHashTable H] in
theorem expired_iff {entry : EntryMeta} {last : Instant} (h : entry.lastAccess = some last)
    (now : Instant) : node.expired now entry = true ↔ node.config.keyValueTimeout < now - last := by
  simp only [expired, h, Instant.saturatingDurationSince, decide_eq_true_eq, Int.lt_toNat]

/-- If only keys that have expired are removed, then all accesses of those are too old. -/
theorem Tracked.retain (h : Tracked config past node) (hconfig : node'.config = node.config)
    {keep : EntryMeta → Bool} (hmeta : ∀ key, metadata node'.hashTable key =
      (metadata node.hashTable key).filter keep)
    (hkeep : ∀ entry, keep entry = false → node.expired p.op.now entry = true)
    (hdeed : ∀ key, (Passage.deed p).accessOf key = none) : Tracked config (past ++ [p]) node' := by
  have haccesses {key : NodeId} {time : Instant} :
      time ∈ accesses (past ++ [p]) key ↔ time ∈ accesses past key := by
    simp [mem_accesses_append, hdeed]
  refine ⟨hconfig.trans h.config_eq, fun {key entry} hentry ↦ ?_, fun {key time} htime ↦ ?_⟩
  · rw [hmeta, Option.filter_eq_some_iff] at hentry
    obtain ⟨time, htime, hlast⟩ := h.accessed hentry.1
    exact ⟨time, haccesses.2 htime, hlast⟩
  · rcases h.covered (haccesses.1 htime) with ⟨entry, last, hentry, hlast, hle⟩ | hstale
    · cases hkept : keep entry with
      | false =>
        have hexpired := hkeep entry hkept
        refine .inr ⟨p, by simp, ?_⟩
        rw [expired_iff hlast, h.config_eq] at hexpired
        exact lt_of_lt_of_le hexpired (sub_le_sub_left hle _)
      | true =>
        refine .inl ⟨entry, last, ?_, hlast, hle⟩
        rw [hmeta, hentry, Option.filter_some, if_pos hkept]
    · exact .inr hstale.append

end

/-! ## Runs -/

section

variable {H T : Type} [LocalHashTable H] {k : Nat} [RoutingTable T k] {debug : Bool}
  {o : Occurrence T} {node node' : Running H} {outputs : List Output} {key : NodeId}
  {past : List (Passage H T)} {config : DistributedHashTableConfig}

theorem has_of_deed_fetch {accessed : Instant} (h : node.deed o = .fetch key accessed) :
    node.Has key := by
  unfold deed at h
  split at h
  · split at h <;> cases h
  · split at h
    · rename_i hok
      cases h
      exact hok
    · cases h
  · split at h <;> cases h
  · cases h

theorem now_of_deed_collect {now : Instant} (h : node.deed o = .collect now) : now = o.now := by
  unfold deed at h
  split at h
  · split at h <;> cases h
  · split at h <;> cases h
  · split at h
    · cases h
      rfl
    · cases h
  · cases h

variable [LawfulEntryMeta H]

theorem tracked_start {dht : DistributedHashTable H} {grouping : NonZeroU8}
    (hnew : DistributedHashTable.new grouping = .ok dht) (config : DistributedHashTableConfig)
    (timerId : TimerId) : Tracked (T := T) config [] (start dht config timerId).1 := by
  have hempty (key : NodeId) : metadata (start dht config timerId).1.hashTable key = none := by
    unfold DistributedHashTable.new at hnew
    split at hnew
    · cases hnew
    · cases hnew
      exact LawfulEntryMeta.metadata_default key
  refine ⟨rfl, fun h ↦ by simp [hempty] at h, ?_⟩
  rintro key time ⟨_, hp, _⟩
  simp at hp

variable [LawfulLocalHashTable H]

theorem Tracked.step (h : Tracked config past node)
    (hstep : node.handleEvent debug o = .ok (node', outputs)) :
    Tracked config (past ++ [⟨node, o, outputs, node'⟩]) node' := by
  have hdone := handleEvent_done hstep
  have hdeed : Passage.deed (⟨node, o, outputs, node'⟩ : Passage H T) = node.deed o := rfl
  cases hd : node.deed o with
  | store key value accessed =>
    rw [hd] at hdone hdeed
    refine h.touch hdone.config (fun key' ↦ ?_) fun key' ↦ by rw [hdeed, Deed.accessOf]
    rw [hdone.metadata, Deed.onMetadata]
    split
    · rename_i hkey
      rw [hkey]
    · rfl
  | fetch key accessed =>
    rw [hd] at hdone hdeed
    refine h.touch hdone.config (fun key' ↦ ?_) fun key' ↦ by rw [hdeed, Deed.accessOf]
    obtain ⟨entry, hentry⟩ := has_iff.1 (has_of_deed_fetch hd)
    rw [hdone.metadata, Deed.onMetadata, hentry]
    split
    · rename_i hkey
      rw [hkey, hentry]
      rfl
    · rfl
  | collect now =>
    obtain rfl := now_of_deed_collect hd
    rw [hd] at hdone hdeed
    exact h.retain hdone.config hdone.metadata (by simp) fun key ↦ by rw [hdeed, Deed.accessOf]
  | nothing =>
    rw [hd] at hdone hdeed
    have hsame : ∀ key, metadata node'.hashTable key =
        (metadata node.hashTable key).filter fun _ ↦ true := fun key ↦ by
      rw [hdone.metadata, Deed.onMetadata]
      cases metadata node.hashTable key <;> rfl
    exact h.retain hdone.config hsame (by simp) fun key ↦ by rw [hdeed, Deed.accessOf]

end

/-- The values of a key are those stored since it was created. -/
def Valued {T : Type} {k : Nat} [RoutingTable T k] (past : List (Passage ComplexHashTable T))
    (node : Running ComplexHashTable) : Prop :=
  ∀ key values, fetch node.hashTable key = .ok values →
    ∀ value, value ∈ values ↔ value ∈ valuesSince key past

section

variable {T : Type} {k : Nat} [RoutingTable T k] {debug : Bool} {o : Occurrence T}
  {node node' : Running ComplexHashTable} {outputs : List Output}
  {past : List (Passage ComplexHashTable T)}

theorem valued_start {dht : DistributedHashTable ComplexHashTable} {grouping : NonZeroU8}
    (hnew : DistributedHashTable.new grouping = .ok dht) (config : DistributedHashTableConfig)
    (timerId : TimerId) : Valued (T := T) [] (start dht config timerId).1 := by
  unfold DistributedHashTable.new at hnew
  split at hnew
  · cases hnew
  · cases hnew
    intro key values hvalues
    cases hvalues

theorem Valued.step (h : Valued past node)
    (hstep : node.handleEvent debug o = .ok (node', outputs)) :
    Valued (past ++ [⟨node, o, outputs, node'⟩]) node' := by
  have hdone := handleEvent_done hstep
  intro key values hvalues value
  have hold : (∃ old, fetch node.hashTable key = .ok old ∧ value ∈ old) ↔
      node.Has key ∧ value ∈ valuesSince key past := by
    rw [Has]
    cases hfetch : fetch node.hashTable key with
    | error err => simp [Except.isOk, Except.toBool]
    | ok old => simpa [Except.isOk, Except.toBool] using h key old hfetch value
  rw [mem_valuesSince_append, ← hold]
  change _ ↔ _ ∨ (node.deed o).valueOf key = some value
  cases hvalue : (node.deed o).valueOf key with
  | some stored =>
    obtain ⟨accessed, hd⟩ := Deed.valueOf_eq_some.1 hvalue
    obtain ⟨all, hall, hmem⟩ := node.hashTable.mem_fetch_store key stored
    have heq : (.ok values : Except FetchErr (List Bytes)) = .ok all :=
      hvalues.symm.trans ((hdone.stored hd).trans hall)
    cases heq
    rw [hmem, Option.some_inj]
    rfl
  | none =>
    have hne (other : Bytes) (accessed : Instant) : node.deed o ≠ .store key other accessed :=
      fun hd ↦ by simp [Deed.valueOf_eq_some.2 ⟨accessed, hd⟩] at hvalue
    have hsome : (metadata node'.hashTable key).isSome = true := by
      rw [← LawfulEntryMeta.fetch_isOk, hvalues]
      rfl
    rw [← hdone.fetch key hne hsome, hvalues]
    simp

end

section

variable {H T : Type} [LocalHashTable H] {k : Nat} [RoutingTable T k]
  {past : List (Passage H T)} {config : DistributedHashTableConfig} {node : Running H}
  {key : NodeId}

theorem Tracked.expired_iff_latest (h : Tracked config past node) {entry : EntryMeta}
    (hentry : metadata node.hashTable key = some entry) {now : Timestamp}
    (hpast : ∀ p ∈ past, p.op.now ≤ now) : node.expired now entry = false ↔
      ∃ latest, IsGreatest (accesses past key) latest ∧ now - latest ≤ config.keyValueTimeout := by
  obtain ⟨time, htime, hlast⟩ := h.accessed hentry
  -- an access counts or is not later than the one that is remembered
  have hcover {other : Instant} (hother : other ∈ accesses past key) :
      other ≤ time ∨ config.keyValueTimeout < now - other := by
    rcases h.covered hother with ⟨entry', last, hentry', hlast', hle⟩ | hstale
    · obtain rfl := Option.some.inj (hentry.symm.trans hentry')
      obtain rfl := Option.some.inj (hlast.symm.trans hlast')
      exact .inl hle
    · exact .inr (hstale.lt hpast)
  rw [← Bool.not_eq_true, expired_iff hlast, h.config_eq, not_lt]
  constructor
  · intro hrecent
    refine ⟨time, ⟨htime, fun other hother ↦ ?_⟩, hrecent⟩
    rcases hcover hother with hle | hlt
    · exact hle
    · exact (sub_le_sub_iff_left _).1 (hrecent.trans hlt.le)
  · rintro ⟨latest, hgreatest, hrecent⟩
    rcases hcover hgreatest.1 with hle | hlt
    · exact (sub_le_sub_left hle _).trans hrecent
    · exact absurd hrecent (not_le.2 hlt)

end

end DistributedHashTable.Running

open DistributedHashTable DistributedHashTable.Running

/-- **A garbage collection keeps exactly the keys that have been accessed recently.**  Whatever has
happened before, as long as time does not go back: a key is there afterwards if it was there before
and its latest access is not too long ago, and then it has all values that were stored under it
since it was created. -/
theorem collection_keeps_recent {T : Type} {k : Nat} [RoutingTable T k] (debug : Bool)
    {dht : DistributedHashTable ComplexHashTable} {grouping : NonZeroU8}
    (hnew : DistributedHashTable.new grouping = .ok dht) (config : DistributedHashTableConfig)
    (timerId : TimerId) {past : List (Passage ComplexHashTable T)}
    {node node' : Running ComplexHashTable} {o : Occurrence T} {outputs : List Output}
    {id : TimerId} (hrun : Traced (handleEvent debug) (start dht config timerId).1 past node)
    (htime : (past.map (fun p ↦ p.op.now) ++ [o.now]).Pairwise (· ≤ ·))
    (hevent : o.event = .timer id) (hhook : node.timerHooks.lookup id = some .garbageCollection)
    (hstep : node.handleEvent debug o = .ok (node', outputs)) (key : NodeId) :
    (node'.Has key ↔ node.Has key ∧ ∃ latest, IsGreatest (accesses past key) latest ∧
      o.now - latest ≤ config.keyValueTimeout) ∧
    ∀ values, LocalHashTable.fetch node'.hashTable key = .ok values →
      ∀ value, value ∈ values ↔ value ∈ valuesSince key past := by
  have htracked : Tracked config past node :=
    hrun.invariant (tracked_start hnew config timerId) fun _ _ _ _ _ h hstep ↦ h.step hstep
  have hvalued : Valued past node :=
    hrun.invariant (valued_start hnew config timerId) fun _ _ _ _ _ h hstep ↦ h.step hstep
  have hdone := handleEvent_done hstep
  have hd : node.deed o = .collect o.now := by
    rw [deed, hevent]
    exact if_pos hhook
  rw [hd] at hdone
  have hpast : ∀ p ∈ past, p.op.now ≤ o.now := fun p hp ↦
    (List.pairwise_append.1 htime).2.2 _ (List.mem_map_of_mem hp) _ (List.mem_singleton.2 rfl)
  refine ⟨?_, fun values hvalues ↦ ?_⟩
  · rw [has_iff, has_iff, hdone.metadata, Deed.onMetadata]
    constructor
    · rintro ⟨entry, hentry⟩
      obtain ⟨hentry, hkept⟩ := Option.filter_eq_some_iff.1 hentry
      exact ⟨⟨entry, hentry⟩, (htracked.expired_iff_latest hentry hpast).1 (by simpa using hkept)⟩
    · rintro ⟨⟨entry, hentry⟩, hlatest⟩
      have hkept := (htracked.expired_iff_latest hentry hpast).2 hlatest
      exact ⟨entry, by simp [hentry, Option.filter_some, hkept]⟩
  · have hsome : (LocalHashTable.metadata node'.hashTable key).isSome = true := by
      rw [← LawfulEntryMeta.fetch_isOk, hvalues]
      rfl
    rw [hdone.fetch key (fun _ _ h ↦ by cases h) hsome] at hvalues
    exact hvalued key values hvalues

namespace DistributedHashTable

/-- An event at node 5, that knows of no other node. -/
def Occurrence.alone (now : Timestamp) (event : Event) : Occurrence (FlatRoutingTable 20 1) where
  event := event
  now := now
  routingTable := .new 5 Nat.one_pos one_lt_64
  ulnTable := .new
  nonce _ := 7
  valueNonce _ _ := 8
  timerId key := if key.isSome then 1 else 2

/-- A value for key 9 that node 5 is to store. -/
def storeRequest (lastAccessedMs : Option Age) : ReqRspMessage (StoreReqData LHTInput) where
  commonHeader := .new .storeReq 3 5 0 .invalid 0
  data := ⟨9, [1], lastAccessedMs⟩
  notVia := none
  sourceRoute := .new 3 (.via 5 [])

/-- Node 5 when it has been started. -/
def Running.nodeFive : Running ComplexHashTable :=
  (start ⟨.MIN, NonZeroU8.min_le_bits, LocalHashTable.default⟩ .default 0).1

end DistributedHashTable

/-- A key that has just been stored survives a garbage collection. -/
theorem stored_key_is_kept : ∃ stored outputs collected outputs',
    nodeFive.handleEvent true (.alone 0 (.message (.storeReq (storeRequest none)))) =
      .ok (stored, outputs) ∧
    stored.handleEvent true (.alone 1 (.timer 0)) = .ok (collected, outputs') ∧
    collected.Has 9 ∧
    (collected.Has 9 ↔ stored.Has 9 ∧ ∃ latest, IsGreatest (accesses
      [⟨nodeFive, .alone 0 (.message (.storeReq (storeRequest none))), outputs, stored⟩] 9) latest ∧
        (1 : Timestamp) - latest ≤ DistributedHashTableConfig.default.keyValueTimeout) := by
  refine ⟨_, _, _, _, rfl, rfl, rfl, ?_⟩
  have hnew : (DistributedHashTable.new .MIN : Except _ (DistributedHashTable ComplexHashTable)) =
    .ok ⟨.MIN, NonZeroU8.min_le_bits, LocalHashTable.default⟩ := rfl
  refine And.left (collection_keeps_recent (o := .alone 1 (.timer 0)) true hnew .default 0
    (.step .start rfl) ?_ rfl rfl rfl 9)
  simp [Occurrence.alone]

end Kira
