import Kira.Properties.KeyRetention

/-!
# How often a key is republished

A key that was republished is not to be republished again too soon.  The garbage collection asks
`keyRepublishNeeded` before it looks up where a key belongs, and `republishKey` asks it once more
when the lookup has been answered.  The answer depends on the time of the last republish in the
metadata of the key, but nothing that the node does sets that time: not the values it sends itself,
and not those that another node sends with their age.

So each key that has not expired is looked up by each garbage collection.
-/

set_option autoImplicit false

namespace Kira

open Run

namespace DistributedHashTable.Running

open LocalHashTable

variable {H T : Type} [LocalHashTable H] {k : Nat} [RoutingTable T k] {debug : Bool}
  {o : Occurrence T} {node node' : Running H} {outputs : List Output} {key : NodeId}

/-! ## What is looked up -/

theorem sendStoreReq_lookup {ulnTable : InMemoryULNTable} {rootId : NodeId} {nonce : Nonce}
    {data : StoreReqData LHTInput} {route : SourceRoute} {output : Output}
    (h : sendStoreReq ulnTable rootId nonce data route = .ok output) : output.lookup = none := by
  obtain ⟨effects, -, h⟩ := of_bind h
  cases h
  rfl

theorem republishKey_lookup {route : SourceRoute} {paths : List Path}
    (h : node.republishKey o key route paths = .ok outputs) :
    ∀ output ∈ outputs, output.lookup = none := by
  intro output houtput
  unfold republishKey at h
  split at h
  · split at h
    · cases h
      simp at houtput
    · obtain ⟨entry, -, h⟩ := of_bind h
      obtain ⟨copy, -, hcopy⟩ := exists_of_mem_mapM h houtput
      exact sendStoreReq_lookup hcopy
  · cases h
    simp at houtput

theorem republishEntry_lookup {contact : Contact} {entry : NodeId × List Bytes}
    (h : node.republishEntry debug o contact entry = .ok outputs) :
    ∀ output ∈ outputs, output.lookup = none := by
  intro output houtput
  unfold republishEntry at h
  dsimp only at h
  split at h
  · split at h
    · cases h
      simp at houtput
    · obtain ⟨entry, -, h⟩ := of_bind h
      obtain ⟨value, -, hvalue⟩ := exists_of_mem_mapM h houtput
      obtain ⟨effects, -, hvalue⟩ := of_bind hvalue
      cases hvalue
      rfl
  · simp at h

theorem republishToContactIfCloser_lookup {contact : Contact}
    (h : node.republishToContactIfCloser debug o contact = .ok outputs) :
    ∀ output ∈ outputs, output.lookup = none := by
  obtain ⟨all, hall, h⟩ := of_bind h
  cases h
  intro output houtput
  obtain ⟨sent, hsent, houtput⟩ := List.mem_flatten.1 houtput
  obtain ⟨entry, -, hentry⟩ := exists_of_mem_mapM hall hsent
  exact republishEntry_lookup hentry output houtput

theorem handleContact_lookup {event : RoutingTableEvent}
    (h : node.handleContact debug o event = .ok outputs) :
    ∀ output ∈ outputs, output.lookup = none := by
  unfold handleContact at h
  split at h
  · exact republishToContactIfCloser_lookup h
  · split at h
    · exact republishToContactIfCloser_lookup h
    · cases h
      simp
  · cases h
    simp

theorem handleFindNodeRsp_lookup {rsp : ReqRspMessage RTableData}
    (h : node.handleFindNodeRsp o rsp = .ok (node', outputs)) :
    ∀ output ∈ outputs, output.lookup = none := by
  rw [handleFindNodeRsp.eq_def] at h
  split at h
  · cases h
    simp
  · split at h
    · cases h
      simp
    · split at h
      obtain ⟨route, -, h⟩ := of_bind h
      obtain ⟨sent, hsent, h⟩ := of_bind h
      cases h
      exact republishKey_lookup hsent

/-- The keys that are looked up. -/
def lookups (outputs : List Output) : List NodeId := outputs.filterMap Output.lookup

theorem not_mem_lookups (h : ∀ output ∈ outputs, output.lookup = none) : key ∉ lookups outputs := by
  rw [lookups, List.mem_filterMap]
  rintro ⟨output, houtput, hlookup⟩
  rw [h output houtput] at hlookup
  cases hlookup

/-- An event that starts the garbage collection. -/
def Collects (node : Running H) (o : Occurrence T) : Prop :=
  ∃ id, o.event = .timer id ∧ node.timerHooks.lookup id = some .garbageCollection

theorem mem_lookups_iff [LawfulEntryMeta H]
    (h : node.handleEvent debug o = .ok (node', outputs)) :
    key ∈ lookups outputs ↔ node.Collects o ∧ node.due o.now key = true := by
  have hnone (hevent : ∀ id, o.event ≠ .timer id)
      (hlookup : ∀ output ∈ outputs, output.lookup = none) :
      key ∈ lookups outputs ↔ node.Collects o ∧ node.due o.now key = true := by
    refine iff_of_false (not_mem_lookups hlookup) ?_
    rintro ⟨⟨id, hid, -⟩, -⟩
    exact hevent id hid
  rw [handleEvent.eq_def] at h
  split at h
  · rename_i req hevent
    obtain ⟨⟨dht, effects⟩, -, h⟩ := of_bind h
    cases h
    exact hnone (by simp [hevent]) (by simp [Output.lookup])
  · rename_i req hevent
    obtain ⟨⟨dht, effects⟩, -, h⟩ := of_bind h
    cases h
    exact hnone (by simp [hevent]) (by simp [Output.lookup])
  · rename_i rsp hevent
    exact hnone (by simp [hevent]) (handleFindNodeRsp_lookup h)
  · rename_i message hstore hfetch hfind hevent
    cases h
    exact hnone (by simp [hevent]) (by simp)
  · rename_i id hevent
    rcases handleTimer_cases h with ⟨hhook, hooks, timer, sent, hcollect, rfl, htimer⟩ |
      ⟨hhook, -, -, rfl⟩
    · rw [lookups, List.filterMap_cons, htimer, (garbageCollection_eq hcollect).2.1]
      exact (and_iff_right ⟨id, hevent, hhook⟩).symm
    · refine iff_of_false (by simp [lookups]) ?_
      rintro ⟨⟨id', hid, hhook'⟩, -⟩
      obtain rfl := Event.timer.inj (hevent.symm.trans hid)
      exact hhook hhook'
  · rename_i event hevent
    obtain ⟨sent, hsent, h⟩ := of_bind h
    cases h
    exact hnone (by simp [hevent]) (handleContact_lookup hsent)
  · rename_i callback hevent
    cases h
    exact hnone (by simp [hevent]) (by simp [Output.lookup])

/-! ## The time of the last republish -/

/-- No republish is recorded. -/
def NeverRepublished (node : Running H) : Prop :=
  ∀ key entry, metadata node.hashTable key = some entry → entry.lastRepublish = none

theorem NeverRepublished.due (h : node.NeverRepublished) (now : Instant) (key : NodeId) :
    node.due now key = node.kept now key := by
  rw [Running.due, keyRepublishNeeded, kept]
  cases hentry : metadata node.hashTable key with
  | none => rfl
  | some entry => simp [h key entry hentry]

/-- Whatever is done, no republish is recorded. -/
theorem NeverRepublished.done {deed : Deed} (h : node.NeverRepublished)
    (hdone : node.Done node' deed) : node'.NeverRepublished := by
  intro key entry hentry
  have hold : ((metadata node.hashTable key).getD .new).lastRepublish = none := by
    cases hmeta : metadata node.hashTable key with
    | none => rfl
    | some old => exact h key old hmeta
  rw [hdone.metadata] at hentry
  cases deed with
  | store key' value accessed =>
    rw [Deed.onMetadata] at hentry
    split at hentry
    · cases hentry
      exact hold
    · exact h key entry hentry
  | fetch key' accessed =>
    rw [Deed.onMetadata] at hentry
    split at hentry
    · obtain ⟨old, hmeta, rfl⟩ := Option.map_eq_some_iff.1 hentry
      exact h key old hmeta
    · exact h key entry hentry
  | collect now => exact h key entry (Option.filter_eq_some_iff.1 hentry).1
  | nothing => exact h key entry hentry

theorem neverRepublished_start [LawfulEntryMeta H] {dht : DistributedHashTable H}
    {grouping : NonZeroU8} (hnew : DistributedHashTable.new grouping = .ok dht)
    (config : DistributedHashTableConfig) (timerId : TimerId) :
    (start dht config timerId).1.NeverRepublished := by
  unfold DistributedHashTable.new at hnew
  split at hnew
  · cases hnew
  · cases hnew
    intro key entry hentry
    rw [start, LawfulEntryMeta.metadata_default] at hentry
    cases hentry

/-! ## Republishing in a run -/

/-- The key of a value that is sent. -/
def Output.republishes : Output → Option NodeId
  | .sends (.storeReq req) _ => some req.data.handle
  | _ => none

/-- The keys that are republished by an event: those whose values the node sends because a lookup
has been answered, and that of a value that another node sends with its age. -/
def republished (p : Passage H T) : List NodeId :=
  match p.op.event with
  | .message (.findNodeRsp _) => p.answer.filterMap Output.republishes
  | .message (.storeReq req) => if req.data.lastAccessedMs.isSome then [req.data.handle] else []
  | _ => []

/-- The key was not republished within the window. -/
def Unsuppressed (window : Duration) (past : List (Passage H T)) (now : Timestamp) (key : NodeId) :
    Prop :=
  ∀ p ∈ past, key ∈ republished p → (window : Int) < now - p.op.now

end DistributedHashTable.Running

open DistributedHashTable DistributedHashTable.Running

/-- **Republishing is not suppressed.**  At any point of a run, an event looks up only keys that
were not republished within the window if and only if it does not start a garbage collection or all
keys that are there and have not expired are such. -/
theorem republish_suppressed_iff {H T : Type} [LocalHashTable H] [LawfulLocalHashTable H]
    [LawfulEntryMeta H] {k : Nat} [RoutingTable T k] (debug : Bool) {dht : DistributedHashTable H}
    {grouping : NonZeroU8} (hnew : DistributedHashTable.new grouping = .ok dht)
    (config : DistributedHashTableConfig) (timerId : TimerId) {past : List (Passage H T)}
    {node node' : Running H} {o : Occurrence T} {outputs : List Output}
    (hrun : Traced (handleEvent debug) (start dht config timerId).1 past node)
    (hstep : node.handleEvent debug o = .ok (node', outputs)) :
    (∀ key ∈ lookups outputs, Unsuppressed config.republishSuppressionWindow past o.now key) ↔
      (node.Collects o → ∀ key, node.kept o.now key = true →
        Unsuppressed config.republishSuppressionWindow past o.now key) := by
  have hnever : node.NeverRepublished :=
    hrun.invariant (I := fun _ ↦ NeverRepublished) (neverRepublished_start hnew config timerId)
      fun _ _ _ _ _ h hstep ↦ h.done (handleEvent_done hstep)
  simp only [mem_lookups_iff hstep, hnever.due, and_imp]
  exact ⟨fun h hcollects key ↦ h key hcollects, fun h key hcollects ↦ h hcollects key⟩

namespace DistributedHashTable

/-- Node 3 responds to the lookup for a key. -/
def lookupAnswer : ReqRspMessage RTableData where
  commonHeader := .new .findNodeRsp 3 5 7 .invalid 0
  data := ⟨[]⟩
  notVia := none
  sourceRoute := .new 3 (.via 5 [])

end DistributedHashTable

/-- A key that has just been stored, and never republished, is looked up. -/
theorem first_lookup_unsuppressed : ∃ stored outputs collected outputs',
    nodeFive.handleEvent true (.alone 0 (.message (.storeReq (storeRequest none)))) =
      .ok (stored, outputs) ∧
    stored.handleEvent true (.alone 1 (.timer 0)) = .ok (collected, outputs') ∧
    lookups outputs' = [9] ∧
    ∀ key ∈ lookups outputs', Unsuppressed
      DistributedHashTableConfig.default.republishSuppressionWindow
      [⟨nodeFive, .alone 0 (.message (.storeReq (storeRequest none))), outputs, stored⟩] 1 key := by
  refine ⟨_, _, _, _, rfl, rfl, rfl, ?_⟩
  have hnew : (DistributedHashTable.new .MIN : Except _ (DistributedHashTable ComplexHashTable)) =
    .ok ⟨.MIN, by decide, LocalHashTable.default⟩ := rfl
  refine (republish_suppressed_iff (o := .alone 1 (.timer 0)) true hnew .default 0
    (.step .start rfl) rfl).2 fun _ key _ p hp hkey ↦ ?_
  obtain rfl := List.mem_singleton.1 hp
  simp [republished, Occurrence.alone, storeRequest] at hkey

/-- **A key is looked up again right after it was republished.**  A value is stored, a garbage
collection looks up where it belongs, and when that is answered the value is sent to the node that
responds.  The next garbage collection looks up the key again, a nanosecond later. -/
theorem republished_key_is_looked_up :
    ∃ stored outputs collected outputs' sent outputs'' again last,
    nodeFive.handleEvent true (.alone 0 (.message (.storeReq (storeRequest none)))) =
      .ok (stored, outputs) ∧
    stored.handleEvent true (.alone 1 (.timer 0)) = .ok (collected, outputs') ∧
    collected.handleEvent true (.alone 2 (.message (.findNodeRsp lookupAnswer))) =
      .ok (sent, outputs'') ∧
    republished (⟨collected, .alone 2 (.message (.findNodeRsp lookupAnswer)), outputs'', sent⟩ :
      Passage _ _) = [9] ∧
    sent.handleEvent true (.alone 3 (.timer 2)) = .ok (again, last) ∧
    lookups last = [9] ∧
    ¬Unsuppressed DistributedHashTableConfig.default.republishSuppressionWindow
      [⟨collected, .alone 2 (.message (.findNodeRsp lookupAnswer)), outputs'', sent⟩] 3 9 := by
  refine ⟨_, _, _, _, _, _, _, _, rfl, rfl, rfl, rfl, rfl, rfl, fun h ↦ ?_⟩
  exact absurd (h _ List.mem_cons_self List.mem_cons_self) (by decide)

end Kira
