import Kira.Domain.VicinityGraph.Consistent
import Kira.Lib.FinGraph
import Kira.R2Kad.Node
import Kira.UseCases.VicinityDiscovery

/-!
# The vicinity graph is what the neighbours have reported

The graph is changed in many places, and from time to time a neighbour reports all of its own
neighbours.  `Consistent` is kept through all of this, and when a report has been processed then the
links of the neighbour are those that were reported.

A report may take away links, and then the graph is reduced to the vicinity.  This does not concern
the links of the neighbour that has sent the report: it is one link away from the root now, so the
other ends of its links are at most two away.

When the vicinity is brought up to date, an entry is expected for each node of the graph, and in
each entry two numbers in the right order.  Both are part of `Consistent`, so the panics that go
with them do not occur.  The other tables and the state of the discovery may change at any time.
-/

set_option autoImplicit false

namespace Kira

open Run

namespace VicinityDiscovery

open RoutingTable VicinityGraph

/-- The neighbours that a report lists, without the root. -/
def reported (rootId : NodeId) (contacts : List Contact) : List NodeId :=
  (contacts.filter fun contact ↦
    contact.path.map Path.size = some 1 ∧ contact.id ≠ rootId).map Contact.id

variable {rootId source : NodeId}

/-! ## Processing a report -/

theorem reported_cons_of_neighbor {contact : Contact} {path : Path}
    (hpath : contact.path = some path)
    (h : path.size = 1 ∧ contact.id ≠ rootId) (contacts : List Contact) :
    reported rootId (contact :: contacts) = contact.id :: reported rootId contacts := by
  rw [reported, List.filter_cons_of_pos (by simpa [hpath] using h)]
  rfl

theorem reported_cons_of_other {contact : Contact} {path : Path} (hpath : contact.path = some path)
    (h : ¬ (path.size = 1 ∧ contact.id ≠ rootId)) (contacts : List Contact) :
    reported rootId (contact :: contacts) = reported rootId contacts := by
  rw [reported, List.filter_cons_of_neg (by simpa [hpath] using h)]
  rfl

variable [Petgraph NodeId] {vg vg' : PetVicinityGraph}

/-- The links to the reported nodes are inserted, and of the nodes that were known those remain that
have not been reported. -/
theorem insertReported_spec {contacts : List Contact} {old old' : List NodeId}
    (hvg : vg.Consistent) (h : insertReported rootId source contacts vg old = .ok (vg', old')) :
    vg'.Consistent ∧ vg'.rootId = vg.rootId ∧
      (∀ node, node ∈ old' ↔ node ∈ old ∧ node ∉ reported rootId contacts) ∧
      ∀ a b, vg'.graph.containsEdge a b ↔ vg.graph.containsEdge a b ∨
        ∃ node ∈ reported rootId contacts, s(a, b) = s(node, source) := by
  induction contacts generalizing vg old with
  | nil =>
    cases h
    exact ⟨hvg, rfl, by simp [reported], by simp [reported]⟩
  | cons contact contacts ih =>
    rw [insertReported] at h
    obtain ⟨path, hpath, h⟩ := of_bind h
    have hpath := expect_eq_ok.1 hpath
    split at h
    · rename_i hneighbor
      obtain ⟨⟨newEdge, mid⟩, hmid, h⟩ := of_bind h
      have hinsert := expect_toOption_eq_ok.1 hmid
      obtain ⟨hconsistent, hroot, hold, hedge⟩ := ih (hvg.insert hinsert) h
      obtain ⟨-, -, -, rfl⟩ := PetVicinityGraph.insert_eq_ok hinsert
      rw [reported_cons_of_neighbor hpath hneighbor]
      refine ⟨hconsistent, hroot, fun node ↦ ?_, fun a b ↦ ?_⟩
      · simp only [hold, List.mem_filter, List.mem_cons, not_or, ne_eq, decide_not,
          Bool.not_eq_true', decide_eq_false_iff_not]
        tauto
      · rw [hedge, Petgraph.containsEdge_addEdge, List.exists_mem_cons_iff, or_assoc]
    · rename_i hother
      rw [reported_cons_of_other hpath hother]
      exact ih hvg h

theorem removeLinks_spec {neighbors : List NodeId} (hvg : vg.Consistent)
    (h : removeLinks source neighbors vg = .ok vg') :
    vg'.Consistent ∧ vg'.rootId = vg.rootId ∧
      ∀ a b, vg'.graph.containsEdge a b ↔
        vg.graph.containsEdge a b ∧ ∀ node ∈ neighbors, s(a, b) ≠ s(source, node) := by
  induction neighbors generalizing vg with
  | nil =>
    cases h
    exact ⟨hvg, rfl, by simp⟩
  | cons neighbor neighbors ih =>
    rw [removeLinks] at h
    obtain ⟨-, -, h⟩ := of_bind h
    obtain ⟨hconsistent, hroot, hedge⟩ := ih (hvg.removeEdge source neighbor) h
    refine ⟨hconsistent, hroot, fun a b ↦ ?_⟩
    rw [hedge, PetVicinityGraph.removeEdge, Petgraph.containsEdge_removeEdge,
      List.forall_mem_cons, and_assoc]

variable {T : Type} {k : Nat} [RoutingTable T k] {context context' : VicinityContext T}

/-- The graph of a node is consistent, and its root is the node itself. -/
structure Kept (rootId : NodeId) (context : VicinityContext T) : Prop where
  graph : context.vicinityGraph.Consistent
  graphRoot : context.vicinityGraph.rootId = rootId
  root : context.rootId = rootId

theorem Kept.retained (hkept : Kept rootId context)
    (h : context.retainVicinity = .ok context') :
    Kept rootId context' ∧ ∀ a b, context'.vicinityGraph.graph.containsEdge a b ↔
      context.vicinityGraph.graph.containsEdge a b ∧
        context.vicinityGraph.Near a ∧ context.vicinityGraph.Near b := by
  obtain ⟨removed, hretain, hsame⟩ := VicinityContext.retainVicinity_eq_ok h
  obtain ⟨removed', vg, hvg, hconsistent, hroot, -, -, hedge⟩ := hkept.graph.retainVicinity
  obtain ⟨-, rfl⟩ := ok_mk_inj (hretain.symm.trans hvg)
  refine ⟨⟨hconsistent, hroot.trans hkept.graphRoot, ?_⟩, hedge⟩
  rw [← hkept.root, UseCaseContext.rootId, hsame.routingTable]
  rfl

theorem containsEdge_source (vg : PetVicinityGraph) {linked unlinked : PetVicinityGraph}
    {old ids : List NodeId}
    (hlinked : ∀ a b, linked.graph.containsEdge a b ↔
      (vg.graph.containsEdge a b ∨ s(a, b) = s(source, rootId)) ∨
        ∃ node ∈ ids, s(a, b) = s(node, source))
    (hold : ∀ node, node ∈ old ↔ (vg.graph.containsEdge source node ∧ node ≠ rootId) ∧ node ∉ ids)
    (hunlinked : ∀ a b, unlinked.graph.containsEdge a b ↔
      linked.graph.containsEdge a b ∧ ∀ node ∈ old, s(a, b) ≠ s(source, node)) (node : NodeId) :
    unlinked.graph.containsEdge source node ↔ node = rootId ∨ node ∈ ids := by
  have hreported : (∃ other ∈ ids, s(source, node) = s(other, source)) ↔ node ∈ ids := by
    constructor
    · rintro ⟨other, hother, heq⟩
      rw [Sym2.eq_swap, Sym2.congr_left] at heq
      exact heq ▸ hother
    · exact fun hnode ↦ ⟨node, hnode, Sym2.eq_swap⟩
  have hremoved : (∀ other ∈ old, s(source, node) ≠ s(source, other)) ↔ node ∉ old := by
    simp only [ne_eq, Sym2.congr_right]
    exact ⟨fun h hnode ↦ h node hnode rfl, fun h other hother heq ↦ h (heq ▸ hother)⟩
  rw [hunlinked, hlinked, hreported, hremoved, hold, Sym2.congr_right]
  tauto

/-- **Processing a report.**  The links of a neighbour are those that it has reported, and its link
with the root. -/
theorem Kept.processed {report : ULNReqRspMessage RTableData} (hkept : Kept rootId context)
    (h : processUlndiscReqrsp context report = .ok context') :
    Kept rootId context' ∧ ∀ ssn, report.commonHeader.stateSeqNum = .value ssn → ∀ node,
      node ∈ context'.vicinityGraph.vicinity report.source ↔
        node = rootId ∨ node ∈ reported rootId report.data.contacts := by
  unfold processUlndiscReqrsp at h
  split at h
  · rename_i synced hsynced
    obtain ⟨inserted, hinserted, h⟩ := of_bind h
    obtain ⟨entry, hentry, h⟩ := of_bind h
    obtain ⟨updated, hupdated, h⟩ := of_bind h
    obtain ⟨linked, hlinked, h⟩ := of_bind h
    obtain ⟨unlinked, hunlinked, h⟩ := of_bind h
    obtain ⟨retained, hretained, h⟩ := of_bind h
    rw [hkept.root] at hinserted hlinked
    have hinsert := expect_toOption_eq_ok.1 hinserted
    have hentry : inserted.2.entry report.source = some entry := expect_eq_ok.1 hentry
    have hordered := Entry.Ordered.updateLastSeen (Entry.ordered_updateSyncedSsn synced) hupdated
    have hconsistent : (inserted.2.withEntry report.source updated).Consistent :=
      (hkept.graph.insert hinsert).withEntry (by rw [hentry]; rfl) hordered
    obtain ⟨-, -, -, hgraph⟩ := PetVicinityGraph.insert_eq_ok hinsert
    obtain ⟨hconsistent, hroot, hold, hedge⟩ := insertReported_spec hconsistent hlinked
    obtain ⟨hconsistent, hroot', hedge'⟩ := removeLinks_spec hconsistent hunlinked
    have hmid : Kept rootId { context with vicinityGraph := unlinked } := by
      refine ⟨hconsistent, ?_, hkept.root⟩
      rw [hroot', hroot, PetVicinityGraph.withEntry, hgraph]
      exact hkept.graphRoot
    have hsource : ∀ node, unlinked.graph.containsEdge report.source node ↔
        node = rootId ∨ node ∈ reported rootId report.data.contacts := by
      refine containsEdge_source context.vicinityGraph (fun a b ↦ ?_) (fun node ↦ ?_) hedge'
      · rw [hedge, PetVicinityGraph.withEntry, hgraph, Petgraph.containsEdge_addEdge]
      · rw [hold, List.mem_filter, PetVicinityGraph.vicinity, Petgraph.mem_neighbors,
          decide_eq_true_iff]
    have hretained : Kept rootId retained ∧ ∀ node,
        retained.vicinityGraph.graph.containsEdge report.source node ↔
          node = rootId ∨ node ∈ reported rootId report.data.contacts := by
      split at hretained
      · cases hretained
        exact ⟨hmid, hsource⟩
      · obtain ⟨hkept', hedge''⟩ := hmid.retained hretained
        refine ⟨hkept', fun node ↦ ?_⟩
        rw [hedge'', hsource]
        refine and_iff_left_of_imp fun hnode ↦ ?_
        -- the source is linked with the root, so its own links lead to nodes in the vicinity
        have hlink : unlinked.graph.containsEdge report.source unlinked.rootId :=
          (hsource _).2 (.inl hmid.graphRoot)
        have hback : unlinked.graph.containsEdge node report.source := by
          rw [Petgraph.containsEdge_comm]
          exact (hsource node).2 hnode
        exact ⟨PetVicinityGraph.near_of_containsEdge hlink,
          PetVicinityGraph.near_of_containsEdge_containsEdge hlink hback⟩
    cases h
    refine ⟨?_, fun _ _ node ↦ ?_⟩
    · split
      · exact ⟨hretained.1.graph, hretained.1.graphRoot, hretained.1.root⟩
      · exact hretained.1
    · rw [PetVicinityGraph.vicinity, Petgraph.mem_neighbors, ← hretained.2 node]
      split <;> rfl
  · rename_i hinvalid
    cases h
    exact ⟨hkept, fun ssn hssn ↦ absurd hssn (hinvalid ssn)⟩

/-- The report that a message carries. -/
def reportOf : ProtocolMessage → Option (ULNReqRspMessage RTableData)
  | .ulnDiscReq report => some report
  | .ulnDiscRsp report => some report
  | _ => none

theorem Kept.ulnOp {op : ULNOp} (hkept : Kept rootId context)
    (h : context.ulnOp op = .ok context') : Kept rootId context' := by
  obtain ⟨hgraph, hrouting, -⟩ := VicinityContext.ulnOp_eq_ok h
  refine ⟨hgraph ▸ hkept.graph, hgraph ▸ hkept.graphRoot, ?_⟩
  rw [← hkept.root, UseCaseContext.rootId, hrouting]
  rfl

theorem sendUlnDiscRsp_eq_ok {request : ULNReqRspMessage RTableData} {ulnid : UnderlayNeighborId}
    (h : sendUlnDiscRsp context request ulnid = .ok context') :
    ∃ message, context' = context.sendMessageVia message (.underlayNeighbor ulnid) := by
  unfold sendUlnDiscRsp at h
  cases hcollect : collectUnderlayNeighbors context with
  | error e =>
    rw [hcollect] at h
    cases h
  | ok collected =>
    rw [hcollect] at h
    exact ⟨_, (Except.ok.inj h).symm⟩

/-- What the use case makes of a report.  That an answer may not be sent afterwards is of no
importance for the graph. -/
theorem Kept.message {debug : Bool} {draws : VDDraws} {self self' : VicinityDiscovery}
    {message : ProtocolMessage} {report : ULNReqRspMessage RTableData} {ulnid : UnderlayNeighborId}
    {result : Except VDError Unit} (hkept : Kept rootId context)
    (hreport : reportOf message = some report)
    (h : self.handleProtocolMessage debug draws context message ulnid =
      .ok (result, self', context')) :
    Kept rootId context' ∧ ∀ ssn, report.commonHeader.stateSeqNum = .value ssn → ∀ node,
      node ∈ context'.vicinityGraph.vicinity report.source ↔
        node = rootId ∨ node ∈ reported rootId report.data.contacts := by
  cases message with
  | ulnDiscReq req =>
    cases hreport
    obtain ⟨inserted, hinserted, h⟩ := of_bind h
    obtain ⟨confirmed, hconfirmed, h⟩ := of_bind h
    obtain ⟨processed, hprocessed, h⟩ := of_bind h
    have hdone := ((hkept.ulnOp hinserted).ulnOp hconfirmed).processed hprocessed
    split at h
    · obtain ⟨-, rfl, rfl⟩ := by simpa using h
      exact hdone
    · rename_i sent hsent
      obtain ⟨-, rfl, rfl⟩ := by simpa using h
      obtain ⟨message, rfl⟩ := sendUlnDiscRsp_eq_ok hsent
      exact ⟨⟨hdone.1.graph, hdone.1.graphRoot, hdone.1.root⟩, hdone.2⟩
  | ulnDiscRsp rsp =>
    cases hreport
    obtain ⟨confirmed, hconfirmed, h⟩ := of_bind h
    obtain ⟨processed, hprocessed, h⟩ := of_bind h
    obtain ⟨-, rfl, rfl⟩ := by simpa using h
    exact (hkept.ulnOp hconfirmed).processed hprocessed
  | _ => cases hreport

/-! ## Bringing the vicinity up to date -/

/-- What is said when an entry is missing, or its numbers are in the wrong order. -/
def SYNC_PANICS : List String :=
  ["vicinity node without entry", "synced_ssn newer than observed_ssn",
    "for node \x7b:?\x7d synced_ssn newer \x7b:?\x7d than observed_ssn \x7b:?\x7d"]

section Sync

variable {debug : Bool} {draws : VDDraws} {i : Nat} {self self' : VicinityDiscovery}
  {context context' : VicinityContext T}

/-- The underlay neighbours and the graph are left alone. -/
structure SameTables (before after : VicinityContext T) : Prop where
  ulnTable : after.ulnTable = before.ulnTable
  vicinityGraph : after.vicinityGraph = before.vicinityGraph

theorem sameTables_registerPendingReq {scale : Duration → Duration} {destination : NodeId}
    {nonce : Nonce} {kind : ProtocolMessageKind} {timeout : Duration} {hook : TimerHook}
    (h : self.registerPendingReq debug scale context destination nonce kind timeout hook =
      .ok (self', context')) : SameTables context context' := by
  unfold registerPendingReq at h
  split at h
  · obtain ⟨⟨id, timed⟩, htimed, h⟩ := of_bind h
    obtain ⟨runtime, -, rfl⟩ := VicinityContext.registerTimer_eq_ok htimed
    cases h
    exact ⟨rfl, rfl⟩
  · cases h

theorem sameTables_initUlnDiscReq {destination : NodeId} {ulnid : UnderlayNeighborId}
    (h : self.initUlnDiscReq debug draws i context destination ulnid =
      .ok (.ok (self', context'))) :
    SameTables context context' := by
  unfold initUlnDiscReq sendUlnDiscReq at h
  cases hcollect : collectUnderlayNeighbors context with
  | error e => simp [hcollect] at h
  | ok collected =>
    rw [hcollect] at h
    obtain ⟨registered, hregistered, h⟩ := of_bind h
    cases h
    obtain ⟨hulnTable, hgraph⟩ := sameTables_registerPendingReq hregistered
    exact ⟨hulnTable, hgraph⟩

theorem sameTables_initQueryRouteReq {route : SourceRoute}
    (h : self.initQueryRouteReq debug draws i context route = .ok (.ok (self', context'))) :
    SameTables context context' := by
  obtain ⟨sent, hsent, h⟩ := of_bind h
  obtain ⟨_, -, hsent⟩ := of_bind hsent
  obtain ⟨_, -, hsent⟩ := of_bind hsent
  obtain ⟨_, -, hsent⟩ := of_bind hsent
  obtain ⟨_, -, hsent⟩ := of_bind hsent
  split at hsent
  · cases hsent
    cases ok.inj h
  · cases hsent
    obtain ⟨registered, hregistered, h⟩ := of_bind h
    cases h
    obtain ⟨hulnTable, hgraph⟩ := sameTables_registerPendingReq hregistered
    exact ⟨hulnTable, hgraph⟩

theorem sameTables_initNew {key : RequestKey} {sync : Sync}
    {init : Run (Except VDError (VicinityDiscovery × VicinityContext T))}
    {newSync : Except VDError (Bool × VicinityDiscovery × VicinityContext T)}
    (hinit : ∀ self' context', init = .ok (.ok (self', context')) → SameTables context context')
    (h : self.initNew context key init = .ok newSync)
    (hsync : newSync.map Sync.ofNew = .ok (sync, self', context')) :
    SameTables context context' := by
  obtain ⟨pending, -, h⟩ := of_bind h
  split at h
  · cases h
    obtain ⟨-, -, rfl⟩ := by simpa [Except.map, Sync.ofNew] using hsync
    exact ⟨rfl, rfl⟩
  · obtain ⟨registered, hregistered, h⟩ := of_bind h
    cases h
    cases registered with
    | error e => cases hsync
    | ok registered =>
      obtain ⟨-, rfl, rfl⟩ := by simpa [Except.map, Sync.ofNew] using hsync
      exact hinit _ _ hregistered

theorem sameTables_syncCandidate {candidate : NodeId} {sync : Sync}
    (h : self.syncCandidate debug draws i context candidate = .ok (.ok (sync, self', context'))) :
    SameTables context context' := by
  unfold syncCandidate at h
  split at h
  · split at h
    · obtain ⟨-, -, rfl⟩ := by simpa using h
      exact ⟨rfl, rfl⟩
    · split at h
      · obtain ⟨-, -, rfl⟩ := by simpa using h
        exact ⟨rfl, rfl⟩
      · obtain ⟨-, -, h⟩ := of_bind h
        obtain ⟨newSync, hnewSync, h⟩ := of_bind h
        exact sameTables_initNew (fun _ _ ↦ sameTables_initUlnDiscReq) hnewSync (ok.inj h)
  · obtain ⟨entry, -, h⟩ := of_bind h
    split at h
    · obtain ⟨-, -, rfl⟩ := by simpa using h
      exact ⟨rfl, rfl⟩
    · obtain ⟨-, -, h⟩ := of_bind h
      split at h
      · obtain ⟨-, -, rfl⟩ := by simpa using h
        exact ⟨rfl, rfl⟩
      · split at h
        · obtain ⟨-, -, rfl⟩ := by simpa using h
          exact ⟨rfl, rfl⟩
        · obtain ⟨route, -, h⟩ := of_bind h
          obtain ⟨newSync, hnewSync, h⟩ := of_bind h
          exact sameTables_initNew (fun _ _ ↦ sameTables_initQueryRouteReq) hnewSync (ok.inj h)

omit [Petgraph NodeId] in
theorem avoids_registerTimer (rt : R2KadRuntime) (duration : Duration) :
    (rt.registerTimer debug duration).Avoids SYNC_PANICS := by
  refine (avoids_assert fun _ ↦ by decide).bind fun _ _ ↦ ?_
  refine Run.Avoids.bind ?_ fun _ _ ↦ ?_
  · refine (avoids_assert fun _ ↦ by decide).bind fun _ _ ↦ ?_
    exact (avoids_expect fun _ ↦ by decide).bind fun _ _ ↦ avoids_ok _
  · exact (avoids_expect fun _ ↦ by decide).bind fun _ _ ↦ avoids_ok _

theorem avoids_registerPendingReq (scale : Duration → Duration) (context : VicinityContext T)
    (destination : NodeId) (nonce : Nonce) (kind : ProtocolMessageKind) (timeout : Duration)
    (hook : TimerHook) :
    (self.registerPendingReq debug scale context destination nonce kind timeout hook).Avoids
      SYNC_PANICS := by
  unfold registerPendingReq
  split
  · refine Run.Avoids.bind ?_ fun _ _ ↦ avoids_ok _
    refine Run.Avoids.bind ?_ fun _ _ ↦ avoids_ok _
    exact (avoids_registerTimer _ _).bind fun _ _ ↦ avoids_ok _
  · exact avoids_panic (by decide)

theorem avoids_initUlnDiscReq (i : Nat) (context : VicinityContext T) (destination : NodeId)
    (ulnid : UnderlayNeighborId) :
    (self.initUlnDiscReq debug draws i context destination ulnid).Avoids SYNC_PANICS := by
  unfold initUlnDiscReq
  split
  · exact avoids_ok _
  · exact (avoids_registerPendingReq _ _ _ _ _ _ _).bind fun _ _ ↦ avoids_ok _

theorem avoids_initQueryRouteReq (i : Nat) (context : VicinityContext T) (route : SourceRoute) :
    (self.initQueryRouteReq debug draws i context route).Avoids SYNC_PANICS := by
  refine Run.Avoids.bind ?_ fun sent _ ↦ ?_
  · refine (avoids_expect fun _ ↦ by decide).bind fun _ _ ↦ ?_
    refine (avoids_assert fun _ ↦ by decide).bind fun _ _ ↦ ?_
    refine (avoids_assert fun _ ↦ by decide).bind fun _ _ ↦ ?_
    refine (avoids_assert fun _ ↦ by decide).bind fun _ _ ↦ ?_
    split
    · exact avoids_ok _
    · exact avoids_ok _
  · split
    · exact avoids_ok _
    · exact (avoids_registerPendingReq _ _ _ _ _ _ _).bind fun _ _ ↦ avoids_ok _

theorem avoids_initNew {context : VicinityContext T} {key : RequestKey}
    {init : Run (Except VDError (VicinityDiscovery × VicinityContext T))}
    (hinit : init.Avoids SYNC_PANICS) : (self.initNew context key init).Avoids SYNC_PANICS := by
  refine Run.Avoids.bind ?_ fun _ _ ↦ ?_
  · unfold isPending
    split
    · exact avoids_ok _
    · exact avoids_panic (by decide)
  · split
    · exact avoids_ok _
    · exact hinit.bind fun _ _ ↦ avoids_ok _

theorem avoids_syncCandidate (hvg : context.vicinityGraph.Consistent) {i : Nat} {candidate : NodeId}
    (hcandidate : (context.ulnTable.map.lookup candidate).isSome ∨
      candidate ∈ context.vicinityGraph.nodes) :
    (self.syncCandidate debug draws i context candidate).Avoids SYNC_PANICS := by
  unfold syncCandidate
  split
  · split
    · exact avoids_ok _
    · rename_i entry hentry
      split
      · exact avoids_ok _
      · refine (avoids_assert fun hnewer ↦ ?_).bind fun _ _ ↦ ?_
        · rw [(hvg.ordered hentry).all_le] at hnewer
          cases hnewer
        · exact (avoids_initNew (avoids_initUlnDiscReq _ _ _ _)).bind fun _ _ ↦ avoids_ok _
  · rename_i hnone
    rw [hnone] at hcandidate
    have hentry := hvg.isSome_entry_iff.2
      (PetVicinityGraph.mem_nodes.1 (hcandidate.resolve_left (by simp)))
    refine (avoids_expect fun habsent ↦ ?_).bind fun entry hentry' ↦ ?_
    · rw [habsent] at hentry
      cases hentry
    · have hordered := hvg.ordered (expect_eq_ok.1 hentry')
      split
      · exact avoids_ok _
      · rename_i hdifferent
        refine (avoids_assert fun hnewer ↦ ?_).bind fun _ _ ↦ ?_
        · rw [hordered.all_lt hdifferent] at hnewer
          cases hnewer
        · split
          · exact avoids_ok _
          · split
            · exact avoids_ok _
            · refine (avoids_expect fun _ ↦ by decide).bind fun _ _ ↦ ?_
              exact (avoids_initNew (avoids_initQueryRouteReq _ _ _)).bind fun _ _ ↦ avoids_ok _

theorem avoids_syncAll (hvg : context.vicinityGraph.Consistent) {candidates : List NodeId}
    {capacity : Nat} {isolated : Bool}
    (hcandidates : ∀ candidate ∈ candidates, (context.ulnTable.map.lookup candidate).isSome ∨
      candidate ∈ context.vicinityGraph.nodes) :
    (syncAll debug draws i candidates capacity isolated self context).Avoids SYNC_PANICS ∧
      ∀ result self' context', syncAll debug draws i candidates capacity isolated self context =
        .ok (result, self', context') → context'.vicinityGraph = context.vicinityGraph := by
  induction candidates generalizing i capacity isolated self context with
  | nil => exact ⟨avoids_ok _, fun _ _ _ h ↦ (ok_mk₃_inj h).2.2 ▸ rfl⟩
  | cons candidate candidates ih =>
    obtain ⟨hcandidate, hcandidates⟩ := List.forall_mem_cons.1 hcandidates
    rw [syncAll]
    cases hsync : self.syncCandidate debug draws i context candidate with
    | panic msg =>
      have havoids : (Run.panic msg).Avoids SYNC_PANICS :=
        hsync ▸ avoids_syncCandidate hvg hcandidate
      exact ⟨havoids.bind nofun, nofun⟩
    | ok outcome =>
      rw [ok_bind]
      cases outcome with
      | error e => exact ⟨avoids_ok _, fun _ _ _ h ↦ (ok_mk₃_inj h).2.2 ▸ rfl⟩
      | ok outcome =>
        obtain ⟨sync, self₁, context₁⟩ := outcome
        obtain ⟨hulnTable, hgraph⟩ := sameTables_syncCandidate hsync
        rw [← hulnTable, ← hgraph] at hcandidates
        rw [← hgraph] at hvg ⊢
        cases sync with
        | passed | isolated => exact ih hvg hcandidates
        | started =>
          dsimp only
          split
          · exact ⟨avoids_ok _, fun _ _ _ h ↦ (ok_mk₃_inj h).2.2 ▸ rfl⟩
          · exact ih hvg hcandidates

theorem exists_retainVicinity (hvg : context.vicinityGraph.Consistent) :
    ∃ context', context.retainVicinity = .ok context' := by
  obtain ⟨removed, vg, hretain, -⟩ := hvg.retainVicinity
  refine ⟨context.withVicinityGraph
    ((removed.map .removed).foldl ObservableVicinityGraph.emit ⟨vg, []⟩), ?_⟩
  simp [VicinityContext.retainVicinity, ObservableVicinityGraph.retainVicinity,
    ObservableVicinityGraph.new, hretain]

/-- **No entry is missing, and none is out of order,** when the vicinity is brought up to date. -/
theorem avoids_scheduleSyncs (hvg : context.vicinityGraph.Consistent) :
    (self.scheduleSyncs debug draws context).Avoids SYNC_PANICS := by
  unfold scheduleSyncs
  split
  · rename_i books hstate
    dsimp only
    split
    · exact avoids_ok _
    · have hcandidates : ∀ candidate ∈ syncCandidates context,
          (context.ulnTable.map.lookup candidate).isSome ∨
            candidate ∈ context.vicinityGraph.nodes := by
        intro candidate hcandidate
        rcases List.mem_append.1 hcandidate with hkey | hnode
        · exact .inl (AList.lookup_isSome.2 hkey)
        · exact .inr hnode
      obtain ⟨havoids, hsame⟩ := avoids_syncAll hvg hcandidates
      refine havoids.bind fun synced hsynced ↦ ?_
      obtain ⟨result, self', context'⟩ := synced
      cases result with
      | error e => exact avoids_ok _
      | ok isolated =>
        refine Run.Avoids.bind ?_ fun _ _ ↦ avoids_ok _
        split
        · obtain ⟨retained, hretained⟩ := exists_retainVicinity (hsame _ _ _ hsynced ▸ hvg)
          rw [hretained]
          exact avoids_ok _
        · exact avoids_ok _
  · exact avoids_panic (by decide)

end Sync

/-! ## Runs -/

/-- What is done to an entry of the graph. -/
inductive EntryOp where
  | updateObservedSsn (ssn : SafeStateSeqNr)
  | updateSyncedSsn (ssn : SafeStateSeqNr)
  | updateLastSeen (now : Instant)
  | forgetVicinity

/-- Changes an entry. -/
def EntryOp.apply (entry : Entry) : EntryOp → Run Entry
  | .updateObservedSsn ssn => return entry.updateObservedSsn ssn
  | .updateSyncedSsn ssn => return entry.updateSyncedSsn ssn
  | .updateLastSeen now => entry.updateLastSeen now
  | .forgetVicinity => return entry.forgetVicinity

omit [Petgraph NodeId] in
theorem EntryOp.ordered {op : EntryOp} {entry entry' : Entry} (h : op.apply entry = .ok entry')
    (hentry : entry.Ordered) : entry'.Ordered := by
  cases op with
  | updateObservedSsn ssn =>
    cases h
    exact hentry.updateObservedSsn ssn
  | updateSyncedSsn ssn =>
    cases h
    exact Entry.ordered_updateSyncedSsn ssn
  | updateLastSeen now => exact hentry.updateLastSeen h
  | forgetVicinity =>
    cases h
    exact Entry.ordered_forgetVicinity

/-- What happens to a vicinity graph. -/
inductive GraphOp (T : Type) where
  | insert (node discoveredVia : NodeId) (observedSsn : SafeStateSeqNr)
  | remove (node : NodeId)
  | entry (node : NodeId) (op : EntryOp)
  | removeEdge (nodeA nodeB : NodeId)
  | retainVicinity
  | vicinityProcessed
  /-- A message is processed, whatever the discovery is about. -/
  | message (discovery : VicinityDiscovery) (draws : VDDraws) (message : ProtocolMessage)
      (underlaySource : UnderlayNeighborId)
  | other (context : UseCaseContext T)

def withGraph (context : VicinityContext T) (vg : PetVicinityGraph) : VicinityContext T :=
  { context with vicinityGraph := vg }

/-- An operation changes the graph. -/
def graphStep (debug : Bool) (context : VicinityContext T) : GraphOp T → Run (VicinityContext T)
  | .insert node discoveredVia observedSsn =>
    match context.vicinityGraph.insert node discoveredVia observedSsn with
    | .ok (_, vg) => return withGraph context vg
    | .error _ => return context
  | .remove node => do
    let (_, context) ← context.vicinityRemove node
    return context
  | .entry node op =>
    match context.vicinityGraph.entry node with
    | some entry => do
      let entry ← op.apply entry
      return withGraph context (context.vicinityGraph.withEntry node entry)
    | none => return context
  | .removeEdge nodeA nodeB =>
    return withGraph context (context.vicinityGraph.removeEdge nodeA nodeB).2
  | .retainVicinity => context.retainVicinity
  | .vicinityProcessed => return withGraph context context.vicinityGraph.vicinityProcessed
  | .message discovery draws message underlaySource => do
    let (_, _, context) ←
      discovery.handleProtocolMessage debug draws context message underlaySource
    return context
  | .other other => return { context with toUseCaseContext := other }

/-- The root is not removed, messages are reports of other nodes, and the node keeps its id. -/
def Sound (context : VicinityContext T) : GraphOp T → Prop
  | .remove node => node ≠ context.rootId
  | .message _ _ message _ =>
    ∃ report, reportOf message = some report ∧ report.source ≠ context.rootId
  | .other other => other.rootId = context.rootId
  | _ => True

/-- A node that knows nothing of its vicinity. -/
def aloneWith (base : UseCaseContext T) : VicinityContext T :=
  { toUseCaseContext := base, vicinityGraph := .new base.rootId }

theorem kept_aloneWith (base : UseCaseContext T) : Kept base.rootId (aloneWith base) :=
  ⟨PetVicinityGraph.consistent_new _, rfl, rfl⟩

theorem Kept.withGraph (hkept : Kept rootId context) (hvg : vg.Consistent)
    (hroot : vg.rootId = context.vicinityGraph.rootId) : Kept rootId (withGraph context vg) :=
  ⟨hvg, hroot.trans hkept.graphRoot, hkept.root⟩

theorem Kept.step {debug : Bool} {op : GraphOp T} (hkept : Kept rootId context)
    (hop : Sound context op) (h : graphStep debug context op = .ok context') :
    Kept rootId context' := by
  cases op with
  | insert node via ssn =>
    simp only [graphStep] at h
    split at h
    · rename_i newEdge vg hinsert
      cases h
      refine hkept.withGraph (hkept.graph.insert hinsert) ?_
      obtain ⟨-, -, -, rfl⟩ := PetVicinityGraph.insert_eq_ok hinsert
      rfl
    · cases h
      exact hkept
  | remove node =>
    obtain ⟨⟨removed, left⟩, hremoved, h⟩ := of_bind h
    cases h
    obtain ⟨hremove, hsame⟩ := VicinityContext.vicinityRemove_eq_ok hremoved
    have hnode : node ≠ context.vicinityGraph.rootId := by
      rw [hkept.graphRoot, ← hkept.root]
      exact hop
    refine ⟨hkept.graph.remove hnode hremove, ?_, ?_⟩
    · obtain ⟨-, heq⟩ := PetVicinityGraph.remove_eq_ok hremove
      rw [heq]
      exact hkept.graphRoot
    · rw [← hkept.root, UseCaseContext.rootId, hsame.routingTable]
      rfl
  | entry node op =>
    simp only [graphStep] at h
    split at h
    · rename_i entry hentry
      obtain ⟨entry', hentry', h⟩ := of_bind h
      cases h
      have hsome : (context.vicinityGraph.entry node).isSome := by rw [hentry]; rfl
      have hordered := EntryOp.ordered hentry' (hkept.graph.ordered hentry)
      exact hkept.withGraph (hkept.graph.withEntry hsome hordered) rfl
    · cases h
      exact hkept
  | removeEdge a b =>
    cases h
    exact hkept.withGraph (hkept.graph.removeEdge a b) rfl
  | retainVicinity => exact (hkept.retained h).1
  | vicinityProcessed =>
    cases h
    exact hkept.withGraph hkept.graph.vicinityProcessed rfl
  | message discovery draws message ulnid =>
    obtain ⟨report, hreport, -⟩ := hop
    obtain ⟨⟨result, self', handled⟩, hhandled, h⟩ := of_bind h
    cases h
    exact (hkept.message hreport hhandled).1
  | other other =>
    cases h
    exact ⟨hkept.graph, hkept.graphRoot, hop.trans hkept.root⟩

/-- **The vicinity graph is what the neighbours have reported.**  In every state of the graph, its
entries are those of its nodes without the root and their numbers are in order.  After a report with
a sequence number the links of its sender are those that were reported.  Reducing the graph to the
vicinity keeps what is at a distance less than three, at the same distance.  And the checks that are
made when the vicinity is brought up to date do not fail. -/
theorem graph_as_reported {debug : Bool} {base : UseCaseContext T} {context : VicinityContext T}
    (hs : Reachable (graphStep debug) Sound (aloneWith base) context) :
    (∀ node, (context.vicinityGraph.entry node).isSome ↔
      node ∈ context.vicinityGraph.graph.nodes ∧ node ≠ context.rootId) ∧
    (∀ node entry ssn, context.vicinityGraph.entry node = some entry →
      entry.syncedSsn = some ssn → ssn.val ≤ entry.observedSsn.val) ∧
    (∀ draws (discovery : VicinityDiscovery) message report ulnid ssn result discovery' context',
      reportOf message = some report → report.source ≠ context.rootId →
      report.commonHeader.stateSeqNum = .value ssn →
      discovery.handleProtocolMessage debug draws context message ulnid =
        .ok (result, discovery', context') →
      ∀ node, node ∈ context'.vicinityGraph.vicinity report.source ↔
        node = context.rootId ∨ node ∈ reported context.rootId report.data.contacts) ∧
    (∃ removed vg, context.vicinityGraph.retainVicinity = .ok (removed, vg) ∧
      (∀ node, node ∈ vg.graph.nodes ↔ node ∈ context.vicinityGraph.graph.nodes ∧
        ∃ n < 3, context.vicinityGraph.graph.distance context.rootId node = some n) ∧
      ∀ node ∈ vg.graph.nodes, vg.graph.distance context.rootId node =
        context.vicinityGraph.graph.distance context.rootId node) ∧
    ∀ draws (discovery : VicinityDiscovery), ∀ msg ∈ SYNC_PANICS,
      discovery.scheduleSyncs debug draws context ≠ .panic msg := by
  have hkept : Kept base.rootId context :=
    hs.invariant (kept_aloneWith base) fun _ _ _ hkept hop h ↦ hkept.step hop h
  obtain ⟨hgraph, hgraphRoot, hroot⟩ := hkept
  rw [← hroot] at hgraphRoot
  refine ⟨fun node ↦ hgraphRoot ▸ hgraph.isSome_entry_iff, fun node entry ssn hentry hssn ↦ ?_, ?_,
    ?_, fun draws discovery ↦ avoids_scheduleSyncs hgraph⟩
  · exact hgraph.ordered hentry ssn hssn
  · intro draws discovery message report ulnid ssn result discovery' context' hreport _ hssn h
    exact (Kept.message ⟨hgraph, hgraphRoot, rfl⟩ hreport h).2 ssn hssn
  · obtain ⟨removed, vg, hretain, -, -, hnodes, hdistance, -⟩ := hgraph.retainVicinity
    refine ⟨removed, vg, hretain, fun node ↦ ?_, fun node hnode ↦ ?_⟩
    · rw [hnodes, PetVicinityGraph.Near, hgraphRoot]
      rfl
    · rw [← hgraphRoot]
      exact hdistance node ((hnodes node).1 hnode).2

end VicinityDiscovery

/-! ### The report of one node -/

namespace VicinityDiscovery

/-- The node 0 has the neighbour 1, and nothing is known of its vicinity. -/
def nodeZero : UseCaseContext (UnlimitedULNRoutingTable 20 1) where
  routingTable := R2Kad.nodeZero
  ulnTable := (InMemoryULNTable.new.insert 1 ⟨1, 1⟩).2
  runtime := .withStartupTime 0
  eventQueue := []
  outputQueue := []

/-- The node 1 reports the neighbours 0 and 2. -/
def reportOfOne : ProtocolMessage :=
  .ulnDiscRsp
    { commonHeader := .new .ulnDiscRsp 1 0 0 (.ofNat 5) 2
      data := ⟨[.new 0 (.via 0 []) .MIN,
        .new 0 (.via 2 []) .MIN]⟩ }

/-- After the report the graph has two nodes besides the root. -/
theorem graph_as_reported_by_one : ∃ context, graphStep true (aloneWith nodeZero)
      (.message ⟨.initialized, .default⟩ noDraws reportOfOne ⟨1, 1⟩) = .ok context ∧
    (context.vicinityGraph.entry 2).isSome ∧ ∃ removed vg,
      context.vicinityGraph.retainVicinity = .ok (removed, vg) ∧ 2 ∈ vg.graph.nodes := by
  refine exists_ok (p := fun context ↦ 2 ∈ context.vicinityGraph.graph.nodes ∧
    context.rootId = 0 ∧ context.vicinityGraph.graph.distance 0 2 = some 2)
    ⟨_, rfl, by decide, rfl, by decide⟩ ?_
  rintro context hcontext ⟨hnodes, hroot, hdistance⟩
  have hreached : Reachable (graphStep true) Sound (aloneWith nodeZero) context := by
    refine .step .start ?_ hcontext
    exact ⟨_, rfl, by decide⟩
  obtain ⟨hentry, -, -, ⟨removed, vg, hretain, hkept, -⟩, -⟩ := graph_as_reported hreached
  rw [hroot] at hentry hkept
  exact ⟨(hentry 2).2 ⟨hnodes, by decide⟩, removed, vg, hretain,
    (hkept 2).2 ⟨hnodes, 2, by decide, hdistance⟩⟩

end VicinityDiscovery

end Kira
