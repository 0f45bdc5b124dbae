import Kira.Domain.VicinityGraph

/-!
# The entries of a vicinity graph belong to its nodes

A vicinity graph keeps its links in one place and what it knows of its nodes in another one.
`Consistent` says that the two agree: there is an entry for each node but the root, and for no
other, and no number has been synchronised that is larger than the largest one seen.  All operations
keep this, as long as the root is not removed, and then none of their checks fails.

`Consistent.retainVicinity` says what is left of a graph after it was reduced to the vicinity.  The
distances that decide about a node are those before the first node is removed; since a shortest path
to a node near the root leads over nodes that are nearer, they are the distances afterwards as well.
-/

set_option autoImplicit false

namespace Kira

namespace VicinityGraph.Entry

/-- What has been synchronised has been seen. -/
def Ordered (self : Entry) : Prop :=
  ∀ syncedSsn ∈ self.syncedSsn, syncedSsn.val ≤ self.observedSsn.val

variable {self self' : Entry}

theorem ordered_new (observedSsn : SafeStateSeqNr) : (new observedSsn).Ordered :=
  fun _ h ↦ by cases h

theorem Ordered.updateObservedSsn (h : self.Ordered) (observedSsn : SafeStateSeqNr) :
    (self.updateObservedSsn observedSsn).Ordered := by
  unfold Entry.updateObservedSsn
  split
  · rename_i hlt
    exact fun syncedSsn hsynced ↦ (h syncedSsn hsynced).trans hlt.le
  · exact h

theorem ordered_updateSyncedSsn (syncedSsn : SafeStateSeqNr) :
    (self.updateSyncedSsn syncedSsn).Ordered := by
  unfold Entry.updateSyncedSsn
  dsimp only
  split
  · rintro _ ⟨⟩
    exact le_rfl
  · rename_i hle
    rintro _ ⟨⟩
    exact Nat.le_of_not_lt hle

theorem Ordered.updateLastSeen (h : self.Ordered) {now : Instant}
    (hself' : self.updateLastSeen now = .ok self') : self'.Ordered := by
  obtain ⟨-, -, hself'⟩ := Run.of_bind hself'
  cases hself'
  exact h

theorem ordered_forgetVicinity : self.forgetVicinity.Ordered :=
  fun _ h ↦ by cases h

theorem Ordered.all_le (h : self.Ordered) :
    (self.syncedSsn.all fun syncedSsn ↦ syncedSsn.val ≤ self.observedSsn.val) = true :=
  (Option.all_eq_true_iff_get _ _).2 fun hsome ↦ decide_eq_true (h _ (Option.get_mem hsome))

theorem Ordered.all_lt (h : self.Ordered) (hne : self.syncedSsn ≠ some self.observedSsn) :
    (self.syncedSsn.all fun syncedSsn ↦ syncedSsn.val < self.observedSsn.val) = true := by
  refine (Option.all_eq_true_iff_get _ _).2 fun hsome ↦ decide_eq_true ?_
  refine lt_of_le_of_ne (h _ (Option.get_mem hsome)) fun heq ↦ hne ?_
  rw [← Option.some_get hsome]
  exact congrArg some (SafeStateSeqNr.eq_of_val heq)

end VicinityGraph.Entry

namespace PetVicinityGraph

open VicinityGraph (Entry)

variable [Petgraph NodeId]

/-- There is an entry for each node but the root, and what has been synchronised has been seen. -/
structure Consistent (vg : PetVicinityGraph) : Prop where
  root_mem : vg.rootId ∈ vg.graph.nodes
  isSome_entry_iff {node : NodeId} :
    (vg.entry node).isSome ↔ node ∈ vg.graph.nodes ∧ node ≠ vg.rootId
  ordered {node : NodeId} {entry : Entry} : vg.entry node = some entry → entry.Ordered

variable {self self' : PetVicinityGraph}

theorem consistent_new (rootId : NodeId) : (new rootId).Consistent where
  root_mem := Petgraph.mem_nodes_addNode.2 (.inr rfl)
  isSome_entry_iff := by
    intro node
    simp only [new, entry, Petgraph.mem_nodes_addNode, Petgraph.nodes_new, AList.lookup_empty]
    simp
  ordered h := by simp [new, entry] at h

namespace Consistent

theorem ordered_observed (hself : self.Consistent) (node : NodeId) (ssn : SafeStateSeqNr) :
    (self.observed node ssn).Ordered := by
  unfold observed
  split
  · rename_i entry hentry
    exact (hself.ordered hentry).updateObservedSsn ssn
  · exact Entry.ordered_new ssn

theorem via_mem (hself : self.Consistent) {via : NodeId}
    (hvia : via = self.rootId ∨ (self.entries.lookup via).isSome) : via ∈ self.graph.nodes := by
  rcases hvia with rfl | hvia
  · exact hself.root_mem
  · exact (hself.isSome_entry_iff.1 hvia).1

variable {node : NodeId}

theorem insert (hself : self.Consistent) {via : NodeId} {ssn : SafeStateSeqNr} {newEdge : Bool}
    (h : self.insert node via ssn = .ok (newEdge, self')) : self'.Consistent := by
  obtain ⟨hnode, hvia, -, rfl⟩ := insert_eq_ok h
  have hvia := hself.via_mem hvia
  refine ⟨Petgraph.mem_nodes_addEdge.2 (.inl hself.root_mem), ?_, ?_⟩
  · intro other
    simp only [entry, KeyMap.lookup_insert_eq, Petgraph.mem_nodes_addEdge]
    by_cases hother : other = node
    · simp [hother, hnode]
    · rw [if_neg hother]
      refine hself.isSome_entry_iff.trans (and_congr_left fun _ ↦ ⟨.inl, ?_⟩)
      rintro (hmem | rfl | rfl)
      · exact hmem
      · exact absurd rfl hother
      · exact hvia
  · intro other otherEntry hentry
    simp only [entry, KeyMap.lookup_insert_eq] at hentry
    split at hentry
    · cases hentry
      exact hself.ordered_observed node ssn
    · exact hself.ordered hentry

theorem withEntry (hself : self.Consistent) {entry : Entry}
    (hnode : (self.entry node).isSome) (hentry : entry.Ordered) :
    (self.withEntry node entry).Consistent := by
  refine ⟨hself.root_mem, ?_, ?_⟩
  · intro other
    simp only [PetVicinityGraph.withEntry, PetVicinityGraph.entry, KeyMap.lookup_insert_eq]
    split
    · rename_i hother
      subst hother
      exact iff_of_true rfl (hself.isSome_entry_iff.1 hnode)
    · exact hself.isSome_entry_iff
  · intro other otherEntry hother
    simp only [PetVicinityGraph.withEntry, PetVicinityGraph.entry,
      KeyMap.lookup_insert_eq] at hother
    split at hother
    · cases hother
      exact hentry
    · exact hself.ordered hother

theorem removeEdge (hself : self.Consistent) (a b : NodeId) :
    (self.removeEdge a b).2.Consistent where
  root_mem := Petgraph.mem_nodes_removeEdge.2 hself.root_mem
  isSome_entry_iff := hself.isSome_entry_iff.trans
    (and_congr_left fun _ ↦ Petgraph.mem_nodes_removeEdge.symm)
  ordered := hself.ordered

theorem vicinityProcessed (hself : self.Consistent) : self.vicinityProcessed.Consistent :=
  ⟨hself.root_mem, hself.isSome_entry_iff, hself.ordered⟩

theorem remove (hself : self.Consistent) (hnode : node ≠ self.rootId)
    {removed : Bool} (h : self.remove node = .ok (removed, self')) : self'.Consistent := by
  obtain ⟨-, rfl⟩ := remove_eq_ok h
  refine ⟨Petgraph.mem_nodes_removeNode.2 ⟨hself.root_mem, hnode.symm⟩, ?_, ?_⟩
  · intro other
    simp only [entry, KeyMap.lookup_erase_eq, Petgraph.mem_nodes_removeNode]
    by_cases hother : other = node
    · simp [hother]
    · rw [if_neg hother]
      exact hself.isSome_entry_iff.trans (and_congr_left fun _ ↦ (and_iff_left hother).symm)
  · intro other otherEntry hentry
    simp only [entry, KeyMap.lookup_erase_eq] at hentry
    split at hentry
    · cases hentry
    · exact hself.ordered hentry

theorem exists_remove (hnode : node ∈ self.graph.nodes) :
    ∃ self', self.remove node = .ok (true, self') := by
  have hgraph : (self.graph.removeNode node).1 = true := by
    rw [Petgraph.removeNode_fst, Petgraph.containsNode_iff.2 hnode]
  refine ⟨{ self with
    entries := self.entries.erase node
    graph := (self.graph.removeNode node).2
    graphChanged := self.graphChanged || true }, ?_⟩
  simp only [PetVicinityGraph.remove, hgraph, Bool.or_true]
  rfl

/-! ## Removing several nodes -/

/-- Removing nodes of the graph does not panic, and nothing else is removed but their links. -/
theorem removeAll (hself : self.Consistent) {nodes : List NodeId} (hnodup : nodes.Nodup)
    (hnodes : nodes ⊆ self.nodes) :
    ∃ self', self.removeAll nodes = .ok self' ∧ self'.Consistent ∧ self'.rootId = self.rootId ∧
      (∀ v, v ∈ self'.graph.nodes ↔ v ∈ self.graph.nodes ∧ v ∉ nodes) ∧
      ∀ a b, self'.graph.containsEdge a b ↔
        self.graph.containsEdge a b ∧ a ∉ nodes ∧ b ∉ nodes := by
  induction nodes generalizing self with
  | nil => exact ⟨self, rfl, hself, rfl, by simp, by simp⟩
  | cons node nodes ih =>
    obtain ⟨hfresh, hnodup⟩ := List.nodup_cons.1 hnodup
    obtain ⟨hnode, hnodes⟩ := List.cons_subset.1 hnodes
    obtain ⟨hnode, hroot⟩ := mem_nodes.1 hnode
    obtain ⟨mid, hmid⟩ := exists_remove hnode
    have hconsistent := hself.remove hroot hmid
    obtain ⟨-, rfl⟩ := remove_eq_ok hmid
    have hleft : nodes ⊆ PetVicinityGraph.nodes { self with
        entries := self.entries.erase node
        graph := (self.graph.removeNode node).2
        graphChanged := self.graphChanged || true } := by
      intro other hother
      obtain ⟨hmem, hne⟩ := mem_nodes.1 (hnodes hother)
      refine mem_nodes.2 ⟨Petgraph.mem_nodes_removeNode.2 ⟨hmem, ?_⟩, hne⟩
      rintro rfl
      exact hfresh hother
    obtain ⟨self', hself', hconsistent', hrootId, hmem, hedge⟩ := ih hconsistent hnodup hleft
    refine ⟨self', ?_, hconsistent', hrootId, fun v ↦ ?_, fun a b ↦ ?_⟩
    · rw [PetVicinityGraph.removeAll, hmid]
      exact hself'
    · rw [hmem, Petgraph.mem_nodes_removeNode, List.mem_cons, not_or, and_assoc]
    · rw [hedge, Petgraph.containsEdge_removeNode]
      simp only [List.mem_cons, not_or, ne_eq]
      tauto

end Consistent

/-! ## The vicinity -/

/-- The node is in the vicinity. -/
def Near (vg : PetVicinityGraph) (node : NodeId) : Prop :=
  ∃ n < VICINITY_RADIUS, vg.graph.distance vg.rootId node = some n

variable {node : NodeId}

theorem near_iff :
    self.Near node ↔ self.graph.toSimple.edist node self.rootId < VICINITY_RADIUS := by
  constructor
  · rintro ⟨n, hn, hdistance⟩
    rw [show self.graph.toSimple.edist node self.rootId = n from
      Petgraph.distance_eq_some.1 hdistance]
    exact Nat.cast_lt.2 hn
  · intro h
    obtain ⟨n, hn⟩ := ENat.ne_top_iff_exists.1 (ne_top_of_lt h)
    rw [← hn] at h
    exact ⟨n, Nat.cast_lt.1 h, Petgraph.distance_eq_some.2 hn.symm⟩

theorem outside_iff : self.outside node = true ↔ ¬ self.Near node := by
  unfold outside Near
  cases self.graph.distance self.rootId node with
  | none | some n => simp

theorem near_root : self.Near self.rootId := by
  rw [near_iff, SimpleGraph.edist_self]
  decide

theorem near_of_containsEdge (h : self.graph.containsEdge node self.rootId) :
    self.Near node := by
  refine near_iff.2 (lt_of_le_of_lt (Petgraph.edist_le_one_of_containsEdge h) ?_)
  decide

theorem near_of_containsEdge_containsEdge {other : NodeId}
    (hnode : self.graph.containsEdge node self.rootId)
    (hother : self.graph.containsEdge other node) :
    self.Near other := by
  refine near_iff.2 ?_
  calc self.graph.toSimple.edist other self.rootId
      ≤ self.graph.toSimple.edist other node + self.graph.toSimple.edist node self.rootId :=
        SimpleGraph.edist_triangle
    _ ≤ 1 + 1 := add_le_add (Petgraph.edist_le_one_of_containsEdge hother)
        (Petgraph.edist_le_one_of_containsEdge hnode)
    _ < VICINITY_RADIUS := by decide

/-- **What is left of a graph that is reduced to the vicinity.**  It is the nodes near the root with
all links between them, and their distances are the same as before. -/
theorem Consistent.retainVicinity (hself : self.Consistent) :
    ∃ removed self', self.retainVicinity = .ok (removed, self') ∧ self'.Consistent ∧
      self'.rootId = self.rootId ∧
      (∀ node, node ∈ self'.graph.nodes ↔ node ∈ self.graph.nodes ∧ self.Near node) ∧
      (∀ node, self.Near node →
        self'.graph.distance self.rootId node = self.graph.distance self.rootId node) ∧
      ∀ a b, self'.graph.containsEdge a b ↔
        self.graph.containsEdge a b ∧ self.Near a ∧ self.Near b := by
  have hsub : self.nodes.filter self.outside ⊆ self.nodes := List.filter_sublist.subset
  have hnodup : (self.nodes.filter self.outside).Nodup :=
    ((Petgraph.nodup_nodes _).filter _).filter _
  obtain ⟨self', hself', hconsistent, hrootId, hmem, hedge⟩ := hself.removeAll hnodup hsub
  -- the root is near, so no node is left out of consideration
  have hremoved : ∀ {node}, node ∈ self.graph.nodes →
      (node ∉ self.nodes.filter self.outside ↔ self.Near node) := by
    intro node hnode
    rw [List.mem_filter, PetVicinityGraph.mem_nodes, outside_iff]
    by_cases hroot : node = self.rootId
    · subst hroot
      simp [near_root]
    · simp [hnode, hroot]
  have hedge' : ∀ a b, self'.graph.containsEdge a b ↔
      self.graph.containsEdge a b ∧ self.Near a ∧ self.Near b := by
    intro a b
    rw [hedge]
    refine and_congr_right fun hab ↦ ?_
    obtain ⟨ha, hb⟩ := Petgraph.mem_nodes_of_containsEdge hab
    exact and_congr (hremoved ha) (hremoved hb)
  refine ⟨self.nodes.filter self.outside, self', ?_, hconsistent, hrootId, fun node ↦ ?_,
    fun node hnear ↦ ?_, hedge'⟩
  · rw [PetVicinityGraph.retainVicinity, hself']
    rfl
  · rw [hmem]
    exact and_congr_right hremoved
  · refine Petgraph.distance_congr (SimpleGraph.edist_eq_of_keeps ?_ ?_ (near_iff.1 hnear))
    · intro a b hadj
      obtain ⟨hab, hne⟩ := Petgraph.toSimple_adj.1 hadj
      exact Petgraph.toSimple_adj.2 ⟨((hedge' a b).1 hab).1, hne⟩
    · intro a b hadj ha hb
      obtain ⟨hab, hne⟩ := Petgraph.toSimple_adj.1 hadj
      exact Petgraph.toSimple_adj.2 ⟨(hedge' a b).2 ⟨hab, near_iff.2 ha, near_iff.2 hb⟩, hne⟩

end PetVicinityGraph

end Kira
