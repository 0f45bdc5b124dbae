import Kira.Lib.Petgraph
import Kira.Runtime

/-!
# The vicinity graph

What a node knows about the links near itself.  The nodes of the graph are this node, the *root*,
and the nodes that were reported as neighbours of a node of the graph.  Of each node but the root
there is an `Entry` with two state sequence numbers: the largest one that was seen, and the one that
belonged to the neighbours of this node when they were asked for last.

`ObservableVicinityGraph` wraps a graph and tells observers which nodes have been removed.

The graph itself is one of a graph library, of which only what it documents is assumed.
-/

set_option autoImplicit false

namespace Kira

open Run

/-- The nodes at less than this distance are in the vicinity. -/
def VICINITY_RADIUS : Nat := 3

namespace VicinityGraph

/-! ## Entries -/

structure Entry where
  lastSeen : Option Instant
  /-- The number up to which the links of the node are known. -/
  syncedSsn : Option SafeStateSeqNr
  observedSsn : SafeStateSeqNr
  deriving DecidableEq

namespace Entry

def new (observedSsn : SafeStateSeqNr) : Entry := ⟨none, none, observedSsn⟩

def updateObservedSsn (observedSsn : SafeStateSeqNr) (self : Entry) : Entry :=
  if self.observedSsn.val < observedSsn.val then { self with observedSsn } else self

def updateSyncedSsn (syncedSsn : SafeStateSeqNr) (self : Entry) : Entry :=
  let self := { self with syncedSsn := some syncedSsn }
  if self.observedSsn.val < syncedSsn.val then { self with observedSsn := syncedSsn } else self

def updateLastSeen (now : Instant) (self : Entry) : Run Entry := do
  assert (self.lastSeen.all (· ≤ now)) "last seen can't move backwards in time"
  return { self with lastSeen := some now }

def forgetVicinity (self : Entry) : Entry := { self with syncedSsn := none }

end Entry

end VicinityGraph

/-! ## Graphs -/

open VicinityGraph (Entry)

open Petgraph (UnGraphMap)

inductive PetVicinityGraphError where
  | neighborNotInVicinityGraph (node neighbor : NodeId)
  | root
  deriving DecidableEq

variable [Petgraph NodeId]

/-- A graph with an entry for each node but the root. -/
structure PetVicinityGraph where
  rootId : NodeId
  graph : UnGraphMap NodeId
  entries : KeyMap NodeId Entry
  /-- Whether a node or a link has come or gone since this was last asked for. -/
  graphChanged : Bool

namespace PetVicinityGraph

def new (rootId : NodeId) : PetVicinityGraph := ⟨rootId, Petgraph.new.addNode rootId, ∅, false⟩

/-- A node may only be inserted as the neighbour of a node that is there. -/
def validNeighbor (self : PetVicinityGraph) (node neighbor : NodeId) :
    Except PetVicinityGraphError Unit :=
  if neighbor = self.rootId ∨ (self.entries.lookup neighbor).isSome then .ok ()
  else .error (.neighborNotInVicinityGraph node neighbor)

/-- The nodes in between on a path in the vicinity. -/
def MAX_INTERMEDIATE_NODES : Nat := VICINITY_RADIUS - 2

/-- The entry of a node after this number was seen. -/
def observed (self : PetVicinityGraph) (node : NodeId) (observedSsn : SafeStateSeqNr) : Entry :=
  match self.entries.lookup node with
  | some entry => entry.updateObservedSsn observedSsn
  | none => .new observedSsn

/-- Inserts a node with a link to a node that is there; also returns whether the link is new. -/
def insert (self : PetVicinityGraph) (node discoveredVia : NodeId) (observedSsn : SafeStateSeqNr) :
    Except PetVicinityGraphError (Bool × PetVicinityGraph) :=
  if node = self.rootId then .error .root
  else do
    self.validNeighbor node discoveredVia
    let entries := self.entries.insert node (self.observed node observedSsn)
    let (newEdge, graph) := self.graph.addEdge node discoveredVia
    return (newEdge, { self with entries, graph, graphChanged := self.graphChanged || newEdge })

def remove (self : PetVicinityGraph) (node : NodeId) : Run (Bool × PetVicinityGraph) := do
  let entryRemoved := (self.entries.lookup node).isSome
  let (graphRemoved, graph) := self.graph.removeNode node
  assert (!entryRemoved || graphRemoved) "vicinity node entry not in the vicinity graph"
  let removed := entryRemoved || graphRemoved
  return (removed, { self with
    entries := self.entries.erase node
    graph
    graphChanged := self.graphChanged || removed })

def entry (self : PetVicinityGraph) (node : NodeId) : Option Entry := self.entries.lookup node

def withEntry (self : PetVicinityGraph) (node : NodeId) (entry : Entry) : PetVicinityGraph :=
  { self with entries := self.entries.insert node entry }

def entryMut (self : PetVicinityGraph) (node : NodeId) (f : Entry → Entry) : PetVicinityGraph :=
  match self.entry node with
  | some entry => self.withEntry node (f entry)
  | none => self

def vicinity (self : PetVicinityGraph) (node : NodeId) : List NodeId := self.graph.neighbors node

def isDirectUln (self : PetVicinityGraph) (node : NodeId) : Bool :=
  self.graph.containsEdge self.rootId node

def removeEdge (self : PetVicinityGraph) (nodeA nodeB : NodeId) : Bool × PetVicinityGraph :=
  let (removed, graph) := self.graph.removeEdge nodeA nodeB
  (removed, { self with graph, graphChanged := self.graphChanged || removed })

def nodes (self : PetVicinityGraph) : List NodeId := self.graph.nodes.filter (· ≠ self.rootId)

/-- Whether a node is not in the vicinity, or not connected with the root at all. -/
def outside (self : PetVicinityGraph) (node : NodeId) : Bool :=
  (self.graph.distance self.rootId node).all (VICINITY_RADIUS ≤ ·)

def removeAll (self : PetVicinityGraph) : List NodeId → Run PetVicinityGraph
  | [] => return self
  | node :: nodes => do
    let (removed, self) ← self.remove node
    assert removed "Removing a vicinity node should mark it changed"
    self.removeAll nodes

/-- Removes what is not in the vicinity; also returns which nodes these are.  The distances are
those before the first node is removed. -/
def retainVicinity (self : PetVicinityGraph) : Run (List NodeId × PetVicinityGraph) := do
  let removed := self.nodes.filter self.outside
  let self ← self.removeAll removed
  return (removed, self)

/-- The paths from the root to a node, with the root. -/
def vicinityPathsTo (self : PetVicinityGraph) (destination : NodeId) : List Path :=
  (self.graph.allSimplePaths self.rootId destination MAX_INTERMEDIATE_NODES).filterMap Path.collect

def vicinityPaths (self : PetVicinityGraph) : List Path := self.nodes.flatMap self.vicinityPathsTo

/-- A shortest path to a node, if it is in the vicinity. -/
def vicinityPathTo (self : PetVicinityGraph) (destination : NodeId) : Option Path := do
  let path ← self.graph.shortestPath self.rootId destination
  if VICINITY_RADIUS < path.length then none else Path.collect path

def vicinityChanged (self : PetVicinityGraph) : Bool := self.graphChanged

def vicinityProcessed (self : PetVicinityGraph) : PetVicinityGraph :=
  { self with graphChanged := false }

/-! ## What the operations do -/

variable {self self' : PetVicinityGraph}

theorem insert_eq_ok {node via : NodeId} {ssn : SafeStateSeqNr} {newEdge : Bool}
    (h : self.insert node via ssn = .ok (newEdge, self')) :
    node ≠ self.rootId ∧ (via = self.rootId ∨ (self.entries.lookup via).isSome) ∧
      newEdge = !self.graph.containsEdge node via ∧
      self' = { self with
        entries := self.entries.insert node (self.observed node ssn)
        graph := (self.graph.addEdge node via).2
        graphChanged := self.graphChanged || newEdge } := by
  unfold insert at h
  split at h
  · cases h
  · rename_i hroot
    unfold validNeighbor at h
    split at h
    · rename_i hvia
      obtain ⟨rfl, rfl⟩ := Prod.mk.inj (Except.ok.inj h)
      exact ⟨hroot, hvia, Petgraph.addEdge_fst, rfl⟩
    · cases h

theorem remove_eq_ok {node : NodeId} {removed : Bool}
    (h : self.remove node = .ok (removed, self')) :
    removed = ((self.entries.lookup node).isSome || self.graph.containsNode node) ∧
      self' = { self with
        entries := self.entries.erase node
        graph := (self.graph.removeNode node).2
        graphChanged := self.graphChanged || removed } := by
  unfold remove at h
  obtain ⟨_, _, h⟩ := of_bind h
  cases h
  exact ⟨congrArg _ Petgraph.removeNode_fst, rfl⟩

theorem mem_nodes {node : NodeId} :
    node ∈ self.nodes ↔ node ∈ self.graph.nodes ∧ node ≠ self.rootId := by
  simp [nodes]

/-- **The paths in the vicinity.**  They start with the root and have one or two links. -/
theorem mem_vicinityPaths {path : Path} :
    path ∈ self.vicinityPaths ↔ Path.collect path.ids = some path ∧
      path.ids.head? = some self.rootId ∧ self.graph.Joined path.ids ∧ path.ids.Nodup ∧
        2 ≤ path.ids.length ∧ path.ids.length ≤ VICINITY_RADIUS := by
  unfold vicinityPaths vicinityPathsTo
  simp only [List.mem_flatMap, List.mem_filterMap]
  constructor
  · rintro ⟨destination, hdestination, ids, hids, hcollect⟩
    obtain rfl := Path.collect_eq_some hcollect
    have hne := (mem_nodes.1 hdestination).2
    obtain ⟨hhead, hlast, hjoined, hnodup, hlength⟩ := (Petgraph.mem_allSimplePaths hne).1 hids
    refine ⟨hcollect, hhead, hjoined, hnodup, ?_, hlength⟩
    rcases hpath : path.ids with _ | ⟨first, _ | ⟨next, rest⟩⟩
    · rw [hpath] at hhead
      cases hhead
    · rw [hpath] at hhead hlast
      exact absurd (Option.some.inj (hlast.symm.trans hhead)) hne
    · simp
  · rintro ⟨hcollect, hhead, hjoined, hnodup, htwo, hlength⟩
    rcases hpath : path.ids with _ | ⟨first, _ | ⟨next, rest⟩⟩
    · simp [hpath] at htwo
    · simp [hpath] at htwo
    · rw [hpath] at hhead hjoined hnodup hlength hcollect
      cases hhead
      have hlast := List.getLast?_eq_some_getLast (List.cons_ne_nil next rest)
      have hmem := List.getLast_mem (List.cons_ne_nil next rest)
      have hne : (next :: rest).getLast (List.cons_ne_nil next rest) ≠ self.rootId :=
        fun heq ↦ (List.nodup_cons.1 hnodup).1 (heq ▸ hmem)
      refine ⟨_, mem_nodes.2 ⟨hjoined.mem_nodes _ hmem, hne⟩, _,
        (Petgraph.mem_allSimplePaths hne).2 ⟨rfl, ?_, hjoined, hnodup, hlength⟩, hcollect⟩
      rw [List.getLast?_cons_cons, hlast]

end PetVicinityGraph

/-! ## Observers -/

inductive VicinityGraphEvent where
  | removed (node : NodeId)
  deriving DecidableEq

/-- A graph, and what its observers have been told so far. -/
structure ObservableVicinityGraph where
  inner : PetVicinityGraph
  events : List VicinityGraphEvent

namespace ObservableVicinityGraph

def new (inner : PetVicinityGraph) : ObservableVicinityGraph := ⟨inner, []⟩

def emit (self : ObservableVicinityGraph) (event : VicinityGraphEvent) : ObservableVicinityGraph :=
  { self with events := self.events ++ [event] }

def remove (self : ObservableVicinityGraph) (node : NodeId) :
    Run (Bool × ObservableVicinityGraph) := do
  let (removed, inner) ← self.inner.remove node
  let self := { self with inner }
  return (removed, if removed then self.emit (.removed node) else self)

def retainVicinity (self : ObservableVicinityGraph) :
    Run (List NodeId × ObservableVicinityGraph) := do
  let (removed, inner) ← self.inner.retainVicinity
  return (removed, (removed.map .removed).foldl emit { self with inner })

end ObservableVicinityGraph

end Kira
