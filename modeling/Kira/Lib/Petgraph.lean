import Mathlib.Combinatorics.SimpleGraph.Metric
import Mathlib.Combinatorics.SimpleGraph.Paths

/-!
# A library of graphs

A program that keeps an undirected graph in memory takes the graph from a library.  `Petgraph` is
what such a library offers: a type of graphs, the operations on them, and what the documentation
says that these do.  A graph has at most one edge between two nodes, and an edge may lead from a
node to itself.  Nothing is said about the order of nodes, neighbours and paths.

What is verified holds for every library that keeps its word; `Kira.Lib.FinGraph` is one.

`SimpleGraph.edist_eq_of_keeps` is about taking away what is far from a node: the distances of what
is near stay as they are.
-/

set_option autoImplicit false

universe u

namespace SimpleGraph

variable {V : Type u} {G G' : SimpleGraph V} {root : V} {r : ℕ∞}

/-- If the edges between nodes near the root are kept then so are the walks that are short. -/
theorem edist_le_of_keeps
    (hkeep : ∀ a b, G.Adj a b → G.edist a root < r → G.edist b root < r → G'.Adj a b) {v : V}
    (walk : G.Walk v root) (hlength : walk.length < r) : G'.edist v root ≤ walk.length := by
  induction walk with
  | nil => simp
  | @cons v next root hadj walk ih =>
    rw [Walk.length_cons, Nat.cast_add, Nat.cast_one] at hlength ⊢
    have hshorter : (walk.length : ℕ∞) < r := lt_of_le_of_lt le_self_add hlength
    have hv : G.edist v root < r := by
      refine lt_of_le_of_lt (edist_le (walk.cons hadj)) ?_
      rwa [Walk.length_cons, Nat.cast_add, Nat.cast_one]
    have hadj' := hkeep v next hadj hv (lt_of_le_of_lt (edist_le walk) hshorter)
    calc G'.edist v root ≤ G'.edist v next + G'.edist next root := SimpleGraph.edist_triangle
      _ ≤ 1 + walk.length :=
          add_le_add (edist_eq_one_iff_adj.2 hadj').le (ih hkeep hshorter)
      _ = walk.length + 1 := add_comm _ _

/-- **Taking away what is far.**  If the edges between nodes near the root are kept then the
distances of these nodes stay as they are. -/
theorem edist_eq_of_keeps (hle : G' ≤ G)
    (hkeep : ∀ a b, G.Adj a b → G.edist a root < r → G.edist b root < r → G'.Adj a b) {v : V}
    (hv : G.edist v root < r) : G'.edist v root = G.edist v root := by
  refine le_antisymm ?_ (edist_anti hle)
  obtain ⟨walk, hwalk⟩ :=
    (reachable_of_edist_ne_top (ne_top_of_lt hv)).exists_walk_length_eq_edist
  rw [← hwalk] at hv ⊢
  exact edist_le_of_keeps hkeep walk hv

end SimpleGraph

namespace Kira

/-- A graph library, with the documented meaning of its operations. -/
class Petgraph (V : Type) where
  UnGraphMap : Type
  new : UnGraphMap
  nodes : UnGraphMap → List V
  containsNode : UnGraphMap → V → Bool
  containsEdge : UnGraphMap → V → V → Bool
  neighbors : UnGraphMap → V → List V
  addNode : UnGraphMap → V → UnGraphMap
  /-- Adds an edge, and its ends if they are missing; also returns whether the edge is new. -/
  addEdge : UnGraphMap → V → V → Bool × UnGraphMap
  /-- Removes a node with its edges; also returns whether it was there. -/
  removeNode : UnGraphMap → V → Bool × UnGraphMap
  removeEdge : UnGraphMap → V → V → Bool × UnGraphMap
  /-- The length of a shortest walk from the first node to the second one. -/
  distance : UnGraphMap → V → V → Option Nat
  /-- A shortest walk, with both ends. -/
  shortestPath : UnGraphMap → V → V → Option (List V)
  /-- The paths from one node to another one with at most so many nodes in between. -/
  allSimplePaths : UnGraphMap → V → V → Nat → List (List V)
  nodup_nodes (g : UnGraphMap) : (nodes g).Nodup
  containsNode_iff {g : UnGraphMap} {v : V} : containsNode g v ↔ v ∈ nodes g
  containsEdge_comm (g : UnGraphMap) (a b : V) : containsEdge g a b = containsEdge g b a
  /-- The ends of an edge are nodes. -/
  mem_nodes_of_containsEdge {g : UnGraphMap} {a b : V} :
    containsEdge g a b → a ∈ nodes g ∧ b ∈ nodes g
  mem_neighbors {g : UnGraphMap} {v w : V} : w ∈ neighbors g v ↔ containsEdge g v w
  nodes_new : nodes new = []
  mem_nodes_addNode {g : UnGraphMap} {v w : V} : w ∈ nodes (addNode g v) ↔ w ∈ nodes g ∨ w = v
  addEdge_fst {g : UnGraphMap} {a b : V} : (addEdge g a b).1 = !containsEdge g a b
  mem_nodes_addEdge {g : UnGraphMap} {a b w : V} :
    w ∈ nodes (addEdge g a b).2 ↔ w ∈ nodes g ∨ w = a ∨ w = b
  containsEdge_addEdge {g : UnGraphMap} {a b v w : V} :
    containsEdge (addEdge g a b).2 v w ↔ containsEdge g v w ∨ s(v, w) = s(a, b)
  removeNode_fst {g : UnGraphMap} {v : V} : (removeNode g v).1 = containsNode g v
  mem_nodes_removeNode {g : UnGraphMap} {v w : V} :
    w ∈ nodes (removeNode g v).2 ↔ w ∈ nodes g ∧ w ≠ v
  containsEdge_removeNode {g : UnGraphMap} {v a b : V} :
    containsEdge (removeNode g v).2 a b ↔ containsEdge g a b ∧ a ≠ v ∧ b ≠ v
  mem_nodes_removeEdge {g : UnGraphMap} {a b v : V} :
    v ∈ nodes (removeEdge g a b).2 ↔ v ∈ nodes g
  containsEdge_removeEdge {g : UnGraphMap} {a b v w : V} :
    containsEdge (removeEdge g a b).2 v w ↔ containsEdge g v w ∧ s(v, w) ≠ s(a, b)
  /-- Distances are those that Mathlib defines for the graph without its loops. -/
  distance_eq_some {g : UnGraphMap} {root v : V} {n : Nat} : distance g root v = some n ↔
    (SimpleGraph.fromRel fun a b ↦ containsEdge g a b = true).edist v root = n
  /-- The paths have both ends, join each node with the next one and have none twice. -/
  mem_allSimplePaths {g : UnGraphMap} {source target : V} {n : Nat} {path : List V} :
    target ≠ source → (path ∈ allSimplePaths g source target n ↔
      path.head? = some source ∧ path.getLast? = some target ∧
        path.IsChain (containsEdge g · ·) ∧ path.Nodup ∧ path.length ≤ n + 2)

namespace Petgraph

namespace UnGraphMap

export Petgraph (nodes containsNode containsEdge neighbors addNode addEdge removeNode removeEdge
  distance shortestPath allSimplePaths)

variable {V : Type} [Petgraph V]

/-- The graph without its loops. -/
def toSimple (self : UnGraphMap V) : SimpleGraph V :=
  .fromRel fun a b ↦ self.containsEdge a b = true

/-- Each node of the list is joined with the next one. -/
def Joined (self : UnGraphMap V) (path : List V) : Prop := path.IsChain (self.containsEdge · ·)

end UnGraphMap

variable {V : Type} [Petgraph V] {g other : UnGraphMap V} {root v a b : V}

theorem toSimple_adj : g.toSimple.Adj a b ↔ g.containsEdge a b ∧ a ≠ b := by
  rw [UnGraphMap.toSimple, SimpleGraph.fromRel_adj, containsEdge_comm g b a, or_self, and_comm]

theorem edist_le_one_of_containsEdge (h : g.containsEdge a b) : g.toSimple.edist a b ≤ 1 := by
  by_cases heq : a = b
  · rw [heq, SimpleGraph.edist_self]
    exact zero_le
  · exact (SimpleGraph.edist_eq_one_iff_adj.2 (toSimple_adj.2 ⟨h, heq⟩)).le

theorem distance_congr (h : g.toSimple.edist v root = other.toSimple.edist v root) :
    g.distance root v = other.distance root v := by
  ext n
  rw [distance_eq_some, distance_eq_some]
  exact h ▸ Iff.rfl

theorem UnGraphMap.Joined.mem_nodes {path : List V} (h : g.Joined (v :: path)) :
    ∀ w ∈ path, w ∈ g.nodes := by
  induction path generalizing v with
  | nil => exact fun w hw ↦ by cases hw
  | cons next rest ih =>
    obtain ⟨hedge, hrest⟩ := List.isChain_cons_cons.1 h
    exact List.forall_mem_cons.2 ⟨(mem_nodes_of_containsEdge hedge).2, ih hrest⟩

end Petgraph

end Kira
