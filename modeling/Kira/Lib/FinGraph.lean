import Kira.Lib.Petgraph

/-!
# Finite graphs

A graph library to run examples with: a graph is a list of nodes and a list of edges.  Distances
and paths are found in the lists of all paths of one, two, three nodes and so on that end in a node,
`FinGraph.pathsTo`.
-/

set_option autoImplicit false

namespace Kira

/-- A graph by its edges and the nodes that have been added without one. -/
structure FinGraph (V : Type) where
  listed : List V
  edges : List (V × V)

namespace FinGraph

variable {V : Type} [DecidableEq V]

/-! ## Changes -/

def new : FinGraph V := ⟨[], []⟩

/-- The nodes that are listed and the ends of edges, each of them once. -/
def nodes (self : FinGraph V) : List V :=
  (self.listed ++ self.edges.flatMap fun edge ↦ [edge.1, edge.2]).dedup

def containsNode (self : FinGraph V) (v : V) : Bool := v ∈ self.nodes

def containsEdge (self : FinGraph V) (a b : V) : Bool := (a, b) ∈ self.edges ∨ (b, a) ∈ self.edges

def neighbors (self : FinGraph V) (v : V) : List V := self.nodes.filter (self.containsEdge v)

def addNode (self : FinGraph V) (v : V) : FinGraph V := { self with listed := v :: self.listed }

def addEdge (self : FinGraph V) (a b : V) : Bool × FinGraph V :=
  (!self.containsEdge a b, { self with edges := (a, b) :: self.edges })

-- A node that loses its last edge stays, so that it has to be listed.

def removeNode (self : FinGraph V) (v : V) : Bool × FinGraph V :=
  (self.containsNode v,
    { listed := self.nodes.filter (· ≠ v)
      edges := self.edges.filter fun edge ↦ edge.1 ≠ v ∧ edge.2 ≠ v })

def removeEdge (self : FinGraph V) (a b : V) : Bool × FinGraph V :=
  (self.containsEdge a b,
    { listed := self.nodes
      edges := self.edges.filter fun edge ↦ s(edge.1, edge.2) ≠ s(a, b) })

variable {self : FinGraph V} {v w root target : V} {n : Nat} {path : List V}

theorem mem_nodes :
    v ∈ self.nodes ↔ v ∈ self.listed ∨ ∃ edge ∈ self.edges, v = edge.1 ∨ v = edge.2 := by
  simp [nodes]

theorem containsEdge_iff :
    self.containsEdge v w ↔ ∃ edge ∈ self.edges, s(v, w) = s(edge.1, edge.2) := by
  simp only [containsEdge, decide_eq_true_eq, Sym2.eq_iff, Prod.exists]
  constructor
  · rintro (h | h)
    · exact ⟨v, w, h, .inl ⟨rfl, rfl⟩⟩
    · exact ⟨w, v, h, .inr ⟨rfl, rfl⟩⟩
  · rintro ⟨a, b, h, ⟨rfl, rfl⟩ | ⟨rfl, rfl⟩⟩
    · exact .inl h
    · exact .inr h

theorem containsEdge_comm (self : FinGraph V) (a b : V) :
    self.containsEdge a b = self.containsEdge b a := by
  rw [Bool.eq_iff_iff, containsEdge_iff, containsEdge_iff, Sym2.eq_swap]

theorem mem_nodes_of_containsEdge (h : self.containsEdge v w) :
    v ∈ self.nodes ∧ w ∈ self.nodes := by
  obtain ⟨edge, hedge, h⟩ := containsEdge_iff.1 h
  rcases Sym2.eq_iff.1 h with ⟨rfl, rfl⟩ | ⟨rfl, rfl⟩
  · exact ⟨mem_nodes.2 (.inr ⟨edge, hedge, .inl rfl⟩), mem_nodes.2 (.inr ⟨edge, hedge, .inr rfl⟩)⟩
  · exact ⟨mem_nodes.2 (.inr ⟨edge, hedge, .inr rfl⟩), mem_nodes.2 (.inr ⟨edge, hedge, .inl rfl⟩)⟩

theorem mem_nodes_removeNode : w ∈ (self.removeNode v).2.nodes ↔ w ∈ self.nodes ∧ w ≠ v := by
  rw [mem_nodes]
  simp only [removeNode, List.mem_filter, decide_eq_true_eq, or_iff_left_iff_imp]
  rintro ⟨edge, ⟨hedge, hfst, hsnd⟩, rfl | rfl⟩
  · exact ⟨mem_nodes.2 (.inr ⟨edge, hedge, .inl rfl⟩), hfst⟩
  · exact ⟨mem_nodes.2 (.inr ⟨edge, hedge, .inr rfl⟩), hsnd⟩

theorem mem_nodes_removeEdge {a b : V} : v ∈ (self.removeEdge a b).2.nodes ↔ v ∈ self.nodes := by
  rw [mem_nodes]
  simp only [removeEdge, List.mem_filter, or_iff_left_iff_imp]
  rintro ⟨edge, ⟨hedge, -⟩, h⟩
  exact mem_nodes.2 (.inr ⟨edge, hedge, h⟩)

theorem containsEdge_removeNode {a b : V} :
    (self.removeNode v).2.containsEdge a b ↔ self.containsEdge a b ∧ a ≠ v ∧ b ≠ v := by
  simp only [containsEdge, removeNode, List.mem_filter, decide_eq_true_eq]
  tauto

theorem containsEdge_removeEdge {a b : V} :
    (self.removeEdge a b).2.containsEdge v w ↔ self.containsEdge v w ∧ s(v, w) ≠ s(a, b) := by
  simp only [containsEdge, removeEdge, List.mem_filter, decide_eq_true_eq,
    Sym2.eq_swap (a := w), or_and_right]

/-! ## Paths and distances -/

/-- The paths to the target with so many edges. -/
def pathsTo (self : FinGraph V) (target : V) : Nat → List (List V)
  | 0 => [[target]]
  | n + 1 => (self.pathsTo target n).flatMap fun path ↦
      (self.nodes.filter fun v ↦ path.head?.any (self.containsEdge v) ∧ v ∉ path).map (· :: path)

theorem mem_pathsTo_succ : path ∈ self.pathsTo root (n + 1) ↔ ∃ v rest, path = v :: rest ∧
    rest ∈ self.pathsTo root n ∧ v ∈ self.nodes ∧ rest.head?.any (self.containsEdge v) ∧
      v ∉ rest := by
  simp only [pathsTo, List.mem_flatMap, List.mem_map, List.mem_filter, decide_eq_true_eq]
  constructor
  · rintro ⟨rest, hrest, v, hv, rfl⟩
    exact ⟨v, rest, rfl, hrest, hv⟩
  · rintro ⟨v, rest, rfl, hrest, hv⟩
    exact ⟨rest, hrest, v, hv, rfl⟩

theorem mem_pathsTo : path ∈ self.pathsTo target n ↔
    path.getLast? = some target ∧ path.IsChain (self.containsEdge · ·) ∧ path.Nodup ∧
      path.length = n + 1 := by
  induction n generalizing path with
  | zero =>
    match path with
    | [] => simp [pathsTo]
    | [w] => simp [pathsTo]
    | w :: x :: rest => simp [pathsTo]
  | succ n ih =>
    simp only [mem_pathsTo_succ, ih]
    constructor
    · rintro ⟨w, rest, rfl, ⟨hlast, hjoined, hnodup, hlength⟩, -, hedge, hfresh⟩
      refine ⟨?_, ?_, List.nodup_cons.2 ⟨hfresh, hnodup⟩, by rw [List.length_cons, hlength]⟩
      · rw [List.getLast?_cons, hlast, Option.getD_some]
      · exact List.isChain_cons.2 ⟨fun x hx ↦ by simpa [Option.mem_def.1 hx] using hedge, hjoined⟩
    · rintro ⟨hlast, hjoined, hnodup, hlength⟩
      match path with
      | [w] => simp at hlength
      | w :: x :: rest =>
        obtain ⟨hedge, hjoined⟩ := List.isChain_cons_cons.1 hjoined
        obtain ⟨hfresh, hnodup⟩ := List.nodup_cons.1 hnodup
        exact ⟨w, x :: rest, rfl, ⟨by rwa [List.getLast?_cons_cons] at hlast, hjoined, hnodup,
          Nat.succ.inj hlength⟩, (mem_nodes_of_containsEdge hedge).1, hedge, hfresh⟩

/-- All paths from one node to another one with at most so many nodes in between, with both ends. -/
def allSimplePaths (self : FinGraph V) (source target : V) (maxIntermediateNodes : Nat) :
    List (List V) :=
  ((List.range (maxIntermediateNodes + 2)).flatMap (self.pathsTo target)).filter
    (·.head? = some source)

/-- The length of a shortest path. -/
def distance (self : FinGraph V) (root v : V) : Option Nat :=
  (List.range (self.nodes.length + 1)).find? fun n ↦
    (self.pathsTo root n).any (·.head? = some v)

def shortestPath (self : FinGraph V) (root v : V) : Option (List V) :=
  (self.distance v root).bind fun n ↦ (self.pathsTo v n).find? (·.head? = some root)

theorem mem_allSimplePaths {source : V} : path ∈ self.allSimplePaths source target n ↔
    path.head? = some source ∧ path.getLast? = some target ∧
      path.IsChain (self.containsEdge · ·) ∧ path.Nodup ∧ path.length ≤ n + 2 := by
  simp only [allSimplePaths, List.mem_filter, List.mem_flatMap, List.mem_range, mem_pathsTo,
    decide_eq_true_eq]
  constructor
  · rintro ⟨⟨m, hm, hlast, hjoined, hnodup, hlength⟩, hhead⟩
    exact ⟨hhead, hlast, hjoined, hnodup, by omega⟩
  · rintro ⟨hhead, hlast, hjoined, hnodup, hlength⟩
    have hpos := List.length_pos_of_mem (List.mem_of_mem_head? hhead)
    exact ⟨⟨path.length - 1, by omega, hlast, hjoined, hnodup, by omega⟩, hhead⟩

/-- The graph without its loops. -/
def toSimple (self : FinGraph V) : SimpleGraph V := .fromRel fun a b ↦ self.containsEdge a b = true

theorem toSimple_adj : self.toSimple.Adj v w ↔ self.containsEdge v w ∧ v ≠ w := by
  rw [toSimple, SimpleGraph.fromRel_adj, containsEdge_comm self w v, or_self, and_comm]

theorem edist_le_one_of_containsEdge (h : self.containsEdge v w) : self.toSimple.edist v w ≤ 1 := by
  by_cases heq : v = w
  · rw [heq, SimpleGraph.edist_self]
    exact zero_le
  · exact (SimpleGraph.edist_eq_one_iff_adj.2 (toSimple_adj.2 ⟨h, heq⟩)).le

/-- A path is no shorter than the distance of its ends. -/
theorem edist_le_of_mem_pathsTo (hpath : path ∈ self.pathsTo root n) (hhead : path.head? = some v) :
    self.toSimple.edist v root ≤ n := by
  induction n generalizing v path with
  | zero =>
    obtain rfl := List.mem_singleton.1 hpath
    rw [Option.some.inj hhead, SimpleGraph.edist_self]
    exact zero_le
  | succ n ih =>
    obtain ⟨v', rest, rfl, hrest, -, hedge, -⟩ := mem_pathsTo_succ.1 hpath
    obtain rfl := Option.some.inj hhead
    obtain ⟨next, hnext, hedge⟩ := (Option.any_eq_true _ _).1 hedge
    rw [Nat.cast_add, Nat.cast_one]
    calc self.toSimple.edist v' root
        ≤ self.toSimple.edist v' next + self.toSimple.edist next root := SimpleGraph.edist_triangle
      _ ≤ 1 + n := add_le_add (edist_le_one_of_containsEdge hedge) (ih hrest hnext)
      _ = n + 1 := add_comm _ _

/-- A shortest walk is in the lists. -/
theorem exists_mem_pathsTo (h : self.toSimple.edist v root = n) :
    ∃ path ∈ self.pathsTo root n, path.head? = some v := by
  have hreach := SimpleGraph.reachable_of_edist_ne_top (h ▸ ENat.natCast_ne_top n)
  obtain ⟨walk, hpath, hwalk⟩ := hreach.exists_path_of_dist
  have hdist : self.toSimple.dist v root = n := by rw [SimpleGraph.dist, h, ENat.toNat_natCast]
  refine ⟨walk.support, mem_pathsTo.2 ⟨?_, ?_, hpath.support_nodup, ?_⟩, ?_⟩
  · rw [List.getLast?_eq_some_getLast walk.support_ne_nil, walk.getLast_support]
  · exact walk.isChain_adj_support.imp fun _ _ hadj ↦ (toSimple_adj.1 hadj).1
  · rw [walk.length_support, hwalk, hdist]
  · rw [List.head?_eq_some_head walk.support_ne_nil, walk.head_support]

theorem subset_of_mem_pathsTo (h : path ∈ self.pathsTo root n) : path ⊆ root :: self.nodes := by
  induction n generalizing path with
  | zero =>
    obtain rfl := List.mem_singleton.1 h
    exact List.cons_subset_cons _ (List.nil_subset _)
  | succ n ih =>
    obtain ⟨v, rest, rfl, hrest, hv, -, -⟩ := mem_pathsTo_succ.1 h
    exact List.cons_subset.2 ⟨List.mem_cons_of_mem _ hv, ih hrest⟩

theorem le_length_of_mem_pathsTo (h : path ∈ self.pathsTo root n) : n ≤ self.nodes.length := by
  obtain ⟨-, -, hnodup, hlength⟩ := mem_pathsTo.1 h
  have hle := (List.subperm_of_subset hnodup (subset_of_mem_pathsTo h)).length_le
  rw [hlength, List.length_cons] at hle
  exact Nat.le_of_succ_le_succ hle

/-- **The distance is the length of a shortest walk.** -/
theorem distance_eq_some :
    self.distance root v = some n ↔ self.toSimple.edist v root = n := by
  simp only [distance, List.find?_range_eq_some, List.any_eq_true, decide_eq_true_eq,
    List.mem_range,
    Bool.not_eq_true', Bool.eq_false_iff, ne_eq]
  constructor
  · rintro ⟨⟨path, hpath, hhead⟩, -, hmin⟩
    have hle := edist_le_of_mem_pathsTo hpath hhead
    obtain ⟨m, hm⟩ := ENat.ne_top_iff_exists.1 (ne_top_of_le_ne_top (ENat.natCast_ne_top n) hle)
    rw [← hm, Nat.cast_le] at hle
    rcases hle.lt_or_eq with hlt | rfl
    · exact absurd (exists_mem_pathsTo hm.symm) (hmin m hlt)
    · exact hm.symm
  · intro h
    obtain ⟨path, hpath, hhead⟩ := exists_mem_pathsTo h
    refine ⟨⟨path, hpath, hhead⟩, Nat.lt_succ_of_le (le_length_of_mem_pathsTo hpath), ?_⟩
    rintro m hm ⟨path, hpath, hhead⟩
    have hle := edist_le_of_mem_pathsTo hpath hhead
    rw [h, Nat.cast_le] at hle
    exact absurd hm (Nat.not_lt_of_le hle)

end FinGraph

/-- These graphs make up a library that keeps its word. -/
instance {V : Type} [DecidableEq V] : Petgraph V where
  UnGraphMap := FinGraph V
  new := .new
  nodes := FinGraph.nodes
  containsNode := FinGraph.containsNode
  containsEdge := FinGraph.containsEdge
  neighbors := FinGraph.neighbors
  addNode := FinGraph.addNode
  addEdge := FinGraph.addEdge
  removeNode := FinGraph.removeNode
  removeEdge := FinGraph.removeEdge
  distance := FinGraph.distance
  shortestPath := FinGraph.shortestPath
  allSimplePaths := FinGraph.allSimplePaths
  nodup_nodes _ := List.nodup_dedup _
  containsNode_iff := decide_eq_true_iff
  containsEdge_comm := FinGraph.containsEdge_comm
  mem_nodes_of_containsEdge := FinGraph.mem_nodes_of_containsEdge
  mem_neighbors := by
    simp only [FinGraph.neighbors, List.mem_filter, and_iff_right_iff_imp]
    exact fun h ↦ (FinGraph.mem_nodes_of_containsEdge h).2
  nodes_new := rfl
  mem_nodes_addNode := by simp [FinGraph.mem_nodes, FinGraph.addNode, or_assoc, or_comm]
  addEdge_fst := rfl
  mem_nodes_addEdge := by simp [FinGraph.mem_nodes, FinGraph.addEdge, or_left_comm, or_comm]
  containsEdge_addEdge := by simp [FinGraph.containsEdge_iff, FinGraph.addEdge, or_comm]
  removeNode_fst := rfl
  mem_nodes_removeNode := FinGraph.mem_nodes_removeNode
  containsEdge_removeNode := FinGraph.containsEdge_removeNode
  mem_nodes_removeEdge := FinGraph.mem_nodes_removeEdge
  containsEdge_removeEdge := FinGraph.containsEdge_removeEdge
  distance_eq_some := FinGraph.distance_eq_some
  mem_allSimplePaths _ := FinGraph.mem_allSimplePaths

end Kira
