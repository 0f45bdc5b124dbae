import Kira.Domain.RoutingTable.NextHop
import Kira.Domain.RoutingTable.UnlimitedULNLawful
import Kira.UseCases.HandleOverlayDiscovery

/-!
# Forwarding in the overlay terminates

A network is a node for every id, each with a routing table of its own; nothing relates the tables
of two nodes.  `Forwards` says that a node passes something for a target on to another node, either
by asking its table for the next hop or by handling a discovery request.  The request goes to the
contact that was chosen, and is addressed to the end of the path that is stored for the contact.

Both ways lead to a node that is closer to the target (`Forwards.closer`).  The distance is a
natural number, so a chain of nodes that forward to each other never comes back to a node and comes
to an end, whatever the tables contain.
-/

set_option autoImplicit false

namespace Kira

open XorMetric RoutingTable

/-- A node of the network: a routing table of any kind, which does not store its root, and a
handler for discovery requests. -/
structure Node where
  T : Type
  k : Nat
  [routingTable : RoutingTable T k]
  [lawful : LawfulRoutingTable T k]
  table : T
  rootFree : ∀ c ∈ iter table, c.id ≠ root table
  discovery : HandleOverlayDiscovery

attribute [instance] Node.routingTable Node.lawful

theorem Node.nextHop_closer (node : Node) {debug : Bool} {target : NodeId} {g : NonZeroU8}
    {c : Contact} (h : nextHop debug node.table target g = .ok (.ok (some c))) :
    c ∈ iter node.table ∧ c.isValid = true ∧
      dist target c.id < dist target (root node.table) := by
  obtain ⟨r, hclosest, -⟩ := Run.of_bind h
  cases r with
  | error err =>
    rw [nextHop, hclosest] at h
    simp at h
  | ok res =>
    obtain ⟨hg, hmem⟩ := LawfulRoutingTable.mem_closest hclosest
    have hshared : ∀ x ∈ res, x.1 = target.sharedPrefix x.2.id g.get :=
      fun x hx ↦ (mem_candidatesOf.1 (hmem x hx)).2.2
    have hroot : ∀ x ∈ res, x.2.id ≠ root node.table :=
      fun x hx ↦ node.rootFree _ (mem_candidatesOf.1 (hmem x hx)).1
    obtain ⟨x, hx, rfl, hcloser⟩ := nextHop_some_closer hg hclosest hshared hroot h
    exact ⟨(mem_candidatesOf.1 (hmem x hx)).1, (mem_candidatesOf.1 (hmem x hx)).2.1, hcloser⟩

/-- A node for every id. -/
structure Network where
  node : NodeId → Node
  root_eq : ∀ v, root (node v).table = v

/-- The network before any node has heard of another one. -/
instance : Inhabited Network where
  default :=
    { node := fun v ↦
        { T := FlatRoutingTable 1 1
          k := 1
          table := .new v Nat.one_pos one_lt_64
          rootFree := (FlatRoutingTable.healthy_new v Nat.one_pos one_lt_64).rootFree
          discovery := { sharedPrefixBitsGrouping := .MIN, grouping_le := NonZeroU8.min_le_bits } }
      root_eq := fun _ ↦ rfl }

namespace Network

/-- The stored paths lead to the contacts, as they do when a contact is made from a path. -/
def PathsLead (net : Network) (v : NodeId) : Prop :=
  ∀ c ∈ iter (net.node v).table, ∀ path, c.path = some path → path.last = c.id

/-- A node passes something for the target on to another node. -/
inductive Forwards (net : Network) (target : NodeId) : NodeId → NodeId → Prop
  | nextHop {v : NodeId} {c : Contact} (debug : Bool) (g : NonZeroU8)
      (h : nextHop debug (net.node v).table target g = .ok (.ok (some c))) :
      Forwards net target v c.id
  /-- A request is sent on, and `c` is the contact that was chosen. -/
  | discovery {v : NodeId} {c : Contact} {ssn : SafeStateSeqNr}
      {req req' : ReqRspMessage FindNodeReqData} (htarget : req.target = target)
      (h : (net.node v).discovery.handleEvent (net.node v).table ssn req =
        .ok (some (.findNodeReq req')))
      (hchosen : (net.node v).discovery.react (net.node v).table req = .ok (.forward c)) :
      Forwards net target v c.id
  /-- A request is sent on, to the node that it is addressed to. -/
  | sent {v : NodeId} {ssn : SafeStateSeqNr} {req req' : ReqRspMessage FindNodeReqData}
      (htarget : req.target = target)
      (h : (net.node v).discovery.handleEvent (net.node v).table ssn req =
        .ok (some (.findNodeReq req')))
      (hpaths : net.PathsLead v) : Forwards net target v req'.destination

variable {net : Network} {target : NodeId}

/-- A request that is sent on has got the path to a contact that is closer to the target. -/
theorem forwarded_closer {v : NodeId} {ssn : SafeStateSeqNr}
    {req req' : ReqRspMessage FindNodeReqData} (htarget : req.target = target)
    (h : (net.node v).discovery.handleEvent (net.node v).table ssn req =
      .ok (some (.findNodeReq req'))) :
    ∃ c path, (net.node v).discovery.react (net.node v).table req = .ok (.forward c) ∧
      c.path = some path ∧
      req' = { req with sourceRoute := (req.sourceRoute.extend path).advance } ∧
      req'.destination = path.last ∧
      c ∈ iter (net.node v).table ∧ c.isValid = true ∧ dist target c.id < dist target v := by
  obtain ⟨c, path, hreact, hpath, rfl⟩ := HandleOverlayDiscovery.react_of_forwarded h
  have hcloser := HandleOverlayDiscovery.forward_closer hreact
  rw [net.root_eq, htarget] at hcloser
  exact ⟨c, path, hreact, hpath, rfl, SourceRoute.destination_extend req.sourceRoute path, hcloser⟩

theorem Forwards.closer {v w : NodeId} (h : net.Forwards target v w) :
    dist target w < dist target v := by
  cases h with
  | nextHop debug g h =>
    have := ((net.node v).nextHop_closer h).2.2
    rwa [net.root_eq] at this
  | discovery htarget h hchosen =>
    have := (HandleOverlayDiscovery.forward_closer hchosen).2.2
    rwa [net.root_eq, htarget] at this
  | sent htarget h hpaths =>
    obtain ⟨c, path, -, hpath, -, hdest, hmem, -, hcloser⟩ := forwarded_closer htarget h
    rwa [hdest, hpaths c hmem path hpath]

theorem pairwise_of_isChain {chain : List NodeId} (h : chain.IsChain (net.Forwards target)) :
    chain.Pairwise fun v w ↦ dist target w < dist target v := by
  have htrans : Trans (fun v w ↦ dist target w < dist target v)
      (fun v w ↦ dist target w < dist target v) fun v w ↦ dist target w < dist target v :=
    ⟨fun h1 h2 ↦ Nat.lt_trans h2 h1⟩
  exact List.isChain_iff_pairwise.1 (h.imp fun _ _ h ↦ h.closer)

/-- **Forwarding makes progress**: every next hop is a valid contact of the forwarder and closer to
the target, and so is the contact whose path a discovery request gets when it is sent on; so no
chain visits a node twice and none is infinite. -/
theorem forwarding_makes_progress (net : Network) (target : NodeId) :
    (∀ v debug g c, nextHop debug (net.node v).table target g = .ok (.ok (some c)) →
      c ∈ iter (net.node v).table ∧ c.isValid = true ∧ dist target c.id < dist target v) ∧
    (∀ v ssn req req', req.target = target →
      (net.node v).discovery.handleEvent (net.node v).table ssn req =
        .ok (some (.findNodeReq req')) →
      ∃ c path, (net.node v).discovery.react (net.node v).table req = .ok (.forward c) ∧
        c.path = some path ∧
        req' = { req with sourceRoute := (req.sourceRoute.extend path).advance } ∧
        req'.destination = path.last ∧
        c ∈ iter (net.node v).table ∧ c.isValid = true ∧ dist target c.id < dist target v) ∧
    (∀ chain : List NodeId, chain.IsChain (net.Forwards target) → chain.Nodup) ∧
    ¬ ∃ visited : Nat → NodeId, ∀ i, net.Forwards target (visited i) (visited (i + 1)) := by
  refine ⟨?_, ?_, ?_, ?_⟩
  · intro v debug g c h
    have hcloser := (net.node v).nextHop_closer h
    rwa [net.root_eq] at hcloser
  · exact fun v ssn req req' htarget h ↦ forwarded_closer htarget h
  · intro chain hchain
    refine (pairwise_of_isChain hchain).imp ?_
    rintro v w hlt rfl
    exact Nat.lt_irrefl _ hlt
  · rintro ⟨visited, h⟩
    -- after `i` hops the distance has decreased by at least `i`
    have hsum : ∀ i, dist target (visited i) + i ≤ dist target (visited 0) := by
      intro i
      induction i with
      | zero => exact Nat.le_refl _
      | succ i ih =>
        have := (h i).closer
        omega
    have := hsum (dist target (visited 0) + 1)
    omega

end Network

end Kira
