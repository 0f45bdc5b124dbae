import Mathlib.Data.List.Chain
import Kira.UseCases.ForwardProtocolMessage

/-!
# Messages follow their source route

A network is an underlay neighbour table for every node, and what is at the other end of its
connections.  A message that a node sends is a `Visit` of another node, which forwards it; when the
route is finished, that node may extend it by a further path and send the message on.
`Underlay.step` is one such move.

The induction is over the nodes that are still ahead, whether the route has them already or a later
overlay hop will add them.  It carries `Visit.At`: the route of the message starts with the nodes
traversed so far, and its progress is at the node visited.
-/

set_option autoImplicit false

namespace Kira

open Run

/-! ## Networks -/

/-- The nodes of a network, with the connections between them. -/
structure Underlay where
  ulnTable : NodeId → InMemoryULNTable
  /-- The connections of a node, and the nodes at their other ends. -/
  connections : NodeId → KeyMap UnderlayNeighborId NodeId

/-- A message is at a node. -/
structure Visit where
  node : NodeId
  message : ProtocolMessage

namespace Underlay

/-- What becomes of an effect of a node. -/
def deliver (net : Underlay) (x : NodeId) : Effect → List Visit
  | .sendMessageVia message .broadcast =>
    (net.connections x).entries.map fun e ↦ ⟨e.2, message⟩
  | .sendMessageVia message (.multicast interfaceId) =>
    ((net.connections x).entries.filter fun e ↦ e.1.interfaceId == interfaceId).map
      fun e ↦ ⟨e.2, message⟩
  | .sendMessageVia message (.underlayNeighbor ulnid) =>
    ((net.connections x).lookup ulnid).toList.map fun y ↦ ⟨y, message⟩
  | .broadcastEvent message => [⟨x, message⟩]

/-- Where a message of a node arrives. -/
def send (net : Underlay) (x : NodeId) (message : ProtocolMessage) : Run (List Visit) := do
  let effects ← sendMessage message (net.ulnTable x) x
  return effects.flatMap (net.deliver x)

/-- A node forwards a message that it has received. -/
def forward (net : Underlay) (v : Visit) : Run (HandlingResult × List Visit) := do
  let (result, effects) ←
    ForwardProtocolMessage.handleForwarding v.node (net.ulnTable v.node) v.message
  return (result, effects.flatMap (net.deliver v.node))

/-- A message on its way: the last visit, and the paths that the overlay hops are going to extend
its route by. -/
structure Journey where
  visit : Visit
  ahead : List Path

/-- The next visit.  The node where the route is finished extends it, if it sends the message on. -/
def step (net : Underlay) (j : Journey) : Run (Option Journey) := do
  match ← net.forward j.visit, j.ahead with
  | (.notHandled, _), path :: ahead =>
    let visits ← net.send j.visit.node
      (j.visit.message.withRoute fun route ↦ (route.extend path).advance)
    return visits.head?.map fun v ↦ ⟨v, ahead⟩
  | (.notHandled, _), [] => return none
  | (.handled, visits), ahead => return visits.head?.map fun v ↦ ⟨v, ahead⟩

/-- The table of `x` has a connection for `y`, and it leads there. -/
def Reaches (net : Underlay) (x y : NodeId) : Prop :=
  ∃ ulnid state, (net.ulnTable x).map.lookup y = some (ulnid, state) ∧
    (net.connections x).lookup ulnid = some y

/-- Each of the two nodes is an underlay neighbour of the other. -/
def Neighbors (net : Underlay) (x y : NodeId) : Prop := net.Reaches x y ∧ net.Reaches y x

/-- A message that `x` sends makes these visits, one after the other, and is left to the last of the
nodes. -/
structure Travels (net : Underlay) (x : NodeId) (message : ProtocolMessage) (ahead : List Path)
    (visits : List Visit) : Prop where
  completes : ∃ (first : Visit) (journeys : List Journey), net.send x message = .ok [first] ∧
    Completes net.step ⟨first, ahead⟩ journeys ∧ journeys.map Journey.visit = visits
  finished : ∃ last, visits.getLast? = some last ∧ net.forward last = .ok (.notHandled, [])

end Underlay

/-! ## One hop -/

/-- The message visits the node on a route with these nodes behind it and those ahead. -/
def Visit.At (v : Visit) (message : ProtocolMessage) (traversed rest : List NodeId) : Prop :=
  ∃ route, v.message.sourceRoute = some route ∧ v.message = message.withRoute (fun _ ↦ route) ∧
    route.ids = traversed ++ v.node :: rest ∧ route.progress = traversed.length

namespace Underlay

variable {net : Underlay} {x y : NodeId} {message : ProtocolMessage} {v : Visit}
  {traversed rest : List NodeId}

variable {route : SourceRoute} {ahead : List Path}

theorem send_eq (hroute : message.sourceRoute = some route)
    (hcurrent : route.currentHop = .ok y) (h : net.Reaches x y) :
    net.send x message = .ok [⟨y, message⟩] := by
  obtain ⟨ulnid, state, hlook, hpeer⟩ := h
  rw [send, sendMessage_of_route hroute hcurrent]
  by_cases hxy : y = x
  · subst hxy
    simp [deliver]
  · simp [hxy, hlook, deliver, hpeer]

theorem currentHop_eq (hids : route.ids = traversed ++ x :: rest)
    (hprogress : route.progress = traversed.length) : route.currentHop = .ok x := by
  simp [SourceRoute.currentHop, hids, hprogress]

theorem forward_hop (hv : v.At message traversed (y :: rest)) (h : net.Reaches v.node y) :
    ∃ v', net.forward v = .ok (.handled, [v']) ∧ v'.node = y ∧
      v'.At message (traversed ++ [v.node]) rest := by
  obtain ⟨route, hroute, hmessage, hids, hprogress⟩ := hv
  have hnext : route.nextHop = some y := by
    simp [SourceRoute.nextHop, hids, hprogress]
  have hadvance : route.advance.ids = (traversed ++ [v.node]) ++ y :: rest ∧
      route.advance.progress = (traversed ++ [v.node]).length := by
    rw [SourceRoute.advance, if_pos (by simp [hids, hprogress])]
    simp [hids, hprogress]
  have hroute' : (v.message.withRoute .advance).sourceRoute = some route.advance := by
    rw [ProtocolMessage.sourceRoute_withRoute, hroute, Option.map_some]
  refine ⟨⟨y, v.message.withRoute .advance⟩, ?_, rfl, route.advance, hroute', ?_, hadvance⟩
  · have hsend := send_eq hroute' (currentHop_eq hadvance.1 hadvance.2) h
    obtain ⟨ulnid, state, hlook, -⟩ := h
    obtain ⟨effects, heffects, hsend⟩ := of_bind hsend
    simp only [forward, ForwardProtocolMessage.handleForwarding, hroute, ok_bind, hnext,
      currentHop_eq hids hprogress, hlook, ne_eq, not_true_eq_false, if_false, Option.isNone_some,
      Bool.false_eq_true, heffects, pure_eq, ok.injEq, Prod.mk.injEq, true_and]
    exact ok.inj hsend
  · rw [hmessage, ProtocolMessage.withRoute_withRoute]

theorem forward_finished (hv : v.At message traversed []) :
    net.forward v = .ok (.notHandled, []) := by
  obtain ⟨route, hroute, -, hids, hprogress⟩ := hv
  have hnext : route.nextHop = none := by
    simp [SourceRoute.nextHop, hids, hprogress]
  simp [forward, ForwardProtocolMessage.handleForwarding, hroute, hnext,
    currentHop_eq hids hprogress]

theorem send_extended {path : Path} (hv : v.At message traversed [])
    (hpath : path.ids = y :: rest) (h : net.Reaches v.node y) :
    ∃ v', net.send v.node (v.message.withRoute fun route ↦ (route.extend path).advance) =
        .ok [v'] ∧ v'.node = y ∧ v'.At message (traversed ++ [v.node]) rest := by
  obtain ⟨route, hroute, hmessage, hids, hprogress⟩ := hv
  have hextend : (route.extend path).advance.ids = (traversed ++ [v.node]) ++ y :: rest ∧
      (route.extend path).advance.progress = (traversed ++ [v.node]).length := by
    have hlonger : (route.extend path).progress < (route.extend path).ids.length - 1 := by
      simp [SourceRoute.extend, hids, hprogress, hpath]
    rw [SourceRoute.advance, if_pos hlonger]
    simp [SourceRoute.extend, hids, hprogress, hpath]
  have hroute' : (v.message.withRoute fun route ↦ (route.extend path).advance).sourceRoute =
      some (route.extend path).advance := by
    rw [ProtocolMessage.sourceRoute_withRoute, hroute, Option.map_some]
  refine ⟨_, send_eq hroute' (currentHop_eq hextend.1 hextend.2) h, rfl, _, hroute', ?_, hextend⟩
  rw [hmessage, ProtocolMessage.withRoute_withRoute]

/-- **One move**: the next node is the one ahead, on the route or on the path that extends it. -/
theorem step_eq {remaining : List NodeId} (hv : v.At message traversed rest)
    (hrest : rest ++ ahead.flatMap Path.ids = y :: remaining) (h : net.Reaches v.node y) :
    ∃ v' rest' ahead', net.step ⟨v, ahead⟩ = .ok (some ⟨v', ahead'⟩) ∧ v'.node = y ∧
      v'.At message (traversed ++ [v.node]) rest' ∧
      rest' ++ ahead'.flatMap Path.ids = remaining := by
  cases rest with
  | cons z rest =>
    obtain ⟨rfl, hremaining⟩ := List.cons.inj hrest
    obtain ⟨v', hforward, hnode, hv'⟩ := forward_hop hv h
    exact ⟨v', rest, ahead, by simp [step, hforward], hnode, hv', hremaining⟩
  | nil =>
    cases ahead with
    | nil => simp at hrest
    | cons path ahead =>
      obtain ⟨z, ids, hpath⟩ := List.exists_cons_of_ne_nil path.ids_ne
      rw [List.nil_append, List.flatMap_cons, hpath, List.cons_append] at hrest
      obtain ⟨rfl, hremaining⟩ := List.cons.inj hrest
      obtain ⟨v', hsend, hnode, hv'⟩ := send_extended hv hpath h
      exact ⟨v', ids, ahead, by simp [step, forward_finished hv, hsend], hnode, hv', hremaining⟩

/-! ## The whole way -/

/-- The visits are one after the other on the way, after the nodes traversed. -/
def InOrder (message : ProtocolMessage) : List NodeId → List Visit → Prop
  | _, [] => True
  | traversed, v :: visits =>
    (∃ rest, v.At message traversed rest) ∧ InOrder message (traversed ++ [v.node]) visits

theorem InOrder.of_append {before after : List Visit} (h : InOrder message traversed
    (before ++ v :: after)) : ∃ rest, v.At message (traversed ++ before.map Visit.node) rest := by
  induction before generalizing traversed with
  | nil => simpa using h.1
  | cons w before ih => simpa using ih h.2

theorem completes_of_at {remaining : List NodeId}
    (hv : v.At message traversed rest) (hrest : rest ++ ahead.flatMap Path.ids = remaining)
    (hlinks : (v.node :: remaining).IsChain net.Reaches) :
    ∃ journeys : List Journey, Completes net.step ⟨v, ahead⟩ journeys ∧
      journeys.map (fun j ↦ j.visit.node) = v.node :: remaining ∧
      InOrder message traversed (journeys.map Journey.visit) ∧
      ∃ last, (journeys.map Journey.visit).getLast? = some last ∧
        net.forward last = .ok (.notHandled, []) := by
  induction remaining generalizing v traversed rest ahead with
  | nil =>
    obtain ⟨rfl, hahead⟩ := List.append_eq_nil_iff.1 hrest
    have hnone : ahead = [] := by
      cases ahead with
      | nil => rfl
      | cons path ahead => simp [path.ids_ne] at hahead
    subst hnone
    have hfinished : net.forward v = _ := forward_finished hv
    exact ⟨[⟨v, []⟩], .stop (by simp [step, hfinished]), rfl, ⟨⟨[], hv⟩, trivial⟩, v, rfl,
      hfinished⟩
  | cons y remaining ih =>
    obtain ⟨hlink, hlinks⟩ := List.isChain_cons_cons.1 hlinks
    obtain ⟨v', rest', ahead', hstep, rfl, hv', hrest'⟩ := step_eq hv hrest hlink
    obtain ⟨journeys, hcompletes, hnodes, horder, last, hlast, hfinished⟩ := ih hv' hrest' hlinks
    refine ⟨⟨v, ahead⟩ :: journeys, .step hstep hcompletes, by simp [hnodes],
      ⟨⟨rest, hv⟩, horder⟩, last, ?_, hfinished⟩
    rw [List.map_cons, List.getLast?_cons, hlast]
    rfl

theorem travels_of_links
    (hroute : message.sourceRoute = some route) (hids : route.ids = x :: y :: rest)
    (hprogress : route.progress = 1)
    (hlinks : (x :: y :: (rest ++ ahead.flatMap Path.ids)).IsChain net.Reaches) :
    ∃ visits, net.Travels x message ahead visits ∧
      visits.map Visit.node = y :: (rest ++ ahead.flatMap Path.ids) ∧
      InOrder message [x] visits := by
  obtain ⟨hlink, hlinks⟩ := List.isChain_cons_cons.1 hlinks
  have hcurrent : route.currentHop = .ok y := by
    simp [SourceRoute.currentHop, hids, hprogress]
  have hat : Visit.At ⟨y, message⟩ message [x] rest :=
    ⟨route, hroute, (ProtocolMessage.withRoute_self hroute).symm, hids, hprogress⟩
  obtain ⟨journeys, hcompletes, hnodes, horder, hfinished⟩ := completes_of_at hat rfl hlinks
  refine ⟨journeys.map Journey.visit,
    ⟨⟨_, journeys, send_eq hroute hcurrent hlink, hcompletes, rfl⟩,
    hfinished⟩, ?_, horder⟩
  rw [List.map_map]
  exact hnodes

end Underlay

open Underlay

theorem Visit.At.currentHop {v : Visit} {message : ProtocolMessage} {traversed rest : List NodeId}
    (h : v.At message traversed rest) : v.message.currentHop = .ok (some v.node) := by
  obtain ⟨route, hroute, -, hids, hprogress⟩ := h
  rw [ProtocolMessage.currentHop_of_route hroute, currentHop_eq hids hprogress]
  rfl

theorem Visit.At.fromReversed {v : Visit} {message : ProtocolMessage} {x : NodeId}
    {traversed rest : List NodeId} (h : v.At message (x :: traversed) rest) :
    ∃ route back, v.message = message.withRoute (fun _ ↦ route) ∧ route.InRange ∧
      route.fromReversed = .ok back ∧ back.progress = 1 ∧
      back.ids = v.node :: (x :: traversed).reverse := by
  obtain ⟨route, -, hmessage, hids, hprogress⟩ := h
  have hrange : route.InRange := by
    simp [SourceRoute.InRange, hids, hprogress]
  obtain ⟨back, hback, hbackids, hone⟩ := hrange.fromReversed_eq
  refine ⟨route, back, hmessage, hrange, hback, hone, ?_⟩
  have htake : route.ids.take (route.progress + 1) = x :: traversed ++ [v.node] := by
    rw [hids, List.append_cons, hprogress]
    exact List.take_left' (by simp)
  rw [hbackids, htake, List.reverse_append, List.reverse_singleton, List.singleton_append]

/-- **A message follows its source route, and a reply follows it back.**  Where each node on the way
is an underlay neighbour of the one before, the message visits the nodes of the path it was sent
along and of those its overlay hops extend the route by, in that order.  Each of them sees itself as
the current hop, and what it sends back along the reversed route visits the nodes before it in the
opposite order, down to the source, where it is left.  The progress stays in range throughout. -/
theorem route_followed (net : Underlay) (source : NodeId) (path : Path) (ahead : List Path)
    (message : ProtocolMessage) (hroute : message.sourceRoute = some (.new source path))
    (hlinks : (source :: (path :: ahead).flatMap Path.ids).IsChain net.Neighbors) :
    (∃ visits, net.Travels source message ahead visits ∧
      visits.map Visit.node = (path :: ahead).flatMap Path.ids ∧
      ∀ before v after, visits = before ++ v :: after → ∃ route : SourceRoute,
        v.message = message.withRoute (fun _ ↦ route) ∧
        v.message.currentHop = .ok (some v.node) ∧ route.InRange ∧
        ∃ back, route.fromReversed = .ok back ∧
          ∀ reply : ProtocolMessage, reply.sourceRoute = some back →
            ∃ visits', net.Travels v.node reply [] visits' ∧
              visits'.map Visit.node = (source :: before.map Visit.node).reverse ∧
              ∀ w ∈ visits', w.message.currentHop = .ok (some w.node)) ∧
    (SourceRoute.new source path).InRange ∧
    ∀ route : SourceRoute, route.InRange →
      route.advance.InRange ∧ (∀ path, (route.extend path).InRange) ∧
      ∃ back, route.fromReversed = .ok back ∧ back.InRange := by
  refine ⟨?_, SourceRoute.inRange_new source path, ?_⟩
  · obtain ⟨y, rest, hpath⟩ := List.exists_cons_of_ne_nil path.ids_ne
    rw [List.flatMap_cons, hpath, List.cons_append] at hlinks ⊢
    have hids : (SourceRoute.new source path).ids = source :: y :: rest :=
      congrArg (source :: ·) hpath
    obtain ⟨visits, htravels, hnodes, horder⟩ :=
      travels_of_links hroute hids rfl (hlinks.imp fun _ _ h ↦ h.1)
    refine ⟨visits, htravels, hnodes, ?_⟩
    rintro before v after rfl
    obtain ⟨rest', hat⟩ := horder.of_append
    rw [List.singleton_append] at hat
    obtain ⟨route, back, hmessage, hrange, hback, hone, hbackids⟩ := hat.fromReversed
    refine ⟨route, hmessage, hat.currentHop, hrange, back, hback, fun reply hreply ↦ ?_⟩
    -- the nodes traversed are linked in the other direction as well
    have hreverse : (v.node :: (source :: before.map Visit.node).reverse).IsChain net.Reaches := by
      rw [← hnodes, List.map_append, List.map_cons, ← List.cons_append,
        List.append_cons] at hlinks
      have hchain := List.isChain_reverse.2 (hlinks.left_of_append.imp fun _ _ h ↦ h.2)
      rwa [List.reverse_append, List.reverse_singleton, List.singleton_append] at hchain
    obtain ⟨z, others, hrev⟩ := List.exists_cons_of_ne_nil
      (List.reverse_ne_nil_iff.2 (List.cons_ne_nil source (before.map Visit.node)))
    rw [hrev] at hbackids hreverse ⊢
    have hbacklinks : (v.node :: z :: (others ++ [].flatMap Path.ids)).IsChain net.Reaches := by
      simpa using hreverse
    obtain ⟨visits', htravels', hnodes', horder'⟩ :=
      travels_of_links hreply hbackids hone hbacklinks
    refine ⟨visits', htravels', by simpa using hnodes', fun w hw ↦ ?_⟩
    obtain ⟨earlier, later, rfl⟩ := List.append_of_mem hw
    obtain ⟨rest'', hat'⟩ := horder'.of_append
    exact hat'.currentHop
  · intro route hrange
    obtain ⟨back, hback, -⟩ := hrange.fromReversed_eq
    exact ⟨hrange.advance, hrange.extend, back, hback, .fromReversed hback⟩

/-- A network in which every node is connected with 1, 2 and 3. -/
def Underlay.triangle : Underlay where
  ulnTable _ :=
    { InMemoryULNTable.new with
      map :=
        { entries := [⟨1, ⟨1, 1⟩, .bidirectional⟩, ⟨2, ⟨1, 2⟩, .bidirectional⟩,
            ⟨3, ⟨1, 3⟩, .bidirectional⟩]
          nodupKeys := show List.Nodup [(1 : NodeId), 2, 3] by decide } }
  connections _ :=
    { entries := [⟨⟨1, 1⟩, 1⟩, ⟨⟨1, 2⟩, 2⟩, ⟨⟨1, 3⟩, 3⟩]
      nodupKeys := show List.Nodup [(⟨1, 1⟩ : UnderlayNeighborId), ⟨1, 2⟩, ⟨1, 3⟩] by decide }

/-- A probe for 3, on its way from 1 to 2. -/
def Underlay.probe : ProtocolMessage :=
  .probeReq
    { commonHeader := .new .probeReq 1 3 0 .invalid 2
      data := {}
      notVia := none
      sourceRoute := .new 1 (.ofIds [2] (by decide)) }

/-- The overlay hop 2 sends the probe on to 3. -/
theorem probe_followed : ∃ visits,
    Underlay.triangle.Travels 1 Underlay.probe [.ofIds [3] (by decide)] visits ∧
    visits.map Visit.node = [2, 3] := by
  have hone : Underlay.triangle.Neighbors 1 2 := ⟨⟨_, _, rfl, rfl⟩, ⟨_, _, rfl, rfl⟩⟩
  have htwo : Underlay.triangle.Neighbors 2 3 := ⟨⟨_, _, rfl, rfl⟩, ⟨_, _, rfl, rfl⟩⟩
  obtain ⟨⟨visits, htravels, hnodes, -⟩, -⟩ := route_followed Underlay.triangle 1
    (.ofIds [2] (by decide)) [.ofIds [3] (by decide)] Underlay.probe rfl
    (.cons_cons hone (.cons_cons htwo (.singleton 3)))
  exact ⟨visits, htravels, hnodes⟩

end Kira
