import Kira.Properties.OverlayForwarding
import Kira.R2Kad.Moves

/-!
# Lookups in a network of running nodes

What `OverlayForwarding` asks of a node, that its table does not store the node itself, is not an
assumption about running nodes.  It is kept by everything they do (`Move.inOrder`), so nodes that
have each got somewhere in a run of their own make up a network (`RunningNodes.network`).

A lookup is passed on by the nodes of a network until one of them answers it, and the answer is sent
back to where the request comes from (`lookup_answered`).  As in `StoreDelivery`, it is taken for
granted that the underlay brings a request to the end of its source route.
-/

set_option autoImplicit false

namespace Kira

open Run XorMetric RoutingTable LawfulRoutingTable TableOp HandleOverlayDiscovery

/-! ## Running nodes -/

section Runs

variable {T : Type} {k : Nat} [RoutingTable T k] [LawfulRoutingTable T k]

/-- The table of the node `v`: each id is stored once, and that of the node is not. -/
def InOrder (v : NodeId) (t : T) : Prop := Healthy t ∧ root t = v

theorem UseCaseContext.Move.inOrder {cause : Cause} {ctx ctx' : UseCaseContext T} {v : NodeId}
    (h : Move cause ctx ctx') (hctx : InOrder v ctx.routingTable) :
    InOrder v ctx'.routingTable := by
  obtain ⟨htidy, hroot⟩ := h.tidy hctx.1.tidy
  obtain ⟨hhealthy, rfl⟩ := hctx
  have hfree := hhealthy.rootFree
  refine ⟨⟨htidy, ?_⟩, hroot⟩
  rw [show root ctx'.routingTable = root ctx.routingTable from hroot]
  have hwritten : ∀ {id : NodeId} {d : Contact}, d.id ≠ root ctx.routingTable →
      ∀ x ∈ iter (LawfulRoutingTable.write ctx.routingTable id d),
        x.id ≠ root ctx.routingTable := by
    intro id d hd x hx
    rcases (mem_write _ _ _).2 x hx with rfl | hx
    · exact hd
    · exact hfree x hx
  cases h with
  | raise | register | registerPeriodic | uln => exact hfree
  | @change id c d hc h => exact hwritten (h.id_eq ▸ hfree c (mem_of_contact hc))
  | @changeAll f h =>
    intro x hx
    rw [show iter (ctx.iterMut f).routingTable = _ from (mem_iterMut ctx.routingTable f).2] at hx
    obtain ⟨c, hc, rfl⟩ := List.mem_map.1 hx
    exact (h c).id_eq ▸ hfree c hc
  | @search id c retries wait hc _ nvs via =>
    refine hwritten ?_
    rw [Contact.startRediscovering_id]
    exact hfree c (mem_of_contact hc)
  | @remove id =>
    rw [routingTable_removeContact]
    exact fun x hx ↦ hfree x ((mem_remove _ _).2 x hx)
  | learn _ _ _ _ h =>
    rcases UNSStrategy.insert_cases h with ⟨-, rfl⟩ | ⟨path, prepared, hadm, hprep, hout⟩
    · exact hfree
    · obtain ⟨path', rfl, -⟩ := UNSStrategy.prepare_cases hprep
      refine hout.forall_iter hadm.ne_root hfree fun _ existing existing' _ _ hold htaken ↦ ?_
      exact htaken.id_eq ▸ hold

end Runs

/-- Nodes that have each got somewhere in a run of their own. -/
structure RunningNodes (k : Nat) where
  debug : Bool
  startupTime : NodeId → Instant
  node : NodeId → R2Kad (UnlimitedULNRoutingTable k 1)
  discovery : NodeId → HandleOverlayDiscovery
  reached : ∀ v, Reachable (R2Kad.step debug) (fun _ _ ↦ True)
    (R2Kad.start (.new v Nat.one_pos one_lt_64) (startupTime v)) (node v)

namespace RunningNodes

variable {k : Nat} (nodes : RunningNodes k)

/-- The routing table of a node. -/
def table (v : NodeId) : UnlimitedULNRoutingTable k 1 := (nodes.node v).context.routingTable

theorem inOrder (v : NodeId) : InOrder v (nodes.table v) := by
  have hnew := UnlimitedULNRoutingTable.healthy_new (k := k) v Nat.one_pos one_lt_64
  refine (nodes.reached v).invariant (I := fun node ↦ InOrder v node.context.routingTable)
    ⟨hnew, rfl⟩ fun _ _ _ hs _ hstep ↦ ?_
  refine R2Kad.step_keeps (I := InOrder v) (fun ha hmoves ↦ ?_) hs.1.tidy hs hstep
  exact hmoves.invariant (I := fun ctx ↦ InOrder v ctx.routingTable)
    (fun _ _ ha hmove ↦ hmove.inOrder ha) ha

/-- The network of these nodes. -/
def network : Network where
  node v :=
    { T := UnlimitedULNRoutingTable k 1
      k := k
      table := nodes.table v
      rootFree := (nodes.inOrder v).1.rootFree
      discovery := nodes.discovery v }
  root_eq v := (nodes.inOrder v).2

/-- **Running nodes do not forward in circles.**  Whatever each of them has been through, its table
has no id twice and not its own one, finds what it stores, and every next hop that it determines is
a valid contact and closer to the target.  A request that is sent on gets the path to such a contact
as well.  So no chain of nodes that forward to each other gets to a node twice. -/
theorem never_in_circles (target : NodeId) :
    (∀ v, ((iter (nodes.table v)).map Contact.id).Nodup ∧ ∀ c ∈ iter (nodes.table v),
      c.id ≠ v ∧ contact (nodes.table v) c.id = some c) ∧
    (∀ v debug g c, nextHop debug (nodes.table v) target g = .ok (.ok (some c)) →
      c ∈ iter (nodes.table v) ∧ c.isValid = true ∧ dist target c.id < dist target v) ∧
    (∀ v ssn req req', req.target = target →
      (nodes.discovery v).handleEvent (nodes.table v) ssn req = .ok (some (.findNodeReq req')) →
      ∃ c path, c.path = some path ∧
        req' = { req with sourceRoute := (req.sourceRoute.extend path).advance } ∧
        req'.destination = path.last ∧
        c ∈ iter (nodes.table v) ∧ c.isValid = true ∧ dist target c.id < dist target v) ∧
    ∀ chain : List NodeId, chain.IsChain (nodes.network.Forwards target) → chain.Nodup := by
  refine ⟨fun v ↦ ?_, fun v debug g c h ↦ ?_, fun v ssn req req' htarget h ↦ ?_,
    fun chain hchain ↦ ?_⟩
  · obtain ⟨⟨htidy, hfree⟩, hroot⟩ := nodes.inOrder v
    refine ⟨nodup_iter htidy, fun c hc ↦ ⟨?_, contact_of_mem htidy hc⟩⟩
    rw [hroot] at hfree
    exact hfree c hc
  · have hcloser := (nodes.network.node v).nextHop_closer h
    rwa [nodes.network.root_eq] at hcloser
  · obtain ⟨c, path, -, hsent⟩ := nodes.network.forwarded_closer htarget h
    exact ⟨c, path, hsent⟩
  · refine (Network.pairwise_of_isChain hchain).imp ?_
    rintro v w hlt rfl
    exact Nat.lt_irrefl _ hlt

end RunningNodes

/-! ## Lookups -/

/-- What a node does with a request once it has searched its table. -/
theorem HandleOverlayDiscovery.react_cases {T : Type} {k : Nat} [RoutingTable T k]
    {self : HandleOverlayDiscovery} {t : T} {req : ReqRspMessage FindNodeReqData}
    {found : List PrefixContact} (h : closest t req.target req.data.neighborhood
      self.sharedPrefixBitsGrouping = .ok (.ok found)) :
    (∃ c, self.react t req = .ok (.forward c)) ∨
    self.react t req = .ok (.respond (found.map Prod.snd)) ∨
    (req.exact = true ∧ req.target ≠ root t ∧ self.react t req = .ok .deadEnd) := by
  have hprogress (sp : SharedPrefix) (c : Contact) :
      ∃ b, self.makesProgress t req sp c = .ok b := by
    rw [makesProgress, NodeId.sharedPrefixLen_of_le _ _ self.grouping_le]
    exact ⟨_, rfl⟩
  simp only [react, h, ok_bind]
  by_cases htarget : req.target = root t
  · cases hexact : req.exact <;> simp [htarget]
  · have hne : (req.target == root t) = false := beq_false_of_ne htarget
    cases found with
    | nil => cases hexact : req.exact <;> simp [htarget, hne]
    | cons x found =>
      obtain ⟨b, hb⟩ := hprogress x.1 x.2
      cases hexact : req.exact <;> cases b <;> simp [htarget, hne, hb]

namespace RunningNodes

variable {k : Nat} (nodes : RunningNodes k)

/-- The message that a node sends upon a request. -/
def lookUp (v : NodeId) (req : ReqRspMessage FindNodeReqData) : Run (Option ProtocolMessage) :=
  (nodes.discovery v).handleEvent (nodes.table v) (nodes.node v).context.ulnTable.stateSeqNr req

/-- The request as it arrives at the end of its source route. -/
def arrived (req : ReqRspMessage FindNodeReqData) : ReqRspMessage FindNodeReqData :=
  req.withRoute fun route ↦ { route with progress := route.ids.length - 1 }

/-- A request that is at a node, the node that it gets to in the end, each time closer to the
target, and what that one answers. -/
inductive Answered :
    NodeId → ReqRspMessage FindNodeReqData → NodeId → ProtocolMessage → Prop
  | stop {v : NodeId} {req : ReqRspMessage FindNodeReqData} {answer : ProtocolMessage}
      (h : nodes.lookUp v req = .ok (some answer)) (hanswer : answer.kind ≠ .findNodeReq) :
      Answered v req v answer
  | pass {v last : NodeId} {req req' : ReqRspMessage FindNodeReqData} {answer : ProtocolMessage}
      (h : nodes.lookUp v req = .ok (some (.findNodeReq req')))
      (hcloser : dist req.target req'.destination < dist req.target v)
      (h' : Answered req'.destination (arrived req') last answer) : Answered v req last answer

/-- The node has answered with what it knows, or with a dead end if exactly the target is asked for
and the node is another one. -/
def Tells (req : ReqRspMessage FindNodeReqData) (last : NodeId) (answer : ProtocolMessage) : Prop :=
  (∃ rsp res omitted, answer = .findNodeRsp rsp ∧ rsp.data.contacts = res.map Prod.snd ∧
    Answer (candidatesOf (iter (nodes.table last)) req.target
      (nodes.discovery last).sharedPrefixBitsGrouping.get) req.data.neighborhood res omitted) ∨
  (∃ err, answer = .error err ∧ err.data = .deadEnd ∧ req.exact = true ∧ last ≠ req.target)

/-- **A lookup is answered.**  The request is passed on to nodes that are closer and closer to the
target, until one of them sends an answer back to the origin, with the nonce of the request.  All
that it takes is that the paths of valid contacts lead to them. -/
theorem lookup_answered (hpaths : ∀ v, ∀ c ∈ iter (nodes.table v), c.isValid = true →
      ∃ path, c.path = some path ∧ path.last = c.id)
    {v : NodeId} {req : ReqRspMessage FindNodeReqData} (hv : req.destination = v)
    (hrange : req.sourceRoute.InRange) :
    ∃ last answer, nodes.Answered v req last answer ∧
      dist req.target last ≤ dist req.target v ∧ answer.destination = some req.source ∧
      answer.commonHeader.msgId = req.commonHeader.msgId ∧ nodes.Tells req last answer := by
  induction hn : dist req.target v using Nat.strong_induction_on generalizing v req with
  | h n ih =>
    obtain ⟨⟨htidy, -⟩, hroot⟩ := nodes.inOrder v
    obtain ⟨found, omitted, hfound, hanswer⟩ := UnlimitedULNRoutingTable.closest_answer htidy.inner
      req.target req.data.neighborhood (nodes.discovery v).grouping_le
    have hsent : ∀ reaction answer, (nodes.discovery v).react (nodes.table v) req =
        .ok reaction → build v req (nodes.node v).context.ulnTable.stateSeqNr reaction =
        .ok answer → nodes.lookUp v req = .ok (some answer) := by
      intro reaction answer hreact hbuild
      simp [lookUp, handleEvent, hroot, hv, hreact, hbuild]
    obtain ⟨back, hback, hids, -⟩ := hrange.fromReversed_eq
    have hsource : back.destination = req.source := by
      simp [SourceRoute.destination, ReqRspMessage.source, SourceRoute.source, hids, List.head_take]
    rcases react_cases (t := nodes.table v) hfound with
      ⟨c, hreact⟩ | hreact | ⟨hexact, htarget, hreact⟩
    · obtain ⟨hmem, hvalid, hcloser⟩ := forward_closer hreact
      obtain ⟨path, hpath, hlast⟩ := hpaths v c hmem hvalid
      have hdest := (SourceRoute.destination_extend req.sourceRoute path).trans hlast
      have horigin : (req.sourceRoute.extend path).advance.source = req.source := by
        rw [SourceRoute.advance]
        split <;> exact List.head_append_of_ne_nil req.sourceRoute.ids_ne
      rw [hroot, ← hdest] at hcloser
      let req' := { req with sourceRoute := (req.sourceRoute.extend path).advance }
      obtain ⟨last, answer, hanswered, hdist, hback, hrest⟩ := ih _ (hn ▸ hcloser)
        (show (arrived req').destination = _ from rfl)
        ⟨Nat.le_sub_one_of_lt req'.sourceRoute.two_le, Nat.le_refl _⟩ rfl
      have hpassed := hsent _ (.findNodeReq req') hreact
        (by simp [build, buildFindNodeToNextHop, hpath, req'])
      exact ⟨last, answer, .pass hpassed hcloser hanswered, hdist.trans (hn ▸ hcloser.le),
        hback.trans (congrArg some horigin), hrest⟩
    · obtain ⟨rsp, hbuild, hdest, hid, hcontacts⟩ : ∃ rsp, build v req
          (nodes.node v).context.ulnTable.stateSeqNr (.respond (found.map Prod.snd)) =
          .ok (.findNodeRsp rsp) ∧ rsp.destination = back.destination ∧
          rsp.commonHeader.msgId = req.commonHeader.msgId ∧
          rsp.data.contacts = found.map Prod.snd := by
        simp only [build, buildFindNodeRsp, hback, ok_bind]
        exact ⟨_, rfl, rfl, rfl, rfl⟩
      exact ⟨v, _, .stop (hsent _ _ hreact hbuild) (by simp [ProtocolMessage.kind]), hn.le,
        congrArg some (hdest.trans hsource), hid,
        .inl ⟨rsp, found, omitted, rfl, hcontacts, hanswer⟩⟩
    · obtain ⟨err, hbuild, hdest, hid, hdead⟩ : ∃ err, build v req
          (nodes.node v).context.ulnTable.stateSeqNr .deadEnd = .ok (.error err) ∧
          err.destination = back.destination ∧
          err.commonHeader.msgId = req.commonHeader.msgId ∧ err.data = .deadEnd := by
        simp only [build, buildError, hback, ok_bind]
        exact ⟨_, rfl, rfl, rfl, rfl⟩
      exact ⟨v, _, .stop (hsent _ _ hreact hbuild) (by simp [ProtocolMessage.kind]), hn.le,
        congrArg some (hdest.trans hsource), hid,
          .inr ⟨err, rfl, hdead, hexact, hroot ▸ htarget.symm⟩⟩

/-! ### The node 1 is looked up -/

/-- The node 0 hears of its neighbour 1. -/
def heardOfOne : Run (R2Kad (UnlimitedULNRoutingTable 20 1)) :=
  runAll (R2Kad.step true) (.start R2Kad.nodeZero 0)
    [.input (.underlayUpdate (.interfaceUp 1)) (R2Kad.quiet 1),
      .input (.message (R2Kad.greeting 1) ⟨1, 1⟩) (R2Kad.quiet 2)]

/-- The node 9 looks up 1, and its request has got to 0. -/
def askForOne : ReqRspMessage FindNodeReqData :=
  ⟨.new .findNodeReq 9 1 7 .invalid 0, ⟨1, Nat.one_pos⟩, none, ⟨[9, 0], 1, by decide⟩⟩

def finestDiscovery : HandleOverlayDiscovery := ⟨.MIN, NonZeroU8.min_le_bits⟩

theorem heardOfOne_holds : heardOfOne.Holds fun node ↦
    (iter node.context.routingTable).map Contact.id = [1] ∧
      (∀ c ∈ iter node.context.routingTable, c.path.map Path.last = some c.id) ∧
      (finestDiscovery.handleEvent node.context.routingTable node.context.ulnTable.stateSeqNr
        askForOne).Holds fun message ↦ message.map ProtocolMessage.kind = some .findNodeReq := by
  decide +kernel

/-- The node 0 knows 1, so it sends the request on, and then it is answered. -/
theorem lookup_answered_by_one : ∃ (nodes : RunningNodes 20) (last : NodeId)
    (message answer : ProtocolMessage), (iter (nodes.table 0)).map Contact.id = [1] ∧
      nodes.lookUp 0 askForOne = .ok (some message) ∧ message.kind = .findNodeReq ∧
      nodes.Answered 0 askForOne last answer ∧ answer.destination = some 9 := by
  obtain ⟨node, hrun, hids, hlast, hsent⟩ := heardOfOne_holds.exists_ok
  obtain ⟨_, hmessage, hsome⟩ := hsent.exists_ok
  obtain ⟨message, rfl, hkind⟩ := Option.map_eq_some_iff.1 hsome
  let nodes : RunningNodes 20 :=
    { debug := true
      startupTime := fun _ ↦ 0
      node := fun v ↦ if v = 0 then node else .start (.new v Nat.one_pos one_lt_64) 0
      discovery := fun _ ↦ finestDiscovery
      reached := fun v ↦ by
        split
        · rename_i hv
          exact hv ▸ R2Kad.reachable_of_steps _ hrun
        · exact .start }
  have hpaths : ∀ v, ∀ c ∈ iter (nodes.table v), c.isValid = true →
      ∃ path, c.path = some path ∧ path.last = c.id := by
    intro v c hc _
    rw [table, show nodes.node v = if v = 0 then node else _ from rfl] at hc
    split at hc
    · exact Option.map_eq_some_iff.1 (hlast c hc)
    · exact absurd hc (UnlimitedULNRoutingTable.not_mem_iter_new c)
  obtain ⟨last, answer, hanswered, -, hdest, -⟩ := nodes.lookup_answered hpaths
    (show askForOne.destination = 0 from rfl) (by decide)
  exact ⟨nodes, last, message, answer, hids, hmessage, hkind, hanswered, hdest⟩

end RunningNodes

end Kira
