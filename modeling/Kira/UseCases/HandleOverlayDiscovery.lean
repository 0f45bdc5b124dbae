import Kira.Domain.ProtocolMessage
import Kira.Domain.RoutingTable.Lawful

/-!
# Answering and forwarding overlay discovery

A `FindNodeReq` asks for the contacts close to a target.  It travels from one overlay hop to the
next, along a source route that each of them extends by the path to the next one.  The handler of an
overlay hop looks its own table up and reacts in one of three ways: it forwards the request to the
closest contact it knows if that one is closer to the target than itself, it responds with the
contacts it knows, or it reports a dead end.

`react` is that decision and `build` makes the message of it; the source does both in one `match`.
-/

set_option autoImplicit false

namespace Kira

open Run XorMetric

/-! ## The handler -/

/-- The handler, with a grouping that has been checked. -/
structure HandleOverlayDiscovery where
  sharedPrefixBitsGrouping : NonZeroU8
  grouping_le : sharedPrefixBitsGrouping.get ≤ NodeId.BITS

namespace HandleOverlayDiscovery

def new (sharedPrefixBitsGrouping : NonZeroU8) : Except GroupingError HandleOverlayDiscovery :=
  if h : sharedPrefixBitsGrouping.get > NodeId.BITS then
    .error (.invalid sharedPrefixBitsGrouping)
  else .ok ⟨sharedPrefixBitsGrouping, NonZeroU8.le_bits h⟩

/-- What the handler does with a request. -/
inductive Reaction where
  | forward (nextContact : Contact)
  | respond (contacts : List Contact)
  | deadEnd

section

variable {T : Type} {k : Nat} [RoutingTable T k]

/-- The closest contact is passed on to only if it is closer to the target than this node, and not
where the request comes from. -/
def makesProgress (self : HandleOverlayDiscovery) (t : T) (req : ReqRspMessage FindNodeReqData)
    (closestKnownDistance : SharedPrefix) (contact : Contact) : Run Bool :=
  match (RoutingTable.root t).sharedPrefixLen req.target self.sharedPrefixBitsGrouping with
  | .ok ownDistance =>
    return decide (closestKnownDistance.lt ownDistance) && req.source != contact.id
  | .error _ => .panic "grouping was checked on init"

def react (self : HandleOverlayDiscovery) (t : T) (req : ReqRspMessage FindNodeReqData) :
    Run Reaction := do
  match ← RoutingTable.closest t req.target req.data.neighborhood
      self.sharedPrefixBitsGrouping with
  | .error _ => .panic "grouping has to be checked on initialization"
  | .ok closest =>
    match req.exact, req.target == RoutingTable.root t, closest.head? with
    | true, true, _ => return .respond (closest.map Prod.snd)
    | true, false, some (closestKnownDistance, contact) =>
      if ← self.makesProgress t req closestKnownDistance contact then return .forward contact
      else return .deadEnd
    | true, false, none => return .deadEnd
    | false, true, _ => return .respond (closest.map Prod.snd)
    | false, false, some (closestKnownDistance, contact) =>
      if ← self.makesProgress t req closestKnownDistance contact then return .forward contact
      else return .respond (closest.map Prod.snd)
    | false, false, none => return .respond []

end

def buildFindNodeToNextHop (req : ReqRspMessage FindNodeReqData) (nextContact : Contact) :
    Run ProtocolMessage := do
  let path ← unwrap nextContact.path
  return .findNodeReq { req with sourceRoute := (req.sourceRoute.extend path).advance }

def buildFindNodeRsp (ownId : NodeId) (req : ReqRspMessage FindNodeReqData) (ssn : SafeStateSeqNr)
    (contacts : List Contact) : Run ProtocolMessage := do
  let sourceRoute ← req.sourceRoute.fromReversed
  return .findNodeRsp
    { commonHeader := .new .findNodeRsp ownId req.commonHeader.srcNodeId req.commonHeader.msgId
        (.value ssn) req.commonHeader.srcNodeDegree.toNat
      data := ⟨contacts⟩
      notVia := req.notVia
      sourceRoute := sourceRoute }

def buildError (ownId : NodeId) (req : ReqRspMessage FindNodeReqData) (ssn : SafeStateSeqNr) :
    Run ProtocolMessage := do
  let sourceRoute ← req.sourceRoute.fromReversed
  return .error
    { commonHeader := .new .error ownId req.commonHeader.srcNodeId req.commonHeader.msgId
        (.value ssn) req.commonHeader.srcNodeDegree.toNat
      data := .deadEnd
      notVia := none
      sourceRoute := sourceRoute }

def build (ownId : NodeId) (req : ReqRspMessage FindNodeReqData) (ssn : SafeStateSeqNr) :
    Reaction → Run ProtocolMessage
  | .forward nextContact => buildFindNodeToNextHop req nextContact
  | .respond contacts => buildFindNodeRsp ownId req ssn contacts
  | .deadEnd => buildError ownId req ssn

variable {T : Type} {k : Nat} [RoutingTable T k]

/-- The message sent upon a request, if this node is its next overlay hop. -/
def handleEvent (self : HandleOverlayDiscovery) (t : T) (ssn : SafeStateSeqNr)
    (req : ReqRspMessage FindNodeReqData) : Run (Option ProtocolMessage) :=
  if req.destination ≠ RoutingTable.root t then return none
  else do
    let reaction ← self.react t req
    let message ← build (RoutingTable.root t) req ssn reaction
    return some message

/-! ## What is forwarded, and to whom -/

/-- A request that is sent on is the one received, its way extended by the path to the contact
chosen. -/
theorem react_of_forwarded {self : HandleOverlayDiscovery} {t : T} {ssn : SafeStateSeqNr}
    {req req' : ReqRspMessage FindNodeReqData}
    (h : self.handleEvent t ssn req = .ok (some (.findNodeReq req'))) :
    ∃ c path, self.react t req = .ok (.forward c) ∧ c.path = some path ∧
      req' = { req with sourceRoute := (req.sourceRoute.extend path).advance } := by
  rw [handleEvent] at h
  split at h
  · simp at h
  · obtain ⟨reaction, hreact, h⟩ := of_bind h
    obtain ⟨message, hbuild, h⟩ := of_bind h
    obtain rfl : message = .findNodeReq req' := by simpa using h
    cases reaction with
    | forward c =>
      obtain ⟨path, hpath, hbuild⟩ := of_bind hbuild
      refine ⟨c, path, hreact, expect_eq_ok.1 hpath, ?_⟩
      simpa using hbuild.symm
    | respond contacts | deadEnd =>
      obtain ⟨route, -, hbuild⟩ := of_bind hbuild
      simp at hbuild

variable [LawfulRoutingTable T k]

/-- **A request is only forwarded to a valid contact of the table that is closer to the target.** -/
theorem forward_closer {self : HandleOverlayDiscovery} {t : T}
    {req : ReqRspMessage FindNodeReqData} {c : Contact} (h : self.react t req = .ok (.forward c)) :
    c ∈ RoutingTable.iter t ∧ c.isValid = true ∧
      dist req.target c.id < dist req.target (RoutingTable.root t) := by
  obtain ⟨r, hclosest, h⟩ := of_bind h
  cases r with
  | error err => simp at h
  | ok closest =>
    -- both kinds of requests are forwarded under the same condition
    have hprogress : ∃ sp, closest.head? = some (sp, c) ∧
        self.makesProgress t req sp c = .ok true := by
      simp only at h
      split at h
      · simp at h
      · rename_i sp c' _ _ hhead
        obtain ⟨b, hb, h⟩ := of_bind h
        cases b with
        | true =>
          obtain rfl : c' = c := by simpa using h
          exact ⟨sp, hhead, hb⟩
        | false => simp at h
      · simp at h
      · simp at h
      · rename_i sp c' _ _ hhead
        obtain ⟨b, hb, h⟩ := of_bind h
        cases b with
        | true =>
          obtain rfl : c' = c := by simpa using h
          exact ⟨sp, hhead, hb⟩
        | false => simp at h
      · simp at h
    obtain ⟨sp, hhead, hprogress⟩ := hprogress
    obtain ⟨-, hmem⟩ := LawfulRoutingTable.mem_closest hclosest
    obtain ⟨hstored, hvalid, hshared⟩ :=
      mem_candidatesOf.1 (hmem (sp, c) (List.mem_of_mem_head? (Option.mem_def.2 hhead)))
    refine ⟨hstored, hvalid, ?_⟩
    rw [makesProgress, NodeId.sharedPrefixLen_of_le _ _ self.grouping_le,
      NodeId.sharedPrefix_comm (RoutingTable.root t)] at hprogress
    simp only [pure_eq, ok.injEq, Bool.and_eq_true, decide_eq_true_eq] at hprogress
    rw [← NodeId.sharedPrefix_lt_iff req.target c.id _ self.sharedPrefixBitsGrouping.get]
    exact hshared ▸ hprogress.1

end HandleOverlayDiscovery

end Kira
