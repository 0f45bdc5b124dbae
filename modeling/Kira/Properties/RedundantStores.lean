import Kira.Domain.RoutingTable.Flat
import Kira.UseCases.DistributedHashTableInjector
import Mathlib.Data.Finset.Card
import Mathlib.Data.Finset.Insert

/-!
# How many copies of a value are sent

The redundancy factor of an injector counts the copies of a value, the one at the node closest to
the key included.  The lookup asks for that many contacts, and the node that responds to it is the
closest one, so with the responder there is one contact too many.  `handleResponse` resolves the
redundancy factor only to warn of too few contacts, and `initRedundantStore` sends the value to all
of them.

`storeOrders` is what is to be stored where.  When a lookup has been answered this is the value at
the responder and at the end of every path that is listed.
-/

set_option autoImplicit false

namespace Kira

open Run

theorem SourceRoute.last_extend (route : SourceRoute) (path : Path) :
    (route.extend path).destination = path.last :=
  List.getLast_append_of_ne_nil _ path.ids_ne

/-- The way back of a message leads to its origin. -/
theorem SourceRoute.fromReversed_of_pos {route : SourceRoute} (h : 1 ≤ route.progress) :
    ∃ back, route.fromReversed = .ok back ∧ back.destination = route.source := by
  have htwo : 2 ≤ ((route.ids.take (route.progress + 1)).reverse).length := by
    have := route.two_le
    simp only [List.length_reverse, List.length_take]
    omega
  refine ⟨_, dif_pos htwo, ?_⟩
  simp [destination, source, List.head_take]

theorem SourceRoute.fromReversed_of_zero {route : SourceRoute} (h : route.progress = 0) :
    ∃ message, route.fromReversed = .panic message := by
  have hone : ¬2 ≤ ((route.ids.take (route.progress + 1)).reverse).length := by
    simp only [h, List.length_reverse, List.length_take]
    omega
  exact ⟨_, dif_neg hone⟩

namespace DistributedHashTableInjector

/-! ## What is to be stored where -/

/-- A value that is sent to a node. -/
def storeOrder : InjectorOutput → Option (StoreReqData LHTInput × NodeId)
  | .sends (.storeReq req) _ => some (req.data, req.destination)
  | _ => none

/-- The values that are sent, with their nodes. -/
def storeOrders (outputs : List InjectorOutput) : List (StoreReqData LHTInput × NodeId) :=
  outputs.filterMap storeOrder

/-- From one state to another, the values are sent to the nodes. -/
def Orders (self self' : DistributedHashTableInjector)
    (orders : List (StoreReqData LHTInput × NodeId)) : Prop :=
  ∃ sent, self'.outputs = self.outputs ++ sent ∧ storeOrders sent = orders

section

variable {self self' self'' : DistributedHashTableInjector}
  {orders orders' : List (StoreReqData LHTInput × NodeId)} {ulnTable : InMemoryULNTable}
  {rootId : NodeId} {payload : StoreReqData LHTInput} {route : SourceRoute} {nonce : Nonce}

theorem Orders.trans (h : self.Orders self' orders) (h' : self'.Orders self'' orders') :
    self.Orders self'' (orders ++ orders') := by
  obtain ⟨sent, hsent, rfl⟩ := h
  obtain ⟨sent', hsent', rfl⟩ := h'
  refine ⟨sent ++ sent', ?_, List.filterMap_append⟩
  rw [hsent', hsent, List.append_assoc]

/-- There is only one answer to what has been ordered. -/
theorem Orders.unique (h : self.Orders self' orders) (h' : self.Orders self' orders') :
    orders = orders' := by
  obtain ⟨sent, hsent, rfl⟩ := h
  obtain ⟨sent', hsent', rfl⟩ := h'
  rw [List.append_cancel_left (hsent.symm.trans hsent')]

variable (self) (ulnTable) (rootId) (nonce) (payload)

theorem sendStoreReq_orders (hrange : route.InRange) :
    ∃ self', self.sendStoreReq ulnTable rootId nonce payload route = .ok self' ∧
      self.Orders self' [(payload, route.destination)] := by
  obtain ⟨hop, hhop⟩ := hrange.currentHop
  simp only [sendStoreReq, send]
  rw [sendReq_eq rfl hhop, sendMessage_of_route rfl hhop]
  exact ⟨_, rfl, _, rfl, rfl⟩

theorem foldlM_sendStoreReq_orders (hrange : route.InRange) (paths : List Path) :
    ∃ self', paths.foldlM (fun self path ↦
        sendStoreReq self ulnTable rootId nonce payload (route.extend path)) self = .ok self' ∧
      self.Orders self' (paths.map fun path ↦ (payload, path.last)) := by
  induction paths generalizing self with
  | nil => exact ⟨self, rfl, [], by simp, rfl⟩
  | cons path paths ih =>
    obtain ⟨mid, hmid, horders⟩ :=
      sendStoreReq_orders self ulnTable rootId payload nonce (hrange.extend path)
    obtain ⟨self', hself', hrest⟩ := ih mid
    rw [SourceRoute.last_extend] at horders
    refine ⟨self', ?_, horders.trans hrest⟩
    rw [List.foldlM_cons, hmid]
    exact hself'

theorem initRedundantStore_orders (hrange : route.InRange) (paths : List Path) (restore : Bool) :
    ∃ self', self.initRedundantStore ulnTable rootId payload route paths nonce restore = .ok self' ∧
      self.Orders self'
        ((payload, route.destination) :: paths.map fun path ↦ (payload, path.last)) := by
  obtain ⟨first, hfirst, horders⟩ := sendStoreReq_orders self ulnTable rootId payload nonce hrange
  obtain ⟨mid, hmid, hrest⟩ :=
    foldlM_sendStoreReq_orders first ulnTable rootId payload nonce hrange paths
  simp only [initRedundantStore, hfirst, hmid, ok_bind]
  -- the timer is registered behind all that is sent
  have htimer : mid.Orders (mid.registerPendingReq nonce .storeRsp (.timeoutRedundantStoreReq nonce)
      (.registerStoreRsp payload route.destination restore)) [] := ⟨[.timer _ _], rfl, rfl⟩
  have hall := (horders.trans hrest).trans htimer
  rw [List.append_nil] at hall
  exact ⟨_, rfl, hall⟩

end

/-! ## The response to a lookup -/

/-- The nodes that a response lists a path to. -/
def listedNodes (rsp : ReqRspMessage RTableData) : List NodeId :=
  (rsp.data.contacts.filterMap Contact.path).map Path.last

/-- What is ordered when the lookup has been answered. -/
def redundantOrders (payload : StoreReqData LHTInput) (rsp : ReqRspMessage RTableData) :
    List (StoreReqData LHTInput × NodeId) :=
  (rsp.source :: listedNodes rsp).map fun node ↦ (payload, node)

section

variable {T : Type} {k : Nat} [RoutingTable T k] {o : Occurrence T}
  {self : DistributedHashTableInjector} {rsp : ReqRspMessage RTableData}
  {payload : StoreReqData LHTInput} {redundancy : Nat}

/-- The response is one to a pending lookup of an injector with this redundancy factor. -/
structure AnswersLookup (injector : DistributedHashTableInjector) (bucketSize : Nat)
    (o : Occurrence T) (rsp : ReqRspMessage RTableData) (payload : StoreReqData LHTInput)
    (redundancy : Nat) : Prop where
  event : o.event = .message (.findNodeRsp rsp)
  pending : ∃ restore, injector.pendingReqs.lookup rsp.commonHeader.msgId =
    some ⟨.findNodeRsp, .sendRedundantStoreReqs payload restore⟩
  resolved : injector.redundancyFactor.resolve bucketSize = .ok redundancy

theorem handleEvent_of_answersLookup (debug : Bool)
    (h : self.AnswersLookup k o rsp payload redundancy) :
    ∃ restore, self.handleEvent debug o = (do
      let sourceRoute ← rsp.sourceRoute.fromReversed
      let self ← (self.removePendingReq rsp.commonHeader.msgId).initRedundantStore
        o.context.ulnTable (RoutingTable.root o.context.routingTable) payload sourceRoute
        (rsp.data.contacts.filterMap Contact.path) rsp.commonHeader.msgId restore
      return (.ok (), self)) := by
  obtain ⟨restore, hpending⟩ := h.pending
  have hmsgId : (ProtocolMessage.findNodeRsp rsp).msgId = some rsp.commonHeader.msgId := rfl
  have hkind : (ProtocolMessage.findNodeRsp rsp).kind = .findNodeRsp := rfl
  have hresolved : (self.removePendingReq rsp.commonHeader.msgId).redundancyFactor.resolve k =
    .ok redundancy := h.resolved
  refine ⟨restore, ?_⟩
  simp [handleEvent, h.event, handleMessage, hmsgId, hkind, hpending, ResponseHook.completedBy,
    handleResponse, hresolved]

theorem handleEvent_orders (debug : Bool)
    (h : self.AnswersLookup k o rsp payload redundancy)
    (hprogress : 1 ≤ rsp.sourceRoute.progress) :
    ∃ self', self.handleEvent debug o = .ok (.ok (), self') ∧
      self.Orders self' (redundantOrders payload rsp) := by
  obtain ⟨restore, hevent⟩ := handleEvent_of_answersLookup debug h
  obtain ⟨route, hroute, hdest⟩ := SourceRoute.fromReversed_of_pos hprogress
  obtain ⟨self', hself', horders⟩ := initRedundantStore_orders
    (self.removePendingReq rsp.commonHeader.msgId) o.context.ulnTable
    (RoutingTable.root o.context.routingTable) payload rsp.commonHeader.msgId
    (SourceRoute.InRange.fromReversed hroute) (rsp.data.contacts.filterMap Contact.path) restore
  refine ⟨self', ?_, ?_⟩
  · rw [hevent, hroute, ok_bind, hself']
    rfl
  · rw [hdest] at horders
    rw [redundantOrders, listedNodes, List.map_cons, List.map_map]
    exact horders

/-- From one state to another, the value is sent to so many distinct nodes: the responder, and all
but one of them listed. -/
def StoredRedundantly (self self' : DistributedHashTableInjector)
    (payload : StoreReqData LHTInput) (rsp : ReqRspMessage RTableData) (redundancy : Nat) : Prop :=
  ∃ orders, self.Orders self' orders ∧ (∀ order ∈ orders, order.1 = payload) ∧
    ∃ copies : Finset NodeId, copies ⊆ (listedNodes rsp).toFinset ∧ rsp.source ∉ copies ∧
      copies.card = redundancy - 1 ∧ (orders.map Prod.snd).toFinset = insert rsp.source copies

theorem storedRedundantly_iff {self' : DistributedHashTableInjector}
    (h : self.Orders self' (redundantOrders payload rsp)) :
    self.StoredRedundantly self' payload rsp redundancy ↔
      ((listedNodes rsp).toFinset.erase rsp.source).card = redundancy - 1 := by
  have hnodes : ((redundantOrders payload rsp).map Prod.snd).toFinset =
      insert rsp.source (listedNodes rsp).toFinset := by
    simp [redundantOrders, Function.comp_def]
  constructor
  · rintro ⟨orders, horders, -, copies, -, hsource, hcard, heq⟩
    rw [horders.unique h, hnodes] at heq
    rw [← hcard, ← Finset.erase_insert hsource, ← heq, Finset.erase_insert_eq_erase]
  · intro hcard
    refine ⟨_, h, ?_, _, Finset.erase_subset _ _, Finset.notMem_erase _ _, hcard, ?_⟩
    · simp [redundantOrders]
    · rw [hnodes]
      ext node
      by_cases hnode : node = rsp.source <;> simp [hnode]

end

end DistributedHashTableInjector

open DistributedHashTableInjector

/-- **How many copies of a value are sent depends on what the response lists.**  It is the
redundancy factor if and only if the nodes that are listed, without the responder, are one less.  A
response whose route has not been travelled cannot be turned round. -/
theorem stored_redundantly_iff {T : Type} {k : Nat} [RoutingTable T k] (debug : Bool)
    {self : DistributedHashTableInjector} {o : Occurrence T} {rsp : ReqRspMessage RTableData}
    {payload : StoreReqData LHTInput} {redundancy : Nat}
    (h : self.AnswersLookup k o rsp payload redundancy) :
    (∃ self', self.handleEvent debug o = .ok (.ok (), self') ∧
        self.StoredRedundantly self' payload rsp redundancy) ↔
      1 ≤ rsp.sourceRoute.progress ∧
        ((listedNodes rsp).toFinset.erase rsp.source).card = redundancy - 1 := by
  rcases Nat.eq_zero_or_pos rsp.sourceRoute.progress with hzero | hpos
  · obtain ⟨restore, hevent⟩ := handleEvent_of_answersLookup debug h
    obtain ⟨message, hpanic⟩ := SourceRoute.fromReversed_of_zero hzero
    rw [hpanic] at hevent
    constructor
    · rintro ⟨self', hself', -⟩
      rw [hevent] at hself'
      cases hself'
    · rintro ⟨hpos, -⟩
      omega
  · obtain ⟨self', hself', horders⟩ := handleEvent_orders debug h hpos
    rw [← storedRedundantly_iff horders]
    constructor
    · rintro ⟨other, hother, hstored⟩
      obtain ⟨-, rfl⟩ := ok_mk_inj (hself'.symm.trans hother)
      exact ⟨hpos, hstored⟩
    · rintro ⟨-, hstored⟩
      exact ⟨self', hself', hstored⟩

namespace DistributedHashTableInjector

/-- An event at a node that knows of no other. -/
def Occurrence.isolated (event : Event) : Occurrence (FlatRoutingTable 20 1) where
  event := event
  context := ⟨.new 5 Nat.one_pos one_lt_64, .new⟩
  drawn := 9
  listening _ := true

/-- Node 3 responds to the lookup for nonce 0, and lists one path. -/
def listing (ids : List NodeId) (h : ids ≠ []) : ReqRspMessage RTableData where
  commonHeader := .new .findNodeRsp 3 5 0 .invalid 0
  data := ⟨[.ofIds ids h .MIN]⟩
  notVia := none
  sourceRoute := .new 3 (.via 5 [])

/-- An injector that is to make one copy of each value, and has looked up where that of nonce 0
belongs. -/
def oneCopy : DistributedHashTableInjector :=
  (start (.fixed 1 Nat.one_pos)).registerPendingReq 0 .findNodeRsp (.timeoutFindNodeReq 0)
    (.sendRedundantStoreReqs ⟨4, [7], none⟩ false)

theorem answersLookup_listing (ids : List NodeId) (h : ids ≠ []) :
    oneCopy.AnswersLookup 20 (.isolated (.message (.findNodeRsp (listing ids h))))
      (listing ids h) ⟨4, [7], none⟩ 1 :=
  ⟨rfl, ⟨false, rfl⟩, rfl⟩

end DistributedHashTableInjector

/-- The responder lists no other node, so the one copy goes to it, and it receives that twice. -/
theorem stored_redundantly_at_responder : ∃ self',
    oneCopy.handleEvent true (.isolated (.message (.findNodeRsp (listing [3] (by decide))))) =
      .ok (.ok (), self') ∧
    oneCopy.StoredRedundantly self' ⟨4, [7], none⟩ (listing [3] (by decide)) 1 :=
  (stored_redundantly_iff true (answersLookup_listing [3] (by decide))).2 ⟨by decide, by decide⟩

/-- **One copy is asked for and two are sent.**  A value is injected for key 4.  Node 3 responds to
the lookup and lists one contact, node 4, and the value is sent to both. -/
theorem one_copy_becomes_two : ∃ injected stored,
    (start (.fixed 1 Nat.one_pos)).handleEvent true
      (.isolated (.injectStore (some 0) ⟨4, [7], false⟩ 0)) = .ok (.ok (), injected) ∧
    injected.AnswersLookup 20 (.isolated (.message (.findNodeRsp (listing [4] (by decide)))))
      (listing [4] (by decide)) ⟨4, [7], none⟩ 1 ∧
    1 ≤ (listedNodes (listing [4] (by decide))).length ∧
    injected.handleEvent true (.isolated (.message (.findNodeRsp (listing [4] (by decide))))) =
      .ok (.ok (), stored) ∧
    injected.Orders stored [(⟨4, [7], none⟩, 3), (⟨4, [7], none⟩, 4)] ∧
    ¬injected.StoredRedundantly stored ⟨4, [7], none⟩ (listing [4] (by decide)) 1 := by
  refine ⟨_, _, rfl, ⟨rfl, ⟨false, rfl⟩, rfl⟩, by decide, rfl, ⟨_, rfl, rfl⟩, ?_⟩
  rw [storedRedundantly_iff ⟨_, rfl, rfl⟩]
  decide

end Kira
