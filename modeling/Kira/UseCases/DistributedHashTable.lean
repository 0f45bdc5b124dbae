import Kira.Domain.LocalHashTable
import Kira.Domain.RoutingTable

/-!
# The distributed hash table

A pair of a key and a value is to be kept by the node whose id is closest to the key.  A request to
store one is sent towards the key: each overlay hop passes it on to the next hop that its routing
table has for the key, by extending the source route.

`handleStoreReq` only stores the pair if the node is the destination itself, and answers with a dead
end if there is no next hop.  Timers, lookups and republishing are in
`UseCases.DistributedHashTable.Running`.
-/

set_option autoImplicit false

namespace Kira

open Run hiding ok

/-- How many copies of a value are made, the one at the closest node included. -/
inductive RedundancyFactor where
  | bucketSize
  | fixed (redundancy : Nat) (pos : 0 < redundancy)

def RedundancyFactor.resolve (self : RedundancyFactor) (bucketSize : Nat) : Run Nat :=
  match self with
  | .bucketSize => do
    assert (0 < bucketSize) "bucket size > 0"
    return bucketSize
  | .fixed redundancy _ => return redundancy

/-! ## Sending requests -/

section

variable {T : Type} {k : Nat} [RoutingTable T k]

/-- A request for a key, on the way to the first overlay hop.  If there is none, the node sends it
to itself. -/
def constructReqRspMsgKbr {δ : Type} (debug : Bool) (t : T) (ulnTable : InMemoryULNTable)
    (pdutype : ProtocolMessageKind) (nonce : Nonce) (overlayDestination : NodeId) (data : δ) :
    Run (ReqRspMessage δ) := do
  match ← RoutingTable.nextHop debug t overlayDestination .MIN with
  | .error _ => .panic "Shared Prefix Grouping should be valid"
  | .ok closestNode =>
    let rootId := RoutingTable.root t
    let path := (closestNode.bind Contact.path).getD (.ofIds [rootId] (List.cons_ne_nil _ _))
    return { commonHeader := .new pdutype rootId overlayDestination nonce
               (.value ulnTable.stateSeqNr) ulnTable.size
             data := data
             notVia := none
             sourceRoute := .new rootId path }

/-- Sends a request to its first hop, which may be the node itself. -/
def sendReq (message : ProtocolMessage) (ulnTable : InMemoryULNTable) (rootId : NodeId) :
    Run (List Effect) := do
  let currentHop ← unwrap (← message.currentHop)
  if currentHop = rootId then return [.broadcastEvent message]
  else sendMessage message ulnTable rootId

def sendStoreReqKbr (debug : Bool) (t : T) (ulnTable : InMemoryULNTable) (nonce : Nonce)
    (data : StoreReqData LHTInput) (destination : NodeId) : Run (List Effect) := do
  let message ← constructReqRspMsgKbr debug t ulnTable .storeReq nonce destination data
  sendReq (.storeReq message) ulnTable (RoutingTable.root t)

variable {debug : Bool} {t : T} {destination : NodeId}

theorem constructReqRspMsgKbr_eq {δ : Type} {closest : Option Contact}
    (h : RoutingTable.nextHop debug t destination .MIN = .ok (.ok closest))
    (ulnTable : InMemoryULNTable) (pdutype : ProtocolMessageKind) (nonce : Nonce) (data : δ) :
    ∃ message : ReqRspMessage δ,
      constructReqRspMsgKbr debug t ulnTable pdutype nonce destination data = .ok message ∧
      message.commonHeader.destId = destination ∧ message.data = data ∧
      message.sourceRoute = .new (RoutingTable.root t)
        ((closest.bind Contact.path).getD
          (.ofIds [RoutingTable.root t] (List.cons_ne_nil _ _))) := by
  rw [constructReqRspMsgKbr, h]
  exact ⟨_, rfl, rfl, rfl, rfl⟩

/-- A node sends to itself what has it as first hop, which is what `sendMessage` does as well. -/
theorem sendReq_eq {message : ProtocolMessage} {route : SourceRoute} {hop : NodeId}
    (hroute : message.sourceRoute = some route) (hhop : route.currentHop = .ok hop)
    (ulnTable : InMemoryULNTable) (rootId : NodeId) :
    sendReq message ulnTable rootId = sendMessage message ulnTable rootId := by
  have hcurrent : message.currentHop = .ok (some hop) := by
    rw [ProtocolMessage.currentHop_of_route hroute, hhop]
    rfl
  simp only [sendReq, hcurrent, ok_bind, expect_some, pure_eq]
  split
  · rename_i hroot
    rw [sendMessage, hcurrent, ok_bind]
    simp [hroot]
  · rfl

end

/-! ## Handling requests -/

/-- The use case, with a grouping that has been checked. -/
structure DistributedHashTable (H : Type) where
  sharedPrefixBitsGrouping : NonZeroU8
  grouping_le : sharedPrefixBitsGrouping.get ≤ NodeId.BITS
  hashTable : H

namespace DistributedHashTable

variable {H : Type}

def new [LocalHashTable H] (sharedPrefixBitsGrouping : NonZeroU8) :
    Except GroupingError (DistributedHashTable H) :=
  if h : sharedPrefixBitsGrouping.get > NodeId.BITS then
    .error (.invalid sharedPrefixBitsGrouping)
  else .ok ⟨sharedPrefixBitsGrouping, NonZeroU8.le_bits h, LocalHashTable.default⟩

def sendStoreRsp (rootId : NodeId) (ulnTable : InMemoryULNTable) (storeRes : StoreResult)
    (msgid : Nonce) (sourceRoute : SourceRoute) : Run (List Effect) :=
  let rsp : ReqRspMessage StoreRspData :=
    { commonHeader := .new .storeRsp rootId sourceRoute.destination msgid
        (.value ulnTable.stateSeqNr) ulnTable.size
      data := ⟨storeRes⟩
      notVia := none
      sourceRoute := sourceRoute }
  sendMessage (.storeRsp rsp) ulnTable rootId

def sendDeadEnd (rootId : NodeId) (ulnTable : InMemoryULNTable) (msgid : Nonce)
    (sourceRoute : SourceRoute) : Run (List Effect) :=
  let rsp : ReqRspMessage ErrorData :=
    { commonHeader := .new .error rootId sourceRoute.destination msgid
        (.value ulnTable.stateSeqNr) ulnTable.size
      data := .deadEnd
      notVia := none
      sourceRoute := sourceRoute }
  sendMessage (.error rsp) ulnTable rootId

theorem sendStoreRsp_eq {sourceRoute : SourceRoute} (hrange : sourceRoute.InRange)
    (rootId : NodeId) (ulnTable : InMemoryULNTable) (storeRes : StoreResult) (msgid : Nonce) :
    ∃ effects, sendStoreRsp rootId ulnTable storeRes msgid sourceRoute = .ok effects ∧
      ∀ effect ∈ effects, effect.message.kind = .storeRsp :=
  sendMessage_of_inRange rfl hrange ulnTable rootId

theorem sendDeadEnd_eq {sourceRoute : SourceRoute} (hrange : sourceRoute.InRange)
    (rootId : NodeId) (ulnTable : InMemoryULNTable) (msgid : Nonce) :
    ∃ effects, sendDeadEnd rootId ulnTable msgid sourceRoute = .ok effects ∧
      ∀ effect ∈ effects, effect.message.kind = .error :=
  sendMessage_of_inRange rfl hrange ulnTable rootId

variable [LocalHashTable H]

/-- Stores the pair of a request.  Requests that republish a pair are not answered. -/
def store (self : DistributedHashTable H) (rootId : NodeId) (ulnTable : InMemoryULNTable)
    (now : Timestamp) (message : ReqRspMessage (StoreReqData LHTInput)) :
    Run (DistributedHashTable H × List Effect) := do
  let key := message.data.handle
  let (result, hashTable) := LocalHashTable.store self.hashTable key message.data.data
  match result, message.data.lastAccessedMs with
  | .ok _, some lastAccessed =>
    let lastAccessed ← expect (Instant.checkedSub now lastAccessed)
      "relative last_accessed underflow"
    let hashTable ← expect (LocalHashTable.access hashTable key lastAccessed)
      "metadata present for successfully stored key-value pair"
    return ({ self with hashTable }, [])
  | .ok ok, none =>
    let hashTable ← expect (LocalHashTable.access hashTable key now)
      "metadata present for successfully stored key-value pair"
    let sourceRoute ← message.sourceRoute.fromReversed
    let effects ← sendStoreRsp rootId ulnTable (.ok ok) message.commonHeader.msgId sourceRoute
    return ({ self with hashTable }, effects)
  | .error err, _ =>
    let sourceRoute ← message.sourceRoute.fromReversed
    let effects ← sendStoreRsp rootId ulnTable (.error err) message.commonHeader.msgId sourceRoute
    return ({ self with hashTable }, effects)

/-- A value is stored for good, and nothing but a response is sent. -/
theorem store_eq [LawfulLocalHashTable H] (self : DistributedHashTable H) (rootId : NodeId)
    (ulnTable : InMemoryULNTable) (now : Timestamp)
    {message : ReqRspMessage (StoreReqData LHTInput)} (hrange : message.sourceRoute.InRange) :
    ∃ hashTable effects values,
      self.store rootId ulnTable now message = .ok ({ self with hashTable }, effects) ∧
      LocalHashTable.fetch hashTable message.data.handle = .ok values ∧
      message.data.data ∈ values ∧ ∀ effect ∈ effects, effect.message.kind = .storeRsp := by
  generalize hres : LocalHashTable.store self.hashTable message.data.handle message.data.data = res
  obtain ⟨ok, hok⟩ :=
    LawfulLocalHashTable.store_ok self.hashTable message.data.handle message.data.data
  obtain ⟨values, hfetch, hmem⟩ :=
    LawfulLocalHashTable.fetch_store self.hashTable message.data.handle message.data.data
  obtain ⟨result, stored⟩ := res
  rw [hres] at hok hfetch
  obtain rfl : result = .ok ok := hok
  have haccess (time : Instant) : ∃ hashTable,
      LocalHashTable.access stored message.data.handle time = some hashTable ∧
      LocalHashTable.fetch hashTable message.data.handle = .ok values := by
    obtain ⟨hashTable, h⟩ := Option.isSome_iff_exists.1
      (LawfulLocalHashTable.access_isSome time hfetch)
    exact ⟨hashTable, h, (LawfulLocalHashTable.fetch_access h).trans hfetch⟩
  rw [store]
  simp only [hres]
  cases message.data.lastAccessedMs with
  | some age =>
    obtain ⟨time, htime⟩ := Option.isSome_iff_exists.1 (Instant.checkedSub_isSome now age)
    obtain ⟨hashTable, hhash, hkept⟩ := haccess time
    exact ⟨hashTable, [], values, by simp [htime, hhash], hkept, hmem, by simp⟩
  | none =>
    obtain ⟨hashTable, hhash, hkept⟩ := haccess now
    obtain ⟨back, hback, -⟩ := hrange.fromReversed_eq
    obtain ⟨effects, hsend, hkind⟩ := sendStoreRsp_eq (.fromReversed hback) rootId ulnTable
      (.ok ok) message.commonHeader.msgId
    exact ⟨hashTable, effects, values, by simp [hhash, hback, hsend], hkept, hmem, hkind⟩

variable {T : Type} {k : Nat} [RoutingTable T k]

/-- Passes a request on to the next overlay hop. -/
def routeStoreReq (debug : Bool) (self : DistributedHashTable H) (t : T)
    (ulnTable : InMemoryULNTable) (message : ReqRspMessage (StoreReqData LHTInput)) :
    Run (List Effect) := do
  let rootId := RoutingTable.root t
  match ← RoutingTable.nextHop debug t message.commonHeader.destId
      self.sharedPrefixBitsGrouping with
  | .error _ => .panic "grouping has to be checked on initialization"
  | .ok (some nextOverlayHop) =>
    assert nextOverlayHop.isValid "invalid next overlay overlay hop"
    let path ← unwrap nextOverlayHop.path
    sendMessage (.storeReq (message.withRoute fun route ↦ (route.extend path).advance)) ulnTable
      rootId
  | .ok none =>
    let sourceRoute ← message.sourceRoute.fromReversed
    sendDeadEnd rootId ulnTable message.commonHeader.msgId sourceRoute

def handleStoreReq (debug : Bool) (self : DistributedHashTable H) (t : T)
    (ulnTable : InMemoryULNTable) (now : Timestamp)
    (message : ReqRspMessage (StoreReqData LHTInput)) :
    Run (DistributedHashTable H × List Effect) := do
  if message.commonHeader.destId = RoutingTable.root t then
    self.store (RoutingTable.root t) ulnTable now message
  else
    let effects ← routeStoreReq debug self t ulnTable message
    return (self, effects)

end DistributedHashTable

end Kira
