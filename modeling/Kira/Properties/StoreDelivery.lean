import Kira.UseCases.DistributedHashTable
import Kira.Properties.OverlayForwarding

/-!
# Where a value is stored

A request to store a value is sent towards its key.  Each node that it arrives at handles it, and
either passes it on or is the last one.  That the underlay brings a request to the end of its source
route is taken for granted here.

Whether a request is passed on, and to whom, is up to the routing tables: `Leads` follows their next
hops for the key, until there is none.  If every next hop can be reached, that always comes to an
end (`leads_of_usable`), since each hop is closer to the key.

A request gets exactly there (`delivered_of_leads`, `leads_of_delivered`).  But the last node stores
the value only if the key is its own id.
-/

set_option autoImplicit false

namespace Kira

open Run XorMetric RoutingTable

/-- Nodes with their hash tables. -/
structure DhtNetwork (H : Type) where
  network : Network
  ulnTable : NodeId → InMemoryULNTable
  dht : NodeId → DistributedHashTable H

/-- A request to store a value. -/
abbrev StoreReq := ReqRspMessage (StoreReqData LHTInput)

/-- The request that an effect sends, as it arrives at the end of its source route. -/
def Effect.storeReq : Effect → Option StoreReq
  | .sendMessageVia (.storeReq req) _ | .broadcastEvent (.storeReq req) =>
    some (req.withRoute fun route ↦ { route with progress := route.ids.length - 1 })
  | _ => none

namespace DhtNetwork

variable {H : Type}

/-- The values that a node stores under a key. -/
def stored [LocalHashTable H] (net : DhtNetwork H) (v key : NodeId) : List Bytes :=
  match LocalHashTable.fetch (net.dht v).hashTable key with
  | .ok values => values
  | .error _ => []

/-- The next hop of a node for a key. -/
def hop (debug : Bool) (net : DhtNetwork H) (key v : NodeId) :
    Run (Except GroupingError (Option Contact)) :=
  nextHop debug (net.network.node v).table key (net.dht v).sharedPrefixBitsGrouping

/-- A node sends a value towards its key: the request that is on its way then. -/
def send (debug : Bool) (net : DhtNetwork H) (x : NodeId) (nonce : Nonce)
    (data : StoreReqData LHTInput) : Run (Option StoreReq) := do
  let effects ← sendStoreReqKbr debug (net.network.node x).table (net.ulnTable x) nonce data
    data.handle
  return effects.findSome? Effect.storeReq

/-- A node handles a request: its part of the hash table after that, and the request if it is passed
on. -/
def handle [LocalHashTable H] (debug : Bool) (now : NodeId → Timestamp) (net : DhtNetwork H)
    (v : NodeId) (req : StoreReq) : Run (DistributedHashTable H × Option StoreReq) := do
  let (dht, effects) ← (net.dht v).handleStoreReq debug (net.network.node v).table
    (net.ulnTable v) (now v) req
  return (dht, effects.findSome? Effect.storeReq)

/-- A node has another hash table. -/
def update (net : DhtNetwork H) (v : NodeId) (dht : DistributedHashTable H) : DhtNetwork H :=
  { net with dht := Function.update net.dht v dht }

@[simp] theorem update_dht_self (net : DhtNetwork H) (v : NodeId) :
    net.update v (net.dht v) = net := by
  rw [update, Function.update_eq_self]

/-- A request that is at a node, the last node that it gets to, and the network after that. -/
inductive Delivered [LocalHashTable H] (debug : Bool) (now : NodeId → Timestamp) :
    DhtNetwork H → NodeId → StoreReq → NodeId → DhtNetwork H → Prop
  | stop {net : DhtNetwork H} {v : NodeId} {req : StoreReq} {dht : DistributedHashTable H}
      (h : net.handle debug now v req = .ok (dht, none)) :
      Delivered debug now net v req v (net.update v dht)
  | pass {net net' : DhtNetwork H} {v last : NodeId} {req req' : StoreReq}
      {dht : DistributedHashTable H} (h : net.handle debug now v req = .ok (dht, some req'))
      (h' : Delivered debug now (net.update v dht) req'.destination req' last net') :
      Delivered debug now net v req last net'

/-- The node knows how to get to the first node of the path. -/
def CanSend (net : DhtNetwork H) (v : NodeId) (path : Path) : Prop :=
  path.first = v ∨ (net.ulnTable v).contains path.first = true

/-- The first overlay hop for a key, which is the node itself if it has no next hop. -/
def Starts (debug : Bool) (net : DhtNetwork H) (key x v : NodeId) : Prop :=
  ∃ (closest : Option Contact) (path : Path),
    nextHop debug (net.network.node x).table key .MIN = .ok (.ok closest) ∧
    path = (closest.bind Contact.path).getD (.via x []) ∧
    net.CanSend x path ∧ path.last = v

/-- The next hops for the key lead from the first node to the last one, which has none. -/
inductive Leads (debug : Bool) (net : DhtNetwork H) (key : NodeId) : NodeId → NodeId → Prop
  | ends {v : NodeId} (h : net.hop debug key v = .ok (.ok none)) : Leads debug net key v v
  | hop {v last : NodeId} {c : Contact} {path : Path}
      (h : net.hop debug key v = .ok (.ok (some c))) (hpath : c.path = some path)
      (hsend : net.CanSend v path) (h' : Leads debug net key path.last last) :
      Leads debug net key v last

theorem Leads.hop_last {debug : Bool} {net : DhtNetwork H} {key v last : NodeId}
    (h : net.Leads debug key v last) : net.hop debug key last = .ok (.ok none) := by
  induction h with
  | ends h => exact h
  | hop _ _ _ _ ih => exact ih

/-- Every node can tell its next hop for the key, and send to it. -/
def Usable (debug : Bool) (net : DhtNetwork H) (key : NodeId) : Prop :=
  ∀ (v : NodeId) (g : NonZeroU8), g.get ≤ NodeId.BITS → ∃ closest : Option Contact,
    nextHop debug (net.network.node v).table key g = .ok (.ok closest) ∧
    ∀ c, closest = some c → ∃ path, c.path = some path ∧ path.last = c.id ∧ net.CanSend v path

/-! ## One request -/

/-- A request for this pair that has arrived at the end of its source route. -/
structure Carries (req : StoreReq) (data : StoreReqData LHTInput) : Prop where
  destId : req.commonHeader.destId = data.handle
  data : req.data = data
  inRange : req.sourceRoute.InRange
  progress : req.sourceRoute.progress = req.sourceRoute.ids.length - 1

variable {debug : Bool} {now : NodeId → Timestamp} {net : DhtNetwork H} {v key : NodeId}
  {req : StoreReq} {data : StoreReqData LHTInput} {path : Path}

theorem storeReq_of_send (net : DhtNetwork H) (v : NodeId)
    (hfirst : req.sourceRoute.currentHop = .ok path.first) :
    ∃ effects, sendMessage (.storeReq req) (net.ulnTable v) v = .ok effects ∧
      (net.CanSend v path → effects.findSome? Effect.storeReq = some (req.withRoute
        fun route ↦ { route with progress := route.ids.length - 1 })) ∧
      (¬ net.CanSend v path → effects.findSome? Effect.storeReq = none) := by
  refine ⟨_, sendMessage_of_route rfl hfirst _ _, ?_⟩
  unfold CanSend InMemoryULNTable.contains
  by_cases hv : path.first = v
  · simp [hv, Effect.storeReq]
  · cases (net.ulnTable v).map.lookup path.first <;> simp [hv, Effect.storeReq]

theorem carries_arrived (hdest : req.commonHeader.destId = data.handle) (hdata : req.data = data) :
    Carries (req.withRoute fun route ↦ { route with progress := route.ids.length - 1 }) data :=
  ⟨hdest, hdata, ⟨Nat.le_sub_one_of_lt req.sourceRoute.two_le, Nat.le_refl _⟩, rfl⟩

theorem send_cases {x : NodeId} {closest : Option Contact}
    (hhop : nextHop debug (net.network.node x).table data.handle .MIN = .ok (.ok closest))
    (hpath : path = (closest.bind Contact.path).getD (.via x []))
    (nonce : Nonce) :
    (net.CanSend x path → ∃ req, net.send debug x nonce data = .ok (some req) ∧
      Carries req data ∧ req.destination = path.last) ∧
    (¬ net.CanSend x path → net.send debug x nonce data = .ok none) := by
  obtain ⟨message, hmessage, hdest, hdata, hroute⟩ :=
    constructReqRspMsgKbr_eq hhop (net.ulnTable x) .storeReq nonce data
  simp only [net.network.root_eq, ← hpath] at hroute
  have hfirst : message.sourceRoute.currentHop = .ok path.first := by
    rw [hroute, SourceRoute.currentHop_new]
  obtain ⟨effects, heffects, hsend, hdrop⟩ := storeReq_of_send net x hfirst
  have heq : net.send debug x nonce data = .ok (effects.findSome? Effect.storeReq) := by
    rw [send, sendStoreReqKbr, hmessage, ok_bind, sendReq_eq rfl hfirst, net.network.root_eq,
      heffects]
    rfl
  rw [heq]
  refine ⟨fun hcan ↦ ⟨_, congrArg _ (hsend hcan), carries_arrived hdest hdata, ?_⟩,
    fun hcannot ↦ congrArg _ (hdrop hcannot)⟩
  show message.sourceRoute.destination = path.last
  rw [hroute, SourceRoute.destination_new]

theorem starts_of_send {x : NodeId} {nonce : Nonce}
    (h : net.send debug x nonce data = .ok (some req)) :
    Carries req data ∧ net.Starts debug data.handle x req.destination := by
  obtain ⟨effects, heffects, -⟩ := of_bind h
  obtain ⟨message, hmessage, -⟩ := of_bind heffects
  obtain ⟨r, hhop, hmessage⟩ := of_bind hmessage
  cases r with
  | error err => simp at hmessage
  | ok closest =>
    obtain ⟨hcan, hcannot⟩ := send_cases hhop rfl nonce
    by_cases hsend : net.CanSend x
        ((closest.bind Contact.path).getD (.via x []))
    · obtain ⟨req', hreq, hcarries, hdest⟩ := hcan hsend
      obtain rfl : req' = req := by simpa [h] using hreq.symm
      exact ⟨hcarries, closest, _, hhop, rfl, hsend, hdest.symm⟩
    · simp [hcannot hsend] at h

/-! ## The next hops come to an end -/

theorem leads_of_usable (h : net.Usable debug key) (v : NodeId) :
    ∃ last, net.Leads debug key v last := by
  induction hn : dist key v using Nat.strong_induction_on generalizing v with
  | h n ih =>
    obtain ⟨closest, hhop, hcontact⟩ := h v _ (net.dht v).grouping_le
    cases closest with
    | none => exact ⟨v, .ends hhop⟩
    | some c =>
      obtain ⟨path, hpath, hid, hsend⟩ := hcontact c rfl
      have hcloser := ((net.network.node v).nextHop_closer hhop).2.2
      rw [net.network.root_eq, ← hid, hn] at hcloser
      obtain ⟨last, hleads⟩ := ih _ hcloser path.last rfl
      exact ⟨last, .hop hhop hpath hsend hleads⟩

theorem starts_of_usable (h : net.Usable debug key) (x : NodeId) :
    ∃ v, net.Starts debug key x v := by
  obtain ⟨closest, hhop, hcontact⟩ := h x .MIN (by decide)
  refine ⟨_, closest, _, hhop, rfl, ?_, rfl⟩
  cases closest with
  | none => exact .inl rfl
  | some c =>
    obtain ⟨path, hpath, -, hsend⟩ := hcontact c rfl
    simpa [hpath] using hsend

/-! ## One node -/

theorem findSome_storeReq {effects : List Effect} {kind : ProtocolMessageKind}
    (h : ∀ effect ∈ effects, effect.message.kind = kind) (hkind : kind ≠ .storeReq) :
    effects.findSome? Effect.storeReq = none := by
  rw [List.findSome?_eq_none_iff]
  intro effect heffect
  have hne : effect.message.kind ≠ .storeReq := h effect heffect ▸ hkind
  cases effect with
  | sendMessageVia message destination | broadcastEvent message =>
    cases message <;> first | rfl | exact absurd rfl hne

variable [LocalHashTable H]

theorem handle_key [LawfulLocalHashTable H] (debug : Bool) (now : NodeId → Timestamp)
    (net : DhtNetwork H) (hreq : Carries req data) (hv : v = data.handle) :
    ∃ dht, net.handle debug now v req = .ok (dht, none) ∧
      data.data ∈ (net.update v dht).stored v data.handle := by
  have hroot : req.commonHeader.destId = root (net.network.node v).table := by
    rw [net.network.root_eq, hreq.destId, hv]
  obtain ⟨hashTable, effects, values, hstore, hfetch, hmem, hkind⟩ :=
    (net.dht v).store_eq (root (net.network.node v).table) (net.ulnTable v) (now v) hreq.inRange
  refine ⟨{ net.dht v with hashTable }, ?_, ?_⟩
  · simp only [handle, DistributedHashTable.handleStoreReq, if_pos hroot, hstore, ok_bind,
      findSome_storeReq hkind (by decide), pure_eq]
  · rw [hreq.data] at hfetch hmem
    simp only [stored, update, Function.update_self, hfetch]
    exact hmem

theorem handle_deadEnd (hreq : Carries req data) (hv : v ≠ data.handle)
    (hhop : net.hop debug data.handle v = .ok (.ok none)) :
    net.handle debug now v req = .ok (net.dht v, none) := by
  have hroot : req.commonHeader.destId ≠ root (net.network.node v).table := by
    rw [net.network.root_eq, hreq.destId]
    exact hv.symm
  obtain ⟨back, hback, -⟩ := hreq.inRange.fromReversed_eq
  obtain ⟨effects, hsend, hkind⟩ := DistributedHashTable.sendDeadEnd_eq (.fromReversed hback)
    (root (net.network.node v).table) (net.ulnTable v) req.commonHeader.msgId
  rw [hop, ← hreq.destId] at hhop
  simp only [handle, DistributedHashTable.handleStoreReq, if_neg hroot,
    DistributedHashTable.routeStoreReq, hhop, hback, hsend, ok_bind,
    findSome_storeReq hkind (by decide), pure_eq]

theorem handle_hop {c : Contact} (hreq : Carries req data)
    (hhop : net.hop debug data.handle v = .ok (.ok (some c))) (hpath : c.path = some path)
    (now : NodeId → Timestamp) :
    (net.CanSend v path → ∃ req', net.handle debug now v req = .ok (net.dht v, some req') ∧
      Carries req' data ∧ req'.destination = path.last) ∧
    (¬ net.CanSend v path → net.handle debug now v req = .ok (net.dht v, none)) := by
  obtain ⟨-, hvalid, hcloser⟩ := (net.network.node v).nextHop_closer hhop
  have hroot : req.commonHeader.destId ≠ v := by
    intro heq
    rw [net.network.root_eq, ← heq, hreq.destId] at hcloser
    simp [XorMetric.dist] at hcloser
  have hfirst : (req.withRoute fun route ↦ (route.extend path).advance).sourceRoute.currentHop =
      .ok path.first := SourceRoute.currentHop_extend hreq.progress path
  obtain ⟨effects, heffects, hsend, hdrop⟩ := storeReq_of_send net v hfirst
  rw [hop, ← hreq.destId] at hhop
  have hhandle : net.handle debug now v req =
      .ok (net.dht v, effects.findSome? Effect.storeReq) := by
    simp only [handle, DistributedHashTable.handleStoreReq, net.network.root_eq, if_neg hroot,
      DistributedHashTable.routeStoreReq, hhop, hvalid, hpath, heffects,
      ok_bind, assert_true, expect_some, pure_eq]
  rw [hhandle]
  refine ⟨fun hcan ↦ ⟨_, congrArg (fun r ↦ Run.ok (net.dht v, r)) (hsend hcan),
    carries_arrived hreq.destId hreq.data, ?_⟩, fun hcannot ↦ by rw [hdrop hcannot]⟩
  exact SourceRoute.destination_extend req.sourceRoute path

theorem hop_of_handle {result : DistributedHashTable H × Option StoreReq} (hreq : Carries req data)
    (hv : v ≠ data.handle) (h : net.handle debug now v req = .ok result) :
    net.hop debug data.handle v = .ok (.ok none) ∨ ∃ c path,
      net.hop debug data.handle v = .ok (.ok (some c)) ∧ c.path = some path := by
  have hroot : req.commonHeader.destId ≠ v := fun heq ↦ hv (heq.symm.trans hreq.destId)
  obtain ⟨dht, hdht, -⟩ := of_bind h
  simp only [DistributedHashTable.handleStoreReq, net.network.root_eq, if_neg hroot] at hdht
  obtain ⟨effects, hroute, -⟩ := of_bind hdht
  obtain ⟨r, hhop, hroute⟩ := of_bind hroute
  rw [hreq.destId] at hhop
  cases r with
  | error err => simp at hroute
  | ok closest =>
    cases closest with
    | none => exact .inl hhop
    | some c =>
      obtain ⟨-, -, hroute⟩ := of_bind hroute
      obtain ⟨path, hpath, -⟩ := of_bind hroute
      exact .inr ⟨c, path, hhop, expect_eq_ok.1 hpath⟩

/-! ## The whole way -/

theorem delivered_of_leads [LawfulLocalHashTable H] {last : NodeId} (hreq : Carries req data)
    (h : net.Leads debug data.handle v last) :
    ∃ net', Delivered debug now net v req last net' ∧
      (last = data.handle ∨ data.data ∈ net.stored last data.handle →
        data.data ∈ net'.stored last data.handle) := by
  induction h generalizing req with
  | @ends v h =>
    by_cases hv : v = data.handle
    · obtain ⟨dht, hhandle, hstored⟩ := handle_key debug now net hreq hv
      exact ⟨_, .stop hhandle, fun _ ↦ hstored⟩
    · refine ⟨_, .stop (handle_deadEnd hreq hv h), fun hcase ↦ ?_⟩
      rw [update_dht_self]
      exact hcase.resolve_left hv
  | hop h hpath hsend _ ih =>
    obtain ⟨req', hhandle, hreq', hdest⟩ := (handle_hop hreq h hpath now).1 hsend
    obtain ⟨net', hdelivered, hstored⟩ := ih hreq'
    refine ⟨net', .pass hhandle ?_, hstored⟩
    rwa [update_dht_self, hdest]

theorem leads_of_delivered [LawfulLocalHashTable H] {net' : DhtNetwork H} {last : NodeId}
    (hreq : Carries req data) (h : Delivered debug now net v req last net')
    (hlast : net.hop debug data.handle last = .ok (.ok none)) :
    net.Leads debug data.handle v last ∧ (data.data ∈ net'.stored last data.handle →
      last = data.handle ∨ data.data ∈ net.stored last data.handle) := by
  induction h with
  | @stop net v req dht h =>
    refine ⟨.ends hlast, fun hstored ↦ ?_⟩
    by_cases hv : v = data.handle
    · exact .inl hv
    · rw [handle_deadEnd hreq hv hlast] at h
      obtain rfl : net.dht v = dht := by simpa using h
      rw [update_dht_self] at hstored
      exact .inr hstored
  | @pass net net' v last req req' dht h h' ih =>
    by_cases hv : v = data.handle
    · obtain ⟨dht', hhandle, -⟩ := handle_key debug now net hreq hv
      simp [h] at hhandle
    · rcases hop_of_handle hreq hv h with hnone | ⟨c, path, hhop, hpath⟩
      · simp [handle_deadEnd hreq hv hnone] at h
      · obtain ⟨hcan, hcannot⟩ := handle_hop hreq hhop hpath now
        by_cases hsend : net.CanSend v path
        · obtain ⟨req'', hhandle, hreq', hdest⟩ := hcan hsend
          obtain ⟨rfl, rfl⟩ : net.dht v = dht ∧ req'' = req' := by simpa [h, eq_comm] using hhandle
          rw [update_dht_self] at ih
          obtain ⟨hleads, hstored⟩ := ih hreq' hlast
          exact ⟨.hop hhop hpath hsend (hdest ▸ hleads), hstored⟩
        · simp [hcannot hsend] at h

end DhtNetwork

open DhtNetwork

/-- **When a value is stored at the end of the way.**  The request gets to a node without a next
hop, and this has the value then, exactly if the next hops for the key lead to the node whose id is
the key, or to one that had the value already.  If every node can send to its next hops, they lead
to some node without a next hop. -/
theorem stored_iff {H : Type} [LocalHashTable H] [LawfulLocalHashTable H] (debug : Bool)
    (now : NodeId → Timestamp) (net : DhtNetwork H) (x : NodeId) (nonce : Nonce)
    (data : StoreReqData LHTInput) :
    ((∃ req last net', net.send debug x nonce data = .ok (some req) ∧
        Delivered debug now net req.destination req last net' ∧
        net.hop debug data.handle last = .ok (.ok none) ∧
        data.data ∈ net'.stored last data.handle) ↔
      ∃ v last, net.Starts debug data.handle x v ∧ net.Leads debug data.handle v last ∧
        (last = data.handle ∨ data.data ∈ net.stored last data.handle)) ∧
    (net.Usable debug data.handle → ∃ v last,
      net.Starts debug data.handle x v ∧ net.Leads debug data.handle v last) := by
  refine ⟨⟨?_, ?_⟩, fun husable ↦ ?_⟩
  · rintro ⟨req, last, net', hsend, hdelivered, hlast, hstored⟩
    obtain ⟨hreq, hstarts⟩ := starts_of_send hsend
    obtain ⟨hleads, hcase⟩ := leads_of_delivered hreq hdelivered hlast
    exact ⟨_, last, hstarts, hleads, hcase hstored⟩
  · rintro ⟨v, last, ⟨closest, path, hhop, hpath, hcan, rfl⟩, hleads, hcase⟩
    obtain ⟨req, hsend, hreq, hdest⟩ := (send_cases hhop hpath nonce).1 hcan
    obtain ⟨net', hdelivered, hstored⟩ := delivered_of_leads hreq hleads
    exact ⟨req, last, net', hsend, hdest ▸ hdelivered, hleads.hop_last, hstored hcase⟩
  · obtain ⟨v, hstarts⟩ := starts_of_usable husable x
    obtain ⟨last, hleads⟩ := leads_of_usable husable v
    exact ⟨v, last, hstarts, hleads⟩

/-- Nodes that have not heard of each other. -/
def DhtNetwork.isolated : DhtNetwork ComplexHashTable where
  network := default
  ulnTable _ := .new
  dht _ := ⟨.MIN, NonZeroU8.min_le_bits, ⟨∅⟩⟩

/-- A node stores a value under its own id. -/
theorem stored_at_own_id : ∃ req last net',
    isolated.send true 5 0 ⟨5, [7], none⟩ = .ok (some req) ∧
    Delivered true (fun _ ↦ 0) isolated req.destination req last net' ∧
    isolated.hop true 5 last = .ok (.ok none) ∧ [7] ∈ net'.stored last 5 :=
  (stored_iff true (fun _ ↦ 0) isolated 5 0 ⟨5, [7], none⟩).1.2
    ⟨5, 5, ⟨none, _, rfl, rfl, .inl rfl, rfl⟩, .ends rfl, .inl rfl⟩

/-- **A value is lost.**  The only node that a request can get to does not store the value, as the
key is not its own id. -/
theorem value_lost : ∃ req net',
    isolated.send true 0 0 ⟨1, [7], none⟩ = .ok (some req) ∧
    Delivered true (fun _ ↦ 0) isolated req.destination req 0 net' ∧
    isolated.hop true 1 0 = .ok (.ok none) ∧ net'.stored 0 1 = [] :=
  ⟨_, _, rfl, .stop rfl, rfl, rfl⟩

end Kira
