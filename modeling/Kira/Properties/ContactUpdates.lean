import Kira.R2Kad.Node

/-!
# What the others are told about a contact

When a contact changes, the contacts closest to the node are told.  If it is not valid any more,
they are told that it is unreachable.  If it is valid, there is something to tell only if the nodes
of its path are other ones than before.

The comparison of the paths is the wrong way round.  A contact whose path has changed is not
mentioned, but the message is sent all the same, without any content (`better_path_untold`); and a
contact whose path is the same is announced as changed.  So with a contact that is valid the handler
never does what it should, unless there is nobody to be told: `announced_iff`.
-/

set_option autoImplicit false

namespace Kira

open Run RoutingTable

namespace HandleContactUpdate

variable {T : Type} {k : Nat} [RoutingTable T k] {config : HandleContactUpdateConfig}
  {clock : Readings} {nonces : Nat → Nonce} {ctx ctx' : UseCaseContext T}

/-! ## The messages that are handed over -/

/-- The message in which a neighbour is told, with its place in the list of those. -/
def updateMessage (nonces : Nat → Nonce) (ctx : UseCaseContext T)
    (updates : List (Contact × RouteUpdateActionType)) (neighbor : PrefixContact × Nat) :
    Run ProtocolMessage := do
  let path ← unwrap neighbor.1.2.path
  return .updateRouteReq
    { commonHeader := .new .updateRouteReq ctx.rootId neighbor.1.2.id (nonces neighbor.2)
        (.value ctx.ulnTable.stateSeqNr) ctx.ulnTable.size
      notVia := none
      contactActions := updates
      sourceRoute := .new ctx.rootId path }

/-- What is told with an event, if anything. -/
def updatesFor : ContactEvent → Option (List (Contact × RouteUpdateActionType))
  | .removed contact => if contact.isUln then some [(contact, .withDraw)] else none
  | .updated new old => some (updatesOf new old)
  | .new new => some [(new, .announce)]
  | _ => none

/-- The messages that the event has the handler send, in order. -/
def eventMessages (config : HandleContactUpdateConfig) (nonces : Nat → Nonce)
    (ctx : UseCaseContext T) (event : ContactEvent) : Run (List ProtocolMessage) := do
  match updatesFor event with
  | none => return []
  | some updates =>
    match ← closest ctx.routingTable ctx.rootId config.radius config.groupingBits with
    | .error _ => .panic "type didn't prevent invalid grouping"
    | .ok overlayNeighbors => overlayNeighbors.zipIdx.mapM (updateMessage nonces ctx updates)

variable {updates : List (Contact × RouteUpdateActionType)}

theorem updateMessage_congr {neighbor : PrefixContact × Nat} (h : ctx.SameState ctx') :
    updateMessage nonces ctx' updates neighbor = updateMessage nonces ctx updates neighbor := by
  rw [updateMessage, updateMessage, UseCaseContext.rootId, h.routingTable, h.ulnTable]
  rfl

theorem sendUpdates_eq_ok {neighbors : List (PrefixContact × Nat)} {mid : UseCaseContext T}
    (hmid : ctx.SameState mid) (h : neighbors.foldlM (fun context neighbor ↦ do
      let path ← unwrap neighbor.1.2.path
      context.sendMessage (.updateRouteReq
        { commonHeader := .new .updateRouteReq context.rootId neighbor.1.2.id (nonces neighbor.2)
            (.value context.ulnTable.stateSeqNr) context.ulnTable.size
          notVia := none
          contactActions := updates
          sourceRoute := .new context.rootId path })) mid = .ok ctx') :
    ∃ messages, neighbors.mapM (updateMessage nonces ctx updates) = .ok messages ∧
      messages.foldlM UseCaseContext.sendMessage mid = .ok ctx' := by
  induction neighbors generalizing mid with
  | nil => exact ⟨[], rfl, h⟩
  | cons neighbor neighbors ih =>
    rw [List.foldlM_cons] at h
    obtain ⟨next, hnext, h⟩ := of_bind h
    obtain ⟨path, hpath, hsend⟩ := of_bind hnext
    obtain ⟨message, hmessage, hsend⟩ : ∃ message,
        updateMessage nonces mid updates neighbor = .ok message ∧
          mid.sendMessage message = .ok next :=
      ⟨_, by rw [updateMessage, hpath]; rfl, hsend⟩
    obtain ⟨messages, hmessages, hrest⟩ :=
      ih (hmid.trans (UseCaseContext.sameState_sendMessage hsend)) h
    refine ⟨message :: messages, ?_, ?_⟩
    · rw [List.mapM_cons, ← updateMessage_congr hmid, hmessage, hmessages]
      rfl
    · rw [List.foldlM_cons, hsend]
      exact hrest

theorem outputQueue_invalidateAllAffectedContacts (invalidated : Contact) :
    (invalidateAllAffectedContacts clock ctx invalidated).outputQueue = ctx.outputQueue := by
  unfold invalidateAllAffectedContacts
  split
  · split
    · rfl
    · rfl
  · rfl

/-- The handler hands the messages over one after the other.  What it does to the tables comes after
that. -/
theorem handleEvent_messages {event : ContactEvent}
    (h : handleEvent config clock nonces ctx (.contact event) = .ok ctx') :
    ∃ messages told, eventMessages config nonces ctx event = .ok messages ∧
      messages.foldlM UseCaseContext.sendMessage ctx = .ok told ∧
      ctx'.outputQueue = told.outputQueue := by
  have hsend : ∀ {updates : List (Contact × RouteUpdateActionType)} {told : UseCaseContext T},
      sendUpdate config nonces ctx updates = .ok told → updatesFor event = some updates →
      ∃ messages, eventMessages config nonces ctx event = .ok messages ∧
        messages.foldlM UseCaseContext.sendMessage ctx = .ok told := by
    intro updates told hupdate hupdates
    obtain ⟨answer, hclosest, hupdate⟩ := of_bind hupdate
    cases answer with
    | error err => cases hupdate
    | ok neighbors =>
      obtain ⟨messages, hmessages, htold⟩ := sendUpdates_eq_ok (.refl ctx) hupdate
      refine ⟨messages, ?_, htold⟩
      rw [eventMessages, hupdates]
      dsimp only
      rw [hclosest]
      exact hmessages
  cases event with
  | removed c =>
    obtain ⟨told, htold, h⟩ := of_bind h
    have houtput : ctx'.outputQueue = told.outputQueue := by
      obtain ⟨⟨uln, observed⟩, -, h⟩ := of_bind h
      cases h
      exact outputQueue_invalidateAllAffectedContacts c
    split at htold
    · rename_i huln
      obtain ⟨messages, hmessages, hfold⟩ := hsend htold (if_pos huln)
      exact ⟨messages, told, hmessages, hfold, houtput⟩
    · rename_i huln
      cases htold
      refine ⟨[], ctx, ?_, rfl, houtput⟩
      rw [eventMessages, updatesFor, if_neg huln]
      rfl
  | updated new old =>
    obtain ⟨told, htold, h⟩ := of_bind h
    obtain ⟨messages, hmessages, hfold⟩ := hsend htold rfl
    refine ⟨messages, told, hmessages, hfold, ?_⟩
    split at h
    · cases h
      exact outputQueue_invalidateAllAffectedContacts new
    · cases h
      rfl
  | new new =>
    obtain ⟨messages, hmessages, hfold⟩ := hsend h rfl
    exact ⟨messages, ctx', hmessages, hfold, rfl⟩
  | proposed c | bucketUpdated index | newBucket index =>
    cases h
    exact ⟨[], ctx, rfl, rfl, rfl⟩

/-! ## What should be told -/

/-- The nodes of the active path. -/
def nodesOf (c : Contact) : Option (List NodeId) := c.path.map Path.ids

/-- The messages tell each neighbour that this has happened to the contact. -/
def Tell (neighbors : List PrefixContact) (messages : List ProtocolMessage) (c : Contact)
    (action : RouteUpdateActionType) : Prop :=
  ∀ neighbor ∈ neighbors, ∃ req, .updateRouteReq req ∈ messages ∧
    req.commonHeader.destId = neighbor.2.id ∧ (c, action) ∈ req.contactActions

/-- What the messages for an event should be. -/
structure Announced (neighbors : List PrefixContact) (messages : List ProtocolMessage)
    (event : ContactEvent) : Prop where
  changed {new old : Contact} : event = .updated new old → new.isValid = true →
    nodesOf new ≠ nodesOf old → Tell neighbors messages new .change
  unreachable {new old : Contact} : event = .updated new old → new.isValid = false →
    Tell neighbors messages new .unreachable
  unchanged {new old : Contact} : event = .updated new old → new.isValid = true →
    nodesOf new = nodesOf old → ∀ req, .updateRouteReq req ∈ messages →
      ∀ c, (c, .change) ∉ req.contactActions
  nonempty (req : UpdateRouteReq) : .updateRouteReq req ∈ messages → req.contactActions ≠ []

theorem mem_updateMessages {neighbors : List PrefixContact} {messages : List ProtocolMessage}
    (h : neighbors.zipIdx.mapM (updateMessage nonces ctx updates) = .ok messages) :
    (∀ req, .updateRouteReq req ∈ messages → req.contactActions = updates) ∧
      ∀ neighbor ∈ neighbors, ∃ req, .updateRouteReq req ∈ messages ∧
        req.commonHeader.destId = neighbor.2.id := by
  constructor
  · intro req hreq
    obtain ⟨neighbor, -, hmessage⟩ := exists_of_mem_mapM h hreq
    obtain ⟨path, -, hmessage⟩ := of_bind hmessage
    rw [← ProtocolMessage.updateRouteReq.inj (ok.inj hmessage)]
  · intro neighbor hneighbor
    obtain ⟨i, hi⟩ := List.mem_iff_getElem?.1 hneighbor
    obtain ⟨message, hmem, hmessage⟩ :=
      exists_mem_of_mapM h (List.mem_zipIdx_iff_getElem?.2 hi : (neighbor, i) ∈ _)
    obtain ⟨path, -, hmessage⟩ := of_bind hmessage
    cases hmessage
    exact ⟨_, hmem, rfl⟩

theorem eventMessages_of_updatesFor {event : ContactEvent} {neighbors : List PrefixContact}
    (hupdates : updatesFor event = some updates)
    (hneighbors : closest ctx.routingTable ctx.rootId config.radius config.groupingBits =
      .ok (.ok neighbors)) :
    eventMessages config nonces ctx event =
      neighbors.zipIdx.mapM (updateMessage nonces ctx updates) := by
  rw [eventMessages, hupdates]
  dsimp only
  rw [hneighbors, ok_bind]

theorem updatesOf_of_isValid {new : Contact} (old : Contact) (hvalid : new.isValid = true) :
    (nodesOf new ≠ nodesOf old → updatesOf new old = []) ∧
      (nodesOf new = nodesOf old → updatesOf new old = [] ∨
        updatesOf new old = [(new, .change)]) := by
  rw [updatesOf, if_pos hvalid, nodesOf, nodesOf]
  cases new.path with
  | none => exact ⟨fun _ ↦ rfl, fun _ ↦ .inl rfl⟩
  | some newPath =>
    cases old.path with
    | none => exact ⟨fun _ ↦ rfl, fun _ ↦ .inl rfl⟩
    | some oldPath =>
      by_cases hsame : newPath.isSamePathAs oldPath = true
      · have hids : newPath.ids = oldPath.ids := by simpa [Path.isSamePathAs] using hsame
        exact ⟨fun hne ↦ absurd (congrArg some hids) hne, fun _ ↦ .inr (if_pos hsame)⟩
      · exact ⟨fun _ ↦ if_neg hsame, fun _ ↦ .inl (if_neg hsame)⟩

/-- **When the right thing is told**, with any event about a contact, in any state of the node: if
and only if it is not about a contact that is valid, or nobody is told. -/
theorem announced_iff {event : ContactEvent} {neighbors : List PrefixContact}
    (h : handleEvent config clock nonces ctx (.contact event) = .ok ctx')
    (hneighbors : closest ctx.routingTable ctx.rootId config.radius config.groupingBits =
      .ok (.ok neighbors)) :
    ∃ messages told, eventMessages config nonces ctx event = .ok messages ∧
      messages.foldlM UseCaseContext.sendMessage ctx = .ok told ∧
      ctx'.outputQueue = told.outputQueue ∧
      (Announced neighbors messages event ↔
        ∀ new old, event = .updated new old → new.isValid = true → neighbors = []) := by
  obtain ⟨messages, told, hmessages, htold, houtput⟩ := handleEvent_messages h
  refine ⟨messages, told, hmessages, htold, houtput, ⟨?_, ?_⟩⟩
  · rintro hannounced new old rfl hvalid
    rw [eventMessages_of_updatesFor rfl hneighbors] at hmessages
    obtain ⟨hactions, hdest⟩ := mem_updateMessages hmessages
    obtain ⟨hchanged, hunchanged⟩ := updatesOf_of_isValid old hvalid
    refine List.eq_nil_iff_forall_not_mem.2 fun neighbor hneighbor ↦ ?_
    obtain ⟨req, hreq, -⟩ := hdest neighbor hneighbor
    by_cases hnodes : nodesOf new = nodesOf old
    · rcases hunchanged hnodes with hempty | hchange
      · exact hannounced.nonempty req hreq ((hactions req hreq).trans hempty)
      · refine hannounced.unchanged rfl hvalid hnodes req hreq new ?_
        rw [hactions req hreq, hchange]
        exact List.mem_singleton.2 rfl
    · exact hannounced.nonempty req hreq ((hactions req hreq).trans (hchanged hnodes))
  · intro hcond
    have hnone : ∀ {new old : Contact}, event = .updated new old → new.isValid = true →
        messages = [] := by
      rintro new old rfl hvalid
      rw [eventMessages_of_updatesFor rfl hneighbors, hcond new old rfl hvalid] at hmessages
      exact (ok.inj hmessages).symm
    refine ⟨?_, ?_, ?_, fun req hreq ↦ ?_⟩
    · intro new old hevent hvalid _ neighbor hneighbor
      rw [hcond new old hevent hvalid] at hneighbor
      cases hneighbor
    · rintro new old rfl hvalid neighbor hneighbor
      rw [eventMessages_of_updatesFor rfl hneighbors] at hmessages
      obtain ⟨hactions, hdest⟩ := mem_updateMessages hmessages
      obtain ⟨req, hreq, hid⟩ := hdest neighbor hneighbor
      refine ⟨req, hreq, hid, ?_⟩
      rw [hactions req hreq, updatesOf, if_neg (by simp [hvalid])]
      exact List.mem_singleton.2 rfl
    · intro new old hevent hvalid _ req hreq
      rw [hnone hevent hvalid] at hreq
      cases hreq
    · cases hupdates : updatesFor event with
      | none =>
        rw [eventMessages, hupdates] at hmessages
        rw [← ok.inj hmessages] at hreq
        cases hreq
      | some updates =>
        rw [eventMessages_of_updatesFor hupdates hneighbors] at hmessages
        rw [(mem_updateMessages hmessages).1 req hreq]
        cases event with
        | updated new old =>
          by_cases hvalid : new.isValid = true
          · rw [hnone rfl hvalid] at hreq
            cases hreq
          · cases hupdates
            simp [updatesOf, hvalid]
        | removed c =>
          rw [updatesFor] at hupdates
          split at hupdates
          · cases hupdates
            simp
          · cases hupdates
        | new c =>
          cases hupdates
          simp
        | _ => cases hupdates

end HandleContactUpdate

namespace R2Kad

open HandleContactUpdate

/-- The neighbours are told that a contact has become unreachable. -/
theorem unreachable_told :
    ∃ (node : R2Kad (UnlimitedULNRoutingTable 20 1)) (c : Contact)
      (neighbors : List PrefixContact) (messages : List ProtocolMessage),
      runAll (step true) (start nodeZero 0) heardCloser = .ok node ∧
      c ∈ iter node.context.routingTable ∧ neighbors ≠ [] ∧
      eventMessages .default (quiet 9).nonces node.context
        (.updated (c.setInvalid (fun _ ↦ 9) .empty) c) = .ok messages ∧
      Announced neighbors messages (.updated (c.setInvalid (fun _ ↦ 9) .empty) c) := by
  obtain ⟨node, hnode, c, hc, neighbors, hneighbors, hne, ctx, hctx⟩ :
      ∃ node : R2Kad (UnlimitedULNRoutingTable 20 1),
        runAll (step true) (start nodeZero 0) heardCloser = .ok node ∧
        ∃ c ∈ iter node.context.routingTable, ∃ neighbors : List PrefixContact,
          closest node.context.routingTable node.context.rootId
            HandleContactUpdateConfig.default.radius
            HandleContactUpdateConfig.default.groupingBits = .ok (.ok neighbors) ∧
          neighbors ≠ [] ∧
          ∃ ctx, handleEvent .default (quiet 9).clock (quiet 9).nonces node.context
            (.contact (.updated (c.setInvalid (fun _ ↦ 9) .empty) c)) = .ok ctx :=
    ⟨_, rfl, _, List.mem_cons_self, _, rfl, List.cons_ne_nil _ _, _, rfl⟩
  obtain ⟨messages, -, hmessages, -, -, hiff⟩ := announced_iff hctx hneighbors
  refine ⟨node, c, neighbors, messages, hnode, hc, hne, hmessages, hiff.2 ?_⟩
  rintro new old hevent hvalid
  obtain ⟨rfl, -⟩ := ContactEvent.updated.inj hevent
  simp at hvalid

/-- **A better path is not told**: the contact is valid, the nodes of its path are other ones than
before, and the last message is an update without any content. -/
theorem better_path_untold :
    ∃ node : R2Kad (UnlimitedULNRoutingTable 20 1),
      Reachable (step true) (fun _ _ ↦ True) (start nodeZero 0) node ∧
      ∃ (new old : Contact) (events : List UseCaseEvent),
        node.context.eventQueue = .contact (.updated new old) :: events ∧ new.isValid = true ∧
        nodesOf new ≠ nodesOf old ∧
        ∃ ctx, handleEvent .default (quiet 9).clock (quiet 9).nonces
            { node.context with eventQueue := events } (.contact (.updated new old)) = .ok ctx ∧
          ∃ sent req via, ctx.outputQueue = node.context.outputQueue ++
              sent ++ [.sendMessageVia (.updateRouteReq req) via] ∧ req.contactActions = [] := by
  refine ⟨_, reachable_of_steps heardCloser rfl, _, _, _, rfl, rfl, ?_, _, rfl, ?_⟩
  · decide +kernel
  · exact ⟨[_], _, _, rfl, rfl⟩

end R2Kad

end Kira
