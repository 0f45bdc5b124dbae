import Kira.UseCases.FailureHandling.Moves
import Kira.UseCases.ForwardProtocolMessage.Moves

/-!
# What a node does with an event, in moves

The lemmas about the use cases are put together: `moves_processEvent` takes apart into moves the
whole of what a node does with an event, and `UseCaseEvent.cause` is what the event gives cause to
do.

A contact that is gone is removed from the table of underlay neighbours as well.  Before that, the
contacts that are reached over it are invalidated, but only if it was a neighbour itself: if it was
on a longer path when it was removed, the entry of a neighbour is lost over which contacts may be
reached.
-/

set_option autoImplicit false

namespace Kira

open Run RoutingTable LawfulRoutingTable

/-! ## The use cases -/

section UseCases

variable {T : Type} {k : Nat} [RoutingTable T k] [LawfulRoutingTable T k]
  {cause : Cause} {ctx ctx' : UseCaseContext T} {debug : Bool} {clock : Readings}
  {order : PathOrder}

open UseCaseContext

theorem Act.moves {act : Act} (h : act.apply debug ctx = .ok ctx') : Moves cause ctx ctx' := by
  cases act with
  | probe id change =>
    obtain ⟨⟨found, mid⟩, hmut, h⟩ := of_bind h
    cases h
    refine moves_contactMut (fun c a d hd ↦ ?_) hmut
    cases hd
    exact .probe change
  | registerTimer duration =>
    obtain ⟨⟨id, mid⟩, hreg, h⟩ := of_bind h
    cases h
    exact moves_registerTimer hreg
  | registerPeriodicTimer duration =>
    obtain ⟨⟨id, runtime⟩, hreg, h⟩ := of_bind h
    cases h
    exact .single (.registerPeriodic hreg)
  | sendMessage message => exact moves_sendMessage h
  | vicinityChanged | broadcastMessage message =>
    cases h
    exact moves_broadcastEvent rfl

theorem Act.moves_all {acts : List Act} (h : runAll (Act.apply debug) ctx acts = .ok ctx') :
    Moves cause ctx ctx' :=
  moves_runAll (fun _ _ _ hact ↦ Act.moves hact) h

theorem UnderlayNeighborDiscovery.moves {interfaces interfaces' : List Nat} {event : UseCaseEvent}
    (h : UnderlayNeighborDiscovery.handleEvent interfaces ctx event = .ok (interfaces', ctx')) :
    Moves cause ctx ctx' := by
  unfold handleEvent at h
  split at h
  · split at h
    · obtain ⟨mid, hmid, h⟩ := of_bind h
      cases h
      unfold handleProtocolMessage at hmid
      split at hmid
      · split at hmid
        · cases hmid
          exact .refl
        · split at hmid
          · cases hmid
            exact .refl
          · exact moves_ulnOp (by simp) hmid
      · obtain ⟨inserted, hinsert, hmid⟩ := of_bind hmid
        exact (moves_ulnOp (by simp) hinsert).trans (moves_ulnOp (by simp) hmid)
      · exact moves_ulnOp (by simp) hmid
      · cases hmid
        exact .refl
    · exact moves_of_ok h
  all_goals exact moves_of_ok h

/-! ### Passing changes on -/

namespace HandleContactUpdate

theorem moves_sendUpdate {config : HandleContactUpdateConfig} {nonces : Nat → Nonce}
    {updates : List (Contact × RouteUpdateActionType)}
    (h : sendUpdate config nonces ctx updates = .ok ctx') : Moves cause ctx ctx' := by
  obtain ⟨answer, -, h⟩ := of_bind h
  cases answer with
  | error err => cases h
  | ok neighbors =>
    refine moves_foldlM (fun neighbor _ mid mid' hsend ↦ ?_) h
    obtain ⟨path, -, hsend⟩ := of_bind hsend
    exact moves_sendMessage hsend

theorem change_invalidateVia (rootId : NodeId) (invalidated : Contact) (path : Path) (c : Contact) :
    Change c (invalidateVia clock rootId invalidated path c) := by
  unfold invalidateVia
  split
  · split
    · dsimp only
      split
      · exact .setInvalid .unchanged _ _
      · exact .setInvalid .unchanged _ _
    · exact .unchanged
  · exact .unchanged

theorem moves_invalidateAllAffectedContacts (invalidated : Contact) :
    Moves cause ctx (invalidateAllAffectedContacts clock ctx invalidated) := by
  unfold invalidateAllAffectedContacts
  split
  · split
    · exact .single (.changeAll fun c ↦ change_invalidateVia _ _ _ c)
    · exact .refl
  · exact .refl

theorem avoids_invalidateAllAffectedContacts {invalidated : Contact} {id : NodeId}
    (h : invalidated.path.map Path.ids = some [id]) :
    (invalidateAllAffectedContacts clock ctx invalidated).Avoids id := by
  obtain ⟨path, hpath, hids⟩ := Option.map_eq_some_iff.1 h
  have hone : path.size = 1 := by rw [Path.size, hids]; rfl
  simp only [invalidateAllAffectedContacts, hpath, hone, if_true]
  refine avoids_iterMut fun c hvalid ↦ ?_
  unfold invalidateVia at hvalid ⊢
  split at hvalid
  · rename_i active hactive
    split at hvalid
    · dsimp only at hvalid
      split at hvalid
      · simp at hvalid
      · simp at hvalid
    · rename_i hstarts
      rw [if_neg hstarts, hactive]
      rintro ⟨rfl⟩
      exact hstarts (Path.startsWith_of_first hids rfl)
  · rename_i hnone
    simp [hnone]

theorem moves {config : HandleContactUpdateConfig} {nonces : Nat → Nonce} {event : UseCaseEvent}
    (hdeparted : ∀ c, event = .contact (.removed c) → c.path.map Path.ids ≠ some [c.id] →
      cause.departed c.id)
    (h : handleEvent config clock nonces ctx event = .ok ctx') : Moves cause ctx ctx' := by
  unfold handleEvent at h
  split at h
  · rename_i gone
    obtain ⟨told, htold, h⟩ := of_bind h
    have hfirst : Moves cause ctx told := by
      split at htold
      · exact moves_sendUpdate htold
      · cases htold
        exact .refl
    have hgone : (invalidateAllAffectedContacts clock told gone).Avoids gone.id ∨
        cause.departed gone.id := by
      by_cases hdirect : gone.path.map Path.ids = some [gone.id]
      · exact .inl (avoids_invalidateAllAffectedContacts hdirect)
      · exact .inr (hdeparted gone rfl hdirect)
    exact (hfirst.trans (moves_invalidateAllAffectedContacts _)).trans (moves_ulnRemove hgone h)
  · obtain ⟨told, htold, h⟩ := of_bind h
    split at h
    · cases h
      exact (moves_sendUpdate htold).trans (moves_invalidateAllAffectedContacts _)
    · cases h
      exact moves_sendUpdate htold
  · exact moves_sendUpdate h
  · cases h
    exact .refl

end HandleContactUpdate

end UseCases

/-! ## Whole events -/

/-- What an event gives cause to do.  The number of rounds comes from the configuration of the use
case that handles failures. -/
def UseCaseEvent.cause (maxRetryRounds : Nat) (event : UseCaseEvent) : Cause where
  learns := ∃ message source, event = .message message source
  announced id := ∃ message source, event = .message message source ∧
    ForwardProtocolMessage.isULNDisc message = true ∧ message.source = id
  departed id := ∃ c, event = .contact (.removed c) ∧ c.id = id ∧
    c.path.map Path.ids ≠ some [c.id]
  died id := ∃ new old, event = .contact (.updated new old) ∧ new.isDead = true ∧ new.id = id
  searched id retries wait := ∃ new old, event = .contact (.updated new old) ∧
    new.isInvalid = true ∧ old.isValid = true ∧ new.id = id ∧ retries = maxRetryRounds ∧
    wait ≤ FailureHandling.REDISCOVERY_WAITTIME_OTHER

namespace R2Kad

open UseCaseContext

variable {T : Type} {k : Nat} [RoutingTable T k] [LawfulRoutingTable T k]
  {ctx ctx' : UseCaseContext T} {debug : Bool} {clock : Readings} {node node' : R2Kad T}
  {occurrence : Occurrence} {event : UseCaseEvent}

theorem moves_untilFailureHandling {reached : Bool} (searched : NodeId → Nat → Duration → Prop)
    (h : node.untilFailureHandling debug occurrence event = .ok (reached, ctx'))
    (ht : Tidy node.context.routingTable) :
    Moves { event.cause 0 with searched := searched } node.context ctx' := by
  let cause : Cause := { event.cause 0 with searched := searched }
  obtain ⟨managed, hbefore, h⟩ := of_bind h
  have hmanaged : Moves cause node.context managed := Act.moves_all hbefore
  split at h
  · exact hmanaged.trans (moves_of_ok h)
  · obtain ⟨⟨result, learned⟩, hforward, h⟩ := of_bind h
    have hlearned : Moves cause node.context learned :=
      hmanaged.trans (ForwardProtocolMessage.moves (Moves.tidy hmanaged ht)
        (fun message source heq ↦ ⟨message, source, heq⟩)
        (fun message source heq hdisc ↦ ⟨message, source, heq, hdisc, rfl⟩) hforward)
    cases result with
    | handled => exact hlearned.trans (moves_of_ok h)
    | notHandled =>
      obtain ⟨between, hbetween, h⟩ := of_bind h
      obtain ⟨updated, hupdated, h⟩ := of_bind h
      have hpassed : Moves cause between updated :=
        HandleContactUpdate.moves (fun c heq hdirect ↦ ⟨c, heq, rfl, hdirect⟩) hupdated
      exact ((hlearned.trans (Act.moves_all hbetween)).trans hpassed).trans (moves_of_ok h)

variable [CloseContacts T]

theorem moves_handleEvent {draws : Draws} {self self' : FailureHandling}
    {res : Except FailureHandlingError Unit}
    (h : self.handleEvent debug clock draws ctx event = .ok (res, self', ctx')) :
    Moves (event.cause self.config.maxRetryRounds) ctx ctx' :=
  FailureHandling.moves (fun new old heq hdead ↦ ⟨new, old, heq, hdead, rfl⟩)
    (fun new old heq hinvalid hvalid _ hwait ↦
      ⟨new, old, heq, hinvalid, hvalid, rfl, rfl, hwait⟩) h

/-- **An event is processed in moves.** -/
theorem moves_processEvent (h : node.processEvent debug occurrence event = .ok node')
    (ht : Tidy node.context.routingTable) :
    Moves (event.cause node.failureHandling.config.maxRetryRounds) node.context node'.context := by
  obtain ⟨⟨reached, ctx⟩, huntil, h⟩ := of_bind h
  have hctx : Moves (event.cause node.failureHandling.config.maxRetryRounds) node.context ctx :=
    moves_untilFailureHandling _ huntil ht
  cases reached with
  | false =>
    cases h
    exact hctx
  | true =>
    obtain ⟨⟨res, failureHandling, handled⟩, hhandled, h⟩ := of_bind h
    obtain ⟨amid, hamid, h⟩ := of_bind h
    obtain ⟨⟨interfaces, discovered⟩, hdiscovered, h⟩ := of_bind h
    obtain ⟨after, hafter, h⟩ := of_bind h
    cases h
    exact (((hctx.trans (moves_handleEvent hhandled)).trans (Act.moves_all hamid)).trans
      (UnderlayNeighborDiscovery.moves hdiscovered)).trans (Act.moves_all hafter)

/-- What the moves keep of the routing table is kept by every step. -/
theorem step_keeps {I : T → Prop} {op : Step}
    (hmoves : ∀ {cause : Cause} {a b : UseCaseContext T}, I a.routingTable → Moves cause a b →
      I b.routingTable)
    (ht : Tidy node.context.routingTable) (hnode : I node.context.routingTable)
    (h : node.step debug op = .ok node') : I node'.context.routingTable := by
  cases op with
  | input input occurrence => exact hmoves hnode (moves_processEvent h ht)
  | timer occurrence =>
    obtain ⟨⟨due, runtime⟩, -, h⟩ := of_bind h
    cases due with
    | none =>
      cases h
      exact hnode
    | some id => exact hmoves (by exact hnode) (moves_processEvent h ht)
  | queued occurrence =>
    simp only [step] at h
    split at h
    · cases h
      exact hnode
    · exact hmoves (by exact hnode) (moves_processEvent h ht)
  | setCurrentTime now =>
    cases h
    exact hnode

theorem step_tidy {op : Step} (ht : Tidy node.context.routingTable)
    (h : node.step debug op = .ok node') : Tidy node'.context.routingTable :=
  step_keeps (I := Tidy) (fun ha hmoves ↦ Moves.tidy hmoves ha) ht ht h

/-- **In every run the routing table stays in order.** -/
theorem tidy_of_run {table : T} {startupTime : Instant} {allowed : R2Kad T → Step → Prop}
    (ht : Tidy table) (h : Reachable (step debug) allowed (start table startupTime) node) :
    Tidy node.context.routingTable :=
  h.invariant (I := fun node ↦ Tidy node.context.routingTable) ht
    fun _ _ _ ht _ hstep ↦ step_tidy ht hstep

end R2Kad

end Kira
