import Kira.Domain.RoutingTable.UnlimitedULNLawful
import Kira.R2Kad.Moves
import Kira.UseCases.FailureHandling.Bookkeeping

/-!
# Contacts that are looked for are not forgotten

A contact that is being rediscovered stays in that state until it is found or given up.  So there
has to be a next attempt as long as it is in that state: an entry in the books of the use case that
handles failures, under a timer that is still to fire.

The answer to a request ends the wait for it, whether the contact has been found by it or not; if it
has not, and the request was the only one, nothing is left that would ever look for the contact
again or give it up.  In `contact_is_stranded` a neighbour answers that it does not know the
contact.  The removal of a contact has a similar effect on a contact that has been learned anew
under the same id.

`Resolved` excludes just this: an answer, or a removal, that takes the last entry of a contact that
is still being rediscovered.  In a run without such events nobody is forgotten (`attempts_pending`).
-/

set_option autoImplicit false

namespace Kira

open Run RoutingTable LawfulRoutingTable

/-! ## Contacts that are being rediscovered -/

theorem Change.rediscovering {c d : Contact} {rds : RediscoveryState} (h : Change c d)
    (hd : d.state = .rediscovering rds) : ∃ rds', c.state = .rediscovering rds' := by
  have hinvalid : ∀ {c : Contact} {clock : Nat → Timestamp} {nvs : NotViaStateList}
      {rds : RediscoveryState}, (c.setInvalid clock nvs).state = .rediscovering rds →
      ∃ rds', c.state = .rediscovering rds' := by
    intro c clock nvs rds hstate
    cases hc : c.state with
    | rediscovering rds' => exact ⟨rds', rfl⟩
    | _ => simp [Contact.setInvalid, hc] at hstate
  induction h generalizing rds with
  | unchanged | propose => exact ⟨rds, hd⟩
  | setInvalid _ _ _ ih =>
    obtain ⟨rds', hrds'⟩ := hinvalid hd
    exact ih hrds'
  | @progress rds' _ h => exact ⟨rds', h⟩
  | die => cases hd
  | probe change =>
    rcases change.apply_cases c with ⟨clock, nvs, heq⟩ | ⟨-, hstate, -⟩
    · rw [heq] at hd
      exact hinvalid hd
    · exact ⟨rds, hstate ▸ hd⟩

namespace UNSStrategy

variable {T : Type} {k : Nat} [RoutingTable T k] [LawfulRoutingTable T k]

theorem rediscovering_insert {ctx : Context} {t t' : T} {c d : Contact} {id : NodeId}
    {res : InsertionStrategyResult} {rds : RediscoveryState} (ht : Tidy t)
    (h : insert ctx c t = .ok (res, t')) (hd : contact t' id = some d)
    (hstate : d.state = .rediscovering rds) :
    ∃ d' rds', contact t id = some d' ∧ d'.state = .rediscovering rds' := by
  rcases insert_cases h with ⟨-, rfl⟩ | ⟨path, prepared, hadm, hprep, hout⟩
  · exact ⟨d, rds, hd, hstate⟩
  obtain ⟨path', rfl, -, -, -⟩ := prepare_cases hprep
  have hnew : ∀ rds, (c.setPath path').state ≠ .rediscovering rds := by
    intro rds hrds
    rcases hadm.state with hvalid | hunknown
    · rw [Contact.isValid_iff] at hvalid
      simp [hvalid] at hrds
    · simp [hunknown] at hrds
  have hunderway : ∀ {m m' : Contents}, Underway m (c.setPath path') m' → m' id = some d →
      m id = some d := by
    intro m m' hunderway hd
    cases hunderway with
    | unchanged => exact hd
    | dropped =>
      rw [Function.update_apply] at hd
      split at hd
      · cases hd
      · exact hd
  have heff := (hout.effect ht).2
  generalize contact t = m at heff ⊢
  generalize contact t' = m' at heff hd
  cases heff with
  | stored =>
    rw [Function.update_apply] at hd
    split at hd
    · cases hd
      exact absurd hstate (hnew rds)
    · exact ⟨d, rds, hd, hstate⟩
  | kept hkept => exact ⟨d, rds, hunderway hkept hd, hstate⟩
  | @updated _ existing existing' hexisting hup =>
    rw [Function.update_apply] at hd
    split at hd
    · rename_i hid
      cases hd
      rw [hid]
      cases hup with
      | kept => exact ⟨_, rds, hexisting, hstate⟩
      | taken _ _ _ hassessed =>
        cases hassessed with
        | activated _ _ _ _ _ hself =>
          rw [hself] at hstate
          cases hstate
        | proposed => exact ⟨_, rds, hexisting, hstate⟩
    · exact ⟨d, rds, hd, hstate⟩
  | replaced _ hdropped =>
    rw [Contents.written, Function.update_apply] at hd
    split at hd
    · cases hd
      exact absurd hstate (hnew rds)
    · rw [Function.update_apply] at hd
      split at hd
      · cases hd
      · exact ⟨d, rds, hunderway hdropped hd, hstate⟩

end UNSStrategy

namespace UseCaseContext

variable {T : Type} {k : Nat} [RoutingTable T k] [LawfulRoutingTable T k] {cause : Cause}
  {ctx ctx' : UseCaseContext T}

theorem Move.rediscovering (hcause : ∀ id retries wait, ¬ cause.searched id retries wait)
    (ht : Tidy ctx.routingTable) (h : Move cause ctx ctx') {id : NodeId}
    (hid : ctx'.Rediscovering id) : ctx.Rediscovering id := by
  obtain ⟨d, rds, hd, hstate⟩ := hid
  cases h with
  | raise | register | registerPeriodic | uln => exact ⟨d, rds, hd, hstate⟩
  | @change id' c c' hc h =>
    have hid' : c'.id = id' := h.id_eq.trans (contact_id ht hc)
    have hwritten := (write_effect ht hc (.inl hid')).2
    rw [Contents.written_self _ hid'] at hwritten
    rw [show contact (ctx.write id' c c').routingTable = _ from hwritten,
      Function.update_apply] at hd
    split at hd
    · rename_i heq
      cases hd
      obtain ⟨rds', hrds'⟩ := h.rediscovering hstate
      exact ⟨c, rds', heq ▸ hc, hrds'⟩
    · exact ⟨d, rds, hd, hstate⟩
  | @changeAll f h =>
    have hmap := (iterMut_effect ht fun c _ ↦ (h c).id_eq).2 id
    rw [show contact (ctx.iterMut f).routingTable id = _ from hmap] at hd
    obtain ⟨c, hc, rfl⟩ := Option.map_eq_some_iff.1 hd
    obtain ⟨rds', hrds'⟩ := (h c).rediscovering hstate
    exact ⟨c, rds', hc, hrds'⟩
  | search _ hsearched => exact absurd hsearched (hcause _ _ _)
  | @remove id' =>
    rw [routingTable_removeContact, (remove_effect ht id').2.2, Function.update_apply] at hd
    split at hd
    · cases hd
    · exact ⟨d, rds, hd, hstate⟩
  | learn _ _ _ _ h =>
    exact UNSStrategy.rediscovering_insert
      (t := ObservableRoutingTable.ofTable ctx.routingTable) ht h hd hstate

theorem Moves.rediscovering (hcause : ∀ id retries wait, ¬ cause.searched id retries wait)
    (h : Moves cause ctx ctx') (ht : Tidy ctx.routingTable) {id : NodeId}
    (hid : ctx'.Rediscovering id) : ctx.Rediscovering id := by
  have hall := h.invariant (I := fun mid ↦ Tidy mid.routingTable ∧
      (mid.Rediscovering id → ctx.Rediscovering id))
    (fun a b ha hmove ↦ ⟨(hmove.tidy ha.1).1, fun hb ↦ ha.2 (hmove.rediscovering hcause ha.1 hb)⟩)
    ⟨ht, fun hctx ↦ hctx⟩
  exact hall.2 hid

theorem Move.pending (h : Move cause ctx ctx') :
    ctx.runtime.counter ≤ ctx'.runtime.counter ∧
      ∀ id, ctx.runtime.Pending id → ctx'.runtime.Pending id := by
  cases h with
  | register h =>
    obtain ⟨-, hcounter, -, hpending⟩ := R2KadRuntime.pending_registerTimer h
    exact ⟨by rw [hcounter]; exact Nat.le_succ _, hpending⟩
  | registerPeriodic h =>
    obtain ⟨-, -, rfl⟩ := R2KadRuntime.registerPeriodicTimer_eq_ok h
    refine ⟨Nat.le_succ _, ?_⟩
    rintro id ⟨timer, hmem, hid⟩
    exact ⟨timer, List.mem_cons_of_mem _ hmem, hid⟩
  | _ => exact ⟨Nat.le_refl _, fun _ h ↦ h⟩

end UseCaseContext

/-! ## The books while an event is handled -/

/-- The timer that an event is about. -/
def UseCaseEvent.fired : UseCaseEvent → Option TimerId
  | .timer id => some id
  | _ => none

namespace FailureHandling

variable {T : Type} {k : Nat} [RoutingTable T k] {self self' : FailureHandling}
  {ctx ctx' : UseCaseContext T} {fired : Option TimerId}

open UseCaseContext

/-- Whoever is looked for is waited for. -/
def Covered (self : FailureHandling) (ctx : UseCaseContext T) : Prop :=
  ∀ id, ctx.Rediscovering id → ∃ t, self.WaitsFor t id

/-- The event does not take away what a contact waits for that is still looked for.  An answer ends
the wait for it, and so does the removal of the contact; then something else has to be waited for on
behalf of the contact. -/
def Resolved (self : FailureHandling) (ctx : UseCaseContext T) : UseCaseEvent → Prop
  | .message (.findNodeRsp rsp) _ => ∀ nodeId timerId,
    self.inflightRediscoveries.nonceToId.lookup rsp.commonHeader.msgId = some (nodeId, timerId) →
    ctx.Rediscovering nodeId → ∃ other, other ≠ timerId ∧ self.WaitsFor other nodeId
  | .contact (.removed gone) => ctx.Rediscovering gone.id → ∃ timerId,
    self.scheduledRediscoveries.lookup timerId = some gone.id ∨
      self.rateLimitRediscoveries.lookup timerId = some gone.id
  | _ => True

variable [LawfulRoutingTable T k] {cause : Cause}

theorem Tracks.moves (htracks : Tracks fired self ctx.runtime) (h : Moves cause ctx ctx') :
    Tracks fired self ctx'.runtime := by
  refine h.invariant (I := fun mid ↦ Tracks fired self mid.runtime) (fun a b ha hmove ↦ ?_) htracks
  obtain ⟨hcounter, hpending⟩ := hmove.pending
  exact ⟨ha.agree, ha.apart, fun hwaits hne ↦ hpending _ (ha.pending hwaits hne),
    fun hwaits ↦ lt_of_lt_of_le (ha.lt_counter hwaits) hcounter⟩

theorem Covered.moves (hcovered : self.Covered ctx) (ht : Tidy ctx.routingTable)
    (hcause : ∀ id retries wait, ¬ cause.searched id retries wait) (h : Moves cause ctx ctx') :
    self.Covered ctx' :=
  fun id hid ↦ hcovered id (h.rediscovering hcause ht hid)

omit [LawfulRoutingTable T k] in
theorem tracks_removeById {gone : NodeId} (htracks : Tracks none self ctx.runtime)
    (hcovered : self.Covered ctx)
    (hresolved : ctx.Rediscovering gone → ∃ timerId,
      self.scheduledRediscoveries.lookup timerId = some gone ∨
        self.rateLimitRediscoveries.lookup timerId = some gone) :
    let after := { self with
      inflightRediscoveries := self.inflightRediscoveries.removeById gone }
    Tracks none after ctx.runtime ∧ after.Covered ctx := by
  intro after
  have hrequested : ∀ t, after.requested t = (self.requested t).filter fun id ↦ id ≠ gone := by
    intro t
    simp only [after, requested, InflightReqMap.lookup_removeById]
    cases self.inflightRediscoveries.timerToNode.lookup t with
    | none => rfl
    | some entry =>
      by_cases hentry : entry.1 = gone
      · simp [Option.filter_some, hentry]
      · simp [Option.filter_some, hentry]
  have hwaits : ∀ {t id}, after.WaitsFor t id → self.WaitsFor t id := by
    intro t id h
    rcases h with h | h | h
    · exact .inl h
    · rw [hrequested, Option.filter_eq_some_iff] at h
      exact .inr (.inl h.1)
    · exact .inr (.inr h)
  refine ⟨⟨InflightReqMap.agree_removeById htracks.agree gone, fun t ↦ ?_,
    fun h hne ↦ htracks.pending (hwaits h) hne, fun h ↦ htracks.lt_counter (hwaits h)⟩, ?_⟩
  · have hnone : self.requested t = none → after.requested t = none := by
      intro h
      rw [hrequested, h]
      rfl
    rcases htracks.apart t with ⟨hr, hl⟩ | ⟨hs, hl⟩ | ⟨hs, hr⟩
    · exact .inl ⟨hnone hr, hl⟩
    · exact .inr (.inl ⟨hs, hl⟩)
    · exact .inr (.inr ⟨hs, hnone hr⟩)
  · intro id hid
    by_cases hgone : id = gone
    · subst hgone
      obtain ⟨t, h | h⟩ := hresolved hid
      · exact ⟨t, .inl h⟩
      · exact ⟨t, .inr (.inr h)⟩
    · obtain ⟨t, h | h | h⟩ := hcovered id hid
      · exact ⟨t, .inl h⟩
      · refine ⟨t, .inr (.inl ?_)⟩
        rw [hrequested, h, Option.filter_some]
        simp [hgone]
      · exact ⟨t, .inr (.inr h)⟩

omit [LawfulRoutingTable T k] in
theorem tracks_removeByNonce {nonce : Nonce} {answer : Option (NodeId × TimerId)}
    {inflight : InflightReqMap} (htracks : Tracks none self ctx.runtime)
    (hcovered : self.Covered ctx)
    (hresolved : ∀ nodeId timerId,
      self.inflightRediscoveries.nonceToId.lookup nonce = some (nodeId, timerId) →
      ctx.Rediscovering nodeId → ∃ other, other ≠ timerId ∧ self.WaitsFor other nodeId)
    (h : self.inflightRediscoveries.removeByNonce nonce = .ok (answer, inflight)) :
    Tracks none { self with inflightRediscoveries := inflight } ctx.runtime ∧
      Covered { self with inflightRediscoveries := inflight } ctx := by
  cases hlookup : self.inflightRediscoveries.nonceToId.lookup nonce with
  | none =>
    rw [removeByNonce_none hlookup] at h
    cases h
    exact ⟨htracks, hcovered⟩
  | some entry =>
    obtain ⟨nodeId, timerId⟩ := entry
    obtain ⟨inflight', hremove, hreleases⟩ :=
      releases_removeByNonce htracks.agree htracks.apart hlookup
    obtain ⟨-, rfl⟩ := ok_mk_inj (hremove.symm.trans h)
    refine ⟨htracks.releases (.inl rfl) hreleases, fun id hid ↦ ?_⟩
    obtain ⟨t, hwaits⟩ := hcovered id hid
    rcases hreleases.waits_or htracks.apart hwaits with hwaits | rfl
    · exact ⟨t, hwaits⟩
    · obtain ⟨other, hne, hwaits⟩ := hresolved id timerId hlookup hid
      exact ⟨other, hreleases.waits.2 ⟨hwaits, hne⟩⟩

variable [CloseContacts T] {debug : Bool} {clock : Readings} {draws : Draws}

theorem tracks_startRediscovery {invalid : Contact} {nvs : NotViaStateList}
    {res : Except FailureHandlingError Unit} (ht : Tidy ctx.routingTable)
    (htracks : Tracks none self ctx.runtime) (hcovered : self.Covered ctx)
    (hstate : invalid.state = .invalid nvs)
    (h : startRediscovery debug clock draws self ctx invalid = .ok (res, self', ctx')) :
    Tracks none self' ctx'.runtime ∧ self'.Covered ctx' := by
  obtain ⟨-, hstarted⟩ := startRediscovery_cases hstate h
  obtain ⟨stored, nvs', via, wait, hc, htable⟩ := hstarted.contacts
  obtain ⟨timerId, duration, hreg, rfl⟩ := hstarted.timers
  obtain ⟨htracks', hgrows, hwaits⟩ :=
    htracks.adds hreg (adds_scheduled (htracks.fresh hreg))
  refine ⟨htracks', fun id hid ↦ ?_⟩
  by_cases hsame : id = invalid.id
  · exact hsame ▸ hwaits
  · obtain ⟨d, rds, hd, hdstate⟩ := hid
    have hid' : (stored.startRediscovering nvs' via self.config.maxRetryRounds wait).id =
        invalid.id :=
      (Contact.startRediscovering_id nvs' via self.config.maxRetryRounds wait stored).trans
        (contact_id ht hc)
    rw [htable, (write_effect ht hc (.inl hid')).2, Contents.written_self _ hid',
      Function.update_of_ne hsame] at hd
    obtain ⟨t, ht'⟩ := hcovered id ⟨d, rds, hd, hdstate⟩
    exact ⟨t, hgrows t id ht'⟩

/-- **The handling of failures keeps its books.** -/
theorem tracks_handleEvent {event : UseCaseEvent} {res : Except FailureHandlingError Unit}
    (ht : Tidy ctx.routingTable) (htracks : Tracks event.fired self ctx.runtime)
    (hcovered : self.Covered ctx) (hresolved : self.Resolved ctx event)
    (h : self.handleEvent debug clock draws ctx event = .ok (res, self', ctx')) :
    Tracks none self' ctx'.runtime ∧ self'.Covered ctx' := by
  -- unless a contact begins to be looked for, only those have to be covered that were before
  let cause : Cause := { Cause.none with died := fun _ ↦ True }
  have hkeep : ∀ {after : FailureHandling}, Moves cause ctx ctx' → self.Covers after ctx' →
      after.Covered ctx' := by
    intro after hmoves hcovers id hid
    exact hcovers id hid (hcovered.moves ht (fun _ _ _ h ↦ h) hmoves id hid)
  have hmoves : (∀ new old, event ≠ .contact (.updated new old)) → Moves cause ctx ctx' :=
    fun hother ↦ FailureHandling.moves (fun _ _ _ _ ↦ trivial)
      (fun new old heq ↦ absurd heq (hother new old)) h
  unfold handleEvent at h
  split at h
  · rename_i new old
    split at h
    · split at h
      · cases h
        have hremoved : Moves cause ctx (ctx.removeContact new.id) := .single (.remove trivial)
        exact ⟨htracks.moves hremoved, hkeep hremoved (Grows.covers (.refl _) _)⟩
      · split at h
        · rename_i hboth
          obtain ⟨hinvalid, -⟩ := (Bool.and_eq_true _ _).mp hboth
          obtain ⟨nvs, hstate⟩ := (Contact.isInvalid_iff new).1 hinvalid
          exact tracks_startRediscovery ht htracks hcovered hstate h
        · cases h
          exact ⟨htracks, hcovered⟩
    · cases h
      exact ⟨htracks, hcovered⟩
  · cases h
    exact tracks_removeById htracks hcovered hresolved
  · obtain ⟨⟨answer, inflight⟩, hremove, h⟩ := of_bind h
    cases h
    exact tracks_removeByNonce htracks hcovered hresolved hremove
  · obtain ⟨htracks', hcovers⟩ := tracks_handleRediscoveryFailure_msgId
      (by split <;> exact htracks) h
    exact ⟨htracks', hkeep (hmoves (by simp)) hcovers⟩
  · rename_i timerId
    split at h
    · rename_i contactId hscheduled
      obtain ⟨⟨sending, sent⟩, hsent, h⟩ := of_bind h
      cases h
      have hreleases := releases_scheduled htracks.agree htracks.apart hscheduled
      obtain ⟨htracks', hgrows, hwaits⟩ :=
        tracks_sendRediscoveryForContact (htracks.releases (.inr rfl) hreleases) hsent
      exact ⟨htracks', hkeep (hmoves (by simp))
        (hreleases.covers htracks.apart hgrows fun _ ↦ hwaits)⟩
    · rename_i hscheduled
      obtain ⟨htracks', hcovers⟩ :=
        tracks_handleRediscoveryFailure_timerId ht htracks hscheduled h
      exact ⟨htracks', hkeep (hmoves (by simp)) hcovers⟩
  · obtain ⟨mid, hmid, h⟩ := of_bind h
    obtain ⟨-, rfl, rfl⟩ := ok_mk₃_inj h
    have hdown : Moves cause ctx mid := hmoves (by simp)
    exact ⟨htracks.moves hdown, hkeep hdown (Grows.covers (.refl _) _)⟩
  · rename_i hother
    cases h
    refine ⟨htracks.unfired fun t heq ↦ ?_, hcovered⟩
    cases event with
    | timer id => simp at *
    | _ => cases heq

end FailureHandling

/-! ## Runs -/

namespace R2Kad

open UseCaseContext FailureHandling

variable {T : Type} {k : Nat} [RoutingTable T k]

/-- When the handling of failures gets the event, it does not take away what a contact waits for
that is still looked for. -/
def Resolves (debug : Bool) (occurrence : Occurrence) (node : R2Kad T) (event : UseCaseEvent) :
    Prop :=
  ∀ ctx, node.untilFailureHandling debug occurrence event = .ok (true, ctx) →
    node.failureHandling.Resolved ctx event

/-- The step has the node process an event that takes nothing away too early. -/
def Patient (debug : Bool) (node : R2Kad T) : Step → Prop
  | .input input occurrence => node.Resolves debug occurrence input.toEvent
  | .queued occurrence => ∀ event events, node.context.eventQueue = event :: events →
    Resolves debug occurrence { node with context := { node.context with eventQueue := events } }
      event
  | _ => True

variable {debug : Bool} {node node' : R2Kad T} {occurrence : Occurrence} {event : UseCaseEvent}

theorem reached_of_timer {id : TimerId} {reached : Bool} {ctx : UseCaseContext T}
    (h : node.untilFailureHandling debug occurrence (.timer id) = .ok (reached, ctx)) :
    reached = true := by
  obtain ⟨managed, -, h⟩ := of_bind h
  rw [if_neg (by simp [UseCaseEvent.isPathManagement])] at h
  obtain ⟨⟨result, learned⟩, hforward, h⟩ := of_bind h
  cases hforward
  obtain ⟨between, -, h⟩ := of_bind h
  obtain ⟨updated, -, h⟩ := of_bind h
  cases h
  rfl

/-- The books are in order, and whoever is looked for is waited for. -/
def Waiting (fired : Option TimerId) (node : R2Kad T) : Prop :=
  FailureHandling.Tracks fired node.failureHandling node.context.runtime ∧
    node.failureHandling.Covered node.context

theorem Waiting.fire (hnode : node.Waiting none) (fired : Option TimerId) : node.Waiting fired :=
  ⟨⟨hnode.1.agree, hnode.1.apart, fun hwaits _ ↦ hnode.1.pending hwaits (by simp),
    hnode.1.lt_counter⟩, hnode.2⟩

variable [LawfulRoutingTable T k] [CloseContacts T]

theorem waiting_processEvent (h : node.processEvent debug occurrence event = .ok node')
    (ht : Tidy node.context.routingTable) (hnode : node.Waiting event.fired)
    (hresolves : node.Resolves debug occurrence event) : node'.Waiting none := by
  obtain ⟨⟨reached, ctx⟩, huntil, h⟩ := of_bind h
  have hctx := moves_untilFailureHandling (fun _ _ _ ↦ False) huntil ht
  have htracks := hnode.1.moves hctx
  have hcovered := hnode.2.moves ht (fun _ _ _ h ↦ h) hctx
  cases reached with
  | false =>
    cases h
    refine ⟨htracks.unfired fun t heq ↦ ?_, hcovered⟩
    cases event with
    | timer id => cases reached_of_timer huntil
    | _ => cases heq
  | true =>
    obtain ⟨⟨res, failureHandling, handled⟩, hhandled, h⟩ := of_bind h
    obtain ⟨amid, hamid, h⟩ := of_bind h
    obtain ⟨⟨interfaces, discovered⟩, hdiscovered, h⟩ := of_bind h
    obtain ⟨after, hafter, h⟩ := of_bind h
    cases h
    have ht' : Tidy ctx.routingTable := Moves.tidy hctx ht
    obtain ⟨htracks', hcovered'⟩ :=
      tracks_handleEvent ht' htracks hcovered (hresolves ctx huntil) hhandled
    have hrest : Moves .none handled after :=
      ((Act.moves_all hamid).trans (UnderlayNeighborDiscovery.moves hdiscovered)).trans
        (Act.moves_all hafter)
    exact ⟨htracks'.moves hrest, hcovered'.moves ((moves_handleEvent hhandled).tidy ht')
      (fun _ _ _ h ↦ h) hrest⟩

/-- When a timer is handed out, it is the only one that may have an entry and not be pending. -/
theorem tracks_nextTimer {books : FailureHandling} {runtime runtime' : R2KadRuntime}
    {due : Option TimerId} (htracks : FailureHandling.Tracks none books runtime)
    (h : runtime.nextTimer debug = .ok (due, runtime')) :
    FailureHandling.Tracks due books runtime' := by
  rcases R2KadRuntime.nextTimer_eq_ok h with ⟨rfl, rfl, -⟩ | ⟨timer, -, rfl, -, -, rfl⟩
  · exact htracks
  · refine ⟨htracks.agree, htracks.apart, fun hwaits hne ↦ ?_, htracks.lt_counter⟩
    obtain ⟨other, hmem, hid⟩ := htracks.pending hwaits (by simp)
    have hother : other ≠ timer := by
      rintro rfl
      exact hne (congrArg some hid.symm)
    exact ⟨other, List.mem_append_right _ ((List.mem_erase_of_ne hother).2 hmem), hid⟩

theorem waiting_step {op : Step} (ht : Tidy node.context.routingTable)
    (hnode : node.Waiting none) (hpatient : node.Patient debug op)
    (h : node.step debug op = .ok node') : node'.Waiting none := by
  cases op with
  | input input occurrence =>
    exact waiting_processEvent h ht (hnode.fire _) hpatient
  | timer occurrence =>
    obtain ⟨⟨due, runtime⟩, hnext, h⟩ := of_bind h
    have htracks := tracks_nextTimer hnode.1 hnext
    cases due with
    | none =>
      cases h
      exact ⟨htracks, hnode.2⟩
    | some id =>
      exact waiting_processEvent h ht ⟨htracks, hnode.2⟩ fun _ _ ↦ trivial
  | queued occurrence =>
    simp only [step] at h
    split at h
    · cases h
      exact hnode
    · rename_i event events hqueue
      have hpopped : Waiting none { node with context := { node.context with
          eventQueue := events } } := hnode
      exact waiting_processEvent h ht (hpopped.fire _) (hpatient event events hqueue)
  | setCurrentTime now =>
    cases h
    exact ⟨⟨hnode.1.agree, hnode.1.apart, hnode.1.pending, hnode.1.lt_counter⟩, hnode.2⟩

/-- **Whoever is looked for is waited for, under a timer that is still to fire**, in every run in
which no event takes away too early what a contact waits for. -/
theorem attempts_pending {k : Nat} {debug : Bool} {root : NodeId} {startupTime : Instant}
    {node : R2Kad (UnlimitedULNRoutingTable k 1)}
    (h : Reachable (step debug) (Patient debug) (start (.new root (by decide) (by decide))
      startupTime) node)
    {c : Contact} {rds : RediscoveryState} (hc : c ∈ iter node.context.routingTable)
    (hstate : c.state = .rediscovering rds) :
    ∃ timerId, node.failureHandling.WaitsFor timerId c.id ∧
      node.context.runtime.Pending timerId := by
  have ht := (UnlimitedULNRoutingTable.healthy_new (k := k) root (by decide : 0 < 1)
    (by decide : 1 < 64)).tidy
  have hstart : Waiting none (start (.new root (by decide) (by decide) :
      UnlimitedULNRoutingTable k 1) startupTime) := by
    refine ⟨⟨InflightReqMap.agree_empty, fun t ↦ .inl ⟨rfl, rfl⟩, ?_, ?_⟩, ?_⟩
    · rintro t id (h | h | h) <;> cases h
    · rintro t id (h | h | h) <;> cases h
    · rintro id ⟨c, -, hc, -⟩
      exact absurd (mem_of_contact hc) (UnlimitedULNRoutingTable.not_mem_iter_new c)
  have hall := h.invariant (I := fun node ↦ Tidy node.context.routingTable ∧ node.Waiting none)
    ⟨ht, hstart⟩ fun node op node' hnode hop hstep ↦
      ⟨step_tidy hnode.1 hstep, waiting_step hnode.1 hnode.2 hop hstep⟩
  obtain ⟨t, hwaits⟩ := hall.2.2 c.id ⟨c, rds, contact_of_mem hall.1 hc, hstate⟩
  exact ⟨t, hwaits, hall.2.1.pending hwaits (by simp)⟩

/-- The event is neither an answer nor a removal. -/
def endsNoWait : UseCaseEvent → Bool
  | .message (.findNodeRsp _) _ => false
  | .contact (.removed _) => false
  | _ => true

omit [LawfulRoutingTable T k] [CloseContacts T] in
theorem resolved_of_endsNoWait {books : FailureHandling} {ctx : UseCaseContext T}
    (h : endsNoWait event = true) : books.Resolved ctx event := by
  unfold Resolved
  split
  · cases h
  · cases h
  · trivial

omit [LawfulRoutingTable T k] [CloseContacts T] in
theorem patient_of_endsNoWait {op : Step} (h : (node.nextEvent op).all endsNoWait = true) :
    node.Patient debug op := by
  cases op with
  | input input occurrence => exact fun _ _ ↦ resolved_of_endsNoWait h
  | queued occurrence =>
    intro event events hqueue ctx _
    rw [nextEvent, hqueue] at h
    exact resolved_of_endsNoWait h
  | _ => trivial

/-- A message from the node 1, whose link to the node 2 is broken. -/
def brokenLink : ProtocolMessage :=
  .probeReq
    { commonHeader := .new .probeReq 1 0 5 (.value .MIN) 1
      data := ⟨⟩
      notVia := some (NotViaList.empty.insert ⟨.new 1 2, 0⟩)
      sourceRoute := fromOne }

/-- The node 2 is known through the neighbour 1 until their link breaks.  Then it is looked for, and
1 is asked. -/
def lookedFor : List Step :=
  [ .input (.underlayUpdate (.interfaceUp 1)) (quiet 1),
    .input (.message (greeting 1) ⟨1, 1⟩) (quiet 2), .queued (quiet 3), .queued (quiet 3),
    .input (.message probeOverOne ⟨1, 1⟩) (quiet 6), .queued (quiet 7),
    .input (.message brokenLink ⟨1, 1⟩) (quiet 100), .queued (quiet 101),
    .setCurrentTime 3000000000, .timer (quiet 200), .queued (quiet 201), .queued (quiet 201) ]

/-- The answer to the request is waited for. -/
theorem request_pending :
    ∃ node : R2Kad (UnlimitedULNRoutingTable 20 1), ∃ c ∈ iter node.context.routingTable,
      ∃ rds, c.state = .rediscovering rds ∧
        ∃ timerId, node.failureHandling.WaitsFor timerId c.id ∧
          node.context.runtime.Pending timerId := by
  obtain ⟨node, hnode, c, hc, rds, hstate⟩ : ∃ node : R2Kad (UnlimitedULNRoutingTable 20 1),
      runAll (step true) (start nodeZero 0) lookedFor = .ok node ∧
        ∃ c ∈ iter node.context.routingTable, ∃ rds, c.state = .rediscovering rds :=
    ⟨_, rfl, _, List.mem_cons_of_mem _ (List.mem_singleton.2 rfl), _, rfl⟩
  have hrun : Reachable (step true) (Patient true) (start nodeZero 0) node :=
    reachable_of_testAll (fun _ _ ↦ patient_of_endsNoWait) .start (by decide +kernel) hnode
  exact ⟨node, c, hc, rds, hstate, attempts_pending hrun hc hstate⟩

/-- The node 1 answers that it knows nobody who is closer. -/
def emptyAnswer : ProtocolMessage :=
  .findNodeRsp
    { commonHeader := .new .findNodeRsp 1 0 0 (.value .MIN) 1
      data := ⟨[]⟩
      notVia := none
      sourceRoute := fromOne }

/-- **A contact is looked for, but nothing is waited for any more**, and no event is left in the
queue. -/
theorem contact_is_stranded :
    ∃ node : R2Kad (UnlimitedULNRoutingTable 20 1),
      Reachable (step true) (fun _ _ ↦ True) (start nodeZero 0) node ∧
      node.context.eventQueue = [] ∧
      ∃ c ∈ iter node.context.routingTable, (∃ rds, c.state = .rediscovering rds) ∧
        ∀ timerId, ¬ node.failureHandling.WaitsFor timerId c.id := by
  refine ⟨_, reachable_of_steps
    (lookedFor ++ [.input (.message emptyAnswer ⟨1, 1⟩) (quiet 300)]) rfl, rfl, _,
    List.mem_cons_of_mem _ (List.mem_singleton.2 rfl), ⟨_, rfl⟩, ?_⟩
  rintro timerId (h | h | h) <;> cases h

end R2Kad

end Kira
