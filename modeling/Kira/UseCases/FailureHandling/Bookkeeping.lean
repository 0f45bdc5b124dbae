import Kira.R2Kad.LiveTimers
import Kira.UseCases.FailureHandling.Moves

/-!
# What the handling of failures waits for

While a contact is looked for there is always something that the use case waits for: the beginning
of a round, the answer to a request, or the end of a pause.  Each of these is an entry of one of
three maps, under the timer that ends the waiting.

`Tracks` says that the books are in order: no timer has two entries, and the timers of all entries
are still to fire, except the one that has just fired and is being handled.  Each function of the
use case keeps the books in order, and adds an entry wherever it takes one away, unless the contact
is not looked for any more.  There is one lemma for each function.
-/

set_option autoImplicit false

namespace Kira

open Run RoutingTable LawfulRoutingTable

namespace UseCaseContext

variable {T : Type} {k : Nat} [RoutingTable T k]

/-- The contact with this id is being rediscovered. -/
def Rediscovering (ctx : UseCaseContext T) (id : NodeId) : Prop :=
  ∃ c rds, contact ctx.routingTable id = some c ∧ c.state = .rediscovering rds

end UseCaseContext

namespace FailureHandling

/-- The node that the request is about whose answer is waited for until this timer. -/
def requested (self : FailureHandling) (timerId : TimerId) : Option NodeId :=
  (self.inflightRediscoveries.timerToNode.lookup timerId).map Prod.fst

/-- The timer ends a wait on behalf of this node. -/
def WaitsFor (self : FailureHandling) (timerId : TimerId) (nodeId : NodeId) : Prop :=
  self.scheduledRediscoveries.lookup timerId = some nodeId ∨
    self.requested timerId = some nodeId ∨
    self.rateLimitRediscoveries.lookup timerId = some nodeId

/-- No timer has two entries. -/
def Apart (self : FailureHandling) : Prop :=
  ∀ timerId,
    (self.requested timerId = none ∧ self.rateLimitRediscoveries.lookup timerId = none) ∨
    (self.scheduledRediscoveries.lookup timerId = none ∧
      self.rateLimitRediscoveries.lookup timerId = none) ∨
    (self.scheduledRediscoveries.lookup timerId = none ∧ self.requested timerId = none)

/-- The books are in order, except for a timer that has fired. -/
structure Tracks (fired : Option TimerId) (books : FailureHandling) (runtime : R2KadRuntime) :
    Prop where
  agree : books.inflightRediscoveries.Agree
  apart : books.Apart
  pending {timerId : TimerId} {nodeId : NodeId} : books.WaitsFor timerId nodeId →
    some timerId ≠ fired → runtime.Pending timerId
  lt_counter {timerId : TimerId} {nodeId : NodeId} : books.WaitsFor timerId nodeId →
    timerId < runtime.counter

/-- Nothing is taken from the books. -/
def Grows (before after : FailureHandling) : Prop :=
  ∀ timerId nodeId, before.WaitsFor timerId nodeId → after.WaitsFor timerId nodeId

theorem Grows.refl (self : FailureHandling) : self.Grows self := fun _ _ h ↦ h

theorem Grows.trans {a b c : FailureHandling} (hab : a.Grows b) (hbc : b.Grows c) : a.Grows c :=
  fun t id h ↦ hbc t id (hab t id h)

variable {self self' : FailureHandling} {timerId : TimerId} {nodeId : NodeId}

theorem waitsFor_none (h : ∀ id, ¬ self.WaitsFor timerId id) :
    self.scheduledRediscoveries.lookup timerId = none ∧ self.requested timerId = none ∧
      self.rateLimitRediscoveries.lookup timerId = none := by
  refine ⟨?_, ?_, ?_⟩
  · exact Option.eq_none_iff_forall_ne_some.2 fun id hid ↦ h id (.inl hid)
  · exact Option.eq_none_iff_forall_ne_some.2 fun id hid ↦ h id (.inr (.inl hid))
  · exact Option.eq_none_iff_forall_ne_some.2 fun id hid ↦ h id (.inr (.inr hid))

/-! ## New entries -/

/-- One entry is added, under a timer that had none. -/
structure Adds (before : FailureHandling) (timerId : TimerId) (nodeId : NodeId)
    (after : FailureHandling) : Prop where
  agree : before.inflightRediscoveries.Agree → after.inflightRediscoveries.Agree
  apart : before.Apart → after.Apart
  waits {t : TimerId} {id : NodeId} : after.WaitsFor t id ↔
    before.WaitsFor t id ∨ t = timerId ∧ id = nodeId

theorem adds_of_lookup
    (hagree : self.inflightRediscoveries.Agree → self'.inflightRediscoveries.Agree)
    (hfresh : ∀ id, ¬ self.WaitsFor timerId id)
    (hother : ∀ t, t ≠ timerId →
      self'.scheduledRediscoveries.lookup t = self.scheduledRediscoveries.lookup t ∧
      self'.requested t = self.requested t ∧
      self'.rateLimitRediscoveries.lookup t = self.rateLimitRediscoveries.lookup t)
    (hone : (self'.scheduledRediscoveries.lookup timerId = some nodeId ∧
        self'.requested timerId = none ∧ self'.rateLimitRediscoveries.lookup timerId = none) ∨
      (self'.scheduledRediscoveries.lookup timerId = none ∧
        self'.requested timerId = some nodeId ∧
        self'.rateLimitRediscoveries.lookup timerId = none) ∨
      (self'.scheduledRediscoveries.lookup timerId = none ∧ self'.requested timerId = none ∧
        self'.rateLimitRediscoveries.lookup timerId = some nodeId)) :
    Adds self timerId nodeId self' := by
  refine ⟨hagree, fun hapart t ↦ ?_, fun {t id} ↦ ?_⟩
  · by_cases ht : t = timerId
    · subst ht
      rcases hone with ⟨-, hr, hl⟩ | ⟨hs, -, hl⟩ | ⟨hs, hr, -⟩
      · exact .inl ⟨hr, hl⟩
      · exact .inr (.inl ⟨hs, hl⟩)
      · exact .inr (.inr ⟨hs, hr⟩)
    · obtain ⟨hs, hr, hl⟩ := hother t ht
      rw [hs, hr, hl]
      exact hapart t
  · by_cases ht : t = timerId
    · subst ht
      have hnew : self'.WaitsFor t id ↔ id = nodeId := by
        rcases hone with ⟨hs, hr, hl⟩ | ⟨hs, hr, hl⟩ | ⟨hs, hr, hl⟩
        all_goals simp [WaitsFor, hs, hr, hl, eq_comm]
      simp [hnew, hfresh id]
    · obtain ⟨hs, hr, hl⟩ := hother t ht
      simp [WaitsFor, hs, hr, hl, ht]

theorem adds_scheduled (hfresh : ∀ id, ¬ self.WaitsFor timerId id) :
    Adds self timerId nodeId { self with
      scheduledRediscoveries := self.scheduledRediscoveries.insert timerId nodeId } := by
  obtain ⟨-, hrequested, hlimited⟩ := waitsFor_none hfresh
  refine adds_of_lookup (fun h ↦ h) hfresh (fun t ht ↦ ⟨?_, rfl, rfl⟩)
    (.inl ⟨?_, hrequested, hlimited⟩)
  · exact AList.lookup_insert_ne ht
  · exact AList.lookup_insert _

theorem adds_rateLimit (hfresh : ∀ id, ¬ self.WaitsFor timerId id) :
    Adds self timerId nodeId { self with
      rateLimitRediscoveries := self.rateLimitRediscoveries.insert timerId nodeId } := by
  obtain ⟨hscheduled, hrequested, -⟩ := waitsFor_none hfresh
  refine adds_of_lookup (fun h ↦ h) hfresh (fun t ht ↦ ⟨rfl, rfl, ?_⟩)
    (.inr (.inr ⟨hscheduled, hrequested, ?_⟩))
  · exact AList.lookup_insert_ne ht
  · exact AList.lookup_insert _

variable {contactId : NodeId} {inflight : InflightReqMap} {res : Except FailureHandlingError Unit}

variable {nonce : Nonce}

theorem adds_inflight (hagree : self.inflightRediscoveries.Agree)
    (hfresh : ∀ id, ¬ self.WaitsFor timerId id)
    (h : self.inflightRediscoveries.insert nodeId timerId nonce = .ok inflight) :
    Adds self timerId nodeId { self with inflightRediscoveries := inflight } := by
  obtain ⟨hscheduled, -, hlimited⟩ := waitsFor_none hfresh
  obtain ⟨hagree', htimers⟩ := InflightReqMap.insert_eq_ok hagree h
  refine adds_of_lookup (fun _ ↦ hagree') hfresh (fun t ht ↦ ⟨rfl, ?_, rfl⟩)
    (.inr (.inl ⟨hscheduled, ?_, hlimited⟩))
  · rw [requested, requested, htimers, AList.lookup_insert_ne ht]
  · rw [requested, htimers, AList.lookup_insert]
    rfl

/-! ## Entries that are taken out -/

theorem Apart.unique (h : self.Apart) {a b : NodeId} (ha : self.WaitsFor timerId a)
    (hb : self.WaitsFor timerId b) : a = b := by
  rcases h timerId with ⟨hr, hl⟩ | ⟨hs, hl⟩ | ⟨hs, hr⟩
  · simp only [WaitsFor, hr, hl, reduceCtorEq, or_false] at ha hb
    exact Option.some.inj (ha.symm.trans hb)
  · simp only [WaitsFor, hs, hl, reduceCtorEq, false_or, or_false] at ha hb
    exact Option.some.inj (ha.symm.trans hb)
  · simp only [WaitsFor, hs, hr, reduceCtorEq, false_or] at ha hb
    exact Option.some.inj (ha.symm.trans hb)

/-- The entry of a timer is taken out. -/
structure Releases (before : FailureHandling) (timerId : TimerId) (nodeId : NodeId)
    (after : FailureHandling) : Prop where
  agree : after.inflightRediscoveries.Agree
  apart : after.Apart
  waited : before.WaitsFor timerId nodeId
  waits {t : TimerId} {id : NodeId} : after.WaitsFor t id ↔ before.WaitsFor t id ∧ t ≠ timerId

theorem Releases.waits_or {before after : FailureHandling}
    (h : Releases before timerId nodeId after) (hapart : before.Apart) {t : TimerId} {id : NodeId}
    (hwaits : before.WaitsFor t id) : after.WaitsFor t id ∨ id = nodeId := by
  by_cases ht : t = timerId
  · subst ht
    exact .inr (hapart.unique hwaits h.waited)
  · exact .inl (h.waits.2 ⟨hwaits, ht⟩)

theorem releases_of_lookup (hagree : self'.inflightRediscoveries.Agree) (hapart : self.Apart)
    (hwaited : self.WaitsFor timerId nodeId)
    (hother : ∀ t, t ≠ timerId →
      self'.scheduledRediscoveries.lookup t = self.scheduledRediscoveries.lookup t ∧
      self'.requested t = self.requested t ∧
      self'.rateLimitRediscoveries.lookup t = self.rateLimitRediscoveries.lookup t)
    (hnone : self'.scheduledRediscoveries.lookup timerId = none ∧
      self'.requested timerId = none ∧ self'.rateLimitRediscoveries.lookup timerId = none) :
    Releases self timerId nodeId self' := by
  obtain ⟨hscheduled, hrequested, hlimited⟩ := hnone
  refine ⟨hagree, fun t ↦ ?_, hwaited, fun {t id} ↦ ?_⟩
  · by_cases ht : t = timerId
    · subst ht
      exact .inl ⟨hrequested, hlimited⟩
    · obtain ⟨hs, hr, hl⟩ := hother t ht
      rw [hs, hr, hl]
      exact hapart t
  · by_cases ht : t = timerId
    · subst ht
      simp [WaitsFor, hscheduled, hrequested, hlimited]
    · obtain ⟨hs, hr, hl⟩ := hother t ht
      simp [WaitsFor, hs, hr, hl, ht]

theorem releases_scheduled (hagree : self.inflightRediscoveries.Agree) (hapart : self.Apart)
    (h : self.scheduledRediscoveries.lookup timerId = some nodeId) :
    Releases self timerId nodeId { self with
      scheduledRediscoveries := self.scheduledRediscoveries.erase timerId } := by
  have hnone : self.requested timerId = none ∧
      self.rateLimitRediscoveries.lookup timerId = none := by
    simpa [h] using hapart timerId
  refine releases_of_lookup hagree hapart (.inl h) (fun t ht ↦ ⟨?_, rfl, rfl⟩) ⟨?_, hnone⟩
  · exact AList.lookup_erase_ne ht
  · exact AList.lookup_erase _ _

theorem releases_rateLimit (hagree : self.inflightRediscoveries.Agree) (hapart : self.Apart)
    (h : self.rateLimitRediscoveries.lookup timerId = some nodeId) :
    Releases self timerId nodeId { self with
      rateLimitRediscoveries := self.rateLimitRediscoveries.erase timerId } := by
  have hnone : self.scheduledRediscoveries.lookup timerId = none ∧
      self.requested timerId = none := by
    simpa [h] using hapart timerId
  refine releases_of_lookup hagree hapart (.inr (.inr h)) (fun t ht ↦ ⟨rfl, rfl, ?_⟩)
    ⟨hnone.1, hnone.2, ?_⟩
  · exact AList.lookup_erase_ne ht
  · exact AList.lookup_erase _ _

theorem releases_inflight (hagree : inflight.Agree) (hapart : self.Apart)
    (h : self.requested timerId = some nodeId) (hlookup : ∀ t, inflight.timerToNode.lookup t =
      if t = timerId then none else self.inflightRediscoveries.timerToNode.lookup t) :
    Releases self timerId nodeId { self with inflightRediscoveries := inflight } := by
  have hnone : self.scheduledRediscoveries.lookup timerId = none ∧
      self.rateLimitRediscoveries.lookup timerId = none := by
    simpa [h] using hapart timerId
  refine releases_of_lookup hagree hapart (.inr (.inl h)) (fun t ht ↦ ⟨rfl, ?_, rfl⟩)
    ⟨hnone.1, ?_, hnone.2⟩
  · rw [requested, requested, hlookup, if_neg ht]
  · rw [requested, hlookup, if_pos rfl]
    rfl

theorem releases_removeByNonce (hagree : self.inflightRediscoveries.Agree) (hapart : self.Apart)
    (h : self.inflightRediscoveries.nonceToId.lookup nonce = some (nodeId, timerId)) :
    ∃ inflight, self.inflightRediscoveries.removeByNonce nonce =
        .ok (some (nodeId, timerId), inflight) ∧
      Releases self timerId nodeId { self with inflightRediscoveries := inflight } := by
  obtain ⟨inflight, hremove, hagree', hlookup⟩ := InflightReqMap.removeByNonce_eq hagree nonce
  have htimer := (hagree timerId nodeId nonce).2 h
  refine ⟨inflight, by rw [hremove, h], releases_inflight hagree' hapart ?_ fun t ↦ ?_⟩
  · rw [requested, htimer]
    rfl
  · rw [hlookup]
    split
    · rename_i ht
      rw [ht, htimer, Option.filter_some]
      simp
    · rename_i ht
      cases hentry : self.inflightRediscoveries.timerToNode.lookup t with
      | none => rfl
      | some entry =>
        have hne : entry.2 ≠ nonce := by
          intro heq
          have hsame := (hagree t entry.1 nonce).1 (by rw [hentry, ← heq])
          rw [h] at hsame
          exact ht (Prod.mk.inj (Option.some.inj hsame)).2.symm
        simp [Option.filter_some, hne]

theorem removeByNonce_none
    (h : self.inflightRediscoveries.nonceToId.lookup nonce = none) :
    self.inflightRediscoveries.removeByNonce nonce = .ok (none, self.inflightRediscoveries) := by
  rw [InflightReqMap.removeByNonce, h]
  rfl

/-! ## Timers -/

variable {fired : Option TimerId} {debug : Bool} {duration : Duration}
  {runtime runtime' : R2KadRuntime}

theorem Tracks.register (h : Tracks fired self runtime)
    (hreg : runtime.registerTimer debug duration = .ok (timerId, runtime')) :
    Tracks fired self runtime' := by
  obtain ⟨-, hcounter, -, hpending⟩ := R2KadRuntime.pending_registerTimer hreg
  refine ⟨h.agree, h.apart, fun hwaits hne ↦ hpending _ (h.pending hwaits hne), fun hwaits ↦ ?_⟩
  rw [hcounter]
  exact Nat.lt_succ_of_lt (h.lt_counter hwaits)

theorem Tracks.fresh (h : Tracks fired self runtime)
    (hreg : runtime.registerTimer debug duration = .ok (timerId, runtime')) (id : NodeId) :
    ¬ self.WaitsFor timerId id := by
  intro hwaits
  have hlt := h.lt_counter hwaits
  rw [(R2KadRuntime.pending_registerTimer hreg).1] at hlt
  exact Nat.lt_irrefl _ hlt

/-- A timer is registered, and an entry is made under it. -/
theorem Tracks.adds (h : Tracks fired self runtime)
    (hreg : runtime.registerTimer debug duration = .ok (timerId, runtime'))
    (hadds : Adds self timerId nodeId self') :
    Tracks fired self' runtime' ∧ self.Grows self' ∧ ∃ t, self'.WaitsFor t nodeId := by
  obtain ⟨rfl, hcounter, hnew, -⟩ := R2KadRuntime.pending_registerTimer hreg
  have hkept := h.register hreg
  refine ⟨⟨hadds.agree h.agree, hadds.apart h.apart, fun hwaits hne ↦ ?_, fun hwaits ↦ ?_⟩,
    fun t id hwaits ↦ hadds.waits.2 (.inl hwaits), _, hadds.waits.2 (.inr ⟨rfl, rfl⟩)⟩
  · rcases hadds.waits.1 hwaits with hwaits | ⟨rfl, -⟩
    · exact hkept.pending hwaits hne
    · exact hnew
  · rcases hadds.waits.1 hwaits with hwaits | ⟨rfl, -⟩
    · exact hkept.lt_counter hwaits
    · rw [hcounter]
      exact Nat.lt_succ_self _

/-- With the entry of the timer that has fired, the books are in order again. -/
theorem Tracks.releases (h : Tracks fired self runtime)
    (hfired : fired = none ∨ fired = some timerId)
    (hreleases : Releases self timerId nodeId self') :
    Tracks none self' runtime := by
  refine ⟨hreleases.agree, hreleases.apart, fun hwaits _ ↦ ?_, fun hwaits ↦ ?_⟩
  · obtain ⟨hwaits, ht⟩ := hreleases.waits.1 hwaits
    refine h.pending hwaits ?_
    rcases hfired with rfl | rfl
    · simp
    · simpa using ht
  · exact h.lt_counter (hreleases.waits.1 hwaits).1

theorem Tracks.unfired (h : Tracks fired self runtime)
    (hnone : ∀ t, fired = some t → ∀ id, ¬ self.WaitsFor t id) : Tracks none self runtime where
  agree := h.agree
  apart := h.apart
  pending {t id} hwaits _ := h.pending hwaits fun heq ↦ hnone t heq.symm id hwaits
  lt_counter := h.lt_counter

/-! ## The functions of the use case -/

variable {T : Type} {k : Nat} [RoutingTable T k] {ctx ctx' : UseCaseContext T} {clock : Readings}
  {draws : Draws}

open UseCaseContext

theorem sameState_sendFindNodeReq {nvs : NotViaStateList} {viaPath : Run Path}
    (h : sendFindNodeReq clock ctx contactId nonce nvs viaPath = .ok ctx') :
    ctx.SameState ctx' := by
  unfold sendFindNodeReq at h
  split at h
  · obtain ⟨notVia, -, h⟩ := of_bind h
    obtain ⟨path, -, h⟩ := of_bind h
    exact sameState_sendMessage h
  · cases h

theorem trackRequest_eq_ok {nonces : Nat → Nonce} {rounds i : Nat} {inflight' : InflightReqMap}
    (hfresh : inflight.timerExists timerId = false)
    (h : trackRequest debug nonces contactId rounds i timerId inflight ctx =
      .ok (nonce, inflight', ctx')) :
    inflight.insert contactId timerId nonce = .ok inflight' ∧ ctx' = ctx := by
  induction rounds generalizing i with
  | zero => cases h
  | succ rounds ih =>
    unfold trackRequest at h
    split at h
    · rename_i hinsert
      cases h
      exact ⟨hinsert, rfl⟩
    · exact ih h
    · rename_i hinsert
      rcases InflightReqMap.insert_eq_error hinsert with ⟨-, hexists⟩ | ⟨herr, -⟩
      · simp [hfresh] at hexists
      · cases herr

theorem timerExists_of_fresh (hfresh : ∀ id, ¬ self.WaitsFor timerId id) :
    self.inflightRediscoveries.timerExists timerId = false := by
  have hnone := (waitsFor_none hfresh).2.1
  rw [requested, Option.map_eq_none_iff] at hnone
  rw [InflightReqMap.timerExists, hnone]
  rfl

theorem tracks_sendRequests {nvs : NotViaStateList} {j : Nat} {via : List NodeId}
    (htracks : Tracks fired self ctx.runtime)
    (h : sendRequests debug clock draws contactId nvs j via self ctx = .ok (self', ctx')) :
    Tracks fired self' ctx'.runtime ∧ self.Grows self' ∧
      (via ≠ [] → ∃ t, self'.WaitsFor t contactId) := by
  induction via generalizing j self ctx with
  | nil =>
    obtain ⟨rfl, rfl⟩ := ok_mk_inj h
    exact ⟨htracks, .refl self, by simp⟩
  | cons id via ih =>
    obtain ⟨⟨timerId, timed⟩, hreg, h⟩ := of_bind h
    obtain ⟨runtime, hruntime, rfl⟩ := registerTimer_cases hreg
    have hfresh := htracks.fresh hruntime
    obtain ⟨⟨nonce, inflight, tracked⟩, htrack, h⟩ := of_bind h
    obtain ⟨hinsert, rfl⟩ := trackRequest_eq_ok (timerExists_of_fresh hfresh) htrack
    obtain ⟨viaContact, -, h⟩ := of_bind h
    obtain ⟨sent, hsent, h⟩ := of_bind h
    obtain ⟨hadded, hgrows, t, hwaits⟩ :=
      htracks.adds hruntime (adds_inflight htracks.agree hfresh hinsert)
    have hsent : sent.runtime = runtime := (sameState_sendFindNodeReq hsent).runtime
    obtain ⟨hrest, hgrows', -⟩ := ih (hsent ▸ hadded) h
    exact ⟨hrest, hgrows.trans hgrows', fun _ ↦ ⟨t, hgrows' t contactId hwaits⟩⟩

theorem tracks_scheduleRediscovery {wait : Duration} (htracks : Tracks fired self ctx.runtime)
    (h : scheduleRediscovery debug self ctx contactId wait = .ok (self', ctx')) :
    Tracks fired self' ctx'.runtime ∧ self.Grows self' ∧ ∃ t, self'.WaitsFor t contactId := by
  obtain ⟨⟨timerId, timed⟩, hreg, h⟩ := of_bind h
  obtain ⟨runtime, hruntime, rfl⟩ := registerTimer_cases hreg
  cases h
  exact htracks.adds hruntime (adds_scheduled (htracks.fresh hruntime))

theorem track_eq_ok {nodeId : NodeId} {rounds i : Nat}
    {tracked : Option (Nonce × InflightReqMap)} (hfresh : inflight.timerExists timerId = false)
    (h : sendNextRequest.track draws nodeId timerId inflight rounds i = .ok tracked) :
    ∃ nonce inflight', tracked = some (nonce, inflight') ∧
      inflight.insert nodeId timerId nonce = .ok inflight' := by
  induction rounds generalizing i with
  | zero => cases h
  | succ rounds ih =>
    unfold sendNextRequest.track at h
    split at h
    · rename_i hinsert
      cases h
      exact ⟨_, _, rfl, hinsert⟩
    · exact ih h
    · rename_i hinsert
      rcases InflightReqMap.insert_eq_error hinsert with ⟨-, hexists⟩ | ⟨herr, -⟩
      · simp [hfresh] at hexists
      · cases herr

theorem tracks_sendNextRequest {via : NodeId} (htracks : Tracks fired self ctx.runtime)
    (h : sendNextRequest debug clock draws self ctx nodeId via = .ok (res, self', ctx')) :
    Tracks fired self' ctx'.runtime ∧ self.Grows self' ∧ ∃ t, self'.WaitsFor t nodeId := by
  obtain ⟨⟨timerId, timed⟩, hreg, h⟩ := of_bind h
  obtain ⟨runtime, hruntime, rfl⟩ := registerTimer_cases hreg
  have hfresh := htracks.fresh hruntime
  obtain ⟨tracked, htrack, h⟩ := of_bind h
  obtain ⟨nonce, inflight, rfl, hinsert⟩ := track_eq_ok (timerExists_of_fresh hfresh) htrack
  obtain ⟨rediscovered, -, h⟩ := of_bind h
  obtain ⟨sent, hsent, h⟩ := of_bind h
  obtain ⟨stored, -, h⟩ := of_bind h
  have hsent : sent.runtime = runtime := (sameState_sendFindNodeReq hsent).runtime
  split at h
  · cases h
    rw [hsent]
    exact htracks.adds hruntime (adds_inflight htracks.agree hfresh hinsert)
  · cases h

variable [LawfulRoutingTable T k]

theorem extractEligibleViaContacts_eq_ok {n : Nat} {via : Option (List NodeId)}
    (h : extractEligibleViaContacts ctx contactId n = .ok (via, ctx')) :
    ctx'.runtime = ctx.runtime ∧ ∀ ids, via = some ids → ids ≠ [] := by
  have hanswer : ∀ (selected : List NodeId) (ids : List NodeId),
      (if selected.isEmpty then none else some selected) = some ids → ids ≠ [] := by
    intro selected ids hsome
    split at hsome
    · cases hsome
    · rename_i hempty
      cases hsome
      simpa using hempty
  unfold extractEligibleViaContacts at h
  split at h
  · dsimp only at h
    split at h
    · obtain ⟨⟨found, mid⟩, hmut, h⟩ := of_bind h
      have hmid : mid.runtime = ctx.runtime := by
        rcases contactMut_cases hmut with ⟨-, -, rfl⟩ | ⟨c, a, d, -, -, -, rfl⟩
        · rfl
        · rfl
      cases found with
      | none => cases h
      | some u =>
        cases h
        exact ⟨hmid, hanswer _⟩
    · cases h
      exact ⟨rfl, hanswer _⟩
  · cases h
    exact ⟨rfl, by simp⟩

theorem tracks_sendRediscoveryForContact (htracks : Tracks fired self ctx.runtime)
    (h : sendRediscoveryForContact debug clock draws self ctx contactId = .ok (self', ctx')) :
    Tracks fired self' ctx'.runtime ∧ self.Grows self' ∧ ∃ t, self'.WaitsFor t contactId := by
  obtain ⟨⟨via, mid⟩, hvia, h⟩ := of_bind h
  obtain ⟨hmid, hne⟩ := extractEligibleViaContacts_eq_ok hvia
  rw [← hmid] at htracks
  cases via with
  | none =>
    obtain ⟨⟨timerId, timed⟩, hreg, h⟩ := of_bind h
    obtain ⟨runtime, hruntime, rfl⟩ := registerTimer_cases hreg
    cases h
    exact htracks.adds hruntime (adds_rateLimit (htracks.fresh hruntime))
  | some via =>
    obtain ⟨rediscovered, -, h⟩ := of_bind h
    obtain ⟨htracks', hgrows, hwaits⟩ := tracks_sendRequests htracks h
    exact ⟨htracks', hgrows, hwaits (hne via rfl)⟩

theorem finishRound_eq_none {via : List NodeId} {c d : Contact} {rds : RediscoveryState}
    (hagree : self.inflightRediscoveries.Agree)
    (h : finishRound debug draws self nodeId via c = .ok (none, d))
    (hd : d.state = .rediscovering rds) : ∃ t, self.WaitsFor t nodeId := by
  unfold finishRound at h
  split at h
  · split at h
    · rename_i hexists
      rcases (Bool.or_eq_true _ _).mp hexists with hrequest | hlimited
      · obtain ⟨t, nonce, hlookup⟩ := (InflightReqMap.nodeExists_iff hagree).1 hrequest
        exact ⟨t, .inr (.inl (by rw [requested, hlookup]; rfl))⟩
      · obtain ⟨t, hlookup⟩ := KeyMap.mem_values.1 (List.contains_iff_mem.1 hlimited)
        exact ⟨t, .inr (.inr hlookup)⟩
    · rename_i hexists
      obtain ⟨⟨next, backoff⟩, -, h⟩ := of_bind h
      cases next with
      | some duration =>
        obtain ⟨refilled, -, h⟩ := of_bind h
        cases (ok_mk_inj h).1
      | none =>
        have hnone : (!self.inflightRediscoveries.nodeExists nodeId) = true := by
          simp only [Bool.or_eq_true, not_or, Bool.not_eq_true] at hexists
          simp [hexists.1]
        dsimp only at h
        rw [if_pos hnone] at h
        cases h
        cases hd
  · rename_i hstate
    cases h
    exact absurd hd (hstate rds)

theorem tracks_nextRound (ht : Tidy ctx.routingTable) (htracks : Tracks fired self ctx.runtime)
    (h : nextRound debug clock draws self ctx nodeId = .ok (res, self', ctx')) :
    Tracks fired self' ctx'.runtime ∧ self.Grows self' ∧
      (ctx'.Rediscovering nodeId → ∃ t, self'.WaitsFor t nodeId) := by
  obtain ⟨answer, -, h⟩ := of_bind h
  cases answer with
  | error err => cases h
  | ok via =>
    obtain ⟨⟨finished, mid⟩, hmut, hround⟩ := of_bind h
    rcases contactMut_cases hmut with ⟨hnone, rfl, rfl⟩ | ⟨c, wait, d, hc, hd, rfl, rfl⟩
    · cases hround
      refine ⟨htracks, .refl self, ?_⟩
      rintro ⟨c, rds, hc, -⟩
      simp [hnone] at hc
    · have hid : d.id = nodeId := (change_finishRound hd).id_eq.trans (contact_id ht hc)
      have hstored : contact (ctx.write nodeId c d).routingTable nodeId = some d := by
        have hwritten := (write_effect ht hc (.inl hid)).2
        rw [Contents.written_self _ hid] at hwritten
        show contact (LawfulRoutingTable.write ctx.routingTable nodeId d) nodeId = some d
        rw [hwritten, Function.update_self]
      cases wait with
      | none =>
        cases hround
        refine ⟨htracks, .refl self, ?_⟩
        rintro ⟨c', rds, hc', hstate⟩
        obtain rfl := Option.some.inj (hstored.symm.trans hc')
        exact finishRound_eq_none htracks.agree hd hstate
      | some duration =>
        simp only [hstored] at hround
        obtain ⟨⟨scheduled, timed⟩, hsched, hround⟩ := of_bind hround
        cases hround
        rw [hid] at hsched
        have htracks : Tracks fired self (ctx.write nodeId c d).runtime := htracks
        obtain ⟨htracks', hgrows, hwaits⟩ := tracks_scheduleRediscovery htracks hsched
        exact ⟨htracks', hgrows, fun _ ↦ hwaits⟩

/-- The entry of a timer is taken out if it is that of a request or of a pause. -/
theorem takeTimedOut_cases {found : Option NodeId} (htracks : Tracks fired self runtime)
    (h : self.takeTimedOut timerId = .ok (found, self')) :
    (found = none ∧ self' = self ∧ self.requested timerId = none ∧
      self.rateLimitRediscoveries.lookup timerId = none) ∨
    ∃ nodeId, found = some nodeId ∧ Releases self timerId nodeId self' := by
  unfold takeTimedOut at h
  split at h
  · obtain ⟨inflight, hremove, hagree, hlookup⟩ :=
      InflightReqMap.removeByTimer_eq htracks.agree timerId
    rw [hremove, ok_bind] at h
    obtain ⟨entry, hentry, h⟩ := of_bind h
    have hentry := expect_eq_ok.1 hentry
    cases h
    refine .inr ⟨entry.1, rfl, releases_inflight hagree htracks.apart ?_ hlookup⟩
    rw [requested, hentry]
    rfl
  · rename_i hexists
    have hrequested : self.requested timerId = none := by
      rw [requested, Option.map_eq_none_iff]
      simpa [InflightReqMap.timerExists] using hexists
    split at h
    · rename_i nodeId hlookup
      cases h
      exact .inr ⟨nodeId, rfl, releases_rateLimit htracks.agree htracks.apart hlookup⟩
    · rename_i hlookup
      cases h
      exact .inl ⟨rfl, rfl, hrequested, hlookup⟩

/-- Whoever is still looked for is waited for, if that was so before. -/
def Covers (before after : FailureHandling) (ctx : UseCaseContext T) : Prop :=
  ∀ id, ctx.Rediscovering id → (∃ t, before.WaitsFor t id) → ∃ t, after.WaitsFor t id

omit [LawfulRoutingTable T k] in
theorem Grows.covers (h : self.Grows self') (ctx : UseCaseContext T) : self.Covers self' ctx :=
  fun _ _ ⟨t, ht⟩ ↦ ⟨t, h t _ ht⟩

omit [LawfulRoutingTable T k] in
/-- An entry is taken out, and one is made for the same contact if that is still looked for. -/
theorem Releases.covers {mid : FailureHandling} (h : Releases self timerId nodeId mid)
    (hapart : self.Apart) (hgrows : mid.Grows self')
    (hresumes : ctx.Rediscovering nodeId → ∃ t, self'.WaitsFor t nodeId) :
    self.Covers self' ctx := by
  rintro id hid ⟨t, hwaits⟩
  rcases h.waits_or hapart hwaits with hwaits | rfl
  · exact ⟨t, hgrows t id hwaits⟩
  · exact hresumes hid

omit [LawfulRoutingTable T k] in
theorem tracks_handleRediscoveryFailure_msgId {msgId : Nonce}
    (htracks : Tracks none self ctx.runtime)
    (h : handleRediscoveryFailure debug clock draws self ctx (some msgId) none =
      .ok (res, self', ctx')) :
    Tracks none self' ctx'.runtime ∧ self.Covers self' ctx' := by
  simp only [handleRediscoveryFailure] at h
  split at h
  · rename_i hexists
    obtain ⟨⟨nodeId, timerId⟩, hlookup⟩ := Option.isSome_iff_exists.1 hexists
    obtain ⟨inflight, hremove, hreleases⟩ :=
      releases_removeByNonce htracks.agree htracks.apart hlookup
    rw [hremove, ok_bind, expect_some, ok_bind] at h
    obtain ⟨⟨newTimerId, timed⟩, hreg, h⟩ := of_bind h
    obtain ⟨runtime, hruntime, rfl⟩ := registerTimer_cases hreg
    cases h
    have hmid := htracks.releases (.inl rfl) hreleases
    have hadds : Adds { self with inflightRediscoveries := inflight } newTimerId nodeId _ :=
      adds_rateLimit (hmid.fresh hruntime)
    obtain ⟨htracks', hgrows, hwaits⟩ := hmid.adds hruntime hadds
    exact ⟨htracks', hreleases.covers htracks.apart hgrows fun _ ↦ hwaits⟩
  · cases h
    exact ⟨htracks, Grows.covers (.refl self) ctx⟩

/-- When the time for an answer or a pause is over, the next contact is asked, the next round is
scheduled, or the contact is dead. -/
theorem tracks_handleRediscoveryFailure_timerId (ht : Tidy ctx.routingTable)
    (htracks : Tracks (some timerId) self ctx.runtime)
    (hscheduled : self.scheduledRediscoveries.lookup timerId = none)
    (h : handleRediscoveryFailure debug clock draws self ctx none (some timerId) =
      .ok (res, self', ctx')) :
    Tracks none self' ctx'.runtime ∧ self.Covers self' ctx' := by
  simp only [handleRediscoveryFailure] at h
  obtain ⟨⟨found, taken⟩, htaken, hnext⟩ := of_bind h
  rcases takeTimedOut_cases htracks htaken with
    ⟨rfl, rfl, hrequested, hlimited⟩ | ⟨nodeId, rfl, hreleases⟩
  · obtain ⟨-, rfl, rfl⟩ := ok_mk₃_inj hnext
    refine ⟨htracks.unfired fun t heq id ↦ ?_, Grows.covers (.refl taken) ctx⟩
    cases heq
    simp [WaitsFor, hscheduled, hrequested, hlimited]
  · have hmid := htracks.releases (.inr rfl) hreleases
    dsimp only at hnext
    split at hnext
    · obtain ⟨⟨via, asked⟩, hvia, hnext⟩ := of_bind hnext
      obtain ⟨hruntime, hne⟩ := extractEligibleViaContacts_eq_ok hvia
      have hasked : Tracks none taken asked.runtime := hruntime ▸ hmid
      cases via with
      | none =>
        have hmoves : Moves .none ctx asked := moves_extractEligibleViaContacts hvia
        obtain ⟨htracks', hgrows, hwaits⟩ := tracks_nextRound (hmoves.tidy ht) hasked hnext
        exact ⟨htracks', hreleases.covers htracks.apart hgrows hwaits⟩
      | some via =>
        dsimp only at hnext
        split at hnext
        · obtain ⟨htracks', hgrows, hwaits⟩ := tracks_sendNextRequest hasked hnext
          exact ⟨htracks', hreleases.covers htracks.apart hgrows fun _ ↦ hwaits⟩
        · rename_i hlast
          exact absurd (List.getLast?_eq_none_iff.1 hlast) (hne via rfl)
    · rename_i hcontains
      cases hnext
      refine ⟨hmid, hreleases.covers htracks.apart (.refl _) ?_⟩
      rintro ⟨c, rds, hc, -⟩
      rw [contains_eq, hc] at hcontains
      simp at hcontains

end FailureHandling

end Kira
