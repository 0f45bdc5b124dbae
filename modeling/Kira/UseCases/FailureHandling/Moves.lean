import Kira.UseCases.Moves

/-!
# Handling failures, in moves

The handling of failures changes contacts whose paths are broken, and the contacts that it looks
for; it is the only use case that removes contacts, and together with the neighbours that are gone
it removes their entries in the table of underlay neighbours, after the contacts that are reached
over them have become invalid.  Otherwise it registers timers and sends messages.
-/

set_option autoImplicit false

namespace Kira

open Run RoutingTable LawfulRoutingTable UseCaseContext

variable {T : Type} {k : Nat} [RoutingTable T k] [LawfulRoutingTable T k]
  {cause : Cause} {ctx ctx' : UseCaseContext T} {debug : Bool} {clock : Readings}

namespace FailureHandling

variable {draws : Draws} {self self' : FailureHandling}

theorem change_invalidateContaining (failedLink : Link) (c : Contact) :
    Change c (invalidateContaining clock failedLink c) := by
  unfold invalidateContaining
  split
  · split
    · exact .setInvalid .unchanged _ _
    · exact .unchanged
  · exact .unchanged

variable {contactId : NodeId} {res : Except FailureHandlingError Unit}

theorem moves_extractEligibleViaContacts {n : Nat} {via : Option (List NodeId)}
    (h : extractEligibleViaContacts ctx contactId n = .ok (via, ctx')) : Moves cause ctx ctx' := by
  unfold extractEligibleViaContacts at h
  split at h
  · dsimp only at h
    split at h
    · obtain ⟨⟨found, mid⟩, hmut, h⟩ := of_bind h
      have hmid : Moves cause ctx mid := by
        refine moves_contactMut (fun c a d hd ↦ ?_) hmut
        cases hd
        unfold Contact.whileRediscovering
        split
        · rename_i hstate
          exact .progress hstate (.inl (RediscoveryState.dropFromNextViaContactId_backoff _ _))
        · exact .unchanged
      cases found with
      | none => cases h
      | some u =>
        exact hmid.trans (moves_of_ok h)
    · exact moves_of_ok h
  · exact moves_of_ok h

variable {nvs : NotViaStateList} {via : List NodeId} {nodeId : NodeId}

theorem moves_sendFindNodeReq {nonce : Nonce} {viaPath : Run Path}
    (h : sendFindNodeReq clock ctx contactId nonce nvs viaPath = .ok ctx') :
    Moves cause ctx ctx' := by
  unfold sendFindNodeReq at h
  split at h
  · obtain ⟨notVia, -, h⟩ := of_bind h
    obtain ⟨path, -, h⟩ := of_bind h
    exact moves_sendMessage h
  · cases h

theorem moves_trackRequest {nonces : Nat → Nonce} {rounds i : Nat} {timerId : TimerId}
    {inflight inflight' : InflightReqMap} {nonce : Nonce}
    (h : trackRequest debug nonces contactId rounds i timerId inflight ctx =
      .ok (nonce, inflight', ctx')) : Moves cause ctx ctx' := by
  induction rounds generalizing i timerId ctx with
  | zero => cases h
  | succ rounds ih =>
    unfold trackRequest at h
    split at h
    · exact moves_of_ok₂ h
    · exact ih h
    · obtain ⟨⟨newId, mid⟩, hreg, h⟩ := of_bind h
      exact (moves_registerTimer hreg).trans (ih h)

theorem moves_sendRequests {j : Nat}
    (h : sendRequests debug clock draws contactId nvs j via self ctx = .ok (self', ctx')) :
    Moves cause ctx ctx' := by
  induction via generalizing j self ctx with
  | nil =>
    exact moves_of_ok h
  | cons id via ih =>
    obtain ⟨⟨timerId, timed⟩, hreg, h⟩ := of_bind h
    obtain ⟨⟨nonce, inflight, tracked⟩, htrack, h⟩ := of_bind h
    obtain ⟨viaContact, -, h⟩ := of_bind h
    obtain ⟨sent, hsent, h⟩ := of_bind h
    exact (((moves_registerTimer hreg).trans (moves_trackRequest htrack)).trans
      (moves_sendFindNodeReq hsent)).trans (ih h)

theorem moves_sendRediscoveryForContact
    (h : sendRediscoveryForContact debug clock draws self ctx contactId = .ok (self', ctx')) :
    Moves cause ctx ctx' := by
  obtain ⟨⟨via, mid⟩, hvia, h⟩ := of_bind h
  have hmid : Moves cause ctx mid := moves_extractEligibleViaContacts hvia
  cases via with
  | none =>
    obtain ⟨⟨timerId, timed⟩, hreg, h⟩ := of_bind h
    exact (hmid.trans (moves_registerTimer hreg)).trans (moves_of_ok h)
  | some via =>
    obtain ⟨rediscovered, -, h⟩ := of_bind h
    exact hmid.trans (moves_sendRequests h)

theorem moves_scheduleRediscovery {wait : Duration}
    (h : scheduleRediscovery debug self ctx contactId wait = .ok (self', ctx')) :
    Moves cause ctx ctx' := by
  obtain ⟨⟨timerId, timed⟩, hreg, h⟩ := of_bind h
  exact (moves_registerTimer hreg).trans (moves_of_ok h)

theorem moves_sendUpdates {unreachable : Contact}
    (h : sendUpdates clock draws self ctx unreachable nvs = .ok ctx') : Moves cause ctx ctx' := by
  obtain ⟨answer, -, h⟩ := of_bind h
  cases answer with
  | error err => cases h
  | ok neighbors =>
    refine moves_foldlM (fun neighbor _ mid mid' hsend ↦ ?_) h
    obtain ⟨notVia, -, hsend⟩ := of_bind hsend
    obtain ⟨path, -, hsend⟩ := of_bind hsend
    exact moves_sendMessage hsend

theorem getRediscoveryWaitTime_le [CloseContacts T] (ctx : UseCaseContext T) (c : Contact) :
    getRediscoveryWaitTime ctx c ≤ REDISCOVERY_WAITTIME_OTHER := by
  unfold getRediscoveryWaitTime
  split
  · decide
  · split
    · decide
    · split
      · decide
      · exact Nat.le_refl _

theorem moves_startRediscovery [CloseContacts T] {invalid : Contact}
    (hsearched : ∀ wait ≤ REDISCOVERY_WAITTIME_OTHER,
      cause.searched invalid.id self.config.maxRetryRounds wait)
    (h : startRediscovery debug clock draws self ctx invalid = .ok (res, self', ctx')) :
    Moves cause ctx ctx' := by
  unfold startRediscovery at h
  split at h
  · obtain ⟨told, htold, h⟩ := of_bind h
    have hfirst : Moves cause ctx told := by
      split at htold
      · exact moves_sendUpdates htold
      · cases htold
        exact .refl
    obtain ⟨answer, -, h⟩ := of_bind h
    cases answer with
    | error err => cases h
    | ok via =>
      obtain ⟨⟨found, mid⟩, hmut, h⟩ := of_bind h
      have hmid : Moves cause told mid := by
        rcases contactMut_cases hmut with ⟨-, -, rfl⟩ | ⟨c, u, d, hc, hd, -, rfl⟩
        · exact .refl
        · cases hd
          exact .single (.search hc (hsearched _ (getRediscoveryWaitTime_le told invalid)) _ _)
      cases found with
      | none => cases h
      | some u =>
        obtain ⟨⟨scheduled, timed⟩, hsched, h⟩ := of_bind h
        exact ((hfirst.trans hmid).trans (moves_scheduleRediscovery hsched)).trans
          (moves_of_ok₂ h)
  · exact moves_of_ok₂ h

theorem moves_sendNextRequest {via : NodeId}
    (h : sendNextRequest debug clock draws self ctx nodeId via = .ok (res, self', ctx')) :
    Moves cause ctx ctx' := by
  obtain ⟨⟨timerId, timed⟩, hreg, h⟩ := of_bind h
  obtain ⟨tracked, -, h⟩ := of_bind h
  have htimed : Moves cause ctx timed := moves_registerTimer hreg
  cases tracked with
  | none =>
    exact htimed.trans (moves_of_ok₂ h)
  | some tracked =>
    obtain ⟨rediscovered, -, h⟩ := of_bind h
    obtain ⟨sent, hsent, h⟩ := of_bind h
    obtain ⟨stored, -, h⟩ := of_bind h
    split at h
    · exact (htimed.trans (moves_sendFindNodeReq hsent)).trans (moves_of_ok₂ h)
    · cases h

theorem change_finishRound {c d : Contact}
    {wait : Option Duration} (h : finishRound debug draws self nodeId via c = .ok (wait, d)) :
    Change c d := by
  unfold finishRound at h
  split at h
  · rename_i rds hstate
    split at h
    · cases h
      exact .unchanged
    · obtain ⟨⟨next, backoff⟩, hnext, h⟩ := of_bind h
      cases next with
      | some duration =>
        obtain ⟨refilled, hrefilled, h⟩ := of_bind h
        cases h
        have hbackoff := RediscoveryState.setViaContactList_backoff hrefilled
        exact .progress hstate (.inr ⟨debug, draws.offset, some duration, hbackoff ▸ hnext⟩)
      | none =>
        dsimp only at h
        split at h
        · cases h
          exact .die hstate
        · cases h
          exact .progress hstate (.inr ⟨debug, draws.offset, none, hnext⟩)
  · cases h
    exact .unchanged

theorem moves_askLast (h : (match via.getLast? with
      | some next => sendNextRequest debug clock draws self ctx nodeId next
      | none => pure (.ok (), self, ctx)) = .ok (res, self', ctx')) : Moves cause ctx ctx' := by
  split at h
  · exact moves_sendNextRequest h
  · exact moves_of_ok₂ h

theorem moves_nextRound
    (h : nextRound debug clock draws self ctx nodeId = .ok (res, self', ctx')) :
    Moves cause ctx ctx' := by
  obtain ⟨answer, -, h⟩ := of_bind h
  cases answer with
  | error err => cases h
  | ok via =>
    obtain ⟨⟨finished, mid⟩, hmut, h⟩ := of_bind h
    have hmid : Moves cause ctx mid := moves_contactMut (fun c a d hd ↦ change_finishRound hd) hmut
    match finished with
    | none =>
      exact hmid.trans (moves_of_ok₂ h)
    | some none =>
      exact hmid.trans (moves_of_ok₂ h)
    | some (some duration) =>
      dsimp only at h
      split at h
      · obtain ⟨⟨scheduled, timed⟩, hsched, h⟩ := of_bind h
        exact (hmid.trans (moves_scheduleRediscovery hsched)).trans (moves_of_ok₂ h)
      · obtain ⟨⟨next, dropped⟩, hnext, h⟩ := of_bind h
        have hdropped := hmid.trans (moves_extractEligibleViaContacts hnext)
        cases next with
        | none =>
          exact hdropped.trans (moves_of_ok₂ h)
        | some next => exact hdropped.trans (moves_askLast h)

theorem moves_handleRediscoveryFailure {msgId : Option Nonce} {timerId : Option TimerId}
    (h : handleRediscoveryFailure debug clock draws self ctx msgId timerId =
      .ok (res, self', ctx')) : Moves cause ctx ctx' := by
  unfold handleRediscoveryFailure at h
  split at h
  · cases h
  · split at h
    · obtain ⟨removed, -, h⟩ := of_bind h
      obtain ⟨entry, -, h⟩ := of_bind h
      obtain ⟨⟨newTimerId, timed⟩, hreg, h⟩ := of_bind h
      exact (moves_registerTimer hreg).trans (moves_of_ok₂ h)
    · exact moves_of_ok₂ h
  · obtain ⟨⟨timedOut, remaining⟩, -, h⟩ := of_bind h
    cases timedOut with
    | none =>
      exact moves_of_ok₂ h
    | some nodeId =>
      dsimp only at h
      split at h
      · obtain ⟨⟨via, mid⟩, hvia, h⟩ := of_bind h
        have hmid : Moves cause ctx mid := moves_extractEligibleViaContacts hvia
        cases via with
        | none => exact hmid.trans (moves_nextRound h)
        | some via => exact hmid.trans (moves_askLast h)
      · exact moves_of_ok₂ h

theorem change_invalidateAffected (rootId : NodeId) (affected : List NodeId) (c : Contact) :
    Change c (invalidateAffected clock rootId affected c) := by
  unfold invalidateAffected
  split
  · split
    · exact .setInvalid .unchanged _ _
    · exact .unchanged
  · exact .unchanged

theorem moves_invalidateAffectedContacts {ulnid : UnderlayNeighborId}
    (h : invalidateAffectedContacts clock ctx ulnid = .ok ctx') : Moves cause ctx ctx' := by
  let affected := affectedUnderlayNeighbors ctx ulnid
  let invalidated := ctx.iterMut fun c ↦
    invalidateAffected (clock.part c.id.toNat) ctx.rootId affected c
  have havoids : ∀ id ∈ affected, invalidated.Avoids id := by
    intro id hid
    refine avoids_iterMut fun c hvalid ↦ ?_
    unfold invalidateAffected at hvalid ⊢
    split at hvalid
    · rename_i active hactive
      split at hvalid
      · simp at hvalid
      · rename_i hnot
        rw [if_neg hnot, hactive]
        rintro ⟨rfl⟩
        exact hnot (by simpa using hid)
    · rename_i hnone
      simp [hnone]
  have hchanged : Moves cause ctx invalidated :=
    .single (.changeAll fun c ↦ change_invalidateAffected _ _ c)
  -- while the neighbours are removed, the routing table stays as it is
  have hall : Moves cause ctx ctx' ∧ ctx'.routingTable = invalidated.routingTable := by
    refine foldlM_invariant
      (I := fun b ↦ Moves cause ctx b ∧ b.routingTable = invalidated.routingTable)
      (fun id hid b b' hb hremove ↦ ?_) ⟨hchanged, rfl⟩ h
    have hb' : b.Avoids id := by
      rw [UseCaseContext.Avoids, hb.2]
      exact havoids id hid
    exact ⟨hb.1.trans (moves_ulnRemove (.inl hb') hremove),
      (routingTable_ulnRemove hremove).trans hb.2⟩
  exact hall.1

theorem moves [CloseContacts T] {event : UseCaseEvent}
    (hdied : ∀ new old, event = .contact (.updated new old) → new.isDead = true →
      cause.died new.id)
    (hsearched : ∀ new old, event = .contact (.updated new old) → new.isInvalid = true →
      old.isValid = true → ∀ wait ≤ REDISCOVERY_WAITTIME_OTHER,
        cause.searched new.id self.config.maxRetryRounds wait)
    (h : handleEvent debug clock draws self ctx event = .ok (res, self', ctx')) :
    Moves cause ctx ctx' := by
  unfold handleEvent at h
  split at h
  · rename_i new old
    split at h
    · split at h
      · rename_i hdead
        have hremove : Moves cause ctx (ctx.removeContact new.id) :=
          .single (.remove (hdied new old rfl hdead))
        exact hremove.trans (moves_of_ok₂ h)
      · split at h
        · rename_i hboth
          obtain ⟨hinvalid, hvalid⟩ := (Bool.and_eq_true _ _).mp hboth
          exact moves_startRediscovery (hsearched new old rfl hinvalid hvalid) h
        · exact moves_of_ok₂ h
    · exact moves_of_ok₂ h
  · exact moves_of_ok₂ h
  · obtain ⟨removed, -, h⟩ := of_bind h
    exact moves_of_ok₂ h
  · refine .trans ?_ (moves_handleRediscoveryFailure h)
    split
    · exact .single (.changeAll fun c ↦ change_invalidateContaining _ c)
    · exact .refl
  · split at h
    · obtain ⟨⟨sending, sent⟩, hsent, h⟩ := of_bind h
      exact (moves_sendRediscoveryForContact hsent).trans (moves_of_ok₂ h)
    · exact moves_handleRediscoveryFailure h
  · obtain ⟨mid, hmid, h⟩ := of_bind h
    exact (moves_invalidateAffectedContacts hmid).trans (moves_of_ok₂ h)
  · exact moves_of_ok₂ h

end FailureHandling

end Kira
