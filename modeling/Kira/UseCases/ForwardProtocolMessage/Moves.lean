import Kira.UseCases.Moves

/-!
# Learning from messages, in moves

Whatever a message is about, what the node learns from it goes through the insertion strategy, or it
is a change of contacts that are stored.  All paths that are learned have the first hop of the path
on which the message has come, and that is an underlay neighbour, unless the message is one by which
neighbours make themselves known.

While contacts are learned the table of underlay neighbours stays as it is.  The program would
remove an entry from it if a contact with that id had been stored on a longer path; but a contact
that is an underlay neighbour is stored as one.
-/

set_option autoImplicit false

namespace Kira

open Run RoutingTable LawfulRoutingTable UseCaseContext

variable {T : Type} {k : Nat} [RoutingTable T k] [LawfulRoutingTable T k]
  {cause : Cause} {ctx ctx' : UseCaseContext T} {clock : Readings}
  {order : PathOrder}

namespace ForwardProtocolMessage

/-- The path begins with an underlay neighbour, or with a node that has just made itself known. -/
def Near (cause : Cause) (ctx : UseCaseContext T) (path : Path) : Prop :=
  ctx.ulnTable.contains path.first = true ∨
    cause.announced path.first ∧ path.first ≠ ctx.rootId

theorem moves_updateContact {c : Contact} {path : Path} (ht : Tidy ctx.routingTable)
    (hlearns : cause.learns) (hpath : c.path = some path) (hlast : path.last = c.id)
    (hnear : Near cause ctx path) (h : updateContact order clock ctx c = .ok ctx') :
    Moves cause ctx ctx' ∧ ctx'.ulnTable = ctx.ulnTable := by
  unfold updateContact at h
  split at h
  · cases h
    exact ⟨.refl, rfl⟩
  · obtain ⟨⟨result, observed⟩, hinsert, h⟩ := of_bind h
    have hlearn : Moves cause ctx (ctx.withTable observed) :=
      .single (.learn hlearns rfl hpath hnear hinsert)
    -- the three results that tell of a change are treated alike: the neighbour is not removed
    have hchanged : ∀ {isUln : Bool},
        isUln = ((contact observed.inner c.id).map Contact.isUln).getD false →
        result ≠ .dropped → result ≠ .needsValidation →
        (if (ctx.withTable observed).ulnTable.contains c.id && !isUln then
          (ctx.withTable observed).ulnRemove c.id else pure (ctx.withTable observed)) = .ok ctx' →
        Moves cause ctx ctx' ∧ ctx'.ulnTable = ctx.ulnTable := by
      intro isUln hisUln hdropped hvalidation h
      have hstays : ¬ ((ctx.withTable observed).ulnTable.contains c.id && !isUln) = true := by
        intro hboth
        obtain ⟨huln, hnot⟩ := (Bool.and_eq_true _ _).mp hboth
        rcases UNSStrategy.isUln_of_insert (T := ObservableRoutingTable T) ht hpath hlast huln
          hinsert with hres | hres | ⟨stored, hstored, hneighbor⟩
        · exact hdropped hres
        · exact hvalidation hres
        · have hstored : contact observed.inner c.id = some stored := hstored
          simp [hisUln, hstored, hneighbor] at hnot
      rw [if_neg hstays] at h
      cases h
      exact ⟨hlearn, rfl⟩
    cases result with
    | needsValidation =>
      cases h
      exact ⟨hlearn.trans (moves_broadcastEvent rfl), rfl⟩
    | dropped =>
      cases h
      exact ⟨hlearn, rfl⟩
    | inserted | replaced id | updated => exact hchanged rfl (by simp) (by simp) h

variable {message : ProtocolMessage} {sourceId : NodeId} {res : HandlingResult}

theorem first_extractPathToSource {path : Path}
    (hdisc : isULNDisc message = true) (h : extractPathToSource clock message = .ok path) :
    path.first = message.source := by
  cases message with
  | ulnDiscReq req | ulnDiscRsp rsp =>
    cases h
    rfl
  | _ => simp [isULNDisc] at hdisc

theorem moves_extractSourceInformation
    {res : Except ForwardingError Contact} (ht : Tidy ctx.routingTable) (hlearns : cause.learns)
    (hannounced : isULNDisc message = true → cause.announced message.source)
    (h : extractSourceInformation order clock ctx message = .ok (res, ctx')) :
    Moves cause ctx ctx' ∧
      ∀ source, res = .ok source → ∃ path, source.path = some path ∧ Near cause ctx' path := by
  have hrefused : ∀ {err : ForwardingError},
      (pure (.error err, ctx) : Run (Except ForwardingError Contact × UseCaseContext T)) =
        .ok (res, ctx') → Moves cause ctx ctx' ∧
          ∀ source, res = .ok source →
            ∃ path, source.path = some path ∧ Near cause ctx' path := by
    intro err h
    cases h
    exact ⟨.refl, by simp⟩
  unfold extractSourceInformation at h
  split at h
  · exact hrefused h
  · obtain ⟨path, hpath, h⟩ := of_bind h
    split at h
    · cases h
    · exact hrefused h
    · rename_i ssn _
      dsimp only at h
      split at h
      · exact hrefused h
      · rename_i hroot
        split at h
        · exact hrefused h
        · rename_i hcontains
          have hnear : Near cause ctx (path.setValid (clock.clock 1)) := by
            by_cases hdisc : isULNDisc message = true
            · refine .inr ⟨?_, hroot⟩
              show cause.announced path.first
              rw [first_extractPathToSource hdisc hpath]
              exact hannounced hdisc
            · refine .inl ?_
              simpa [hdisc] using hcontains
          obtain ⟨mid, hmid, h⟩ := of_bind h
          cases h
          obtain ⟨hmoves, huln⟩ := moves_updateContact ht hlearns rfl rfl hnear hmid
          refine ⟨hmoves, fun source hsource ↦ ?_⟩
          cases hsource
          exact ⟨_, rfl, by rw [Near, huln, hmoves.rootId_eq ht]; exact hnear⟩

theorem first_pathToReported (pathToSource : Path) (reported : Contact) :
    (pathToReported pathToSource reported).first = pathToSource.first := by
  unfold pathToReported
  split
  · exact Path.extend_first _ _
  · rfl

theorem moves_extractRtableReqrsp {rtable : RTableData} {pathToSource : Path}
    (ht : Tidy ctx.routingTable) (hlearns : cause.learns)
    (hnear : Near cause ctx pathToSource)
    (h : extractRtableReqrsp order clock ctx rtable pathToSource = .ok ctx') :
    Moves cause ctx ctx' := by
  have hall : Moves cause ctx ctx' ∧ ctx'.ulnTable = ctx.ulnTable := by
    refine foldlM_invariant (I := fun b ↦ Moves cause ctx b ∧ b.ulnTable = ctx.ulnTable)
      (fun reported _ b b' hb hstep ↦ ?_) ⟨.refl, rfl⟩ h
    unfold extractReported at hstep
    dsimp only at hstep
    split at hstep
    · cases hstep
      exact hb
    · obtain ⟨_, hlast, hstep⟩ := of_bind hstep
      have hlast : reported.1.id =
          (pathToReported pathToSource
            reported.1).removeCyclesInPlace.unsetLastValidated.setNotvalidated.last := by
        simpa using assert_eq_ok.1 hlast
      have hfirst : (pathToReported pathToSource
          reported.1).removeCyclesInPlace.unsetLastValidated.setNotvalidated.first =
            pathToSource.first :=
        (Path.removeCyclesInPlace_first _).trans (first_pathToReported pathToSource reported.1)
      obtain ⟨hmoves, huln⟩ := moves_updateContact (c := reported.1.setPath _)
        (Moves.tidy hb.1 ht) hlearns rfl hlast.symm
        (by rw [Near, hfirst, hb.2, Moves.rootId_eq hb.1 ht]; exact hnear) hstep
      exact ⟨hb.1.trans hmoves, huln.trans hb.2⟩
  exact hall.1

theorem change_invalidateFailed (failed : NotViaState) (c : Contact) :
    Change c (invalidateFailed clock failed c) := by
  unfold invalidateFailed
  split
  · split
    · exact .setInvalid .unchanged _ _
    · exact .unchanged
  · exact .unchanged

theorem moves_extractFailedContact (request : ReqRspMessage ErrorData) :
    Moves cause ctx (extractFailedContact clock ctx request) := by
  unfold extractFailedContact
  split
  · split
    · exact .refl
    · exact .single (.changeAll fun c ↦ change_invalidateFailed _ c)
  · exact .refl
  · exact .refl

theorem change_applyNotVia {c d : Contact} (h : Change c d) (entry : NotVia) :
    Change c (applyNotVia clock d entry) := by
  unfold applyNotVia
  split
  · split
    · split
      · exact .setInvalid h _ _
      · exact h
    · exact h
  · exact h

theorem change_applyNotVias (notVia : List NotVia) (c : Contact) :
    Change c (applyNotVias clock notVia c) := by
  -- the links are applied to what the ones before have left
  have hfold : ∀ (entries : List (NotVia × Nat)) (d : Contact), Change c d →
      Change c (entries.foldl
        (fun d entry ↦ applyNotVia (clock.part entry.2) d entry.1) d) := by
    intro entries
    induction entries with
    | nil => exact fun d hd ↦ hd
    | cons entry entries ih => exact fun d hd ↦ ih _ (change_applyNotVia hd entry.1)
  unfold applyNotVias
  split
  · exact hfold _ c .unchanged
  · exact .unchanged

theorem moves_extractNotViaData (notVia : NotViaList) :
    Moves cause ctx (extractNotViaData clock ctx notVia) :=
  .single (.changeAll fun c ↦ change_applyNotVias _ c)

theorem moves_applyRouteUpdate {updated : Contact} {newPath : Path}
    {action : RouteUpdateActionType} (hpath : newPath.isValid = false)
    (h : applyRouteUpdate order clock sourceId updated newPath ctx action = .ok ctx') :
    Moves cause ctx ctx' := by
  have hassess : ∀ {found : Option Bool} {mid : UseCaseContext T},
      (ctx.contactMut updated.id fun old ↦
        old.assessPathCandidateAndUpdate order (clock.clock 0) newPath) = .ok (found, mid) →
      Moves cause ctx mid :=
    fun hmut ↦ moves_contactMut (fun c a d hd ↦ .of_assessed hpath (Contact.assess_cases hd)) hmut
  cases action with
  | unreachable =>
    obtain ⟨⟨found, mid⟩, hmut, h⟩ := of_bind h
    obtain ⟨-, -, h⟩ := of_bind h
    cases h
    refine moves_contactMut (fun c a d hd ↦ ?_) hmut
    split at hd
    · cases hd
      exact .setInvalid .unchanged _ _
    · cases hd
      exact .unchanged
  | announce | change =>
    obtain ⟨⟨found, mid⟩, hmut, h⟩ := of_bind h
    obtain ⟨-, -, h⟩ := of_bind h
    cases h
    exact hassess hmut
  | withDraw | other raw =>
    cases h
    exact .refl

theorem moves_handleUpdateRoute {pathToSource : Path} {update : Contact × RouteUpdateActionType}
    (h : handleUpdateRoute order clock sourceId pathToSource ctx update = .ok ctx') :
    Moves cause ctx ctx' := by
  unfold handleUpdateRoute at h
  split at h
  · cases h
    exact .refl
  · split at h
    · cases h
      exact .refl
    · split at h
      · cases h
        exact .refl
      · dsimp only at h
        split at h
        · cases h
          exact .refl
        · obtain ⟨-, -, h⟩ := of_bind h
          exact moves_applyRouteUpdate rfl h

theorem moves_handleUpdateRoutes
    {updates : List (Contact × RouteUpdateActionType)}
    (h : handleUpdateRoutes order clock ctx sourceId updates = .ok ctx') :
    Moves cause ctx ctx' := by
  unfold handleUpdateRoutes at h
  split at h
  · cases h
    exact .refl
  · exact moves_foldlM (fun _ _ _ _ hstep ↦ moves_handleUpdateRoute hstep) h

theorem moves_extractData {source : Contact} (ht : Tidy ctx.routingTable) (hlearns : cause.learns)
    (hsource : ∃ path, source.path = some path ∧ Near cause ctx path)
    (h : extractData order clock ctx source message = .ok ctx') : Moves cause ctx ctx' := by
  have htable : ∀ {rtable : RTableData},
      extractData.extractTable order clock ctx source rtable = .ok ctx' → Moves cause ctx ctx' := by
    intro rtable h
    obtain ⟨path, hpath, h⟩ := of_bind h
    obtain ⟨path', hpath', hnear⟩ := hsource
    obtain rfl := Option.some.inj (hpath'.symm.trans (expect_eq_ok.1 hpath))
    exact moves_extractRtableReqrsp ht hlearns hnear h
  unfold extractData at h
  split at h
  · exact htable h
  · exact htable h
  · exact htable h
  · exact htable h
  · cases h
    exact moves_extractFailedContact _
  · exact moves_handleUpdateRoutes h
  · cases h
    exact .refl

theorem moves_extractMessageInfo {res : Except ForwardingError Unit}
    (ht : Tidy ctx.routingTable) (hlearns : cause.learns)
    (hannounced : isULNDisc message = true → cause.announced message.source)
    (h : extractMessageInfo order clock ctx message = .ok (res, ctx')) : Moves cause ctx ctx' := by
  obtain ⟨⟨source, mid⟩, hsource, h⟩ := of_bind h
  obtain ⟨ctx₀, hnotVia, hsource⟩ : ∃ ctx₀, Moves cause ctx ctx₀ ∧
      extractSourceInformation order (clock.part 1) ctx₀ message = .ok (source, mid) := by
    split at hsource
    · exact ⟨_, moves_extractNotViaData _, hsource⟩
    · exact ⟨_, .refl, hsource⟩
  obtain ⟨hmoves, hnear⟩ :=
    moves_extractSourceInformation (hnotVia.tidy ht) hlearns hannounced hsource
  have hfirst : Moves cause ctx mid := hnotVia.trans hmoves
  cases source with
  | error err => exact hfirst.trans (moves_of_ok h)
  | ok source =>
    obtain ⟨learned, hdata, h⟩ := of_bind h
    have hdata := moves_extractData (hfirst.tidy ht) hlearns (hnear source rfl) hdata
    exact (hfirst.trans hdata).trans (moves_of_ok h)

theorem moves_forward
    (h : forward ctx message = .ok (res, ctx')) : Moves cause ctx ctx' := by
  obtain ⟨⟨result, effects⟩, -, h⟩ := of_bind h
  exact (moves_emits ctx effects).trans (moves_of_ok h)

theorem moves_handleMessage
    (ht : Tidy ctx.routingTable) (hlearns : cause.learns)
    (hannounced : isULNDisc message = true → cause.announced message.source)
    (h : handleMessage order clock ctx message = .ok (res, ctx')) : Moves cause ctx ctx' := by
  obtain ⟨⟨info, learned⟩, hinfo, h⟩ := of_bind h
  have hlearned : Moves cause ctx learned := moves_extractMessageInfo ht hlearns hannounced hinfo
  match info with
  | .error .fwdErrDropMessage =>
    exact hlearned.trans (moves_of_ok h)
  | .error .fwdErrIgnore => exact hlearned.trans (moves_forward h)
  | .ok () => exact hlearned.trans (moves_forward h)

theorem moves {event : UseCaseEvent} (ht : Tidy ctx.routingTable)
    (hlearns : ∀ message source, event = .message message source → cause.learns)
    (hannounced : ∀ message source, event = .message message source → isULNDisc message = true →
      cause.announced message.source)
    (h : handleEvent order clock ctx event = .ok (res, ctx')) : Moves cause ctx ctx' := by
  unfold handleEvent at h
  split at h
  · rename_i message source
    have hmessage : ∀ {res : HandlingResult},
        handleMessage order clock ctx message = .ok (res, ctx') → Moves cause ctx ctx' :=
      moves_handleMessage ht (hlearns message source rfl) (hannounced message source rfl)
    split at h
    · obtain ⟨hop, -, h⟩ := of_bind h
      split at h
      · exact moves_of_ok h
      · obtain ⟨prev, -, h⟩ := of_bind h
        split at h
        · exact moves_of_ok h
        · exact hmessage h
    · exact hmessage h
  · exact moves_of_ok h

end ForwardProtocolMessage

end Kira
