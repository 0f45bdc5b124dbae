import Kira.Domain.RoutingTable.Flat
import Kira.UseCases.DistributedHashTableInjector

/-!
# What the callback of an injection receives

A callback is taken out of the use case when its result is sent, so it receives one result at most.
That the result is the right one depends on what is pending under the nonce of the injection, and on
the timers.  `Tracked` relates the three maps of the use case: whoever has a callback has a pending
request, and the timer that was registered together with that is the only one for its nonce that is
still set, but for one: the timer of the lookup may still run while the value is being stored.

When that one fires, the store request times out although its own timer has not fired.  Everything
else is in order (`Sound`), provided that nobody injects a request under a nonce for which a timer
of the use case is still set.
-/

set_option autoImplicit false

namespace Kira

/-- The kind of response that a timer limits the wait for. -/
def TimerHook.awaits : TimerHook → Option ProtocolMessageKind
  | .timeoutFindNodeReq _ => some .findNodeRsp
  | .timeoutRedundantStoreReq _ => some .storeRsp
  | .timeoutFetchReq _ => some .fetchRsp
  | .periodicRestore _ => none

namespace DistributedHashTableInjector

/-! ## What has been asked for so far -/

/-- The timer that an output registers for a request with this nonce. -/
def registeredFor (nonce : Nonce) : InjectorOutput → Option TimerId
  | .timer id hook => if hook.nonce = some nonce then some id else none
  | _ => none

/-- The timer that was registered together with the last request of this nonce. -/
def phaseTimer (outputs : List InjectorOutput) (nonce : Nonce) : Option TimerId :=
  outputs.reverse.findSome? (registeredFor nonce)

/-- The injection that an output is the result of. -/
def resultNonce : InjectorOutput → Option Nonce
  | .result nonce _ _ => some nonce
  | _ => none

/-- The injections that have a result. -/
def resultNonces (outputs : List InjectorOutput) : List Nonce := outputs.filterMap resultNonce

variable {self self' mid : DistributedHashTableInjector} {nonce : Nonce}

theorem phaseTimer_append {outputs sent : List InjectorOutput}
    (h : ∀ output ∈ sent, registeredFor nonce output = none) :
    phaseTimer (outputs ++ sent) nonce = phaseTimer outputs nonce := by
  have hnone : sent.reverse.findSome? (registeredFor nonce) = none := by
    rw [List.findSome?_eq_none_iff]
    exact fun output houtput ↦ h output (List.mem_reverse.1 houtput)
  rw [phaseTimer, List.reverse_append, List.findSome?_append, hnone]
  rfl

theorem phaseTimer_timer (outputs : List InjectorOutput) (id : TimerId) {hook : TimerHook}
    (h : hook.nonce = some nonce) : phaseTimer (outputs ++ [.timer id hook]) nonce = some id := by
  simp [phaseTimer, registeredFor, h]

@[simp] theorem resultNonces_append (outputs sent : List InjectorOutput) :
    resultNonces (outputs ++ sent) = resultNonces outputs ++ resultNonces sent :=
  List.filterMap_append

@[simp] theorem resultNonces_nil : resultNonces [] = [] := rfl

@[simp] theorem resultNonces_cons (output : InjectorOutput) (outputs : List InjectorOutput) :
    resultNonces (output :: outputs) = (resultNonce output).toList ++ resultNonces outputs := by
  cases h : resultNonce output <;> simp [resultNonces, h]

theorem registeredFor_of_sends {sent : List InjectorOutput}
    (h : ∀ output ∈ sent, ∃ message effects, output = .sends message effects) :
    ∀ output ∈ sent, registeredFor nonce output = none := by
  intro output houtput
  obtain ⟨message, effects, rfl⟩ := h output houtput
  rfl

theorem resultNonces_of_sends {sent : List InjectorOutput}
    (h : ∀ output ∈ sent, ∃ message effects, output = .sends message effects) :
    resultNonces sent = [] := by
  refine List.filterMap_eq_nil_iff.2 fun output houtput ↦ ?_
  obtain ⟨message, effects, rfl⟩ := h output houtput
  rfl

/-! ## The invariant -/

/-- A callback that is kept has received nothing, and there is a pending request for it.  The timer
that was registered with that is the only one that can end the wait, apart from that of the lookup
when the value is being stored. -/
structure Backed (injector : DistributedHashTableInjector) (nonce : Nonce) (callback : Callback) :
    Prop where
  injected : .injected nonce callback ∈ injector.outputs
  unanswered : nonce ∉ resultNonces injector.outputs
  pending : ∃ request, injector.pendingReqs.lookup nonce = some request ∧
    ∀ id hook, injector.timerHooks.lookup id = some hook → hook.nonce = some nonce →
      (hook.awaits = some request.responseKind ∧ phaseTimer injector.outputs nonce = some id) ∨
      (hook = .timeoutFindNodeReq nonce ∧ request.responseKind = .storeRsp)

/-- A store request with this nonce has been sent to the node. -/
def SentTo (injector : DistributedHashTableInjector) (nonce : Nonce) (closest : NodeId) : Prop :=
  ∃ (req : ReqRspMessage (StoreReqData LHTInput)) (effects : List Effect),
    .sends (.storeReq req) effects ∈ injector.outputs ∧ req.commonHeader.msgId = nonce ∧
    req.destination = closest

/-- **The invariant**, for the callbacks of the nonces covered. -/
structure Tracked (covered : Nonce → Prop) (injector : DistributedHashTableInjector) : Prop where
  ids : ∀ id hook, injector.timerHooks.lookup id = some hook → id < injector.nextTimer
  backed : ∀ nonce callback, covered nonce → injector.callbacks.lookup nonce = some callback →
    injector.Backed nonce callback
  results : ∀ nonce ∈ resultNonces injector.outputs, ∃ callback,
    .injected nonce callback ∈ injector.outputs
  nodup : (resultNonces injector.outputs).Nodup
  sentTo : ∀ nonce kind payload closest restore,
    injector.pendingReqs.lookup nonce = some ⟨kind, .registerStoreRsp payload closest restore⟩ →
      injector.SentTo nonce closest

theorem tracked_start (redundancyFactor : RedundancyFactor) :
    (start redundancyFactor).Tracked fun _ ↦ True where
  ids _ _ h := by simp [start] at h
  backed _ _ _ h := by simp [start] at h
  results _ h := by simp [start, resultNonces] at h
  nodup := List.nodup_nil
  sentTo _ _ _ _ _ h := by simp [start] at h

/-- The frame rule: what is not touched stays in order. -/
theorem Tracked.frame {covered covered' : Nonce → Prop} {sent : List InjectorOutput}
    (h : self.Tracked covered) (houtputs : self'.outputs = self.outputs ++ sent)
    (hids : ∀ id hook, self'.timerHooks.lookup id = some hook → id < self'.nextTimer)
    (hquiet : ∀ nonce, covered' nonce → ∀ output ∈ sent, registeredFor nonce output = none)
    (hhooks : ∀ nonce id hook, covered' nonce → self'.timerHooks.lookup id = some hook →
      hook.nonce = some nonce → self.timerHooks.lookup id = some hook)
    (hcallbacks : ∀ nonce callback, covered' nonce →
      self'.callbacks.lookup nonce = some callback → covered nonce ∧
      self.callbacks.lookup nonce = some callback ∧ nonce ∉ resultNonces sent ∧
      self'.pendingReqs.lookup nonce = self.pendingReqs.lookup nonce)
    (hnodup : (resultNonces sent).Nodup)
    (hresults : ∀ nonce ∈ resultNonces sent, nonce ∉ resultNonces self.outputs ∧
      ∃ callback, .injected nonce callback ∈ self.outputs)
    (hsentTo : ∀ nonce kind payload closest restore,
      self'.pendingReqs.lookup nonce = some ⟨kind, .registerStoreRsp payload closest restore⟩ →
      self.SentTo nonce closest) :
    self'.Tracked covered' where
  ids := hids
  backed nonce callback hcovered hcallback := by
    obtain ⟨hbefore, hcallback, hnot, hpending⟩ := hcallbacks nonce callback hcovered hcallback
    obtain ⟨hinjected, hunanswered, request, hrequest, htimers⟩ :=
      h.backed nonce callback hbefore hcallback
    refine ⟨houtputs ▸ List.mem_append_left _ hinjected, ?_, request, hpending ▸ hrequest, ?_⟩
    · rw [houtputs, resultNonces_append, List.mem_append, not_or]
      exact ⟨hunanswered, hnot⟩
    · intro id hook hhook hnonce
      rw [houtputs, phaseTimer_append (hquiet nonce hcovered)]
      exact htimers id hook (hhooks nonce id hook hcovered hhook hnonce) hnonce
  results nonce hnonce := by
    rw [houtputs, resultNonces_append, List.mem_append] at hnonce
    rw [houtputs]
    rcases hnonce with hnonce | hnonce
    · exact (h.results nonce hnonce).imp fun _ ↦ List.mem_append_left _
    · exact (hresults nonce hnonce).2.imp fun _ ↦ List.mem_append_left _
  nodup := by
    rw [houtputs, resultNonces_append, List.nodup_append']
    exact ⟨h.nodup, hnodup, fun nonce hnonce hsent ↦ (hresults nonce hsent).1 hnonce⟩
  sentTo nonce kind payload closest restore hpending := by
    obtain ⟨req, effects, hmem, hreq⟩ := hsentTo nonce kind payload closest restore hpending
    exact ⟨req, effects, houtputs ▸ List.mem_append_left _ hmem, hreq⟩

theorem Tracked.mono {covered covered' : Nonce → Prop} (h : self.Tracked covered)
    (hmono : ∀ nonce, covered' nonce → covered nonce) : self.Tracked covered' :=
  { h with backed := fun nonce callback hcovered ↦ h.backed nonce callback (hmono nonce hcovered) }

/-! ### What the parts of a step keep -/

theorem lt_of_registerTimer {registered : TimerHook}
    (h : ∀ id hook, self.timerHooks.lookup id = some hook → id < self.nextTimer) {id : TimerId}
    {hook : TimerHook} (hhook : (self.registerTimer registered).timerHooks.lookup id = some hook) :
    id < (self.registerTimer registered).nextTimer := by
  simp only [registerTimer, KeyMap.lookup_insert_eq] at hhook ⊢
  split at hhook
  · rename_i hid
    exact hid ▸ Nat.lt_succ_self _
  · exact Nat.lt_succ_of_lt (h id hook hhook)

theorem Tracked.sent {covered : Nonce → Prop} (h : self.Tracked covered) (hsent : self.Sent self') :
    self'.Tracked covered := by
  obtain ⟨sent, rfl, hsent⟩ := hsent
  have hnone := resultNonces_of_sends hsent
  exact h.frame rfl h.ids (fun nonce _ ↦ registeredFor_of_sends hsent)
    (fun _ _ _ _ hhook _ ↦ hhook)
    (fun nonce callback hcovered hcallback ↦ ⟨hcovered, hcallback, by simp [hnone], rfl⟩)
    (by simp [hnone]) (by simp [hnone]) h.sentTo

theorem Tracked.insertCallback (h : self.Tracked fun _ ↦ True) (nonce : Nonce)
    (callback : Callback) : (self.insertCallback nonce callback).Tracked (· ≠ nonce) := by
  refine h.frame rfl h.ids (by simp [registeredFor]) (fun _ _ _ _ hhook _ ↦ hhook)
    (fun other callback' hne hcallback ↦ ⟨trivial, ?_, by simp [resultNonce], rfl⟩)
    List.nodup_nil (by simp [resultNonce]) h.sentTo
  simpa [DistributedHashTableInjector.insertCallback, KeyMap.lookup_insert_eq, hne] using hcallback

theorem Tracked.removePendingReq (h : self.Tracked fun _ ↦ True) (nonce : Nonce) :
    (self.removePendingReq nonce).Tracked (· ≠ nonce) := by
  refine h.frame (List.append_nil _).symm h.ids (by simp) (fun _ _ _ _ hhook _ ↦ hhook)
    (fun other callback hne hcallback ↦ ⟨trivial, hcallback, by simp, ?_⟩)
    List.nodup_nil (by simp) fun _ _ _ _ _ hpending ↦
      h.sentTo _ _ _ _ _ (KeyMap.lookup_of_erase hpending)
  simp [DistributedHashTableInjector.removePendingReq, hne]

theorem Tracked.removeTimerHook (h : self.Tracked fun _ ↦ True) (id : TimerId) :
    (self.removeTimerHook id).Tracked fun _ ↦ True :=
  h.frame (List.append_nil _).symm
    (fun id hook hhook ↦ h.ids id hook (KeyMap.lookup_of_erase hhook))
    (by simp) (fun _ _ _ _ hhook _ ↦ KeyMap.lookup_of_erase hhook)
    (fun _ _ _ hcallback ↦ ⟨trivial, hcallback, by simp, rfl⟩) List.nodup_nil
    (by simp) h.sentTo

theorem Tracked.registerPeriodicRestore (h : self.Tracked fun _ ↦ True)
    (payload : StoreReqData LHTInput) :
    (self.registerPeriodicRestore payload).Tracked fun _ ↦ True := by
  refine h.frame rfl (fun id hook hhook ↦ ?_) (by simp [registeredFor, TimerHook.nonce])
    (fun nonce id hook _ hhook hnonce ↦ ?_)
    (fun _ _ _ hcallback ↦ ⟨trivial, hcallback, by simp [resultNonce], rfl⟩)
    List.nodup_nil (by simp [resultNonce]) h.sentTo
  · exact lt_of_registerTimer h.ids hhook
  · rcases KeyMap.lookup_of_insert hhook with rfl | hhook
    · simp [TimerHook.nonce] at hnonce
    · exact hhook

/-- A request is registered under a nonce for which no timer is set, except that of the lookup when
the value is to be stored. -/
theorem Tracked.registerPendingReq {kind : ProtocolMessageKind} {timeoutHook : TimerHook}
    {responseHook : ResponseHook} (h : self.Tracked (· ≠ nonce))
    (hinjected : ∀ callback, self.callbacks.lookup nonce = some callback →
      .injected nonce callback ∈ self.outputs ∧ nonce ∉ resultNonces self.outputs ∧
      ∀ id hook, self.timerHooks.lookup id = some hook → hook.nonce = some nonce →
        hook = .timeoutFindNodeReq nonce ∧ kind = .storeRsp)
    (hnonce : timeoutHook.nonce = some nonce) (hawaits : timeoutHook.awaits = some kind)
    (hsentTo : ∀ payload closest restore,
      responseHook = .registerStoreRsp payload closest restore → self.SentTo nonce closest) :
    (self.registerPendingReq nonce kind timeoutHook responseHook).Tracked fun _ ↦ True := by
  have hothers : (self.registerPendingReq nonce kind timeoutHook responseHook).Tracked
      (· ≠ nonce) := by
    refine h.frame rfl (fun id hook hhook ↦ lt_of_registerTimer h.ids hhook)
      (fun other hne ↦ ?_) (fun other id hook hne hhook hof ↦ ?_)
      (fun other callback hne hcallback ↦
        ⟨hne, hcallback, by simp [resultNonce], AList.lookup_insert_ne hne⟩)
      List.nodup_nil (by simp [resultNonce])
      fun other kind' payload closest restore hpending ↦ ?_
    · simp [registeredFor, hnonce, hne.symm]
    · rcases KeyMap.lookup_of_insert hhook with rfl | hhook
      · exact absurd (Option.some.inj (hof.symm.trans hnonce)) hne
      · exact hhook
    · simp only [DistributedHashTableInjector.registerPendingReq, registerTimer,
        KeyMap.lookup_insert_eq] at hpending
      split at hpending
      · rename_i hother
        obtain ⟨rfl, rfl⟩ := RequestState.mk.inj (Option.some.inj hpending)
        exact hother ▸ hsentTo payload closest restore rfl
      · exact h.sentTo _ _ _ _ _ hpending
  refine { hothers with backed := fun other callback _ hcallback ↦ ?_ }
  by_cases hother : other = nonce
  · subst hother
    obtain ⟨hmem, hunanswered, htimers⟩ := hinjected callback hcallback
    refine ⟨List.mem_append_left _ hmem, ?_, _, AList.lookup_insert _, fun id hook hhook hof ↦ ?_⟩
    · simpa [DistributedHashTableInjector.registerPendingReq, registerTimer, resultNonce] using
        hunanswered
    · simp only [DistributedHashTableInjector.registerPendingReq, registerTimer,
        KeyMap.lookup_insert_eq] at hhook
      split at hhook
      · rename_i hid
        cases hhook
        exact .inl ⟨hawaits, hid ▸ phaseTimer_timer _ _ hnonce⟩
      · exact .inr (htimers id hook hhook hof)
  · exact hothers.backed other callback hother hcallback

/-- The callback is taken, and what it may receive is its first result. -/
theorem Tracked.notified {result : InjectionResult} (h : self.Tracked (· ≠ nonce))
    (hinjected : ∀ callback, self.callbacks.lookup nonce = some callback →
      .injected nonce callback ∈ self.outputs ∧ nonce ∉ resultNonces self.outputs)
    (hnotified : self.Notified nonce result self') : self'.Tracked fun _ ↦ True := by
  have herase {other : Nonce} {callback : Callback}
      (hcallback : (self.callbacks.erase nonce).lookup other = some callback) :
      other ≠ nonce ∧ self.callbacks.lookup other = some callback := by
    rw [KeyMap.lookup_erase_eq] at hcallback
    split at hcallback
    · simp at hcallback
    · rename_i hne
      exact ⟨hne, hcallback⟩
  cases hnotified with
  | none hnone =>
    refine { h with
      backed := fun other callback _ hcallback ↦ h.backed other callback ?_ hcallback }
    rintro rfl
    simp [hnone] at hcallback
  | told hsome =>
    rename_i callback
    refine h.frame rfl h.ids (by simp [registeredFor]) (fun _ _ _ _ hhook _ ↦ hhook)
      (fun other callback' _ hcallback ↦ ?_) (by simp [resultNonce])
      (fun other hother ↦ ?_) h.sentTo
    · obtain ⟨hne, hcallback⟩ := herase hcallback
      exact ⟨hne, hcallback, by simpa [resultNonce] using hne, rfl⟩
    · obtain rfl : other = nonce := by simpa [resultNonce] using hother
      exact ⟨(hinjected callback hsome).2, callback, (hinjected callback hsome).1⟩
  | deaf hsome =>
    refine h.frame (List.append_nil _).symm h.ids (by simp) (fun _ _ _ _ hhook _ ↦ hhook)
      (fun other callback' _ hcallback ↦ ?_) List.nodup_nil (by simp) h.sentTo
    obtain ⟨hne, hcallback⟩ := herase hcallback
    exact ⟨hne, hcallback, by simp, rfl⟩

/-! ## Runs -/

variable {T : Type}

/-- The nonce of an injection. -/
def Occurrence.injects (o : Occurrence T) : Option Nonce :=
  match o.event with
  | .injectStore nonce _ _ | .injectFetch nonce _ _ => some (nonce.getD o.drawn)
  | .message _ | .timer _ => none

/-- Injections have nonces of their own and a nonce that is drawn is not pending.  Apart from that,
no timer is set for the nonce of an injection, and that of a lookup does not fire while the value is
being stored. -/
structure Followed (injector : DistributedHashTableInjector) (o : Occurrence T) : Prop where
  drawn : injector.pendingReqs.lookup o.drawn = none
  distinct : ∀ nonce callback, o.injects = some nonce → .injected nonce callback ∉ injector.outputs
  unset : ∀ nonce id hook, o.injects = some nonce → injector.timerHooks.lookup id = some hook →
    hook.nonce ≠ some nonce
  timely : ∀ id nonce request, o.event = .timer id →
    injector.timerHooks.lookup id = some (.timeoutFindNodeReq nonce) →
    injector.pendingReqs.lookup nonce = some request → request.responseKind ≠ .storeRsp

/-- When a callback may receive a result. -/
inductive Justified (self : DistributedHashTableInjector) (nonce : Nonce) :
    Event → InjectionResult → Prop
  | fetch {rsp : ReqRspMessage (FetchRspData LHTOutput)} (hnonce : rsp.commonHeader.msgId = nonce) :
      Justified self nonce (.message (.fetchRsp rsp)) (.answered (.fetchRsp rsp))
  | store {rsp : ReqRspMessage StoreRspData} (hnonce : rsp.commonHeader.msgId = nonce)
      (hsentTo : self.SentTo nonce rsp.source) :
      Justified self nonce (.message (.storeRsp rsp)) (.answered (.storeRsp rsp))
  | timeout {id : TimerId} {request : RequestState}
      (hpending : self.pendingReqs.lookup nonce = some request)
      (hphase : phaseTimer self.outputs nonce = some id) : Justified self nonce (.timer id) .timeout

variable {o : Occurrence T}

theorem Tracked.fresh (h : self.Tracked fun _ ↦ True) (hfollowed : self.Followed o)
    (hinjects : o.injects = some nonce) {callback : Callback} {kind : ProtocolMessageKind}
    (hmid : (self.insertCallback nonce callback).Sent mid) :
    ∀ callback', mid.callbacks.lookup nonce = some callback' →
      .injected nonce callback' ∈ mid.outputs ∧ nonce ∉ resultNonces mid.outputs ∧
      ∀ id hook, mid.timerHooks.lookup id = some hook → hook.nonce = some nonce →
        hook = .timeoutFindNodeReq nonce ∧ kind = .storeRsp := by
  obtain ⟨sent, rfl, hsent⟩ := hmid
  intro callback' hcallback
  obtain rfl := Option.some.inj ((AList.lookup_insert _).symm.trans hcallback)
  refine ⟨List.mem_append_left _ (List.mem_append_right _ (List.mem_singleton_self _)), ?_,
    fun id hook hhook hof ↦ ?_⟩
  · intro hmem
    have hmem : nonce ∈ resultNonces self.outputs := by
      simpa [DistributedHashTableInjector.insertCallback, resultNonces_of_sends hsent,
        resultNonce] using hmem
    obtain ⟨callback', hinjected⟩ := h.results nonce hmem
    exact hfollowed.distinct nonce callback' hinjects hinjected
  · exact absurd hof (hfollowed.unset nonce id hook hinjects hhook)

theorem Backed.of_sent {callback : Callback} (h : self.Backed nonce callback)
    (hsent : self.Sent mid) :
    .injected nonce callback ∈ mid.outputs ∧ nonce ∉ resultNonces mid.outputs := by
  obtain ⟨sent, rfl, hsent⟩ := hsent
  exact ⟨List.mem_append_left _ h.injected,
    by simpa [resultNonces_of_sends hsent] using h.unanswered⟩

/-- **An event keeps the invariant.** -/
theorem Tracked.moved (h : self.Tracked fun _ ↦ True) (hfollowed : self.Followed o)
    (hmoved : self.Moved o self') : self'.Tracked fun _ ↦ True := by
  have hbacked {nonce : Nonce} {callback : Callback}
      (hcallback : self.callbacks.lookup nonce = some callback) : self.Backed nonce callback :=
    h.backed nonce callback trivial hcallback
  cases hmoved with
  | ignored => exact h
  | lookup hevent hmid =>
    rename_i nonce data callback mid payload restore
    have hinjects : o.injects = some (nonce.getD o.drawn) := by simp [Occurrence.injects, hevent]
    exact ((h.insertCallback _ _).sent hmid).registerPendingReq (h.fresh hfollowed hinjects hmid)
      rfl rfl (by simp)
  | fetch hevent hmid =>
    rename_i nonce handle callback mid
    have hinjects : o.injects = some (nonce.getD o.drawn) := by simp [Occurrence.injects, hevent]
    exact ((h.insertCallback _ _).sent hmid).registerPendingReq (h.fresh hfollowed hinjects hmid)
      rfl rfl (by simp)
  | store hevent hnonce hpending hmid hsends hreq =>
    rename_i message nonce hook mid payload restore req effects
    refine ((h.removePendingReq nonce).sent hmid).registerPendingReq (fun callback hcallback ↦ ?_)
      rfl rfl ?_
    · obtain ⟨sent, rfl, hsent⟩ := hmid
      have hself : self.Sent { self with outputs := self.outputs ++ sent } := ⟨sent, rfl, hsent⟩
      obtain ⟨hinjected, hunanswered⟩ := (hbacked hcallback).of_sent hself
      refine ⟨hinjected, hunanswered, fun id hook' hhook hof ↦ ⟨?_, rfl⟩⟩
      obtain ⟨request, hrequest, htimers⟩ := (hbacked hcallback).pending
      obtain rfl := Option.some.inj (hrequest.symm.trans hpending)
      -- what is still set is the timer of the lookup
      rcases htimers id hook' hhook hof with ⟨hawaits, -⟩ | ⟨-, hkind⟩
      · cases hook' <;> simp_all [TimerHook.awaits, TimerHook.nonce]
      · simp at hkind
    · intro payload' closest restore' heq
      cases heq
      exact ⟨req, effects, hsends, hreq, rfl⟩
  | answered hevent hnonce hpending hanswers hnotified =>
    exact (h.removePendingReq _).notified
      (fun callback hcallback ↦ ⟨(hbacked hcallback).injected, (hbacked hcallback).unanswered⟩)
      hnotified
  | answeredAndKept hevent hnonce hpending hanswers hnotified =>
    exact ((h.removePendingReq _).notified
      (fun callback hcallback ↦ ⟨(hbacked hcallback).injected, (hbacked hcallback).unanswered⟩)
      hnotified).registerPeriodicRestore _
  | timedOut hevent hhook hnonce hpending hnotified =>
    exact ((h.removeTimerHook _).removePendingReq _).notified
      (fun callback hcallback ↦ ⟨(hbacked hcallback).injected, (hbacked hcallback).unanswered⟩)
      hnotified
  | late => exact h.removeTimerHook _
  | restored hmid hhook =>
    rename_i id mid payload hook
    refine Tracked.registerPeriodicRestore ?_ _
    refine (((h.removeTimerHook id).sent hmid).mono fun _ _ ↦ trivial).registerPendingReq ?_
      rfl rfl fun payload closest restore heq ↦ absurd heq (hhook payload closest restore)
    -- nothing was pending under the nonce drawn, so there is no callback for it
    intro callback hcallback
    obtain ⟨sent, rfl, hsent⟩ := hmid
    obtain ⟨request, hrequest, -⟩ := (hbacked hcallback).pending
    simp [hfollowed.drawn] at hrequest

/-! ### Which results a step sends -/

/-- The step asks for more, and sends results of this kind only. -/
def Emits (self self' : DistributedHashTableInjector)
    (P : Nonce → Callback → InjectionResult → Prop) : Prop :=
  ∃ sent, self'.outputs = self.outputs ++ sent ∧
    ∀ nonce callback result, .result nonce callback result ∈ sent → P nonce callback result

variable {P : Nonce → Callback → InjectionResult → Prop}

theorem Emits.refl (self : DistributedHashTableInjector) : self.Emits self P :=
  ⟨[], (List.append_nil _).symm, by simp⟩

theorem Emits.trans (h : self.Emits mid P) (h' : mid.Emits self' P) : self.Emits self' P := by
  obtain ⟨sent, houtputs, hsent⟩ := h
  obtain ⟨sent', houtputs', hsent'⟩ := h'
  refine ⟨sent ++ sent', by rw [houtputs', houtputs, List.append_assoc], ?_⟩
  intro nonce callback result hmem
  rcases List.mem_append.1 hmem with hmem | hmem
  · exact hsent nonce callback result hmem
  · exact hsent' nonce callback result hmem

theorem Emits.of_eq (h : self'.outputs = self.outputs) : self.Emits self' P :=
  ⟨[], by rw [h, List.append_nil], by simp⟩

theorem Sent.emits (h : self.Sent self') : self.Emits self' P := by
  obtain ⟨sent, rfl, hsent⟩ := h
  refine ⟨sent, rfl, fun nonce callback result hmem ↦ ?_⟩
  obtain ⟨message, effects, heq⟩ := hsent _ hmem
  simp at heq

theorem insertCallback_emits (self : DistributedHashTableInjector) (nonce : Nonce)
    (callback : Callback) : self.Emits (self.insertCallback nonce callback) P :=
  ⟨_, rfl, by simp⟩

theorem registerPendingReq_emits (self : DistributedHashTableInjector) (nonce : Nonce)
    (kind : ProtocolMessageKind) (timeoutHook : TimerHook) (responseHook : ResponseHook) :
    self.Emits (self.registerPendingReq nonce kind timeoutHook responseHook) P :=
  ⟨_, rfl, by simp⟩

theorem registerPeriodicRestore_emits (self : DistributedHashTableInjector)
    (payload : StoreReqData LHTInput) : self.Emits (self.registerPeriodicRestore payload) P :=
  ⟨_, rfl, by simp⟩

theorem Notified.emits {result : InjectionResult} (h : self.Notified nonce result self')
    (hP : ∀ callback, self.callbacks.lookup nonce = some callback → P nonce callback result) :
    self.Emits self' P := by
  cases h with
  | none hnone => exact .refl self
  | told hsome =>
    refine ⟨_, rfl, fun other callback result' hmem ↦ ?_⟩
    cases List.mem_singleton.1 hmem
    exact hP _ hsome
  | deaf hsome => exact .of_eq rfl

/-- **An event sends results to callbacks that wait for them, and for the right reason.** -/
theorem Tracked.emits (h : self.Tracked fun _ ↦ True) (hfollowed : self.Followed o)
    (hmoved : self.Moved o self') :
    self.Emits self' fun nonce callback result ↦ .injected nonce callback ∈ self.outputs ∧
      nonce ∉ resultNonces self.outputs ∧ self.Justified nonce o.event result := by
  have hbacked {nonce : Nonce} {callback : Callback}
      (hcallback : self.callbacks.lookup nonce = some callback) : self.Backed nonce callback :=
    h.backed nonce callback trivial hcallback
  have hanswer {message : ProtocolMessage} {nonce : Nonce} {request : RequestState}
      (hnonce : message.msgId = some nonce)
      (hpending : self.pendingReqs.lookup nonce = some request)
      (hanswers : Answers message request) :
      self.Justified nonce (.message message) (.answered message) := by
    cases hanswers with
    | fetch hmessage =>
      subst hmessage
      exact .fetch (Option.some.inj hnonce)
    | store hmessage =>
      subst hmessage
      exact .store (Option.some.inj hnonce) (h.sentTo _ _ _ _ _ hpending)
  cases hmoved with
  | ignored => exact .refl self
  | lookup hevent hmid | fetch hevent hmid =>
    exact ((insertCallback_emits _ _ _).trans hmid.emits).trans (registerPendingReq_emits _ _ _ _ _)
  | store hevent hnonce hpending hmid hsends hreq =>
    exact ((Emits.of_eq rfl).trans hmid.emits).trans (registerPendingReq_emits _ _ _ _ _)
  | answered hevent hnonce hpending hanswers hnotified =>
    refine (Emits.of_eq rfl).trans (hnotified.emits fun callback hcallback ↦ ?_)
    exact ⟨(hbacked hcallback).injected, (hbacked hcallback).unanswered,
      hevent ▸ hanswer hnonce hpending hanswers⟩
  | answeredAndKept hevent hnonce hpending hanswers hnotified =>
    refine ((Emits.of_eq rfl).trans (hnotified.emits fun callback hcallback ↦ ?_)).trans
      (registerPeriodicRestore_emits _ _)
    exact ⟨(hbacked hcallback).injected, (hbacked hcallback).unanswered,
      hevent ▸ hanswer hnonce hpending hanswers⟩
  | timedOut hevent hhook hnonce hpending hnotified =>
    refine (Emits.of_eq rfl).trans (hnotified.emits fun callback hcallback ↦ ?_)
    refine ⟨(hbacked hcallback).injected, (hbacked hcallback).unanswered,
      hevent ▸ .timeout hpending ?_⟩
    obtain ⟨request, hrequest, htimers⟩ := (hbacked hcallback).pending
    rcases htimers _ _ hhook hnonce with ⟨-, hphase⟩ | ⟨rfl, hkind⟩
    · exact hphase
    · exact absurd hkind (hfollowed.timely _ _ _ hevent hhook hrequest)
  | late => exact .of_eq rfl
  | restored hmid hhook =>
    exact (((Emits.of_eq rfl).trans hmid.emits).trans (registerPendingReq_emits _ _ _ _ _)).trans
      (registerPeriodicRestore_emits _ _)

end DistributedHashTableInjector

open DistributedHashTableInjector

/-- **Each callback receives at most one result, and the right one.**  An answer is a response to a
fetch, or one to a store request from the node that this was sent to.  A timeout comes from the
timer that was registered together with the request that is pending. -/
theorem results_in_order {T : Type} {k : Nat} [RoutingTable T k] (debug : Bool)
    (redundancyFactor : RedundancyFactor) {self : DistributedHashTableInjector}
    (h : Reachable (step (T := T) debug) DistributedHashTableInjector.Followed
      (start redundancyFactor) self) :
    (resultNonces self.outputs).Nodup ∧
    ∀ (o : Occurrence T) (self' : DistributedHashTableInjector), self.Followed o →
      self.step debug o = .ok self' →
      self.Emits self' fun nonce callback result ↦ .injected nonce callback ∈ self.outputs ∧
        nonce ∉ resultNonces self.outputs ∧ self.Justified nonce o.event result := by
  have htracked : self.Tracked fun _ ↦ True := by
    refine h.invariant (tracked_start redundancyFactor) fun self o self' htracked hfollowed
      hstep ↦ ?_
    exact htracked.moved hfollowed (step_moved hstep)
  exact ⟨htracked.nodup, fun o self' hfollowed hstep ↦
    htracked.emits hfollowed (step_moved hstep)⟩

namespace DistributedHashTableInjector

/-- An event at a node that knows of no other. -/
def Occurrence.alone (event : Event) : Occurrence (FlatRoutingTable 1 1) where
  event := event
  context := ⟨.new 5 Nat.one_pos one_lt_64, .new⟩
  drawn := 9
  listening _ := true

/-- A response to the lookup for nonce 0, from node 3. -/
def lookupResponse : ReqRspMessage RTableData where
  commonHeader := .new .findNodeRsp 3 5 0 .invalid 0
  data := ⟨[]⟩
  notVia := none
  sourceRoute := .new 3 (.via 5 [])

end DistributedHashTableInjector

/-- A request to fetch a value is not answered in time. -/
theorem fetch_times_out : ∃ self self',
    (start .bucketSize).step true (.alone (.injectFetch (some 0) 5 0)) = .ok self ∧
    self.step true (.alone (.timer 0)) = .ok self' ∧
    self'.outputs = self.outputs ++ [.result 0 0 .timeout] ∧
    self.Emits self' fun nonce callback result ↦ .injected nonce callback ∈ self.outputs ∧
      nonce ∉ resultNonces self.outputs ∧ self.Justified nonce (.timer 0) result := by
  have hstart : (start .bucketSize).Followed (.alone (.injectFetch (some 0) 5 0)) :=
    ⟨rfl, by simp [start], by simp [start], by simp [start]⟩
  refine ⟨_, _, rfl, rfl, rfl, ?_⟩
  refine (results_in_order true .bucketSize (.step .start hstart rfl)).2
    (.alone (.timer 0)) _ ?_ rfl
  refine ⟨by decide +kernel, fun _ _ hinjects ↦ ?_, fun _ _ _ hinjects ↦ ?_, ?_⟩
  · simp [Occurrence.injects, Occurrence.alone] at hinjects
  · simp [Occurrence.injects, Occurrence.alone] at hinjects
  · intro id nonce request hevent hhook
    cases hevent
    cases hhook

/-- **The timer of the lookup ends the store request.**  A value is injected, the lookup is answered
and the value is sent.  The timer that was registered for the lookup fires, not that of the store
request, and the callback is told that the time is over. -/
theorem lookup_timer_ends_store : ∃ injected stored expired,
    (start .bucketSize).step true (.alone (.injectStore (some 0) ⟨5, [7], false⟩ 0)) =
      .ok injected ∧
    injected.step true (.alone (.message (.findNodeRsp lookupResponse))) = .ok stored ∧
    stored.step true (.alone (.timer 0)) = .ok expired ∧
    expired.outputs = stored.outputs ++ [.result 0 0 .timeout] ∧
    stored.pendingReqs.lookup 0 =
      some ⟨.storeRsp, .registerStoreRsp ⟨5, [7], none⟩ 3 false⟩ ∧
    phaseTimer stored.outputs 0 = some 1 :=
  ⟨_, _, _, rfl, rfl, rfl, rfl, rfl, rfl⟩

end Kira
