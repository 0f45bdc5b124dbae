import Kira.Domain.RoutingTable.UnlimitedULNLawful
import Kira.R2Kad.LiveTimers
import Kira.R2Kad.Node
import Kira.UseCases.PathProbing

/-!
# Probes that are not answered

When the waiting for an answer to a probe ends, the contact should become invalid, unless its path
is another one by now, or has been validated in the meantime.

The comparison of the two times is the wrong way round.  The contact becomes invalid if its path
*has* been validated since the probe was sent, and it is left alone otherwise:
`unanswered_probe_ignored`.  It is left alone, too, if the periodic look through the table has
dropped the request before its timer was handled.  `timeout_decides_iff` says when the outcome is
right all the same.

The runs are those of the use case together with the runtime; the tables may become any others at
any time.  Which probes are waited for is said by the history of the run, not by the maps of the
program: `unanswered` gets what was sent and loses what was answered.
-/

set_option autoImplicit false

namespace Kira

open Run RoutingTable LawfulRoutingTable

namespace UseCaseContext

variable {T : Type} {k : Nat} [RoutingTable T k] [LawfulRoutingTable T k] {α : Type}
  {ctx ctx' : UseCaseContext T}

/-- A contact that is accessed for writing keeps its id: what there is in the table then. -/
theorem contactMut_effect {id : NodeId} {f : Contact → Run (α × Contact)} {a : Option α}
    (ht : Tidy ctx.routingTable) (hf : ∀ c a' c', f c = .ok (a', c') → c'.id = c.id)
    (h : ctx.contactMut id f = .ok (a, ctx')) :
    Tidy ctx'.routingTable ∧ ctx'.runtime = ctx.runtime ∧
      ∀ c, contact ctx.routingTable id = some c →
        ∃ a' c', f c = .ok (a', c') ∧ contact ctx'.routingTable id = some c' := by
  rcases contactMut_cases h with ⟨hnone, -, rfl⟩ | ⟨c, a', c', hc, hfc, -, rfl⟩
  · refine ⟨ht, rfl, fun c hc ↦ ?_⟩
    cases hnone.symm.trans hc
  · have hid : c'.id = id := (hf c a' c' hfc).trans (contact_id ht hc)
    obtain ⟨ht', hcontact⟩ := write_effect ht hc (.inl hid)
    refine ⟨ht', rfl, fun x hx ↦ ?_⟩
    obtain rfl := Option.some.inj (hc.symm.trans hx)
    refine ⟨a', c', hfc, ?_⟩
    show contact (LawfulRoutingTable.write ctx.routingTable id c') id = some c'
    rw [hcontact, Contents.written_self _ hid, Function.update_self]

end UseCaseContext

namespace PathProbing

variable {T : Type} {k : Nat} [RoutingTable T k] {debug : Bool} {self self' : PathProbing}
  {ctx ctx' : UseCaseContext T} {books : ProbingBooks}

/-! ## What the functions do to the books -/

/-- The probes that are waited for are in the books: each under its timer, and under its nonce
unless it has been dropped there.  The timer for the next look through the table is no other one. -/
structure Tracks (counter : Nat) (unanswered : List SentProbe) (books : ProbingBooks) : Prop where
  periodic_lt : books.probeTimerId < counter
  timers_lt {id : TimerId} {nonce : Nonce} : books.probeTimers.lookup id = some nonce → id < counter
  timers_ne {id : TimerId} {nonce : Nonce} : books.probeTimers.lookup id = some nonce →
    id ≠ books.probeTimerId
  scheduled_ne : books.scheduledSendingTimer ≠ some books.probeTimerId
  timer_eq {sent : SentProbe} : sent ∈ unanswered →
    books.probeTimers.lookup sent.timerId = some sent.nonce
  request_eq {sent : SentProbe} : sent ∈ unanswered →
    books.requestsInFlight.lookup sent.nonce = none ∨
      books.requestsInFlight.lookup sent.nonce = some sent.probe

variable {unanswered : List SentProbe} {counter : Nat} {clock : Readings} {draws : ProbingDraws}

theorem Tracks.subset {fewer : List SentProbe} (h : Tracks counter unanswered books)
    (hfewer : fewer ⊆ unanswered) :
    Tracks counter fewer books :=
  { h with
    timer_eq := fun hsent ↦ h.timer_eq (hfewer hsent)
    request_eq := fun hsent ↦ h.request_eq (hfewer hsent) }

theorem Tracks.counter_le {counter' : Nat} (h : Tracks counter unanswered books)
    (hle : counter ≤ counter') :
    Tracks counter' unanswered books :=
  { h with
    periodic_lt := h.periodic_lt.trans_le hle
    timers_lt := fun hid ↦ (h.timers_lt hid).trans_le hle }

variable {nonces : Nat → Nonce}

theorem freshNonce_cases {inFlight : KeyMap Nonce Probe} {nonce : Nonce} :
    ∀ {rounds i : Nat}, freshNonce inFlight nonces rounds i = .ok nonce →
      inFlight.lookup nonce = none ∧ ∃ j, nonce = nonces j
  | 0, _, h => by cases h
  | rounds + 1, i, h => by
    rw [freshNonce] at h
    split at h
    · exact freshNonce_cases h
    · rename_i hunused
      cases h
      exact ⟨by simpa using hunused, i, rfl⟩

theorem Tracks.insertRequest (h : Tracks counter unanswered books) {nonce : Nonce}
    (probe : Probe) (hnonce : ∀ sent ∈ unanswered, sent.nonce ≠ nonce) :
    Tracks counter unanswered
      { books with requestsInFlight := books.requestsInFlight.insert nonce probe } :=
  { h with
    request_eq := fun {sent} hsent ↦ by
      show (books.requestsInFlight.insert nonce probe).lookup sent.nonce = none ∨ _
      rw [KeyMap.lookup_insert_eq, if_neg (hnonce sent hsent)]
      exact h.request_eq hsent }

theorem Tracks.insertProbe (h : Tracks counter unanswered books) {sent : SentProbe}
    (htimer : sent.timerId = counter) (hnonce : ∀ other ∈ unanswered, other.nonce ≠ sent.nonce) :
    Tracks (counter + 1) (sent :: unanswered)
      { books with
        probeTimers := books.probeTimers.insert sent.timerId sent.nonce
        requestsInFlight := books.requestsInFlight.insert sent.nonce sent.probe } where
  periodic_lt := h.periodic_lt.trans (Nat.lt_succ_self _)
  timers_lt {id nonce} hid := by
    change (books.probeTimers.insert sent.timerId sent.nonce).lookup id = some nonce at hid
    rw [KeyMap.lookup_insert_eq] at hid
    split at hid
    · rename_i heq
      rw [heq, htimer]
      exact Nat.lt_succ_self _
    · exact (h.timers_lt hid).trans (Nat.lt_succ_self _)
  timers_ne {id nonce} hid := by
    change (books.probeTimers.insert sent.timerId sent.nonce).lookup id = some nonce at hid
    rw [KeyMap.lookup_insert_eq] at hid
    split at hid
    · rename_i heq
      rw [heq, htimer]
      exact h.periodic_lt.ne'
    · exact h.timers_ne hid
  scheduled_ne := h.scheduled_ne
  timer_eq {other} hother := by
    show (books.probeTimers.insert sent.timerId sent.nonce).lookup other.timerId = _
    rw [KeyMap.lookup_insert_eq]
    rcases List.mem_cons.1 hother with rfl | hother
    · rw [if_pos rfl]
    · rw [if_neg, h.timer_eq hother]
      rw [htimer]
      exact (h.timers_lt (h.timer_eq hother)).ne
  request_eq {other} hother := by
    show (books.requestsInFlight.insert sent.nonce sent.probe).lookup other.nonce = none ∨ _ = _
    rw [KeyMap.lookup_insert_eq]
    rcases List.mem_cons.1 hother with rfl | hother
    · rw [if_pos rfl]
      exact .inr rfl
    · rw [if_neg (hnonce other hother)]
      exact h.request_eq hother

theorem Tracks.removeNonce (h : Tracks counter unanswered books) (nonce : Nonce) :
    Tracks counter (unanswered.filter fun sent ↦ sent.nonce ≠ nonce)
      { books with
        requestsInFlight := books.requestsInFlight.erase nonce
        probeTimers := books.probeTimers.retain fun v ↦ v ≠ nonce } where
  periodic_lt := h.periodic_lt
  timers_lt {id n} hid := by
    change (KeyMap.retain books.probeTimers fun v ↦ v ≠ nonce).lookup id = some n at hid
    rw [KeyMap.lookup_retain] at hid
    exact h.timers_lt (Option.filter_eq_some_iff.1 hid).1
  timers_ne {id n} hid := by
    change (KeyMap.retain books.probeTimers fun v ↦ v ≠ nonce).lookup id = some n at hid
    rw [KeyMap.lookup_retain] at hid
    exact h.timers_ne (Option.filter_eq_some_iff.1 hid).1
  scheduled_ne := h.scheduled_ne
  timer_eq {sent} hsent := by
    obtain ⟨hsent, hne⟩ := List.mem_filter.1 hsent
    show (KeyMap.retain books.probeTimers fun v ↦ v ≠ nonce).lookup _ = _
    rw [KeyMap.lookup_retain, h.timer_eq hsent]
    simpa using hne
  request_eq {sent} hsent := by
    obtain ⟨hsent, hne⟩ := List.mem_filter.1 hsent
    show (books.requestsInFlight.erase nonce).lookup sent.nonce = none ∨ _ = _
    rw [KeyMap.lookup_erase_eq, if_neg (by simpa using hne)]
    exact h.request_eq hsent

theorem Tracks.removeTimer (h : Tracks counter unanswered books) (timerId : TimerId)
    (nonce : Nonce) :
    Tracks counter (unanswered.filter fun sent ↦ sent.timerId ≠ timerId)
      { books with
        probeTimers := books.probeTimers.erase timerId
        requestsInFlight := books.requestsInFlight.erase nonce } where
  periodic_lt := h.periodic_lt
  timers_lt hid := h.timers_lt (KeyMap.lookup_of_erase hid)
  timers_ne hid := h.timers_ne (KeyMap.lookup_of_erase hid)
  scheduled_ne := h.scheduled_ne
  timer_eq {sent} hsent := by
    obtain ⟨hsent, hne⟩ := List.mem_filter.1 hsent
    show (books.probeTimers.erase timerId).lookup sent.timerId = _
    rw [KeyMap.lookup_erase_eq, if_neg (by simpa using hne)]
    exact h.timer_eq hsent
  request_eq {sent} hsent := by
    obtain ⟨hsent, -⟩ := List.mem_filter.1 hsent
    show (books.requestsInFlight.erase nonce).lookup sent.nonce = none ∨ _ = _
    rw [KeyMap.lookup_erase_eq]
    split
    · exact .inl rfl
    · exact h.request_eq hsent

theorem Tracks.collect (h : Tracks counter unanswered books) (keep : Probe → Bool) :
    Tracks counter unanswered
      { books with requestsInFlight := books.requestsInFlight.retain keep } :=
  { h with
    request_eq := fun {sent} hsent ↦ by
      show (KeyMap.retain books.requestsInFlight keep).lookup sent.nonce = none ∨ _ = _
      rw [KeyMap.lookup_retain]
      rcases h.request_eq hsent with hnone | hsome
      · exact .inl (by rw [hnone]; rfl)
      · rw [hsome, Option.filter_some]
        split
        · exact .inr rfl
        · exact .inl rfl }

/-! ## What the functions do -/

/-- Between these two states of the use case and the runtime, the table of contacts stays and the
timers are counted on. -/
structure Sends (before after : UseCaseContext T) : Prop where
  routingTable : after.routingTable = before.routingTable
  counter_le : before.runtime.counter ≤ after.runtime.counter

theorem Sends.refl (ctx : UseCaseContext T) : Sends ctx ctx := ⟨rfl, Nat.le_refl _⟩

theorem Sends.trans {a b c : UseCaseContext T} (hab : Sends a b) (hbc : Sends b c) : Sends a c :=
  ⟨hbc.routingTable.trans hab.routingTable, hab.counter_le.trans hbc.counter_le⟩

theorem sends_sendMessage {message : ProtocolMessage} (h : ctx.sendMessage message = .ok ctx') :
    Sends ctx ctx' :=
  have hsame := UseCaseContext.sameState_sendMessage h
  ⟨hsame.routingTable, by rw [hsame.runtime]⟩

theorem sends_registerTimer {duration : Duration} {id : TimerId}
    (h : ctx.registerTimer debug duration = .ok (id, ctx')) :
    Sends ctx ctx' ∧ id = ctx.runtime.counter ∧ ctx'.runtime.counter = ctx.runtime.counter + 1 := by
  obtain ⟨runtime, hreg, rfl⟩ := UseCaseContext.registerTimer_cases h
  obtain ⟨rfl, hcounter, -⟩ := R2KadRuntime.pending_registerTimer hreg
  exact ⟨⟨rfl, hcounter ▸ Nat.le_succ _⟩, rfl, hcounter⟩

theorem sendProbeReq_cases {now : Timestamp} {rounds : Nat}
    {contact : Contact} {sent : SentProbe} (hstate : self.state = .running books)
    (h : self.sendProbeReq debug now nonces rounds ctx contact = .ok (sent, self', ctx')) :
    books.requestsInFlight.lookup sent.nonce = none ∧ (∃ i, sent.nonce = nonces i) ∧
    sent.timerId = ctx.runtime.counter ∧ ctx'.runtime.counter = ctx.runtime.counter + 1 ∧
    ctx'.routingTable = ctx.routingTable ∧
    self' = { self with state := .running { books with
      probeTimers := books.probeTimers.insert sent.timerId sent.nonce
      requestsInFlight := books.requestsInFlight.insert sent.nonce sent.probe } } := by
  rw [sendProbeReq, hstate] at h
  dsimp only at h
  obtain ⟨nonce, hnonce, h⟩ := of_bind h
  obtain ⟨path, -, h⟩ := of_bind h
  obtain ⟨mid, hmid, h⟩ := of_bind h
  obtain ⟨⟨timer, last⟩, htimer, h⟩ := of_bind h
  cases h
  have hsame := UseCaseContext.sameState_sendMessage hmid
  obtain ⟨hsends, hid, hcounter⟩ := sends_registerTimer htimer
  obtain ⟨hunused, hdrawn⟩ := freshNonce_cases hnonce
  rw [hsame.runtime] at hid hcounter
  exact ⟨hunused, hdrawn, hid, hcounter, hsends.routingTable.trans hsame.routingTable, rfl⟩

/-- What holds of the use case whether it is running or not. -/
structure Tracked (unanswered : List SentProbe) (probing : PathProbing) (ctx : UseCaseContext T) :
    Prop where
  idle : (∀ books, probing.state ≠ .running books) → unanswered = []
  tracks {books : ProbingBooks} : probing.state = .running books →
    Tracks ctx.runtime.counter unanswered books

theorem tracked_of_tracks (hstate : self.state = .running books)
    (h : Tracks ctx.runtime.counter unanswered books) : Tracked unanswered self ctx where
  idle hidle := absurd hstate (hidle books)
  tracks hstate' := by
    obtain rfl := PathProbingState.running.inj (hstate.symm.trans hstate')
    exact h

theorem Tracked.mono (h : Tracked unanswered self ctx) {fewer : List SentProbe}
    (hfewer : fewer ⊆ unanswered) (hle : ctx.runtime.counter ≤ ctx'.runtime.counter) :
    Tracked fewer self ctx' where
  idle hidle := List.subset_nil.1 (h.idle hidle ▸ hfewer)
  tracks hstate := ((h.tracks hstate).subset hfewer).counter_le hle

/-- Contacts are probed one after the other.  A nonce that is drawn for a probe is neither that of a
probe sent before this event, by assumption, nor that of one sent in this event, since those are in
flight. -/
theorem tracks_sendAll {contacts : List Contact} :
    ∀ {j : Nat} {unanswered : List SentProbe} {self : PathProbing} {ctx : UseCaseContext T}
      {books : ProbingBooks} {probes : List SentProbe},
    self.state = .running books → Tracks ctx.runtime.counter unanswered books →
    (∀ sent ∈ unanswered, (∀ j i, draws.nonce j i ≠ sent.nonce) ∨
      books.requestsInFlight.lookup sent.nonce ≠ none) →
    sendAll debug clock draws j contacts self ctx = .ok (probes, self', ctx') →
    Sends ctx ctx' ∧ ∃ books', self'.state = .running books' ∧
      books'.probeTimerId = books.probeTimerId ∧
      Tracks ctx'.runtime.counter (unanswered ++ probes) books' := by
  induction contacts with
  | nil =>
    intro j unanswered self ctx books probes hstate htracks hfresh h
    cases h
    rw [List.append_nil]
    exact ⟨.refl _, books, hstate, rfl, htracks⟩
  | cons contact contacts ih =>
    intro j unanswered self ctx books probes hstate htracks hfresh h
    obtain ⟨⟨probe, mid, midCtx⟩, hprobe, h⟩ := of_bind h
    obtain ⟨⟨rest, last, lastCtx⟩, hrest, h⟩ := of_bind h
    cases h
    obtain ⟨hunused, ⟨i, hdrawn⟩, htimer, hcounter, htable, rfl⟩ := sendProbeReq_cases hstate hprobe
    have hne : ∀ other ∈ unanswered, other.nonce ≠ probe.nonce := by
      intro other hother heq
      rcases hfresh other hother with hdraws | hinFlight
      · exact hdraws j i (hdrawn.symm.trans heq.symm)
      · exact hinFlight (heq ▸ hunused)
    have hmid := htracks.insertProbe htimer hne
    rw [← hcounter] at hmid
    have hsent : unanswered ++ [probe] ⊆ probe :: unanswered := by simp
    have hfresh' : ∀ other ∈ unanswered ++ [probe], (∀ j i, draws.nonce j i ≠ other.nonce) ∨
        (books.requestsInFlight.insert probe.nonce probe.probe).lookup other.nonce ≠ none := by
      intro other hother
      rw [KeyMap.lookup_insert_eq]
      split
      · exact .inr (Option.some_ne_none _)
      · rename_i hother'
        rcases List.mem_append.1 hother with hold | hnew
        · exact hfresh other hold
        · exact absurd (List.mem_singleton.1 hnew ▸ rfl) hother'
    obtain ⟨hsends, books', hbooks', hperiodic, hlast⟩ :=
      ih rfl (hmid.subset hsent) hfresh' hrest
    refine ⟨Sends.trans ⟨htable, hcounter ▸ Nat.le_succ _⟩ hsends, books', hbooks', hperiodic, ?_⟩
    rw [List.append_assoc] at hlast
    exact hlast

theorem handlePeriodicTimer_of_ne [BucketIter T k] {timerId : TimerId}
    (hne : self.isPeriodicTimer timerId = false) :
    self.handlePeriodicTimer debug clock draws ctx timerId = .ok ([], self, ctx) := by
  simp only [handlePeriodicTimer, hne, Bool.false_eq_true, if_false, pure_eq]

/-- A look through the table: the probes that were sent are in the books. -/
theorem tracks_handlePeriodicTimer [BucketIter T k] {probes : List SentProbe}
    (hstate : self.state = .running books)
    (htracks : Tracks ctx.runtime.counter unanswered books)
    (hfresh : ∀ sent ∈ unanswered, ∀ j i, draws.nonce j i ≠ sent.nonce)
    (h : self.handlePeriodicTimer debug clock draws ctx books.probeTimerId =
      .ok (probes, self', ctx')) :
    Sends ctx ctx' ∧ ∃ books', self'.state = .running books' ∧
      books'.probeTimerId = books.probeTimerId ∧
      Tracks ctx'.runtime.counter (unanswered ++ probes) books' := by
  rw [handlePeriodicTimer, isPeriodicTimer, hstate] at h
  simp only [beq_self_eq_true, if_true] at h
  obtain ⟨⟨probes', mid, midCtx⟩, hsend, h⟩ := of_bind h
  cases h
  obtain ⟨hsends, mid', hmid, hperiodic, htracks'⟩ :=
    tracks_sendAll hstate htracks (fun sent hsent ↦ .inl (hfresh sent hsent)) hsend
  rw [garbageCollectRequests, hmid]
  exact ⟨hsends, _, rfl, hperiodic, htracks'.collect _⟩

theorem sendSingleProbeReqForPath_cases {now : Timestamp} {rounds : Nat}
    {path : Path} (hstate : self.state = .running books)
    (h : self.sendSingleProbeReqForPath now nonces rounds ctx path = .ok (self', ctx')) :
    Sends ctx ctx' ∧ ∃ i probe, self' = { self with state := .running { books with
      requestsInFlight := books.requestsInFlight.insert (nonces i) probe } } := by
  rw [sendSingleProbeReqForPath, hstate] at h
  dsimp only at h
  obtain ⟨nonce, hnonce, h⟩ := of_bind h
  obtain ⟨mid, hmid, h⟩ := of_bind h
  cases h
  obtain ⟨-, i, rfl⟩ := freshNonce_cases hnonce
  exact ⟨sends_sendMessage hmid, i, _, rfl⟩

theorem tracked_sendScheduled {actions : List PathProbeAction} {j : Nat}
    (hfresh : ∀ sent ∈ unanswered, ∀ j i, draws.scheduledNonce j i ≠ sent.nonce)
    (hstate : self.state = .running books) (htracks : Tracks ctx.runtime.counter unanswered books)
    (h : sendScheduled clock draws j actions self ctx = .ok (self', ctx')) :
    Sends ctx ctx' ∧ Tracked unanswered self' ctx' := by
  induction actions generalizing j self ctx books with
  | nil =>
    cases h
    exact ⟨.refl _, tracked_of_tracks hstate htracks⟩
  | cons action actions ih =>
    rw [sendScheduled] at h
    split at h
    · exact ih hstate htracks h
    · obtain ⟨⟨mid, midCtx⟩, hsend, h⟩ := of_bind h
      obtain ⟨hsends, i, probe, rfl⟩ := sendSingleProbeReqForPath_cases hstate hsend
      have hmid := (htracks.insertRequest probe
        fun sent hsent ↦ (hfresh sent hsent j i).symm).counter_le hsends.counter_le
      obtain ⟨hrest, hlast⟩ := ih rfl hmid h
      exact ⟨hsends.trans hrest, hlast⟩

theorem Tracks.withScheduled (h : Tracks counter unanswered books)
    (scheduled : KeyMap PathProbeAction Timestamp) {timer : Option TimerId}
    (htimer : timer ≠ some books.probeTimerId) :
    Tracks counter unanswered
      { books with scheduledProbeRequests := scheduled, scheduledSendingTimer := timer } :=
  { h with scheduled_ne := htimer }

theorem Tracks.reschedule (htracks : Tracks ctx.runtime.counter unanswered books)
    (scheduled : KeyMap PathProbeAction Timestamp) {duration : Duration} {timerId : TimerId}
    (h : ctx.registerTimer debug duration = .ok (timerId, ctx')) :
    Sends ctx ctx' ∧ Tracks ctx'.runtime.counter unanswered
      { books with
        scheduledProbeRequests := scheduled, scheduledSendingTimer := some timerId } := by
  obtain ⟨hsends, rfl, -⟩ := sends_registerTimer h
  exact ⟨hsends, (htracks.counter_le hsends.counter_le).withScheduled _
    fun heq ↦ htracks.periodic_lt.ne' (Option.some.inj heq)⟩

section Turns

variable (htracked : Tracked unanswered self ctx)

include htracked

theorem tracked_sendScheduledProbeRequests
    (hfresh : ∀ sent ∈ unanswered, ∀ j i, draws.scheduledNonce j i ≠ sent.nonce)
    (h : self.sendScheduledProbeRequests debug clock draws ctx = .ok (self', ctx')) :
    Sends ctx ctx' ∧ Tracked unanswered self' ctx' := by
  rw [sendScheduledProbeRequests] at h
  split at h
  · rename_i hstate
    have htracks := htracked.tracks hstate
    dsimp only at h
    split at h
    · exact tracked_sendScheduled hfresh rfl
        (htracks.withScheduled _ (Option.some_ne_none _).symm) h
    · obtain ⟨⟨timerId, mid⟩, htimer, h⟩ := of_bind h
      obtain ⟨hsends, hmid⟩ := htracks.reschedule _ htimer
      obtain ⟨hrest, hlast⟩ := tracked_sendScheduled hfresh rfl hmid h
      exact ⟨hsends.trans hrest, hlast⟩
  · cases h
    exact ⟨.refl _, htracked⟩

theorem tracked_schedulePathProbeReq {now : Timestamp} {action : PathProbeAction}
    (h : self.schedulePathProbeReq debug now draws ctx action = .ok (self', ctx')) :
    Sends ctx ctx' ∧ Tracked unanswered self' ctx' := by
  rw [schedulePathProbeReq] at h
  split at h
  · rename_i hstate
    have htracks := htracked.tracks hstate
    dsimp only at h
    split at h
    · cases h
      exact ⟨.refl _, tracked_of_tracks rfl (htracks.withScheduled _ htracks.scheduled_ne)⟩
    · obtain ⟨⟨timerId, mid⟩, htimer, h⟩ := of_bind h
      cases h
      obtain ⟨hsends, hmid⟩ := htracks.reschedule _ htimer
      exact ⟨hsends, tracked_of_tracks rfl hmid⟩
  · cases h
    exact ⟨.refl _, htracked⟩

theorem tracked_removeFromTrackedMessages (nonce : Nonce) :
    Tracked (unanswered.filter fun sent ↦ sent.nonce ≠ nonce) (self.removeFromTrackedMessages nonce)
      ctx := by
  rw [removeFromTrackedMessages]
  split
  · rename_i hstate
    exact tracked_of_tracks rfl ((htracked.tracks hstate).removeNonce nonce)
  · exact htracked.mono List.filter_sublist.subset (Nat.le_refl _)

end Turns

theorem timedOut_id (clock : Nat → Timestamp) (probe : Probe) (c : Contact) :
    (timedOut clock probe c).id = c.id := by
  unfold timedOut
  repeat' split
  all_goals rfl

theorem failedAt_id (clock : Readings) (failedLink : Link) (c : Contact) :
    (failedAt clock failedLink c).id = c.id := by
  unfold failedAt
  dsimp only
  repeat' split
  all_goals rfl

theorem answeredAlong_id {path : Path} {c c' : Contact} {a : Unit}
    (h : answeredAlong clock path c = .ok (a, c')) : c'.id = c.id := by
  have hproposed : ∀ {x : Contact}, x = (if c.proposedPath = some path then
      { c with pathCollection := { c.pathCollection with
        proposedPath := some (path.setValid clock.now) } }
      else c) → x.id = c.id := by
    rintro x rfl
    split <;> rfl
  unfold answeredAlong at h
  dsimp only at h
  split at h
  · split at h
    · obtain ⟨-, -, h⟩ := of_bind h
      cases h
      rfl
    · exact hproposed (ok_mk_inj h).2.symm
  · exact hproposed (ok_mk_inj h).2.symm

section Lawful

variable [LawfulRoutingTable T k]

/-- What becomes of the table when a probe was not answered in time. -/
theorem invalidateContactForTimer_cases {clock : Readings} {timerId : TimerId} {nonce : Nonce}
    (ht : Tidy ctx.routingTable) (hstate : self.state = .running books)
    (hnonce : books.probeTimers.lookup timerId = some nonce)
    (h : self.invalidateContactForTimer clock ctx timerId = .ok (self', ctx')) :
    self' = { self with state := .running { books with
      probeTimers := books.probeTimers.erase timerId
      requestsInFlight := books.requestsInFlight.erase nonce } } ∧
    Tidy ctx'.routingTable ∧ ctx'.runtime = ctx.runtime ∧
    match books.requestsInFlight.lookup nonce with
    | none => ctx' = ctx
    | some probe => contact ctx'.routingTable probe.contactId =
        (contact ctx.routingTable probe.contactId).map (timedOut clock.clock probe) := by
  rw [invalidateContactForTimer, hstate] at h
  dsimp only at h
  obtain ⟨nonce', hnonce', h⟩ := of_bind h
  obtain rfl := Option.some.inj ((expect_eq_ok.1 hnonce').symm.trans hnonce)
  cases hlookup : books.requestsInFlight.lookup nonce' with
  | none =>
    rw [hlookup] at h
    cases h
    exact ⟨rfl, ht, rfl, rfl⟩
  | some probe =>
    rw [hlookup] at h
    obtain ⟨⟨a, mid⟩, hmut, h⟩ := of_bind h
    cases h
    obtain ⟨ht', hruntime, hsome⟩ := UseCaseContext.contactMut_effect ht
      (fun c a' c' hc ↦ by
        cases hc
        exact timedOut_id _ _ _) hmut
    refine ⟨rfl, ht', hruntime, ?_⟩
    show contact mid.routingTable probe.contactId =
      (contact ctx.routingTable probe.contactId).map (timedOut clock.clock probe)
    cases hc : contact ctx.routingTable probe.contactId with
    | none =>
      rcases UseCaseContext.contactMut_cases hmut with ⟨-, -, rfl⟩ | ⟨c, -, -, hc', -⟩
      · exact hc
      · cases hc.symm.trans hc'
    | some c =>
      obtain ⟨a', c', hf, hc'⟩ := hsome c hc
      cases hf
      exact hc'

end Lawful

/-! ## Runs -/

/-- The probing on a node. -/
structure System (T : Type) where
  probing : PathProbing
  context : UseCaseContext T
  /-- The probes that have been sent with a timer that has not fired yet, and that have not been
  answered. -/
  unanswered : List SentProbe

/-- What comes with an event from outside. -/
structure Occurrence where
  clock : Readings
  draws : ProbingDraws

/-- What can happen on the node. -/
inductive Op (T : Type) {k : Nat} [RoutingTable T k] [LawfulRoutingTable T k] where
  | start
  | timer (occurrence : Occurrence)
  | message (message : ProtocolMessage) (source : UnderlayNeighborSource) (occurrence : Occurrence)
  | contact (event : ContactEvent) (occurrence : Occurrence)
  | tables (routingTable : T) (tidy : Tidy routingTable) (ulnTable : InMemoryULNTable)
  | registerTimer (duration : Duration)
  | registerPeriodicTimer (duration : Duration)
  | setCurrentTime (now : Instant)

/-- A message answers a probe if it has its nonce and is a response or an error. -/
def answers (message : ProtocolMessage) (sent : SentProbe) : Bool :=
  match message with
  | .probeRsp rsp => rsp.commonHeader.msgId = sent.nonce
  | .error req => req.commonHeader.msgId = sent.nonce
  | _ => false

namespace System

variable [BucketIter T k] [LawfulRoutingTable T k]

def withRuntime (s : System T) (runtime : R2KadRuntime) : System T :=
  { s with context := { s.context with runtime := runtime } }

/-- The probing handles what happens. -/
def step (debug : Bool) (s : System T) : Op T → Run (System T)
  | .start => do
    match s.probing.state with
    | .initialized =>
      let (probing, context) ← s.probing.start debug s.context
      return { s with probing, context }
    | _ => return s
  | .timer occurrence => do
    match ← s.context.runtime.nextTimer debug with
    | (none, runtime) => return s.withRuntime runtime
    | (some id, runtime) =>
      let s := s.withRuntime runtime
      let (sent, _) ← s.probing.handlePeriodicTimer debug (occurrence.clock.part 0) occurrence.draws
        s.context id
      let (probing, context) ← s.probing.handleEvent debug occurrence.clock occurrence.draws
        s.context (.timer id)
      return { probing, context, unanswered :=
        (s.unanswered ++ sent).filter fun sent ↦ sent.timerId ≠ id }
  | .message message source occurrence => do
    let (probing, context) ← s.probing.handleEvent debug occurrence.clock occurrence.draws s.context
      (.message message source)
    return { probing, context, unanswered := s.unanswered.filter fun sent ↦ !answers message sent }
  | .contact event occurrence => do
    let (probing, context) ← s.probing.handleEvent debug occurrence.clock occurrence.draws s.context
      (.contact event)
    return { s with probing, context }
  | .tables routingTable _ ulnTable =>
    return { s with context := { s.context with
      routingTable := routingTable, ulnTable := ulnTable } }
  | .registerTimer duration => do
    let (_, runtime) ← s.context.runtime.registerTimer debug duration
    return s.withRuntime runtime
  | .registerPeriodicTimer duration => do
    let (_, runtime) ← s.context.runtime.registerPeriodicTimer debug duration
    return s.withRuntime runtime
  | .setCurrentTime now => return s.withRuntime (s.context.runtime.setCurrentTime now)

/-- The probing has not been started. -/
def initial (config : PathProbingConfig) (routingTable : T) (ulnTable : InMemoryULNTable)
    (startupTime : Instant) : System T where
  probing := .new config
  context :=
    { routingTable := routingTable
      ulnTable := ulnTable
      runtime := .withStartupTime startupTime
      eventQueue := []
      outputQueue := [] }
  unanswered := []

/-- No nonce is drawn that a probe has which is still waited for. -/
def Fresh (s : System T) : Op T → Prop
  | .timer occurrence => ∀ sent ∈ s.unanswered, ∀ j i,
    occurrence.draws.nonce j i ≠ sent.nonce ∧ occurrence.draws.scheduledNonce j i ≠ sent.nonce
  | _ => True

/-! ### What is kept -/

/-- The probes that are waited for are in the books. -/
structure Kept (s : System T) : Prop where
  tidy : Tidy s.context.routingTable
  idle : (∀ books, s.probing.state ≠ .running books) → s.unanswered = []
  tracks {books : ProbingBooks} : s.probing.state = .running books →
    Tracks s.context.runtime.counter s.unanswered books

end System

section Handlers

variable [BucketIter T k] [LawfulRoutingTable T k] {clock : Readings} {draws : ProbingDraws}
  {unanswered : List SentProbe}

variable {timerId : TimerId}

omit [BucketIter T k] [LawfulRoutingTable T k] in
theorem handleTrackedTimer_of_none (hstate : self.state = .running books)
    (hnone : books.probeTimers.lookup timerId = none) :
    self.handleTrackedTimer clock ctx timerId = .ok (self, ctx) := by
  simp only [handleTrackedTimer, isTrackedTimer, hstate, hnone, Option.isSome_none,
    Bool.false_eq_true, if_false]
  rfl

omit [LawfulRoutingTable T k] in
theorem handleTimer_cases
    (h : self.handleEvent debug clock draws ctx (.timer timerId) = .ok (self', ctx')) :
    ∃ probes probing context checked last,
      self.handlePeriodicTimer debug (clock.part 0) draws ctx timerId =
        .ok (probes, probing, context) ∧
      probing.handleTrackedTimer (clock.part 1) context timerId = .ok (checked, last) ∧
      checked.handleScheduledTimer debug (clock.part 2) draws last timerId = .ok (self', ctx') := by
  obtain ⟨⟨probes, probing, context⟩, hperiodic, h⟩ := of_bind h
  obtain ⟨⟨checked, last⟩, htracked, h⟩ := of_bind h
  exact ⟨probes, probing, context, checked, last, hperiodic, htracked, h⟩

theorem tracks_periodicFired (ht : Tidy ctx.routingTable) (hstate : self.state = .running books)
    (htracks : Tracks ctx.runtime.counter unanswered books)
    (hfresh : ∀ sent ∈ unanswered, ∀ j i, draws.nonce j i ≠ sent.nonce)
    (h : self.handleEvent debug clock draws ctx (.timer books.probeTimerId) = .ok (self', ctx')) :
    ∃ probes mid, self.handlePeriodicTimer debug (clock.part 0) draws ctx books.probeTimerId =
        .ok (probes, mid) ∧
      Tidy ctx'.routingTable ∧ Tracked (unanswered ++ probes) self' ctx' := by
  obtain ⟨probes, probing, context, checked, last, hsent, htracked, hscheduled⟩ :=
    handleTimer_cases h
  obtain ⟨hsends, books', hbooks', hperiodic, htracks'⟩ :=
    tracks_handlePeriodicTimer hstate htracks hfresh hsent
  -- neither of the two other kinds of timers is this one
  have hnone : books'.probeTimers.lookup books.probeTimerId = none := by
    cases hlookup : books'.probeTimers.lookup books.probeTimerId with
    | none => rfl
    | some nonce => exact absurd hperiodic.symm (htracks'.timers_ne hlookup)
  rw [handleTrackedTimer_of_none hbooks' hnone] at htracked
  cases htracked
  have hother : books'.scheduledSendingTimer ≠ some books.probeTimerId :=
    hperiodic ▸ htracks'.scheduled_ne
  simp only [handleScheduledTimer, isScheduledProbeTimer, hbooks', beq_iff_eq, hother, if_false]
    at hscheduled
  cases hscheduled
  exact ⟨probes, _, hsent, hsends.routingTable ▸ ht, tracked_of_tracks hbooks' htracks'⟩

section

variable (htracked : Tracked unanswered self ctx)

include htracked

omit [BucketIter T k] in
theorem tracked_handleTrackedTimer (ht : Tidy ctx.routingTable)
    (h : self.handleTrackedTimer clock ctx timerId = .ok (self', ctx')) :
    Tidy ctx'.routingTable ∧
      Tracked (unanswered.filter fun sent ↦ sent.timerId ≠ timerId) self' ctx' := by
  rw [handleTrackedTimer] at h
  split at h
  · rename_i htimer
    unfold isTrackedTimer at htimer
    split at htimer
    · rename_i hstate
      obtain ⟨nonce, hlookup⟩ := Option.isSome_iff_exists.1 htimer
      obtain ⟨rfl, ht', hruntime, -⟩ := invalidateContactForTimer_cases ht hstate hlookup h
      refine ⟨ht', tracked_of_tracks rfl ?_⟩
      rw [hruntime]
      exact (htracked.tracks hstate).removeTimer timerId nonce
    · cases htimer
  · cases h
    exact ⟨ht, htracked.mono List.filter_sublist.subset (Nat.le_refl _)⟩

omit [BucketIter T k] [LawfulRoutingTable T k] in
theorem tracked_handleScheduledTimer
    (hfresh : ∀ sent ∈ unanswered, ∀ j i, draws.scheduledNonce j i ≠ sent.nonce)
    (h : self.handleScheduledTimer debug clock draws ctx timerId = .ok (self', ctx')) :
    Sends ctx ctx' ∧ Tracked unanswered self' ctx' := by
  rw [handleScheduledTimer] at h
  split at h
  · exact tracked_sendScheduledProbeRequests htracked hfresh h
  · cases h
    exact ⟨.refl _, htracked⟩

theorem tracked_otherFired (ht : Tidy ctx.routingTable)
    (hne : self.isPeriodicTimer timerId = false)
    (hfresh : ∀ sent ∈ unanswered, ∀ j i, draws.scheduledNonce j i ≠ sent.nonce)
    (h : self.handleEvent debug clock draws ctx (.timer timerId) = .ok (self', ctx')) :
    Tidy ctx'.routingTable ∧
      Tracked (unanswered.filter fun sent ↦ sent.timerId ≠ timerId) self' ctx' := by
  obtain ⟨probes, probing, context, checked, last, hsent, hfired, hscheduled⟩ := handleTimer_cases h
  rw [handlePeriodicTimer_of_ne hne] at hsent
  cases hsent
  obtain ⟨ht', htracked'⟩ := tracked_handleTrackedTimer htracked ht hfired
  obtain ⟨hsends, hlast⟩ := tracked_handleScheduledTimer htracked'
    (fun sent hsent ↦ hfresh sent (List.mem_of_mem_filter hsent)) hscheduled
  exact ⟨hsends.routingTable ▸ ht', hlast⟩

theorem tracked_message {message : ProtocolMessage} {source : UnderlayNeighborSource}
    (ht : Tidy ctx.routingTable)
    (h : self.handleEvent debug clock draws ctx (.message message source) = .ok (self', ctx')) :
    Tidy ctx'.routingTable ∧
      Tracked (unanswered.filter fun sent ↦ !answers message sent) self' ctx' := by
  -- an answer that is not expected is ignored, and so is every other message but a request
  have hsame : Run.ok (self, ctx) = .ok (self', ctx') → Tidy ctx'.routingTable ∧
      Tracked (unanswered.filter fun sent ↦ !answers message sent) self' ctx' := by
    intro h
    cases h
    exact ⟨ht, htracked.mono List.filter_sublist.subset (Nat.le_refl _)⟩
  have hremove : ∀ {nonce : Nonce} {last : UseCaseContext T}, Tidy last.routingTable →
      last.runtime = ctx.runtime → (∀ sent, answers message sent = decide (nonce = sent.nonce)) →
      Run.ok (self.removeFromTrackedMessages nonce, last) = .ok (self', ctx') →
      Tidy ctx'.routingTable ∧
        Tracked (unanswered.filter fun sent ↦ !answers message sent) self' ctx' := by
    intro nonce last htidy hruntime hanswers h
    cases h
    refine ⟨htidy, (tracked_removeFromTrackedMessages htracked nonce).mono (fun sent hsent ↦ ?_)
      (by rw [hruntime])⟩
    obtain ⟨hmem, hno⟩ := List.mem_filter.1 hsent
    refine List.mem_filter.2 ⟨hmem, decide_eq_true fun heq ↦ ?_⟩
    rw [hanswers, heq] at hno
    simp at hno
  cases message with
  | probeRsp rsp =>
    rw [handleEvent] at h
    split at h
    · obtain ⟨⟨a, mid⟩, hmut, h⟩ := of_bind h
      obtain ⟨ht', hruntime, -⟩ := UseCaseContext.contactMut_effect ht
        (fun c a' c' hc ↦ answeredAlong_id hc) hmut
      exact hremove ht' hruntime (fun _ ↦ rfl) h
    · exact hsame h
  | error req =>
    rw [handleEvent] at h
    split at h
    · split at h
      · rw [invalidateContactForMessage] at h
        split at h
        · obtain ⟨probe, -, h⟩ := of_bind h
          obtain ⟨⟨a, mid⟩, hmut, h⟩ := of_bind h
          obtain ⟨ht', hruntime, -⟩ := UseCaseContext.contactMut_effect ht
            (fun c a' c' hc ↦ by
              cases hc
              exact failedAt_id _ _ _) hmut
          exact hremove ht' hruntime (fun _ ↦ rfl) h
        · exact hsame h
      · exact hremove ht rfl (fun _ ↦ rfl) h
    · exact hsame h
  | probeReq req =>
    obtain ⟨mid, hmid, h⟩ := of_bind h
    cases h
    obtain ⟨route, -, hsend⟩ := of_bind hmid
    have hsends := sends_sendMessage hsend
    exact ⟨hsends.routingTable ▸ ht, htracked.mono List.filter_sublist.subset hsends.counter_le⟩
  | _ => exact hsame h

theorem tracked_handleContactEvent {event : ContactEvent}
    (h : self.handleContactEvent debug clock draws ctx event = .ok (self', ctx')) :
    Sends ctx ctx' ∧ Tracked unanswered self' ctx' := by
  have hsame : Run.ok (self, ctx) = .ok (self', ctx') →
      Sends ctx ctx' ∧ Tracked unanswered self' ctx' := by
    intro h
    cases h
    exact ⟨.refl _, htracked⟩
  cases event with
  | proposed contact =>
    obtain ⟨path, -, h⟩ := of_bind h
    obtain ⟨-, -, h⟩ := of_bind h
    exact tracked_schedulePathProbeReq htracked h
  | updated new old =>
    rw [handleContactEvent] at h
    split at h
    · split at h
      · exact tracked_schedulePathProbeReq htracked h
      · exact hsame h
    · exact hsame h
  | removed contact =>
    rw [handleContactEvent] at h
    split at h
    · rename_i hstate
      have htracks := htracked.tracks hstate
      cases h
      exact ⟨.refl _, tracked_of_tracks rfl (htracks.withScheduled _ htracks.scheduled_ne)⟩
    · exact hsame h
  | _ => exact hsame h

end

end Handlers

namespace System

variable [BucketIter T k] [LawfulRoutingTable T k]

variable {s : System T}

omit [BucketIter T k] in
theorem Kept.tracked (hs : s.Kept) : Tracked s.unanswered s.probing s.context :=
  ⟨hs.idle, hs.tracks⟩

omit [BucketIter T k] in
theorem kept_of_tracked
    (h : Tidy s.context.routingTable ∧ Tracked s.unanswered s.probing s.context) :
    s.Kept := ⟨h.1, h.2.idle, h.2.tracks⟩

omit [BucketIter T k] in
theorem Kept.withRuntime (hs : s.Kept) {runtime : R2KadRuntime}
    (hle : s.context.runtime.counter ≤ runtime.counter) : (s.withRuntime runtime).Kept :=
  kept_of_tracked ⟨hs.tidy, hs.tracked.mono (List.Subset.refl _) hle⟩

theorem Kept.fired (hs : s.Kept) {occurrence : Occurrence} {id : TimerId}
    {probes : List SentProbe} {mid : PathProbing × UseCaseContext T} {probing : PathProbing}
    {context : UseCaseContext T} (hfresh : Fresh s (.timer occurrence))
    (hsent :
      s.probing.handlePeriodicTimer debug (occurrence.clock.part 0) occurrence.draws s.context
      id = .ok (probes, mid))
    (h : s.probing.handleEvent debug occurrence.clock occurrence.draws s.context (.timer id) =
      .ok (probing, context)) :
    Kept ⟨probing, context, (s.unanswered ++ probes).filter fun sent ↦ sent.timerId ≠ id⟩ := by
  cases hid : s.probing.isPeriodicTimer id with
  | true =>
    unfold isPeriodicTimer at hid
    split at hid
    · rename_i books hstate
      obtain rfl : books.probeTimerId = id := by simpa using hid
      obtain ⟨probes', mid', hsent', ht, htracked⟩ := tracks_periodicFired hs.tidy hstate
        (hs.tracks hstate) (fun sent hmem j i ↦ (hfresh sent hmem j i).1) h
      obtain ⟨rfl, -⟩ := ok_mk_inj (hsent.symm.trans hsent')
      exact kept_of_tracked ⟨ht, htracked.mono List.filter_sublist.subset (Nat.le_refl _)⟩
    · cases hid
  | false =>
    rw [handlePeriodicTimer_of_ne hid] at hsent
    cases hsent
    rw [List.append_nil]
    exact kept_of_tracked (tracked_otherFired hs.tracked hs.tidy hid
      (fun sent hmem j i ↦ (hfresh sent hmem j i).2) h)

theorem Kept.step {s' : System T} (hs : s.Kept) {op : Op T} (hop : Fresh s op)
    (h : s.step debug op = .ok s') : s'.Kept := by
  cases op <;> simp only [System.step] at h
  case start =>
    split at h
    · rename_i hstate
      obtain ⟨⟨probing, context⟩, hstart, h⟩ := of_bind h
      cases h
      obtain ⟨⟨id, runtime⟩, hreg, hstart⟩ := of_bind hstart
      cases hstart
      obtain ⟨-, rfl, rfl⟩ := R2KadRuntime.registerPeriodicTimer_eq_ok hreg
      have hnone : s.unanswered = [] :=
        hs.idle fun books hrunning ↦ by cases hstate.symm.trans hrunning
      refine kept_of_tracked ⟨hs.tidy, tracked_of_tracks rfl ?_⟩
      exact
        { periodic_lt := Nat.lt_succ_self _
          timers_lt := nofun
          timers_ne := nofun
          scheduled_ne := nofun
          timer_eq := fun hsent ↦ by simp [hnone] at hsent
          request_eq := fun hsent ↦ by simp [hnone] at hsent }
    · cases h
      exact hs
  case timer occurrence =>
    obtain ⟨⟨due, runtime⟩, hnext, h⟩ := of_bind h
    have hcounter := (R2KadRuntime.counter_nextTimer hnext).ge
    cases due with
    | none =>
      cases h
      exact hs.withRuntime hcounter
    | some id =>
      obtain ⟨⟨probes, mid⟩, hsent, h⟩ := of_bind h
      obtain ⟨⟨probing, context⟩, hevent, h⟩ := of_bind h
      cases h
      exact (hs.withRuntime hcounter).fired hop hsent hevent
  case message message source occurrence =>
    obtain ⟨⟨probing, context⟩, hevent, h⟩ := of_bind h
    cases h
    exact kept_of_tracked (tracked_message hs.tracked hs.tidy hevent)
  case contact event occurrence =>
    obtain ⟨⟨probing, context⟩, hevent, h⟩ := of_bind h
    cases h
    obtain ⟨hsends, htracked⟩ := tracked_handleContactEvent hs.tracked hevent
    exact kept_of_tracked ⟨hsends.routingTable ▸ hs.tidy, htracked⟩
  case tables routingTable tidy ulnTable =>
    cases h
    exact ⟨tidy, hs.idle, hs.tracks⟩
  case registerTimer duration =>
    obtain ⟨⟨id, rt⟩, hreg, h⟩ := of_bind h
    cases h
    obtain ⟨-, -, rfl⟩ := R2KadRuntime.registerTimer_eq_ok hreg
    exact hs.withRuntime (Nat.le_succ _)
  case registerPeriodicTimer duration =>
    obtain ⟨⟨id, rt⟩, hreg, h⟩ := of_bind h
    cases h
    obtain ⟨-, -, rfl⟩ := R2KadRuntime.registerPeriodicTimer_eq_ok hreg
    exact hs.withRuntime (Nat.le_succ _)
  case setCurrentTime now =>
    cases h
    exact hs.withRuntime (Nat.le_refl _)

omit [BucketIter T k] in
theorem kept_initial {config : PathProbingConfig} {routingTable : T} (ht : Tidy routingTable)
    (ulnTable : InMemoryULNTable) (startupTime : Instant) :
    (initial config routingTable ulnTable startupTime).Kept where
  tidy := ht
  idle _ := rfl
  tracks hstate := by cases hstate

/-! ### The end of the waiting -/

/-- The probed path is still the active one, and it has not been validated since. -/
def Unconfirmed (probe : Probe) (contact : Contact) : Prop :=
  ∃ path ∈ contact.path, path.isSamePathAs probe.path = true ∧
    ∀ lastValidated ∈ path.lastValidated, lastValidated ≤ probe.sent

instance (probe : Probe) (contact : Contact) : Decidable (Unconfirmed probe contact) :=
  inferInstanceAs (Decidable (∃ _ ∈ _, _))

/-- What should become of a contact when the waiting for an answer ends. -/
def decided (clock : Nat → Timestamp) (probe : Probe) (contact : Contact) : Contact :=
  if Unconfirmed probe contact then contact.setInvalid clock .empty else contact

/-- Nothing has to be done about a contact, and nothing will be: the probed path is not the active
one any more; or it has been validated and the request has been dropped.  The last alternative is
that the contact has become invalid at this very moment. -/
def Indifferent (clock : Nat → Timestamp) (books : ProbingBooks) (sent : SentProbe)
    (contact : Contact) : Prop :=
  ∀ path ∈ contact.path, path.isSamePathAs sent.probe.path = true →
    ((∃ lastValidated ∈ path.lastValidated, sent.probe.sent < lastValidated) ∧
      books.requestsInFlight.lookup sent.nonce = none) ∨
    contact.setInvalid clock .empty = contact

instance (clock : Nat → Timestamp) (books : ProbingBooks) (sent : SentProbe) (contact : Contact) :
    Decidable (Indifferent clock books sent contact) :=
  inferInstanceAs (Decidable (∀ _ ∈ _, _))

theorem timeout_eq_decided_iff {clock : Nat → Timestamp} {books : ProbingBooks} {sent : SentProbe}
    {c : Contact} (hrequest : books.requestsInFlight.lookup sent.nonce = none ∨
      books.requestsInFlight.lookup sent.nonce = some sent.probe) :
    (if books.requestsInFlight.lookup sent.nonce = none then id else timedOut clock sent.probe) c =
      decided clock sent.probe c ↔ Indifferent clock books sent c := by
  cases hpath : c.path with
  | none =>
    rcases hrequest with h | h <;> simp [timedOut, decided, Unconfirmed, Indifferent, hpath, h]
  | some path =>
    by_cases hsame : path.isSamePathAs sent.probe.path = true
    · cases hlast : path.lastValidated with
      | none =>
        rcases hrequest with h | h <;>
          simp [timedOut, decided, Unconfirmed, Indifferent, hpath, hsame, hlast, h] <;>
          exact eq_comm
      | some lastValidated =>
        by_cases hlt : sent.probe.sent < lastValidated
        · rcases hrequest with h | h <;> simp [timedOut, decided, Unconfirmed, Indifferent, hpath,
            hsame, hlast, hlt, h, Nat.not_le_of_lt hlt]
        · rcases hrequest with h | h <;> simp [timedOut, decided, Unconfirmed, Indifferent, hpath,
            hsame, hlast, hlt, h, Nat.le_of_not_lt hlt] <;> exact eq_comm
    · rcases hrequest with h | h <;>
        simp [timedOut, decided, Unconfirmed, Indifferent, hpath, hsame, h]

theorem Kept.timeout {s' : System T} (hs : s.Kept) {occurrence : Occurrence} {sent : SentProbe}
    {runtime : R2KadRuntime} {books : ProbingBooks} (hsent : sent ∈ s.unanswered)
    (hstate : s.probing.state = .running books)
    (hdue : s.context.runtime.nextTimer debug = .ok (some sent.timerId, runtime))
    (h : s.step debug (.timer occurrence) = .ok s') :
    contact s'.context.routingTable sent.probe.contactId =
      (contact s.context.routingTable sent.probe.contactId).map
        (if books.requestsInFlight.lookup sent.nonce = none then id
        else timedOut (occurrence.clock.part 1).clock sent.probe) := by
  have htracks := hs.tracks hstate
  have htimer := htracks.timer_eq hsent
  have hne := htracks.timers_ne htimer
  simp only [System.step] at h
  obtain ⟨⟨due, runtime'⟩, hnext, h⟩ := of_bind h
  obtain ⟨rfl, rfl⟩ := ok_mk_inj (hdue.symm.trans hnext)
  obtain ⟨⟨probes, mid⟩, -, h⟩ := of_bind h
  obtain ⟨⟨probing, context⟩, hevent, h⟩ := of_bind h
  cases h
  obtain ⟨probes', probing', context', checked, last, hfirst, hsecond, hthird⟩ :=
    handleTimer_cases hevent
  have hstate' : (s.withRuntime runtime).probing.state = .running books := hstate
  have hother : (s.withRuntime runtime).probing.isPeriodicTimer sent.timerId = false := by
    rw [isPeriodicTimer, hstate']
    exact beq_false_of_ne hne.symm
  rw [handlePeriodicTimer_of_ne hother] at hfirst
  cases hfirst
  have hinvalidate : (s.withRuntime runtime).probing.invalidateContactForTimer
      (occurrence.clock.part 1) (s.withRuntime runtime).context sent.timerId =
        .ok (checked, last) := by
    simpa only [handleTrackedTimer, isTrackedTimer, hstate', htimer, Option.isSome_some,
      if_true] using hsecond
  have htidy : Tidy (s.withRuntime runtime).context.routingTable := hs.tidy
  obtain ⟨rfl, -, hruntime, heffect⟩ :=
    invalidateContactForTimer_cases htidy hstate' htimer hinvalidate
  have hnobody : Tracks last.runtime.counter [] { books with
      probeTimers := books.probeTimers.erase sent.timerId
      requestsInFlight := books.requestsInFlight.erase sent.nonce } :=
    hruntime ▸
      ((htracks.counter_le (R2KadRuntime.counter_nextTimer hdue).ge).removeTimer _ _).subset
      (List.nil_subset _)
  have htable :=
    (tracked_handleScheduledTimer (tracked_of_tracks rfl hnobody) nofun hthird).1.routingTable
  show contact context.routingTable _ = _
  rw [htable]
  rcases htracks.request_eq hsent with hgone | hinFlight
  · rw [hgone] at heffect
    obtain rfl : last = (s.withRuntime runtime).context := heffect
    rw [if_pos hgone, Option.map_id]
    rfl
  · rw [hinFlight] at heffect
    rw [if_neg (by rw [hinFlight]; exact Option.some_ne_none _)]
    exact heffect

/-- **The end of the waiting for an answer.**  When the timer of a probe fires that has not been
answered, what should become of the contact is what becomes of it if and only if nothing has to be
done and nothing can be done. -/
theorem timeout_decides_iff {config : PathProbingConfig} {routingTable : T} (ht : Tidy routingTable)
    {ulnTable : InMemoryULNTable} {startupTime : Instant} {s s' : System T}
    (hs : Reachable (step debug) Fresh (initial config routingTable ulnTable startupTime) s)
    {occurrence : Occurrence} {sent : SentProbe} {runtime : R2KadRuntime} {books : ProbingBooks}
    (hsent : sent ∈ s.unanswered) (hstate : s.probing.state = .running books)
    (hdue : s.context.runtime.nextTimer debug = .ok (some sent.timerId, runtime))
    (h : s.step debug (.timer occurrence) = .ok s') :
    contact s'.context.routingTable sent.probe.contactId =
        (contact s.context.routingTable sent.probe.contactId).map
          (decided (occurrence.clock.part 1).clock sent.probe) ↔
      ∀ c ∈ contact s.context.routingTable sent.probe.contactId,
        Indifferent (occurrence.clock.part 1).clock books sent c := by
  have hkept : s.Kept := hs.invariant (kept_initial ht ulnTable startupTime)
    fun _ _ _ hkept hop h ↦ hkept.step hop h
  rw [hkept.timeout hsent hstate hdue h]
  cases contact s.context.routingTable sent.probe.contactId with
  | none => simp
  | some c =>
    rw [Option.map_some, Option.map_some, Option.some_inj]
    simp only [Option.mem_def, Option.some_inj, forall_eq']
    exact timeout_eq_decided_iff ((hkept.tracks hstate).request_eq hsent)

/-! ### The node 0 probes the node 2 -/

/-- The table of the node 0 when the node 2 has been heard of through these nodes. -/
def knowsTwo (path : List NodeId) (h : path ≠ []) : UnlimitedULNRoutingTable 20 1 :=
  match add R2Kad.nodeZero (.ofIds path h .MIN) with
  | .ok (_, table) => table
  | .panic _ => R2Kad.nodeZero

theorem tidy_knowsTwo (path : List NodeId) (h : path ≠ []) : Tidy (knowsTwo path h) := by
  have hempty : Tidy R2Kad.nodeZero := UnlimitedULNRoutingTable.tidy_new 0 (by decide) (by decide)
  unfold knowsTwo
  split
  · exact (add_effect hempty ‹_›).1
  · exact hempty

/-- Its neighbour is the node 1. -/
def oneNeighbor : InMemoryULNTable := (InMemoryULNTable.new.insert 1 ⟨1, 1⟩).2

/-- The use case of the node 0 before it starts. -/
def nodeZero : System (UnlimitedULNRoutingTable 20 1) :=
  initial .default (knowsTwo [1, 2] (by decide)) oneNeighbor 0

/-- An occurrence after so many seconds, with one nonce for all that is drawn. -/
def after (seconds : Nat) (nonce : Nonce) : PathProbing.Occurrence where
  clock := fun _ ↦ seconds * 1000000000
  draws :=
    { nonce := fun _ _ ↦ nonce
      scheduledNonce := fun _ _ ↦ nonce
      rounds := 1
      tie := fun _ ↦ 0
      delay := 1 }

theorem fresh_after {s : System (UnlimitedULNRoutingTable 20 1)} {seconds : Nat} {nonce : Nonce}
    (h : ∀ sent ∈ s.unanswered, nonce ≠ sent.nonce) : Fresh s (.timer (after seconds nonce)) :=
  fun sent hsent _ _ ↦ ⟨h sent hsent, h sent hsent⟩

/-- The state in which operations leave the node 0. -/
def reached (ops : List (Op (UnlimitedULNRoutingTable 20 1))) :
    System (UnlimitedULNRoutingTable 20 1) :=
  match runAll (step true) nodeZero ops with
  | .ok s => s
  | .panic _ => nodeZero

/-- The use case starts, and the clock is set to the time at which the node 2 is old enough. -/
def untilFirstLook : List (Op (UnlimitedULNRoutingTable 20 1)) :=
  [.start, .setCurrentTime (41000000000 : Nat)]

/-- The node 2 is probed along the path through 1. -/
def untilProbed : List (Op (UnlimitedULNRoutingTable 20 1)) :=
  untilFirstLook ++ [.timer (after 41 1)]

/-- It gets another path, and the time is up for the answer. -/
def untilTimeout : List (Op (UnlimitedULNRoutingTable 20 1)) :=
  untilProbed ++ [.tables (knowsTwo [1, 3, 2] (by decide)) (tidy_knowsTwo _ _) oneNeighbor,
    .setCurrentTime (51000000000 : Nat)]

theorem reached_append {ops : List (Op (UnlimitedULNRoutingTable 20 1))}
    (hs : Reachable (step true) Fresh nodeZero (reached ops))
    (op : Op (UnlimitedULNRoutingTable 20 1)) (hop : Fresh (reached ops) op)
    (h : step true (reached ops) op = .ok (reached (ops ++ [op]))) :
    Reachable (step true) Fresh nodeZero (reached (ops ++ [op])) :=
  .step hs hop h

theorem reachable_untilTimeout :
    Reachable (step true) Fresh nodeZero (reached (untilTimeout ++ [.timer (after 51 2)])) := by
  have hnew : Reachable (step true) Fresh nodeZero (reached []) := .start
  have hstarted := reached_append hnew .start trivial rfl
  have hlook := reached_append hstarted (.setCurrentTime (41000000000 : Nat)) trivial rfl
  have hprobed := reached_append hlook (.timer (after 41 1)) (fresh_after (by decide)) rfl
  have hchanged := reached_append hprobed
    (.tables (knowsTwo [1, 3, 2] (by decide)) (tidy_knowsTwo _ _) oneNeighbor) trivial rfl
  have htimeout := reached_append hchanged (.setCurrentTime (51000000000 : Nat)) trivial rfl
  exact reached_append htimeout (.timer (after 51 2)) (fresh_after (by decide)) rfl

/-- What is sent to the node 2. -/
def firstProbe : SentProbe :=
  ⟨1, 1, ⟨2, .ofIds [1, 2] (by decide), 41000000000⟩⟩

/-- The node 2 has another path when the waiting ends.  Nothing has to be done, and nothing is done.
-/
theorem timeout_decides_other_path :
    ∃ s', (reached (untilTimeout ++ [.timer (after 51 2)])).step true (.timer (after 51 3)) =
        .ok s' ∧
      contact s'.context.routingTable 2 =
        (contact (reached (untilTimeout ++ [.timer (after 51 2)])).context.routingTable 2).map
          (decided ((after 51 3).clock.part 1).clock firstProbe.probe) := by
  have hsent : firstProbe ∈ (reached (untilTimeout ++ [.timer (after 51 2)])).unanswered :=
    List.mem_cons_self
  refine ⟨_, rfl, (timeout_decides_iff (tidy_knowsTwo _ _) reachable_untilTimeout hsent rfl rfl
    rfl).2 ?_⟩
  decide +kernel

/-- The node 2 keeps its path, and nothing is heard of it until the time is up. -/
def untilNoAnswer : List (Op (UnlimitedULNRoutingTable 20 1)) :=
  untilProbed ++ [.setCurrentTime (51000000000 : Nat), .timer (after 51 2)]

/-- Nothing was heard of the node 2 since it was probed, and its path is still the active one; but
it is left as it is when the waiting ends. -/
theorem unanswered_probe_ignored : ∃ s s' : System (UnlimitedULNRoutingTable 20 1),
    Reachable (step true) (fun _ _ ↦ True) nodeZero s ∧ firstProbe ∈ s.unanswered ∧
    (∃ runtime, s.context.runtime.nextTimer true = .ok (some firstProbe.timerId, runtime)) ∧
    s.step true (.timer (after 51 3)) = .ok s' ∧
    ∃ c, contact s.context.routingTable firstProbe.probe.contactId = some c ∧ c.isValid = true ∧
      Unconfirmed firstProbe.probe c ∧
      contact s'.context.routingTable firstProbe.probe.contactId = some c :=
  ⟨_, _, reachable_of_runAll untilNoAnswer rfl, List.mem_cons_self, ⟨_, rfl⟩, rfl, _, rfl, rfl,
    by decide, rfl⟩

end System

end PathProbing

end Kira
