import Kira.R2Kad.LiveTimers
import Kira.R2Kad.Node
import Kira.UseCases.OverlayNeighborhoodDiscovery

/-!
# The timers of the discovery

While the discovery is running it should have two timers that are still to fire, the one for the
next request for the own id and the periodic one for random ids, and they should be those that it
reacts to.

There are two ways for this to go wrong (`join_stops_and_timers_accumulate`).  A request for the own
id is followed by a new timer only if it is sent; if there are underlay neighbours but nobody to
ask, then the node never asks again.  And a node that was isolated starts with new timers, while the
old ones are still there.

If neither happens then all is well, in every run of the discovery together with the runtime
(`timers_alive`).  At any time the tables may become any others, and other use cases may register
timers.
-/

set_option autoImplicit false

namespace Kira

open Run RoutingTable

namespace OverlayNeighborhoodDiscovery

variable {T : Type} {k : Nat} [RoutingTable T k] {debug : Bool} {draws : Draws}
  {self self' : OverlayNeighborhoodDiscovery} {ctx ctx' : UseCaseContext T}
  {join exploration : TimerContext}

/-! ## What the functions do with timers -/

/-- There is somebody to ask, whose path begins with an underlay neighbour. -/
def CanJoin (self : OverlayNeighborhoodDiscovery) (join : TimerContext) (ctx : UseCaseContext T) :
    Prop :=
  ∀ contacts, closest ctx.routingTable ctx.rootId 3 self.config.sharedPrefixBitsGrouping =
      .ok (.ok contacts) →
    ∃ contact path, closestOn join.lastMsgState contacts = some contact ∧
      contact.path = some path ∧ ctx.ulnTable.contains path.first = true

instance : Decidable (self.CanJoin join ctx) :=
  match hclosest : closest ctx.routingTable ctx.rootId 3 self.config.sharedPrefixBitsGrouping with
  | .panic _ => .isTrue fun _ h ↦ by cases hclosest.symm.trans h
  | .ok (.error _) => .isTrue fun _ h ↦ by cases hclosest.symm.trans h
  | .ok (.ok contacts) =>
    decidable_of_iff (∃ contact ∈ closestOn join.lastMsgState contacts,
        ∃ path ∈ contact.path, ctx.ulnTable.contains path.first = true) <| by
      constructor
      · rintro ⟨contact, hcontact, path, hpath, hcontains⟩ contacts' h
        obtain rfl : contacts = contacts' := by cases hclosest.symm.trans h; rfl
        exact ⟨contact, path, hcontact, hpath, hcontains⟩
      · intro h
        obtain ⟨contact, path, hcontact, hpath, hcontains⟩ := h contacts hclosest
        exact ⟨contact, hcontact, path, hpath, hcontains⟩

theorem sendNextJoinRequest_cases (hstate : self.state = .running join exploration)
    (h : self.sendNextJoinRequest debug draws ctx = .ok (self', ctx')) :
    (self'.state = .isolated ∧ ctx'.runtime = ctx.runtime) ∨
    (ctx.ulnTable.isEmpty = false ∧ ¬ self.CanJoin join ctx) ∨
    ∃ id duration join', ctx.runtime.registerTimer debug duration = .ok (id, ctx'.runtime) ∧
      self'.state = .running join' exploration ∧ join'.timerId = some id := by
  rw [sendNextJoinRequest, hstate] at h
  dsimp only at h
  split at h
  · cases h
    exact .inl ⟨rfl, rfl⟩
  rename_i hempty
  have hempty : ctx.ulnTable.isEmpty = false := by simpa using hempty
  refine .inr ?_
  obtain ⟨⟨next, backoff⟩, -, h⟩ := of_bind h
  obtain ⟨duration, -, h⟩ := of_bind h
  obtain ⟨answer, hclosest, h⟩ := of_bind h
  cases answer with
  | error err => cases h
  | ok contacts =>
    dsimp only at h
    split at h
    · rename_i hnobody
      refine .inl ⟨hempty, fun hjoin ↦ ?_⟩
      obtain ⟨contact, -, hcontact, -⟩ := hjoin contacts hclosest
      cases hnobody.symm.trans hcontact
    · rename_i contact hcontact
      obtain ⟨path, hpath, h⟩ := of_bind h
      obtain ⟨neighbor, hneighbor, h⟩ := of_bind h
      rw [SourceRoute.currentHop_new] at hneighbor
      cases hneighbor
      split at h
      · obtain ⟨sent, hsent, h⟩ := of_bind h
        obtain ⟨⟨id, timed⟩, htimed, h⟩ := of_bind h
        obtain ⟨runtime, hruntime, rfl⟩ := UseCaseContext.registerTimer_cases htimed
        cases h
        rw [(UseCaseContext.sameState_sendMessage hsent).runtime] at hruntime
        exact .inr ⟨id, duration, _, hruntime, rfl, rfl⟩
      · rename_i hunknown
        refine .inl ⟨hempty, fun hjoin ↦ hunknown ?_⟩
        obtain ⟨contact', path', hcontact', hpath', hcontains⟩ := hjoin contacts hclosest
        obtain rfl := Option.some.inj (hcontact.symm.trans hcontact')
        obtain rfl := Option.some.inj ((expect_eq_ok.1 hpath).symm.trans hpath')
        exact hcontains

theorem sendNextRequestToRandomId_cases (hstate : self.state = .running join exploration)
    (h : self.sendNextRequestToRandomId draws ctx = .ok (self', ctx')) :
    ctx'.runtime = ctx.runtime ∧ (self'.state = .isolated ∨
      ∃ exploration', self'.state = .running join exploration' ∧
        exploration'.timerId = exploration.timerId) := by
  rw [sendNextRequestToRandomId, hstate] at h
  dsimp only at h
  split at h
  · cases h
    exact ⟨rfl, .inl rfl⟩
  obtain ⟨answer, -, h⟩ := of_bind h
  cases answer with
  | error err => cases h
  | ok contacts =>
    dsimp only at h
    split at h
    · cases h
      exact ⟨rfl, .inr ⟨exploration, hstate, rfl⟩⟩
    · obtain ⟨path, -, h⟩ := of_bind h
      split at h
      · obtain ⟨sent, hsent, h⟩ := of_bind h
        cases h
        exact ⟨(UseCaseContext.sameState_sendMessage hsent).runtime, .inr ⟨_, rfl, rfl⟩⟩
      · cases h
        exact ⟨rfl, .inr ⟨exploration, hstate, rfl⟩⟩

theorem start_cases (h : self.start debug ctx = .ok (self', ctx')) :
    ∃ join' exploration' joinId explorationId mid timeout interval,
      self'.state = .running join' exploration' ∧ join'.timerId = some joinId ∧
      exploration'.timerId = some explorationId ∧
      ctx.runtime.registerTimer debug timeout = .ok (joinId, mid) ∧
      mid.registerPeriodicTimer debug interval = .ok (explorationId, ctx'.runtime) := by
  obtain ⟨⟨joinId, timed⟩, htimed, h⟩ := of_bind h
  obtain ⟨mid, hmid, rfl⟩ := UseCaseContext.registerTimer_cases htimed
  obtain ⟨⟨explorationId, runtime⟩, hperiodic, h⟩ := of_bind h
  cases h
  exact ⟨_, _, joinId, explorationId, mid, _, _, rfl, rfl, rfl, hmid, hperiodic⟩

/-! ## Runs -/

/-- The discovery on a node. -/
structure System (T : Type) where
  discovery : OverlayNeighborhoodDiscovery
  context : UseCaseContext T
  /-- The timers that the discovery has registered so far. -/
  own : List TimerId

/-- What can happen on the node. -/
inductive Op (T : Type) where
  | start
  | timer (draws : Draws)
  | message (message : ProtocolMessage) (source : UnderlayNeighborSource) (draws : Draws)
  | vicinity (event : VicinityEvent) (draws : Draws)
  | tables (routingTable : T) (ulnTable : InMemoryULNTable)
  | registerTimer (duration : Duration)
  | registerPeriodicTimer (duration : Duration)
  | setCurrentTime (now : Instant)

namespace System

/-- The system with a new state of the discovery, which may have registered timers. -/
def turn (s : System T) (result : OverlayNeighborhoodDiscovery × UseCaseContext T) : System T where
  discovery := result.1
  context := result.2
  own := s.own ++ s.context.runtime.registeredSince result.2.runtime

def withRuntime (s : System T) (runtime : R2KadRuntime) : System T :=
  { s with context := { s.context with runtime := runtime } }

/-- The discovery handles what happens. -/
def step (debug : Bool) (s : System T) : Op T → Run (System T)
  | .start => do
    match s.discovery.state with
    | .initialized => return s.turn (← s.discovery.start debug s.context)
    | _ => return s
  | .timer draws => do
    match ← s.context.runtime.nextTimer debug with
    | (none, runtime) => return s.withRuntime runtime
    | (some id, runtime) =>
      let s := s.withRuntime runtime
      return s.turn (← s.discovery.handleEvent debug draws s.context (.timer id))
  | .message message source draws =>
    return s.turn (← s.discovery.handleEvent debug draws s.context (.message message source))
  | .vicinity event draws =>
    return s.turn (← s.discovery.handleEvent debug draws s.context (.vicinity event))
  | .tables routingTable ulnTable =>
    return { s with context := { s.context with
      routingTable := routingTable, ulnTable := ulnTable } }
  | .registerTimer duration => do
    let (_, runtime) ← s.context.runtime.registerTimer debug duration
    return s.withRuntime runtime
  | .registerPeriodicTimer duration => do
    let (_, runtime) ← s.context.runtime.registerPeriodicTimer debug duration
    return s.withRuntime runtime
  | .setCurrentTime now => return s.withRuntime (s.context.runtime.setCurrentTime now)

/-- The discovery has not been started. -/
def initial (config : ONDConfig) (routingTable : T) (ulnTable : InMemoryULNTable)
    (startupTime : Instant) : System T where
  discovery := ⟨.initialized, config⟩
  context :=
    { routingTable := routingTable
      ulnTable := ulnTable
      runtime := .withStartupTime startupTime
      eventQueue := []
      outputQueue := [] }
  own := []

/-- The timers of the discovery that are still to fire: those for requests for the own id. -/
def joinTimers (s : System T) : List TimerId :=
  (s.context.runtime.timers.map Timer.id).filter fun id ↦
    id ∈ s.own ∧ ¬ s.context.runtime.Periodic id

/-- And those for requests for random ids, which are periodic. -/
def explorationTimers (s : System T) : List TimerId :=
  (s.context.runtime.timers.map Timer.id).filter fun id ↦
    id ∈ s.own ∧ s.context.runtime.Periodic id

/-- A request for the own id that is due can be sent, or there are no neighbours at all; and the
node does not get out of its isolation. -/
def Sustained (debug : Bool) (s : System T) : Op T → Prop
  | .timer _ => ∀ id runtime join exploration,
    s.context.runtime.nextTimer debug = .ok (some id, runtime) →
    s.discovery.state = .running join exploration → join.timerId = some id →
    s.context.ulnTable.isEmpty = false → s.discovery.CanJoin join s.context
  | .vicinity event _ => s.discovery.state = .isolated → event = .changed →
    s.context.ulnTable.isEmpty = true
  | _ => True

instance (s : System T) (op : Op T) : Decidable (Sustained debug s op) :=
  match op with
  | .timer _ =>
    match hnext : s.context.runtime.nextTimer debug, hstate : s.discovery.state with
    | .ok (some id, _), .running join _ =>
      decidable_of_iff (join.timerId = some id → s.context.ulnTable.isEmpty = false →
          s.discovery.CanJoin join s.context) <| by
        constructor
        · intro h id' runtime join' exploration' hnext' hstate'
          cases hnext.symm.trans hnext'
          cases hstate.symm.trans hstate'
          exact h
        · exact fun h ↦ h _ _ _ _ hnext hstate
    | .ok (none, _), _ => .isTrue fun _ _ _ _ h ↦ by cases hnext.symm.trans h
    | .panic _, _ => .isTrue fun _ _ _ _ h ↦ by cases hnext.symm.trans h
    | _, .initialized => .isTrue fun _ _ _ _ _ h ↦ by cases hstate.symm.trans h
    | _, .isolated => .isTrue fun _ _ _ _ _ h ↦ by cases hstate.symm.trans h
    | _, .error => .isTrue fun _ _ _ _ _ h ↦ by cases hstate.symm.trans h
  | .vicinity event _ =>
    match hstate : s.discovery.state with
    | .isolated => decidable_of_iff (event = .changed → s.context.ulnTable.isEmpty = true)
        ⟨fun h _ ↦ h, fun h ↦ h hstate⟩
    | .initialized => .isTrue fun h ↦ by cases hstate.symm.trans h
    | .running _ _ => .isTrue fun h ↦ by cases hstate.symm.trans h
    | .error => .isTrue fun h ↦ by cases hstate.symm.trans h
  | .start => .isTrue trivial
  | .message _ _ _ => .isTrue trivial
  | .tables _ _ => .isTrue trivial
  | .registerTimer _ => .isTrue trivial
  | .registerPeriodicTimer _ => .isTrue trivial
  | .setCurrentTime _ => .isTrue trivial

/-! ### What is kept -/

/-- Of these timers, two are still to fire, and they are the ones that are remembered. -/
structure Armed (rt : R2KadRuntime) (own : List TimerId) (join exploration : TimerContext)
    (joinId explorationId : TimerId) : Prop where
  join_eq : join.timerId = some joinId
  exploration_eq : exploration.timerId = some explorationId
  join_mem : joinId ∈ own
  exploration_mem : explorationId ∈ own
  join_pending : rt.Pending joinId
  exploration_pending : rt.Pending explorationId
  join_once : ¬ rt.Periodic joinId
  exploration_periodic : rt.Periodic explorationId
  only {id : TimerId} : id ∈ own → rt.Pending id → id = joinId ∨ id = explorationId

/-- A discovery that is running has its timers. -/
structure Kept (s : System T) : Prop where
  wf : s.context.runtime.Wf
  own_lt {id : TimerId} : id ∈ s.own → id < s.context.runtime.counter
  unstarted : s.discovery.state = .initialized → s.own = []
  armed {join exploration : TimerContext} : s.discovery.state = .running join exploration →
    ∃ joinId explorationId, Armed s.context.runtime s.own join exploration joinId explorationId

variable {s : System T} {result : OverlayNeighborhoodDiscovery × UseCaseContext T}

variable {rt : R2KadRuntime}

theorem Kept.withRuntime (hs : s.Kept) (hwf : rt.Wf)
    (hrt : s.context.runtime.Extends rt) : (s.withRuntime rt).Kept where
  wf := hwf
  own_lt hid := (hs.own_lt hid).trans_le hrt.counter_le
  unstarted := hs.unstarted
  armed hstate := by
    obtain ⟨joinId, explorationId, h⟩ := hs.armed hstate
    have hjoin := hs.own_lt h.join_mem
    have hexploration := hs.own_lt h.exploration_mem
    exact ⟨joinId, explorationId,
      { h with
        join_pending := (hrt.pending_iff hjoin).2 h.join_pending
        exploration_pending := (hrt.pending_iff hexploration).2 h.exploration_pending
        join_once := fun hp ↦ h.join_once ((hrt.periodic_iff hjoin).1 hp)
        exploration_periodic := (hrt.periodic_iff hexploration).2 h.exploration_periodic
        only := fun hid hp ↦ h.only hid ((hrt.pending_iff (hs.own_lt hid)).1 hp) }⟩

theorem mem_own_turn {id : TimerId} : id ∈ (s.turn result).own ↔
      id ∈ s.own ∨ s.context.runtime.counter ≤ id ∧ id < result.2.runtime.counter := by
  rw [turn, List.mem_append, R2KadRuntime.mem_registeredSince]

theorem own_turn_of_runtime (h : result.2.runtime = s.context.runtime) :
    (s.turn result).own = s.own := by
  rw [turn, R2KadRuntime.registeredSince, h, Nat.sub_self]
  exact List.append_nil _

theorem Kept.turn_same (hs : s.Kept) (hruntime : result.2.runtime = s.context.runtime)
    (hinit : result.1.state = .initialized → s.discovery.state = .initialized)
    (hrunning : ∀ join' exploration', result.1.state = .running join' exploration' →
      ∃ join exploration, s.discovery.state = .running join exploration ∧
        join'.timerId = join.timerId ∧ exploration'.timerId = exploration.timerId) :
    (s.turn result).Kept := by
  have hown := own_turn_of_runtime hruntime
  refine ⟨hruntime ▸ hs.wf, fun {id} hid ↦ ?_, fun h ↦ hown.trans (hs.unstarted (hinit h)), ?_⟩
  · show id < result.2.runtime.counter
    rw [hruntime]
    exact hs.own_lt (hown ▸ hid)
  · intro join' exploration' hstate
    obtain ⟨join, exploration, hold, hjoin, hexploration⟩ := hrunning join' exploration' hstate
    obtain ⟨joinId, explorationId, h⟩ := hs.armed hold
    show ∃ joinId explorationId, Armed result.2.runtime (s.turn result).own _ _ _ _
    rw [hown, hruntime]
    exact ⟨joinId, explorationId,
      { h with
        join_eq := hjoin.trans h.join_eq
        exploration_eq := hexploration.trans h.exploration_eq }⟩

theorem Kept.handOut (hs : s.Kept) {due : Option TimerId}
    (h : s.context.runtime.nextTimer debug = .ok (due, rt))
    (hother : ∀ join exploration, s.discovery.state = .running join exploration →
      join.timerId = none ∨ join.timerId ≠ due) : (s.withRuntime rt).Kept := by
  obtain ⟨hwf, hcounter, hperiodic, hdue, hpending⟩ := R2KadRuntime.nextTimer_spec hs.wf h
  refine ⟨hwf, fun {id} hid ↦ ?_, hs.unstarted, fun {join exploration} hstate ↦ ?_⟩
  · show id < rt.counter
    rw [hcounter]
    exact hs.own_lt hid
  · obtain ⟨joinId, explorationId, harmed⟩ := hs.armed hstate
    have hne : due ≠ some joinId := by
      rintro rfl
      rcases hother join exploration hstate with hnone | hne
      · cases hnone.symm.trans harmed.join_eq
      · exact hne harmed.join_eq
    refine ⟨joinId, explorationId, { harmed with
      join_pending := (hpending _ hne).2 harmed.join_pending
      exploration_pending := ?_
      join_once := fun hp ↦ harmed.join_once ((hperiodic _).1 hp)
      exploration_periodic := (hperiodic _).2 harmed.exploration_periodic
      only := fun {id} hid hp ↦ harmed.only hid ?_ }⟩
    · by_cases heq : due = some explorationId
      · exact (hdue _ heq).2.2 harmed.exploration_periodic
      · exact (hpending _ heq).2 harmed.exploration_pending
    · by_cases heq : due = some id
      · exact (hdue _ heq).1
      · exact (hpending _ heq).1 hp

theorem kept_rearmed (hs : s.Kept) {id newId : TimerId} {duration : Duration}
    {join join' exploration : TimerContext}
    (h : s.context.runtime.nextTimer debug = .ok (some id, rt))
    (hstate : s.discovery.state = .running join exploration) (hid : join.timerId = some id)
    (hreg : rt.registerTimer debug duration = .ok (newId, result.2.runtime))
    (hresult : result.1.state = .running join' exploration) (hnew : join'.timerId = some newId) :
    ((s.withRuntime rt).turn result).Kept := by
  obtain ⟨hwf, hcounter, hperiodic, hdue, hpending⟩ := R2KadRuntime.nextTimer_spec hs.wf h
  obtain ⟨hwf', hextends, hcounter', rfl, hnewPending, hnewOnce⟩ :=
    R2KadRuntime.registerTimer_spec hwf hreg
  obtain ⟨joinId, explorationId, harmed⟩ := hs.armed hstate
  obtain rfl := Option.some.inj (hid.symm.trans harmed.join_eq)
  have hlt : ∀ {other}, other ∈ s.own → other < rt.counter :=
    fun hother ↦ hcounter.symm ▸ hs.own_lt hother
  have hne : some id ≠ some explorationId := by
    rintro ⟨rfl⟩
    exact harmed.join_once harmed.exploration_periodic
  refine ⟨hwf', fun {other} hother ↦ ?_, fun hinit ↦ ?_, fun {join'' exploration''} hrunning ↦ ?_⟩
  · rcases mem_own_turn.1 hother with hother | ⟨-, hother⟩
    · exact (hlt hother).trans_le hextends.counter_le
    · exact hother
  · cases hresult.symm.trans hinit
  · obtain ⟨rfl, rfl⟩ := ONDState.running.inj (hresult.symm.trans hrunning)
    have hexploration := hlt harmed.exploration_mem
    refine ⟨rt.counter, explorationId,
      { join_eq := hnew
        exploration_eq := harmed.exploration_eq
        join_mem := mem_own_turn.2 (.inr ⟨Nat.le_refl _, hcounter'.symm ▸ Nat.lt_succ_self _⟩)
        exploration_mem := mem_own_turn.2 (.inl harmed.exploration_mem)
        join_pending := hnewPending
        exploration_pending := (hextends.pending_iff hexploration).2
          ((hpending _ hne).2 harmed.exploration_pending)
        join_once := hnewOnce
        exploration_periodic := (hextends.periodic_iff hexploration).2
          ((hperiodic _).2 harmed.exploration_periodic)
        only := fun {other} hother hp ↦ ?_ }⟩
    rcases mem_own_turn.1 hother with hother | ⟨hle, hother⟩
    · -- the old timer has fired, so it is not pending any more
      have hp := (hextends.pending_iff (hlt hother)).1 hp
      by_cases heq : other = id
      · subst heq
        exact absurd ((hdue _ rfl).2.1 hp) harmed.join_once
      · have hold := (hpending other fun h ↦ heq (Option.some.inj h).symm).1 hp
        exact .inr ((harmed.only hother hold).resolve_left heq)
    · rw [show result.2.runtime.counter = rt.counter + 1 from hcounter'] at hother
      exact .inl (Nat.le_antisymm (Nat.le_of_lt_succ hother) hle)

theorem kept_started (hs : s.Kept) (hstate : s.discovery.state = .initialized)
    (h : s.discovery.start debug s.context = .ok result) : (s.turn result).Kept := by
  obtain ⟨join, exploration, joinId, explorationId, mid, timeout, interval, hresult, hjoin,
    hexploration, htimer, hperiodic⟩ := start_cases h
  obtain ⟨hwf, hextends, hcounter, rfl, hjoinPending, hjoinOnce⟩ :=
    R2KadRuntime.registerTimer_spec hs.wf htimer
  obtain ⟨hwf', hextends', hcounter', rfl, hexplorationPending, hexplorationPeriodic⟩ :=
    R2KadRuntime.registerPeriodicTimer_spec hwf hperiodic
  have hlt : s.context.runtime.counter < mid.counter := hcounter ▸ Nat.lt_succ_self _
  have hlt' : mid.counter < result.2.runtime.counter := hcounter' ▸ Nat.lt_succ_self _
  have hmem : ∀ {id}, id ∈ (s.turn result).own ↔
      s.context.runtime.counter ≤ id ∧ id < result.2.runtime.counter := by
    intro id
    rw [mem_own_turn, hs.unstarted hstate]
    simp
  refine ⟨hwf', fun hid ↦ (hmem.1 hid).2, fun hinit ↦ ?_, fun {join' exploration'} hrunning ↦ ?_⟩
  · cases hresult.symm.trans hinit
  · obtain ⟨rfl, rfl⟩ := ONDState.running.inj (hresult.symm.trans hrunning)
    refine ⟨s.context.runtime.counter, mid.counter,
      { join_eq := hjoin
        exploration_eq := hexploration
        join_mem := hmem.2 ⟨Nat.le_refl _, hlt.trans hlt'⟩
        exploration_mem := hmem.2 ⟨hlt.le, hlt'⟩
        join_pending := (hextends'.pending_iff hlt).2 hjoinPending
        exploration_pending := hexplorationPending
        join_once := fun hp ↦ hjoinOnce ((hextends'.periodic_iff hlt).1 hp)
        exploration_periodic := hexplorationPeriodic
        only := fun {id} hid _ ↦ ?_ }⟩
    obtain ⟨hle, hid⟩ := hmem.1 hid
    rw [hcounter', hcounter] at hid
    rw [hcounter]
    have hcases : ∀ a i : Nat, a ≤ i → i < a + 1 + 1 → i = a ∨ i = a + 1 := by omega
    exact hcases _ _ hle hid

/-- Whatever comes, other than a timer: either the discovery starts again, or its timers are left as
they are. -/
theorem Kept.handled (hs : s.Kept) {event : UseCaseEvent}
    (h : s.discovery.handleEvent debug draws s.context event = .ok result)
    (htimer : ∀ id, event ≠ .timer id)
    (hisolated : s.discovery.state = .isolated → event = .vicinity .changed →
      s.context.ulnTable.isEmpty = true) :
    (s.turn result).Kept := by
  have hanswered : ∀ nonce join, (answered nonce join).timerId = join.timerId := by
    intro nonce join
    unfold answered
    split
    · split <;> rfl
    · rfl
  unfold handleEvent at h
  split at h
  · exact absurd rfl (htimer _)
  · rename_i join exploration rsp source hstate
    cases h
    refine hs.turn_same rfl (fun hinit ↦ by cases hinit) fun join' exploration' hrunning ↦ ?_
    obtain ⟨rfl, rfl⟩ := ONDState.running.inj hrunning
    exact ⟨join, exploration, hstate, hanswered _ _, rfl⟩
  · rename_i join exploration rsp source hstate
    cases h
    refine hs.turn_same rfl (fun hinit ↦ by cases hinit) fun join' exploration' hrunning ↦ ?_
    obtain ⟨rfl, rfl⟩ := ONDState.running.inj hrunning
    exact ⟨join, exploration, hstate, hanswered _ _, rfl⟩
  · rename_i vicinityEvent hstate
    split at h
    · rename_i hagain
      obtain ⟨rfl, hneighbors⟩ := hagain
      rw [hisolated hstate rfl] at hneighbors
      cases hneighbors
    · cases h
      exact hs.turn_same rfl id fun _ _ hrunning ↦ ⟨_, _, hrunning, rfl, rfl⟩
  · cases h
    exact hs.turn_same rfl id fun _ _ hrunning ↦ ⟨_, _, hrunning, rfl, rfl⟩

theorem Kept.fired (hs : s.Kept) {id : TimerId}
    (hnext : s.context.runtime.nextTimer debug = .ok (some id, rt))
    (hjoin : ∀ join exploration, s.discovery.state = .running join exploration →
      join.timerId = some id → s.context.ulnTable.isEmpty = false →
      s.discovery.CanJoin join s.context)
    (h : s.discovery.handleEvent debug draws (s.withRuntime rt).context (.timer id) = .ok result) :
    ((s.withRuntime rt).turn result).Kept := by
  unfold handleEvent at h
  split at h
  · rename_i join exploration receivedTimerId hstate hreceived
    obtain rfl := UseCaseEvent.timer.inj hreceived
    have hother : join.timerId ≠ some id → (s.withRuntime rt).Kept := by
      refine fun hne ↦ hs.handOut hnext fun join' exploration' hstate' ↦ .inr ?_
      obtain ⟨rfl, rfl⟩ := ONDState.running.inj (hstate.symm.trans hstate')
      exact hne
    split at h
    · rename_i hid
      rcases sendNextJoinRequest_cases hstate h with
        ⟨hisolated, hruntime⟩ | ⟨hempty, hstuck⟩ | ⟨newId, duration, join', hreg, hresult, hnew⟩
      · -- nothing is claimed of an isolated discovery but that it started
        obtain ⟨hwf, hcounter, -⟩ := R2KadRuntime.nextTimer_spec hs.wf hnext
        refine ⟨hruntime ▸ hwf, fun {other} hother ↦ ?_, fun hinit ↦ ?_, fun hrunning ↦ ?_⟩
        · rw [own_turn_of_runtime hruntime] at hother
          show other < result.2.runtime.counter
          rw [hruntime]
          show other < rt.counter
          rw [hcounter]
          exact hs.own_lt hother
        · cases hisolated.symm.trans hinit
        · cases hisolated.symm.trans hrunning
      · exact absurd (hjoin join exploration hstate hid.symm hempty) hstuck
      · exact kept_rearmed hs hnext hstate hid.symm hreg hresult hnew
    · rename_i hid
      have hkept := hother (Ne.symm hid)
      split at h
      · obtain ⟨hruntime, hresult⟩ := sendNextRequestToRandomId_cases hstate h
        refine hkept.turn_same hruntime (fun hinit ↦ ?_) fun join' exploration' hrunning ↦ ?_
        · rcases hresult with hisolated | ⟨exploration', hresult, -⟩
          · cases hisolated.symm.trans hinit
          · cases hresult.symm.trans hinit
        · rcases hresult with hisolated | ⟨exploration'', hresult, htimer⟩
          · cases hisolated.symm.trans hrunning
          · obtain ⟨rfl, rfl⟩ := ONDState.running.inj (hresult.symm.trans hrunning)
            exact ⟨_, _, hstate, rfl, htimer⟩
      · cases h
        exact hkept.turn_same rfl (fun hinit ↦ hinit) fun _ _ hrunning ↦ ⟨_, _, hrunning, rfl, rfl⟩
  · rename_i hreceived
    cases hreceived
  · rename_i hreceived
    cases hreceived
  · rename_i hreceived
    cases hreceived
  · rename_i hnot _ _ _
    cases h
    have hkept : (s.withRuntime rt).Kept :=
      hs.handOut hnext fun join exploration hstate ↦ (hnot _ _ _ hstate rfl).elim
    exact hkept.turn_same rfl (fun hinit ↦ hinit) fun _ _ hrunning ↦ ⟨_, _, hrunning, rfl, rfl⟩

theorem Kept.step {s' : System T} (hs : s.Kept) {op : Op T} (hop : Sustained debug s op)
    (h : s.step debug op = .ok s') : s'.Kept := by
  cases op <;> simp only [System.step] at h
  case start =>
    split at h
    · rename_i hstate
      obtain ⟨result, hresult, h⟩ := of_bind h
      cases h
      exact kept_started hs hstate hresult
    · cases h
      exact hs
  case timer draws =>
    obtain ⟨⟨due, rt⟩, hnext, h⟩ := of_bind h
    cases due with
    | none =>
      cases h
      refine hs.handOut hnext fun join exploration hstate ↦ .inr ?_
      obtain ⟨joinId, explorationId, harmed⟩ := hs.armed hstate
      rw [harmed.join_eq]
      exact Option.some_ne_none _
    | some id =>
      obtain ⟨result, hresult, h⟩ := of_bind h
      cases h
      exact hs.fired hnext (fun join exploration ↦ hop id rt join exploration hnext) hresult
  case message message source draws =>
    obtain ⟨result, hresult, h⟩ := of_bind h
    cases h
    exact hs.handled hresult (fun _ ↦ nofun) (fun _ ↦ nofun)
  case vicinity event draws =>
    obtain ⟨result, hresult, h⟩ := of_bind h
    cases h
    exact hs.handled hresult (fun _ ↦ nofun) fun hisolated hevent ↦
      hop hisolated (UseCaseEvent.vicinity.inj hevent)
  case tables routingTable ulnTable =>
    cases h
    exact ⟨hs.wf, hs.own_lt, hs.unstarted, hs.armed⟩
  case registerTimer duration =>
    obtain ⟨⟨id, rt⟩, hreg, h⟩ := of_bind h
    cases h
    obtain ⟨hwf, hextends, -⟩ := R2KadRuntime.registerTimer_spec hs.wf hreg
    exact hs.withRuntime hwf hextends
  case registerPeriodicTimer duration =>
    obtain ⟨⟨id, rt⟩, hreg, h⟩ := of_bind h
    cases h
    obtain ⟨hwf, hextends, -⟩ := R2KadRuntime.registerPeriodicTimer_spec hs.wf hreg
    exact hs.withRuntime hwf hextends
  case setCurrentTime now =>
    cases h
    exact hs.withRuntime ⟨hs.wf.nodup, hs.wf.lt_counter, hs.wf.periodic_lt⟩
      ⟨Nat.le_refl _, fun _ ↦ Iff.rfl, fun _ ↦ Iff.rfl⟩

theorem kept_initial (config : ONDConfig) (routingTable : T) (ulnTable : InMemoryULNTable)
    (startupTime : Instant) : (initial config routingTable ulnTable startupTime).Kept where
  wf := R2KadRuntime.wf_withStartupTime startupTime
  own_lt hid := by cases hid
  unstarted _ := rfl
  armed hstate := by cases hstate

theorem Kept.timers (hs : s.Kept) {join exploration : TimerContext}
    (hstate : s.discovery.state = .running join exploration) :
    ∃ joinId explorationId, join.timerId = some joinId ∧
      exploration.timerId = some explorationId ∧ s.joinTimers = [joinId] ∧
      s.explorationTimers = [explorationId] := by
  obtain ⟨joinId, explorationId, h⟩ := hs.armed hstate
  have hpending : ∀ id, id ∈ s.context.runtime.timers.map Timer.id ↔ s.context.runtime.Pending id :=
    fun id ↦ List.mem_map
  refine ⟨joinId, explorationId, h.join_eq, h.exploration_eq, ?_, ?_⟩ <;>
    refine List.perm_singleton.1 ((List.perm_ext_iff_of_nodup (hs.wf.nodup.filter _)
      (List.nodup_singleton _)).2 fun id ↦ ?_) <;>
    rw [List.mem_filter, hpending, List.mem_singleton, decide_eq_true_eq]
  · constructor
    · rintro ⟨hp, hown, honce⟩
      refine (h.only hown hp).resolve_right ?_
      rintro rfl
      exact honce h.exploration_periodic
    · rintro rfl
      exact ⟨h.join_pending, h.join_mem, h.join_once⟩
  · constructor
    · rintro ⟨hp, hown, hperiodic⟩
      refine (h.only hown hp).resolve_left ?_
      rintro rfl
      exact h.join_once hperiodic
    · rintro rfl
      exact ⟨h.exploration_pending, h.exploration_mem, h.exploration_periodic⟩

/-- **A running discovery has its two timers.**  In every run in which requests for the own id can
be sent when they are due, and in which an isolated node does not start again, exactly one timer for
requests for the own id and exactly one for random ids are still to fire while the discovery is
running, and these are the ones it reacts to. -/
theorem timers_alive {config : ONDConfig} {routingTable : T} {ulnTable : InMemoryULNTable}
    {startupTime : Instant} {s : System T} {join exploration : TimerContext}
    (hs : Reachable (step debug) (Sustained debug)
      (initial config routingTable ulnTable startupTime) s)
    (hstate : s.discovery.state = .running join exploration) :
    ∃ joinId explorationId, join.timerId = some joinId ∧
      exploration.timerId = some explorationId ∧ s.joinTimers = [joinId] ∧
      s.explorationTimers = [explorationId] :=
  (hs.invariant (kept_initial config routingTable ulnTable startupTime)
    fun _ _ _ hkept hop h ↦ hkept.step hop h).timers hstate

/-! ### Three runs of the node 0 -/

def nodeZero : System (UnlimitedULNRoutingTable 20 1) :=
  initial (.default 20 (by decide)) R2Kad.nodeZero .new 0

/-- The node 1 is an underlay neighbour. -/
def oneNeighbor : InMemoryULNTable := (InMemoryULNTable.new.insert 1 ⟨1, 1⟩).2

/-- And it is in the routing table as well. -/
def oneContact : UnlimitedULNRoutingTable 20 1 :=
  { R2Kad.nodeZero with
    unContacts := R2Kad.nodeZero.unContacts.insert 1
      (.ofIds [1] (by decide) .MIN) }

def fixedDraws : OverlayNeighborhoodDiscovery.Draws := ⟨7, 5, 0⟩

/-- The node 1 is asked when the time has come. -/
def askedInTime : List (Op (UnlimitedULNRoutingTable 20 1)) :=
  [.start, .tables oneContact oneNeighbor, .setCurrentTime (250000000 : Nat), .timer fixedDraws]

/-- A request has been sent, and a new timer is set for the next one. -/
theorem timers_alive_asked : ∃ s, runAll (step true) nodeZero askedInTime = .ok s ∧
    s.joinTimers = [2] ∧ s.explorationTimers = [1] := by
  refine exists_ok (p := fun s ↦ ∃ join exploration, s.discovery.state =
    .running join exploration ∧ join.timerId = some 2 ∧ exploration.timerId = some 1)
    ⟨_, rfl, _, _, rfl, rfl, rfl⟩ ?_
  rintro s hs ⟨join, exploration, hstate, hjoin, hexploration⟩
  have hreach := reachable_of_testAll (fun _ _ ↦ of_decide_eq_true) .start
    (show testAll (step true) (fun s op ↦ decide (Sustained true s op)) nodeZero askedInTime by
      decide +kernel) hs
  obtain ⟨joinId, explorationId, hjoinId, hexplorationId, htimers⟩ := timers_alive hreach hstate
  obtain rfl := Option.some.inj (hjoin.symm.trans hjoinId)
  obtain rfl := Option.some.inj (hexploration.symm.trans hexplorationId)
  exact htimers

/-- The node 1 is a neighbour, but the routing table does not have it yet. -/
def nobodyToAsk : List (Op (UnlimitedULNRoutingTable 20 1)) :=
  [.start, .tables R2Kad.nodeZero oneNeighbor, .setCurrentTime (250000000 : Nat), .timer fixedDraws]

/-- There is no neighbour when the time has come, but there is one later. -/
def isolatedForAWhile : List (Op (UnlimitedULNRoutingTable 20 1)) :=
  [.start, .setCurrentTime (250000000 : Nat), .timer fixedDraws, .tables oneContact oneNeighbor,
    .vicinity .changed fixedDraws]

/-- Both ways in which it goes wrong.  Nobody could be asked, so there is no timer for the next
request, although the discovery is running.  And with the second start there are two periodic
timers, of which the first one is ignored for ever. -/
theorem join_stops_and_timers_accumulate :
    (∃ s, Reachable (step true) (fun _ _ ↦ True) nodeZero s ∧
      (∃ join exploration, s.discovery.state = .running join exploration) ∧ s.joinTimers = []) ∧
    ∃ s, Reachable (step true) (fun _ _ ↦ True) nodeZero s ∧
      (∃ join exploration, s.discovery.state = .running join exploration) ∧
      s.explorationTimers = [3, 1] :=
  ⟨⟨_, reachable_of_runAll nobodyToAsk rfl, ⟨_, _, rfl⟩, rfl⟩,
    ⟨_, reachable_of_runAll isolatedForAWhile rfl, ⟨_, _, rfl⟩, rfl⟩⟩

end System

end OverlayNeighborhoodDiscovery

end Kira
