import Kira.Domain.LocalHashTable
import Kira.Domain.VicinityGraph
import Kira.Forwarding.PathIdTable
import Kira.UseCases.Context
import Kira.UseCases.ForwardProtocolMessage

/-!
# Paths that are set up explicitly

The nodes on a path to a contact have to know the id of what is left of the path, so that they can
forward packets along it.  If there are few nodes left then they know it anyway, since the paths in
the vicinity of a node are computed in advance; otherwise the path is set up.  A request travels
along it, and each node on the way registers the rest of the path under its id.

A node that is asked forgets such an entry after a while, unless the path is probed in the meantime,
and at once when the next hop is gone.  A teardown is only forwarded: other nodes may use the same
path.

What the use case asks of the forwarding tables is a list of updates, the last component of a
result.  The nonces of messages that nobody answers and the readings of the clock come with the
event, as `EPMDraws`.
-/

set_option autoImplicit false

namespace Kira

open Run RoutingTable

structure EPMConfig (P : Type) where
  maxAge : Duration
  cleanupInterval : Duration
  refreshInterval : Option Duration
  hasher : List NodeId → P

def EPMConfig.default {P : Type} (hasher : List NodeId → P) : EPMConfig P where
  maxAge := 60000 * 1000000
  cleanupInterval := 60000 * 1000000
  refreshInterval := some (20000 * 1000000)
  hasher := hasher

namespace ExplicitPathManagement

/-- What is known of a path that was set up by others. -/
structure Entry (P : Type) where
  pathIdEntry : PathIdEntry P
  via : UnderlayNeighborId
  lastSeen : Instant

end ExplicitPathManagement

inductive EPMState (P : Type) where
  | initialized
  | running (refreshTimer : Option TimerId) (cleanupTimer : TimerId)
      (externallyAddedPaths : KeyMap P (ExplicitPathManagement.Entry P))
  | error

inductive EPMError where
  | alreadyStarted

/-- The use case, with the paths that others have set up. -/
structure ExplicitPathManagement (P : Type) where
  state : EPMState P
  config : EPMConfig P

/-- What comes with an event from outside. -/
structure EPMDraws (P : Type) where
  nonce : Nat → Nonce
  /-- The clock when the age of this entry is looked at. -/
  now : P → Timestamp

namespace ExplicitPathManagement

variable {T P : Type} {k : Nat} [RoutingTable T k] [DecidableEq P]

def new (config : EPMConfig P) : ExplicitPathManagement P := ⟨.initialized, config⟩

/-! ## Messages -/

def header (context : UseCaseContext T) (kind : ProtocolMessageKind) (nonce : Nonce)
    (sourceRoute : SourceRoute) : CommonHeader :=
  .new kind context.rootId sourceRoute.destination nonce (.value context.ulnTable.stateSeqNr)
    context.ulnTable.size

def sendSetupReq (nonce : Nonce) (context : UseCaseContext T) (contact : Contact) :
    Run (UseCaseContext T) := do
  if !contact.isValid then return context
  else
    let path ← unwrap contact.path
    let sourceRoute := SourceRoute.new context.rootId path
    context.sendMessage (.pathSetupReq
      { commonHeader := header context .pathSetupReq nonce sourceRoute
        data := ⟨⟩
        notVia := none
        sourceRoute := sourceRoute })

def sendProbeReq (nonce : Nonce) (context : UseCaseContext T) (contact : Contact) :
    Run (UseCaseContext T) := do
  let path ← expect contact.path
    "ProbeReq for refreshing contact should be called for valid contacts only"
  let sourceRoute := SourceRoute.new context.rootId path
  context.sendMessage (.probeReq
    { commonHeader := header context .probeReq nonce sourceRoute
      data := ⟨⟩
      notVia := none
      sourceRoute := sourceRoute })

def sendTeardownReq (nonce : Nonce) (context : UseCaseContext T) (contact : Contact) :
    Run (UseCaseContext T) :=
  match contact.path with
  | none => return context
  | some activePath =>
    let sourceRoute := SourceRoute.new context.rootId activePath
    context.sendMessage (.pathTeardownReq
      { commonHeader := header context .pathTeardownReq nonce sourceRoute
        data := ⟨⟩
        notVia := none
        sourceRoute := sourceRoute })

def refreshAll (nonce : Nat → Nonce) : Nat → List Contact → UseCaseContext T →
    Run (UseCaseContext T)
  | _, [], context => return context
  | j, contact :: contacts, context => do
    if !contact.isValid then refreshAll nonce (j + 1) contacts context
    else
      let path ← unwrap contact.path
      if path.size ≤ VICINITY_RADIUS then refreshAll nonce (j + 1) contacts context
      else
        let context ← sendProbeReq (nonce j) context contact
        refreshAll nonce (j + 1) contacts context

def performRefresh (draws : EPMDraws P) (context : UseCaseContext T) : Run (UseCaseContext T) :=
  refreshAll draws.nonce 0 (iter context.routingTable) context

/-! ## The paths of others -/

def removeAll (externallyAddedPaths : KeyMap P (Entry P)) (ids : List P) :
    KeyMap P (Entry P) × List (PathIdTableUpdate P) :=
  (ids.foldl (fun entries id ↦ entries.erase id) externallyAddedPaths, ids.map .remove)

def performCleanup (draws : EPMDraws P) (self : ExplicitPathManagement P) :
    ExplicitPathManagement P × List (PathIdTableUpdate P) :=
  match self.state with
  | .running refreshTimer cleanupTimer entries =>
    let invalidated := (entries.entries.filter fun entry ↦
      ¬ Instant.saturatingDurationSince (draws.now entry.1) entry.2.lastSeen <
        self.config.maxAge).map
        Sigma.fst
    let (entries, updates) := removeAll entries invalidated
    ({ self with state := .running refreshTimer cleanupTimer entries }, updates)
  | _ => (self, [])

/-- Registers what is left of a route.  The entry of a path that is registered already gets a new
time, but it keeps its next hop, while the forwarding tables get the new one. -/
def registerPath (debug : Bool) (self : ExplicitPathManagement P) (context : UseCaseContext T)
    (sourceRoute : SourceRoute) :
    Run (ExplicitPathManagement P × List (PathIdTableUpdate P)) :=
  match self.state with
  | .running refreshTimer cleanupTimer externallyAddedPaths => do
    let inPath ← sourceRoute.remainingPath
    assert (!debug || VICINITY_RADIUS < inPath.size)
      "assertion failed: in_path.size() > VICINITY_RADIUS"
    let outPath ← expect (Path.collect (inPath.ids.drop 1))
      "should contain path >= \x7bVICINITY_RADIUS\x7d"
    let inPathId := self.config.hasher inPath.ids
    match context.ulnTable.map.lookup outPath.first with
    | none => return (self, [])
    | some (nextHop, _) =>
      let entry : PathIdEntry P := .forward inPathId (self.config.hasher outPath.ids) nextHop
      match externallyAddedPaths.lookup inPathId with
      | some occupied =>
        let paths := externallyAddedPaths.insert inPathId
          { occupied with lastSeen := context.runtime.currentTime }
        return ({ self with state := .running refreshTimer cleanupTimer paths }, [.update entry])
      | none =>
        let paths := externallyAddedPaths.insert inPathId
          { pathIdEntry := entry, via := nextHop, lastSeen := context.runtime.currentTime }
        return ({ self with state := .running refreshTimer cleanupTimer paths }, [.create entry])
  | _ => return (self, [])

/-- Forgets the paths over a neighbour that is gone. -/
def invalidateAllOverInterfaces (self : ExplicitPathManagement P)
    (affectedNeighbor : UnderlayNeighborId) :
    ExplicitPathManagement P × List (PathIdTableUpdate P) :=
  match self.state with
  | .running refreshTimer cleanupTimer entries =>
    let affected :=
      (entries.entries.filter fun entry ↦ entry.2.via = affectedNeighbor).map Sigma.fst
    let (entries, updates) := removeAll entries affected
    ({ self with state := .running refreshTimer cleanupTimer entries }, updates)
  | _ => (self, [])

/-! ## The use case -/

def createNewCleanupTimer (debug : Bool) (self : ExplicitPathManagement P)
    (context : UseCaseContext T) : Run (ExplicitPathManagement P × UseCaseContext T) :=
  match self.state with
  | .running refreshTimer _ paths => do
    let (cleanupTimer, context) ← context.registerTimer debug self.config.cleanupInterval
    return ({ self with state := .running refreshTimer cleanupTimer paths }, context)
  | _ => return (self, context)

def registerRefreshTimer (debug : Bool) (config : EPMConfig P) (context : UseCaseContext T) :
    Run (Option TimerId × UseCaseContext T) :=
  match config.refreshInterval with
  | some interval => do
    let (timer, context) ← context.registerTimer debug interval
    return (some timer, context)
  | none => return (none, context)

def createNewRefreshTimer (debug : Bool) (self : ExplicitPathManagement P)
    (context : UseCaseContext T) : Run (ExplicitPathManagement P × UseCaseContext T) :=
  match self.state with
  | .running _ cleanupTimer paths => do
    let (refreshTimer, context) ← registerRefreshTimer debug self.config context
    return ({ self with state := .running refreshTimer cleanupTimer paths }, context)
  | _ => return (self, context)

def start (debug : Bool) (self : ExplicitPathManagement P) (context : UseCaseContext T) :
    Run (Except EPMError Unit × ExplicitPathManagement P × UseCaseContext T) :=
  match self.state with
  | .initialized => do
    let (cleanupTimer, context) ← context.registerTimer debug self.config.cleanupInterval
    let (refreshTimer, context) ← registerRefreshTimer debug self.config context
    return (.ok (), { self with state := .running refreshTimer cleanupTimer ∅ }, context)
  | _ => return (.error .alreadyStarted, self, context)

/-- The path of a contact is set up or torn down when the contact changes. -/
def handleContactEvent (draws : EPMDraws P) (context : UseCaseContext T) :
    ContactEvent → Run (UseCaseContext T)
  | .new contact => do
    let path ← unwrap contact.path
    if VICINITY_RADIUS < path.size then sendSetupReq (draws.nonce 0) context contact
    else return context
  | .updated newContact old => do
    let newPath ← unwrap newContact.path
    let oldPath ← unwrap old.path
    let newOutside : Bool := VICINITY_RADIUS < newPath.size
    let oldOutside : Bool := VICINITY_RADIUS < oldPath.size
    match newContact.state, old.state, newOutside, oldOutside with
    | .valid, .invalid _, true, _ | .valid, .rediscovering _, true, _ =>
      sendSetupReq (draws.nonce 0) context newContact
    | .valid, .valid, true, false => sendSetupReq (draws.nonce 0) context newContact
    | .valid, .valid, true, true =>
      if old.path ≠ newContact.path then
        let context ← sendSetupReq (draws.nonce 0) context newContact
        sendTeardownReq (draws.nonce 1) context old
      else return context
    | .valid, .valid, false, true => sendTeardownReq (draws.nonce 0) context old
    | .invalid _, .valid, newOutside, oldOutside =>
      let context ← (if newOutside then sendTeardownReq (draws.nonce 0) context old
        else return context)
      if oldOutside && old.path ≠ newContact.path then
        sendTeardownReq (draws.nonce 1) context newContact
      else return context
    | _, _, _, _ => return context
  | .removed contact => do
    let path ← unwrap contact.path
    if VICINITY_RADIUS < path.size then sendTeardownReq (draws.nonce 0) context contact
    else return context
  | _ => return context

/-- A request to set up or tear down a path goes no further when the rest of the path is in the
vicinity. -/
def handled (processedHops : Nat) : HandlingResult :=
  if processedHops ≤ VICINITY_RADIUS then .handled else .notHandled

def handleTimer (debug : Bool) (draws : EPMDraws P) (self : ExplicitPathManagement P)
    (context : UseCaseContext T) (timer : TimerId) :
    Run (ExplicitPathManagement P × UseCaseContext T × List (PathIdTableUpdate P)) :=
  match self.state with
  | .running refreshTimer cleanupTimer _ => do
    if timer = cleanupTimer then
      let (self, updates) := self.performCleanup draws
      let (self, context) ← self.createNewCleanupTimer debug context
      return (self, context, updates)
    else if some timer = refreshTimer then
      let context ← performRefresh draws context
      let (self, context) ← self.createNewRefreshTimer debug context
      return (self, context, [])
    else return (self, context, [])
  | _ => return (self, context, [])

def handleMessage (debug : Bool) (self : ExplicitPathManagement P) (context : UseCaseContext T) :
    ProtocolMessage →
      Run (HandlingResult × ExplicitPathManagement P × List (PathIdTableUpdate P))
  | .pathSetupReq req => do
    let remainingPath ← req.sourceRoute.remainingPath
    assert (VICINITY_RADIUS < remainingPath.size)
      "assertion failed: unprocessed_hops > VICINITY_RADIUS"
    let (self, updates) ← self.registerPath debug context req.sourceRoute
    return (handled (remainingPath.size - 1), self, updates)
  | .pathTeardownReq req => do
    let remainingPath ← req.sourceRoute.remainingPath
    assert (VICINITY_RADIUS < remainingPath.size)
      "assertion failed: unprocessed_hops > VICINITY_RADIUS"
    return (handled (remainingPath.size - 1), self, [])
  | .probeReq req => do
    let remainingPath ← req.sourceRoute.remainingPath
    if remainingPath.size ≤ VICINITY_RADIUS then return (.notHandled, self, [])
    else
      let (self, updates) ← self.registerPath debug context req.sourceRoute
      return (.notHandled, self, updates)
  | _ => return (.notHandled, self, [])

def handleEvent (debug : Bool) (draws : EPMDraws P) (self : ExplicitPathManagement P)
    (context : UseCaseContext T) : UseCaseEvent →
      Run (HandlingResult × ExplicitPathManagement P × UseCaseContext T ×
        List (PathIdTableUpdate P))
  | .contact event => do
    let context ← handleContactEvent draws context event
    return (.notHandled, self, context, [])
  | .timer timer => do
    let (self, context, updates) ← self.handleTimer debug draws context timer
    return (.notHandled, self, context, updates)
  | .message message _ =>
    match self.state with
    | .running _ _ _ => do
      let (result, self, updates) ← self.handleMessage debug context message
      return (result, self, context, updates)
    | _ => return (.notHandled, self, context, [])
  | .underlayUpdate (.underlayNeighborDown ulnid) =>
    let (self, updates) := self.invalidateAllOverInterfaces ulnid
    return (.notHandled, self, context, updates)
  | _ => return (.notHandled, self, context, [])

/-! ## What an event can do to the paths of others -/

/-- The paths that were set up by others, while the use case is running. -/
def paths (self : ExplicitPathManagement P) : Option (KeyMap P (Entry P)) :=
  match self.state with
  | .running _ _ externallyAddedPaths => some externallyAddedPaths
  | _ => none

/-- The route that is registered with an event. -/
def registers : UseCaseEvent → Option SourceRoute
  | .message (.pathSetupReq req) _ => some req.sourceRoute
  | .message (.probeReq req) _ => some req.sourceRoute
  | _ => none

/-- What an event can do to the paths, and the updates that go with it. -/
inductive Turn (self : ExplicitPathManagement P) (context : UseCaseContext T)
    (event : UseCaseEvent) : Option (KeyMap P (Entry P)) → List (PathIdTableUpdate P) → Prop
  | same : Turn self context event self.paths []
  | removed {paths : KeyMap P (Entry P)} (hpaths : self.paths = some paths) (ids : List P)
      (hids : ∀ id ∈ ids, (paths.lookup id).isSome = true) :
      Turn self context event (some (removeAll paths ids).1) (removeAll paths ids).2
  | created {paths : KeyMap P (Entry P)} {route : SourceRoute} {inPath outPath : Path}
      {nextHop : UnderlayNeighborId} {state : ULNState} {entry : Entry P}
      (hpaths : self.paths = some paths) (hroute : registers event = some route)
      (hin : route.remainingPath = .ok inPath) (hsize : VICINITY_RADIUS < inPath.size)
      (hout : Path.collect (inPath.ids.drop 1) = some outPath)
      (hhop : context.ulnTable.map.lookup outPath.first = some (nextHop, state))
      (hvacant : paths.lookup (self.config.hasher inPath.ids) = none)
      (hvia : entry.via = nextHop) :
      Turn self context event (some (paths.insert (self.config.hasher inPath.ids) entry))
        [.create
          (.forward (self.config.hasher inPath.ids) (self.config.hasher outPath.ids) nextHop)]
  | updated {paths : KeyMap P (Entry P)} {route : SourceRoute} {inPath outPath : Path}
      {nextHop : UnderlayNeighborId} {state : ULNState} {occupied entry : Entry P}
      (hpaths : self.paths = some paths) (hroute : registers event = some route)
      (hin : route.remainingPath = .ok inPath) (hsize : VICINITY_RADIUS < inPath.size)
      (hout : Path.collect (inPath.ids.drop 1) = some outPath)
      (hhop : context.ulnTable.map.lookup outPath.first = some (nextHop, state))
      (hoccupied : paths.lookup (self.config.hasher inPath.ids) = some occupied)
      (hvia : entry.via = occupied.via) :
      Turn self context event (some (paths.insert (self.config.hasher inPath.ids) entry))
        [.update
          (.forward (self.config.hasher inPath.ids) (self.config.hasher outPath.ids) nextHop)]

variable {debug : Bool} {draws : EPMDraws P} {self self' : ExplicitPathManagement P}
  {context context' : UseCaseContext T} {event : UseCaseEvent}
  {updates : List (PathIdTableUpdate P)}

theorem turn_registerPath {route : SourceRoute} {inPath : Path}
    (hroute : registers event = some route)
    (hin : route.remainingPath = .ok inPath) (hsize : VICINITY_RADIUS < inPath.size)
    (h : self.registerPath debug context route = .ok (self', updates)) :
    self'.config = self.config ∧ Turn self context event self'.paths updates := by
  unfold registerPath at h
  split at h
  · rename_i refreshTimer cleanupTimer externallyAddedPaths hstate
    have hpaths : self.paths = some externallyAddedPaths := by rw [paths, hstate]
    obtain ⟨inPath', hin', h⟩ := of_bind h
    obtain rfl := ok.inj (hin.symm.trans hin')
    obtain ⟨-, -, h⟩ := of_bind h
    obtain ⟨outPath, hout, h⟩ := of_bind h
    have hout := expect_eq_ok.1 hout
    dsimp only at h
    split at h
    · cases h
      exact ⟨rfl, .same⟩
    · rename_i nextHop state hhop
      split at h
      · rename_i occupied hoccupied
        cases h
        exact ⟨rfl, .updated hpaths hroute hin hsize hout hhop hoccupied rfl⟩
      · rename_i hvacant
        cases h
        exact ⟨rfl, .created hpaths hroute hin hsize hout hhop hvacant rfl⟩
  · cases h
    exact ⟨rfl, .same⟩

theorem turn_handleMessage {message : ProtocolMessage} {source : UnderlayNeighborSource}
    {result : HandlingResult}
    (h : self.handleMessage debug context message = .ok (result, self', updates)) :
    self'.config = self.config ∧
      Turn self context (.message message source) self'.paths updates := by
  have hsame : ∀ {res : HandlingResult}, Run.ok (res, self, ([] : List (PathIdTableUpdate P))) =
      .ok (result, self', updates) →
      self'.config = self.config ∧
        Turn self context (.message message source) self'.paths updates := by
    intro res h
    cases h
    exact ⟨rfl, .same⟩
  cases message with
  | pathSetupReq req =>
    obtain ⟨inPath, hin, h⟩ := of_bind h
    obtain ⟨_, hsize, h⟩ := of_bind h
    obtain ⟨⟨mid, updates'⟩, hregister, h⟩ := of_bind h
    cases h
    exact turn_registerPath rfl hin (by simpa using assert_eq_ok.1 hsize) hregister
  | pathTeardownReq req =>
    obtain ⟨inPath, -, h⟩ := of_bind h
    obtain ⟨-, -, h⟩ := of_bind h
    exact hsame h
  | probeReq req =>
    obtain ⟨inPath, hin, h⟩ := of_bind h
    dsimp only at h
    split at h
    · exact hsame h
    · rename_i hsize
      obtain ⟨⟨mid, updates'⟩, hregister, h⟩ := of_bind h
      cases h
      exact turn_registerPath rfl hin (Nat.lt_of_not_le hsize) hregister
  | _ => exact hsame h

omit [DecidableEq P] in
theorem isSome_of_mem_selected [DecidableEq P] {entries : KeyMap P (Entry P)}
    {select : (Sigma fun _ : P ↦ Entry P) → Bool} {id : P}
    (h : id ∈ (entries.entries.filter select).map Sigma.fst) :
    (entries.lookup id).isSome = true := by
  obtain ⟨⟨key, entry⟩, hmem, rfl⟩ := List.mem_map.1 h
  rw [AList.mem_lookup_iff.2 (List.mem_of_mem_filter hmem)]
  rfl

theorem turn_performCleanup (self : ExplicitPathManagement P) (context : UseCaseContext T)
    (draws : EPMDraws P) :
    (self.performCleanup draws).1.config = self.config ∧
      Turn self context event (self.performCleanup draws).1.paths
        (self.performCleanup draws).2 := by
  unfold performCleanup
  split
  · rename_i hstate
    exact ⟨rfl, .removed (by rw [paths, hstate]) _ fun _ ↦ isSome_of_mem_selected⟩
  · exact ⟨rfl, .same⟩

theorem turn_invalidateAllOverInterfaces (affectedNeighbor : UnderlayNeighborId) :
    (self.invalidateAllOverInterfaces affectedNeighbor).1.config = self.config ∧
      Turn self context event (self.invalidateAllOverInterfaces affectedNeighbor).1.paths
        (self.invalidateAllOverInterfaces affectedNeighbor).2 := by
  unfold invalidateAllOverInterfaces
  split
  · rename_i hstate
    exact ⟨rfl, .removed (by rw [paths, hstate]) _ fun _ ↦ isSome_of_mem_selected⟩
  · exact ⟨rfl, .same⟩

omit [DecidableEq P] in
theorem paths_start {result : Except EPMError Unit}
    (h : self.start debug context = .ok (result, self', context')) :
    self'.config = self.config ∧
      (self'.paths = self.paths ∨ self.paths = none ∧ self'.paths = some ∅) := by
  unfold start at h
  split at h
  · rename_i hstate
    obtain ⟨⟨cleanupTimer, mid⟩, -, h⟩ := of_bind h
    obtain ⟨⟨refreshTimer, last⟩, -, h⟩ := of_bind h
    cases h
    exact ⟨rfl, .inr ⟨by simp [paths, hstate], rfl⟩⟩
  · cases h
    exact ⟨rfl, .inl rfl⟩

omit [DecidableEq P] in
theorem paths_start_new {config : EPMConfig P} {result : Except EPMError Unit}
    (h : (new config).start debug context = .ok (result, self', context')) :
    self'.config = config ∧ self'.paths = some ∅ := by
  obtain ⟨⟨cleanupTimer, mid⟩, -, h⟩ := of_bind h
  obtain ⟨⟨refreshTimer, last⟩, -, h⟩ := of_bind h
  cases h
  exact ⟨rfl, rfl⟩

omit [DecidableEq P] in
theorem paths_createNewCleanupTimer
    (h : self.createNewCleanupTimer debug context = .ok (self', context')) :
    self'.config = self.config ∧ self'.paths = self.paths := by
  unfold createNewCleanupTimer at h
  split at h
  · rename_i hstate
    obtain ⟨⟨timer, mid⟩, -, h⟩ := of_bind h
    cases h
    exact ⟨rfl, by simp [paths, hstate]⟩
  · cases h
    exact ⟨rfl, rfl⟩

omit [DecidableEq P] in
theorem paths_createNewRefreshTimer
    (h : self.createNewRefreshTimer debug context = .ok (self', context')) :
    self'.config = self.config ∧ self'.paths = self.paths := by
  unfold createNewRefreshTimer at h
  split at h
  · rename_i hstate
    obtain ⟨⟨timer, mid⟩, -, h⟩ := of_bind h
    cases h
    exact ⟨rfl, by simp [paths, hstate]⟩
  · cases h
    exact ⟨rfl, rfl⟩

theorem turn_handleTimer {timer : TimerId}
    (h : self.handleTimer debug draws context timer = .ok (self', context', updates)) :
    self'.config = self.config ∧ Turn self context event self'.paths updates := by
  unfold handleTimer at h
  split at h
  · split at h
    · obtain ⟨⟨mid, midContext⟩, htimer, h⟩ := of_bind h
      cases h
      obtain ⟨hconfig, hpaths⟩ := paths_createNewCleanupTimer htimer
      obtain ⟨hconfig', hturn⟩ := turn_performCleanup self context draws
      exact ⟨hconfig.trans hconfig', hpaths ▸ hturn⟩
    · split at h
      · obtain ⟨refreshed, -, h⟩ := of_bind h
        obtain ⟨⟨mid, midContext⟩, htimer, h⟩ := of_bind h
        cases h
        obtain ⟨hconfig, hpaths⟩ := paths_createNewRefreshTimer htimer
        exact ⟨hconfig, hpaths ▸ .same⟩
      · cases h
        exact ⟨rfl, .same⟩
  · cases h
    exact ⟨rfl, .same⟩

/-- **What an event can do**: some paths are forgotten, or a path is registered, for the first time
or again. -/
theorem turn_handleEvent {result : HandlingResult}
    (h : self.handleEvent debug draws context event = .ok (result, self', context', updates)) :
    self'.config = self.config ∧ Turn self context event self'.paths updates := by
  have hsame : ∀ {res : HandlingResult} {mid : UseCaseContext T},
      Run.ok (res, self, mid, ([] : List (PathIdTableUpdate P))) =
        .ok (result, self', context', updates) →
      self'.config = self.config ∧ Turn self context event self'.paths updates := by
    intro res mid h
    cases h
    exact ⟨rfl, .same⟩
  cases event with
  | contact event =>
    obtain ⟨mid, -, h⟩ := of_bind h
    exact hsame h
  | timer timer =>
    obtain ⟨⟨mid, midContext, updates'⟩, htimer, h⟩ := of_bind h
    cases h
    exact turn_handleTimer htimer
  | message message source =>
    unfold handleEvent at h
    dsimp only at h
    split at h
    · obtain ⟨⟨res, mid, updates'⟩, hmessage, h⟩ := of_bind h
      cases h
      exact turn_handleMessage hmessage
    · exact hsame h
  | underlayUpdate update =>
    cases update with
    | underlayNeighborDown ulnid =>
      cases h
      exact turn_invalidateAllOverInterfaces ulnid
    | _ => exact hsame h
  | _ => exact hsame h

end ExplicitPathManagement

end Kira
