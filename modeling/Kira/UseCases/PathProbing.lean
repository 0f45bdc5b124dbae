import Kira.Domain.LocalHashTable
import Kira.Domain.RoutingTable.UnlimitedULN
import Kira.UseCases.Context

/-!
# Probing the paths of contacts

A contact that has not been heard of for a while is probed: a request travels along its active path,
and the answer, or the error, says whether the path can still be used.  The routing table is looked
through periodically for such contacts.  A request of this kind has a timer, which ends the waiting
for its answer.

Paths that were proposed are probed as well, a little later and without a timer; what is left of
such requests is collected with the next look through the table.

Every reading of the clock has its place in `Readings`, and what is random comes with the event, as
`ProbingDraws`: nonces, the scaled delay of the timer for scheduled requests, and the order in which
contacts come that were last heard of at the same time.
-/

set_option autoImplicit false

namespace Kira

open Run RoutingTable

/-- What only this use case asks of a routing table. -/
class BucketIter (T : Type) (k : outParam Nat) where
  bucketIter : T → List (Bucket k)

instance {k acc : Nat} : BucketIter (FlatRoutingTable k acc) k where
  bucketIter self := self.buckets

instance {k acc : Nat} : BucketIter (UnlimitedULNRoutingTable k acc) k where
  bucketIter self := self.inner.buckets

/-- The nodes of a route, taken as a path. -/
def SourceRoute.toPath (self : SourceRoute) : Path :=
  .ofIds self.ids self.ids_ne

structure PathProbingConfig where
  checkInterval : Duration
  /-- The age at which a contact is probed. -/
  probeAge : Duration
  requestTimeout : Duration
  scheduledProbeDelay : Duration

def PathProbingConfig.default : PathProbingConfig where
  checkInterval := 1000 * 1000000
  probeAge := 40000 * 1000000
  requestTimeout := 10000 * 1000000
  scheduledProbeDelay := 250 * 1000000

inductive PathProbeAction where
  | contactActivePath (id : NodeId)
  | contactProposedPath (id : NodeId)
  | probePath (path : Path)
  deriving DecidableEq

/-- What is known of a request: whom it is for, along which path, and when it was sent. -/
structure Probe where
  contactId : NodeId
  path : Path
  sent : Timestamp
  deriving DecidableEq

/-- What the use case keeps while it is running. -/
structure ProbingBooks where
  probeTimerId : TimerId
  probeTimers : KeyMap TimerId Nonce
  requestsInFlight : KeyMap Nonce Probe
  scheduledProbeRequests : KeyMap PathProbeAction Timestamp
  scheduledSendingTimer : Option TimerId

inductive PathProbingState where
  | initialized
  | running (books : ProbingBooks)
  | error

/-- The use case, with the requests that have not been answered. -/
structure PathProbing where
  state : PathProbingState
  config : PathProbingConfig

structure ProbingDraws where
  /-- The nonces that are drawn for a request, one after the other. -/
  nonce : Nat → Nat → Nonce
  /-- And those for a scheduled one. -/
  scheduledNonce : Nat → Nat → Nonce
  rounds : Nat
  /-- The order of contacts that were last heard of at the same time. -/
  tie : NodeId → Nat
  /-- The delay of scheduled requests, scaled by a random factor. -/
  delay : Duration

/-- A request with a timer. -/
structure SentProbe where
  timerId : TimerId
  nonce : Nonce
  probe : Probe

namespace PathProbing

def new (config : PathProbingConfig) : PathProbing := ⟨.initialized, config⟩

variable {T : Type} {k : Nat} [RoutingTable T k]

/-! ## Sending requests -/

/-- The first nonce drawn that is not in use. -/
def freshNonce (requestsInFlight : KeyMap Nonce Probe) (nonces : Nat → Nonce) :
    Nat → Nat → Run Nonce
  | 0, _ => .panic "every nonce that was drawn is in use"
  | rounds + 1, i =>
    if (requestsInFlight.lookup (nonces i)).isSome then
      freshNonce requestsInFlight nonces rounds (i + 1)
    else return nonces i

def probeReq (context : UseCaseContext T) (nonce : Nonce) (path : Path) : ProtocolMessage :=
  .probeReq
    { commonHeader := .new .probeReq context.rootId path.last nonce
        (.value context.ulnTable.stateSeqNr) context.ulnTable.size
      data := ⟨⟩
      notVia := none
      sourceRoute := .new context.rootId path }

/-- Sends a request without a timer. -/
def sendSingleProbeReqForPath (now : Timestamp) (nonces : Nat → Nonce) (rounds : Nat)
    (self : PathProbing) (context : UseCaseContext T) (pathToProbe : Path) :
    Run (PathProbing × UseCaseContext T) :=
  match self.state with
  | .running books => do
    let nonce ← freshNonce books.requestsInFlight nonces rounds 0
    let context ← context.sendMessage (probeReq context nonce pathToProbe)
    let books := { books with requestsInFlight :=
      books.requestsInFlight.insert nonce ⟨pathToProbe.last, pathToProbe, now⟩ }
    return ({ self with state := .running books }, context)
  | _ => .panic "Called sending probe outside of running state"

def sendProbeReq (debug : Bool) (now : Timestamp) (nonces : Nat → Nonce) (rounds : Nat)
    (self : PathProbing) (context : UseCaseContext T) (contact : Contact) :
    Run (SentProbe × PathProbing × UseCaseContext T) :=
  match self.state with
  | .running books => do
    let nonce ← freshNonce books.requestsInFlight nonces rounds 0
    let path ← unwrap contact.path
    let context ← context.sendMessage (probeReq context nonce path)
    let (timeoutTimer, context) ← context.registerTimer debug self.config.requestTimeout
    let probe : Probe := ⟨contact.id, path, now⟩
    let books := { books with
      probeTimers := books.probeTimers.insert timeoutTimer nonce
      requestsInFlight := books.requestsInFlight.insert nonce probe }
    return (⟨timeoutTimer, nonce, probe⟩, { self with state := .running books }, context)
  | _ => .panic "Called sending probe outside of running state"

/-- Heard of earlier, or at the same time and first in that order. -/
def seenBefore (tie : NodeId → Nat) (a b : Contact) : Prop :=
  a.lastSeen < b.lastSeen ∨ (a.lastSeen = b.lastSeen ∧ tie a.id ≤ tie b.id)

instance (tie : NodeId → Nat) : DecidableRel (seenBefore tie) :=
  fun _ _ ↦ inferInstanceAs (Decidable (_ ∨ _))

/-- The contacts of a bucket that are probed: at most two of those that are old enough.  They are
the two that were heard of last, since the order is reversed. -/
def consideredContacts (clock : Readings) (tie : NodeId → Nat) (probeAge : Duration)
    (bucket : Bucket k) : List Contact :=
  let considered := bucket.contacts.filter fun contact ↦
    probeAge ≤ (clock.part contact.id.toNat).now - contact.lastSeen && contact.isValid &&
      !contact.isUln
  (considered.insertionSort (seenBefore tie)).reverse.take 2

/-- Probes contacts one after the other and returns what was sent. -/
def sendAll (debug : Bool) (clock : Readings) (draws : ProbingDraws) :
    Nat → List Contact → PathProbing → UseCaseContext T →
      Run (List SentProbe × PathProbing × UseCaseContext T)
  | _, [], self, context => return ([], self, context)
  | j, contact :: contacts, self, context => do
    let (probe, self, context) ← self.sendProbeReq debug (clock.part j).now (draws.nonce j)
      draws.rounds context contact
    let (probes, self, context) ← sendAll debug clock draws (j + 1) contacts self context
    return (probe :: probes, self, context)

/-- Probes the contacts of all buckets that are due, and returns what was sent. -/
def sendProbeReqs [BucketIter T k] (debug : Bool) (clock : Readings) (draws : ProbingDraws)
    (self : PathProbing) (context : UseCaseContext T) :
    Run (List SentProbe × PathProbing × UseCaseContext T) :=
  sendAll debug (clock.part 1) draws 0
    ((BucketIter.bucketIter context.routingTable).flatMap
      (consideredContacts (clock.part 0) draws.tie self.config.probeAge)) self context

/-! ## The end of a request -/

/-- An answer has come. -/
def removeFromTrackedMessages (self : PathProbing) (nonce : Nonce) : PathProbing :=
  match self.state with
  | .running books =>
    let books := { books with
      requestsInFlight := books.requestsInFlight.erase nonce
      probeTimers := books.probeTimers.retain fun v ↦ v ≠ nonce }
    { self with state := .running books }
  | _ => self

/-- What becomes of a contact when a request for it was not answered in time. -/
def timedOut (clock : Nat → Timestamp) (probe : Probe) (contact : Contact) : Contact :=
  match contact.path with
  | some currentPath =>
    if currentPath.isSamePathAs probe.path then
      match currentPath.lastValidated with
      | some lastValidated =>
        if probe.sent < lastValidated then contact.setInvalid clock .empty else contact
      | none => contact
    else contact
  | none => contact

/-- No answer has come in time. -/
def invalidateContactForTimer (clock : Readings) (self : PathProbing) (context : UseCaseContext T)
    (timerId : TimerId) : Run (PathProbing × UseCaseContext T) :=
  match self.state with
  | .running books => do
    let nonce ← expect (books.probeTimers.lookup timerId)
      "called invalidate without timer existence"
    let books' := { books with
      probeTimers := books.probeTimers.erase timerId
      requestsInFlight := books.requestsInFlight.erase nonce }
    let self := { self with state := .running books' }
    match books.requestsInFlight.lookup nonce with
    | none => return (self, context)
    | some probe =>
      let (_, context) ← context.contactMut probe.contactId fun contact ↦
        return ((), timedOut clock.clock probe contact)
      return (self, context)
  | _ => return (self, context)

/-- What becomes of a contact when an error has come back. -/
def failedAt (clock : Readings) (failedLink : Link) (contact : Contact) : Contact :=
  let proposalChecked :=
    match contact.proposedPath with
    | some proposedPath =>
      if proposedPath.containsLink failedLink then
        { contact with pathCollection := { contact.pathCollection with proposedPath := none } }
      else contact
    | none => contact
  match contact.path with
  | some activePath =>
    if activePath.containsLink failedLink then
      contact.setInvalid (clock.part 1).clock (.singleton ⟨failedLink, (clock.part 0).now⟩)
    else proposalChecked
  | none => proposalChecked

/-- An error has come back. -/
def invalidateContactForMessage (clock : Readings) (self : PathProbing)
    (context : UseCaseContext T) (nonce : Nonce) (failedLink : Link) :
    Run (PathProbing × UseCaseContext T) :=
  match self.state with
  | .running books => do
    let probe ← expect (books.requestsInFlight.lookup nonce)
      "It's assumed that for every timer entry a request entry exists"
    let (_, context) ← context.contactMut probe.contactId fun contact ↦
      return ((), failedAt clock failedLink contact)
    return (self.removeFromTrackedMessages nonce, context)
  | _ => return (self, context)

def sendProbeRsp (context : UseCaseContext T) (req : ReqRspMessage ProbeReqData) :
    Run (UseCaseContext T) := do
  let sourceRoute ← req.sourceRoute.fromReversed
  context.sendMessage (.probeRsp
    { commonHeader := .new .probeRsp context.rootId req.source req.commonHeader.msgId
        (.value context.ulnTable.stateSeqNr) context.ulnTable.size
      data := ⟨⟩
      notVia := req.notVia
      sourceRoute := sourceRoute })

/-- What becomes of a contact when an answer has come along this way. -/
def answeredAlong (clock : Readings) (revSourceRoute : Path) (contact : Contact) :
    Run (Unit × Contact) := do
  let proposed : Contact :=
    if contact.proposedPath = some revSourceRoute then
      { contact with pathCollection := { contact.pathCollection with
        proposedPath := some (revSourceRoute.setValid clock.now) } }
    else contact
  match contact.path with
  | some activePath =>
    if activePath = revSourceRoute then
      assert activePath.isValid "assertion failed: active_path.is_valid()"
      return ((), { contact with pathCollection := { contact.pathCollection with
        activePath := some (activePath.setValid clock.now)
        proposedPath :=
          if contact.proposedPath = some revSourceRoute then none else contact.proposedPath } })
    else return ((), proposed)
  | none => return ((), proposed)

/-! ## Timers -/

def isPeriodicTimer (self : PathProbing) (timerId : TimerId) : Bool :=
  match self.state with
  | .running books => books.probeTimerId == timerId
  | _ => false

def isTrackedTimer (self : PathProbing) (timerId : TimerId) : Bool :=
  match self.state with
  | .running books => (books.probeTimers.lookup timerId).isSome
  | _ => false

def isScheduledProbeTimer (self : PathProbing) (timerId : TimerId) : Bool :=
  match self.state with
  | .running books => books.scheduledSendingTimer == some timerId
  | _ => false

def isTrackedMessage (self : PathProbing) (nonce : Nonce) : Bool :=
  match self.state with
  | .running books => (books.requestsInFlight.lookup nonce).isSome
  | _ => false

/-- Drops the requests that are older than the time that an answer may take. -/
def garbageCollectRequests (self : PathProbing) (context : UseCaseContext T) : PathProbing :=
  match self.state with
  | .running books =>
    let books := { books with
      requestsInFlight := books.requestsInFlight.retain fun probe ↦
        context.runtime.currentTime.saturatingDurationSince probe.sent ≤
          self.config.requestTimeout }
    { self with state := .running books }
  | _ => self

/-! ## Scheduled requests -/

def schedulePathProbeReq (debug : Bool) (now : Timestamp) (draws : ProbingDraws)
    (self : PathProbing) (context : UseCaseContext T) (pathProbeAction : PathProbeAction) :
    Run (PathProbing × UseCaseContext T) :=
  match self.state with
  | .running books => do
    let scheduled :=
      match books.scheduledProbeRequests.lookup pathProbeAction with
      | some _ => books.scheduledProbeRequests
      | none => books.scheduledProbeRequests.insert pathProbeAction now
    match books.scheduledSendingTimer with
    | some _ =>
      let books := { books with scheduledProbeRequests := scheduled }
      return ({ self with state := .running books }, context)
    | none =>
      let (timerId, context) ← context.registerTimer debug draws.delay
      let books := { books with
        scheduledProbeRequests := scheduled, scheduledSendingTimer := some timerId }
      return ({ self with state := .running books }, context)
  | _ => return (self, context)

/-- The path that a scheduled request is sent along, if it is still there. -/
def scheduledPath (context : UseCaseContext T) : PathProbeAction → Option Path
  | .contactActivePath nodeId => (contact context.routingTable nodeId).bind Contact.path
  | .contactProposedPath nodeId => (contact context.routingTable nodeId).bind Contact.proposedPath
  | .probePath pathToProbe => some pathToProbe

def sendScheduled (clock : Readings) (draws : ProbingDraws) :
    Nat → List PathProbeAction → PathProbing → UseCaseContext T →
      Run (PathProbing × UseCaseContext T)
  | _, [], self, context => return (self, context)
  | j, action :: actions, self, context => do
    match scheduledPath context action with
    | none => sendScheduled clock draws (j + 1) actions self context
    | some path =>
      let (self, context) ← self.sendSingleProbeReqForPath (clock.part j).now
        (draws.scheduledNonce j) draws.rounds context path
      sendScheduled clock draws (j + 1) actions self context

/-- Sends the requests that have been waiting for long enough; if there are others, a new timer is
started. -/
def sendScheduledProbeRequests (debug : Bool) (clock : Readings) (draws : ProbingDraws)
    (self : PathProbing) (context : UseCaseContext T) : Run (PathProbing × UseCaseContext T) :=
  match self.state with
  | .running books => do
    let elapsed (time : Timestamp) : Bool :=
      self.config.scheduledProbeDelay / 2 < context.runtime.currentTime.saturatingDurationSince time
    let probesToSend := books.scheduledProbeRequests.retain elapsed
    let remaining := books.scheduledProbeRequests.retain fun time ↦ !elapsed time
    if remaining.entries.isEmpty then
      let books := { books with
        scheduledProbeRequests := remaining, scheduledSendingTimer := none }
      sendScheduled clock draws 0 probesToSend.keys { self with state := .running books } context
    else
      let (timerId, context) ← context.registerTimer debug draws.delay
      let books := { books with
        scheduledProbeRequests := remaining, scheduledSendingTimer := some timerId }
      sendScheduled clock draws 0 probesToSend.keys { self with state := .running books } context
  | _ => return (self, context)

/-! ## The use case -/

def start (debug : Bool) (self : PathProbing) (context : UseCaseContext T) :
    Run (PathProbing × UseCaseContext T) := do
  let (timerId, runtime) ← context.runtime.registerPeriodicTimer debug self.config.checkInterval
  let books : ProbingBooks :=
    { probeTimerId := timerId
      probeTimers := ∅
      requestsInFlight := ∅
      scheduledProbeRequests := ∅
      scheduledSendingTimer := none }
  return ({ self with state := .running books }, { context with runtime := runtime })

/-- The periodic look through the table.  Returns what was sent. -/
def handlePeriodicTimer [BucketIter T k] (debug : Bool) (clock : Readings) (draws : ProbingDraws)
    (self : PathProbing) (context : UseCaseContext T) (timerId : TimerId) :
    Run (List SentProbe × PathProbing × UseCaseContext T) := do
  if self.isPeriodicTimer timerId then
    let (probes, self, context) ← self.sendProbeReqs debug clock draws context
    return (probes, self.garbageCollectRequests context, context)
  else return ([], self, context)

def handleTrackedTimer (clock : Readings) (self : PathProbing) (context : UseCaseContext T)
    (timerId : TimerId) : Run (PathProbing × UseCaseContext T) :=
  if self.isTrackedTimer timerId then self.invalidateContactForTimer clock context timerId
  else return (self, context)

def handleScheduledTimer (debug : Bool) (clock : Readings) (draws : ProbingDraws)
    (self : PathProbing) (context : UseCaseContext T) (timerId : TimerId) :
    Run (PathProbing × UseCaseContext T) :=
  if self.isScheduledProbeTimer timerId then
    self.sendScheduledProbeRequests debug clock draws context
  else return (self, context)

def handleContactEvent (debug : Bool) (clock : Readings) (draws : ProbingDraws) (self : PathProbing)
    (context : UseCaseContext T) : ContactEvent → Run (PathProbing × UseCaseContext T)
  | .proposed proposedContact => do
    let path ← unwrap proposedContact.path
    assert (context.ulnTable.contains path.first)
      "assertion failed: context.uln_table().contains_key(proposed_contact.path().unwrap().first())"
    self.schedulePathProbeReq debug clock.now draws context (.probePath path)
  | .updated newContact old =>
    match old.proposedPath, newContact.proposedPath with
    | none, some path =>
      if 1 < path.size then
        self.schedulePathProbeReq debug clock.now draws context (.contactProposedPath newContact.id)
      else return (self, context)
    | _, _ => return (self, context)
  | .removed contact =>
    match self.state with
    | .running books =>
      let scheduled := (books.scheduledProbeRequests.erase (.contactActivePath contact.id)).erase
        (.contactProposedPath contact.id)
      let books := { books with scheduledProbeRequests := scheduled }
      return ({ self with state := .running books }, context)
    | _ => return (self, context)
  | _ => return (self, context)

def handleEvent [BucketIter T k] (debug : Bool) (clock : Readings) (draws : ProbingDraws)
    (self : PathProbing) (context : UseCaseContext T) :
    UseCaseEvent → Run (PathProbing × UseCaseContext T)
  | .timer timerId => do
    let (_, self, context) ← self.handlePeriodicTimer debug (clock.part 0) draws context timerId
    let (self, context) ← self.handleTrackedTimer (clock.part 1) context timerId
    self.handleScheduledTimer debug (clock.part 2) draws context timerId
  | .message (.probeRsp rsp) _ => do
    if self.isTrackedMessage rsp.commonHeader.msgId then
      let (_, context) ← context.contactMut rsp.sourceRoute.source
        (answeredAlong clock rsp.sourceRoute.toPath.reverse)
      return (self.removeFromTrackedMessages rsp.commonHeader.msgId, context)
    else return (self, context)
  | .message (.error req) _ =>
    if self.isTrackedMessage req.commonHeader.msgId then
      match req.data with
      | .segmentFailure failedLink _ =>
        self.invalidateContactForMessage clock context req.commonHeader.msgId failedLink
      | _ => return (self.removeFromTrackedMessages req.commonHeader.msgId, context)
    else return (self, context)
  | .message (.probeReq req) _ => do
    return (self, ← sendProbeRsp context req)
  | .contact contactEvent => self.handleContactEvent debug clock draws context contactEvent
  | _ => return (self, context)

end PathProbing

end Kira
