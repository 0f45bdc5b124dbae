import Kira.Domain.RoutingTable.UnlimitedULN
import Kira.UseCases.Context
import Kira.Utils.ExponentialBackoff
import Kira.Utils.InflightReqMap

/-!
# Finding contacts again whose path has failed

A contact whose path fails becomes invalid, and with the event that says so its rediscovery begins:
the contact changes to the state `Rediscovering`, with a list of other contacts to ask, and after a
while two of those are asked for it at once.  From then on there is one attempt after the other.  A
request that is not answered in time is followed by a request to the next contact on the list; when
there is none, a new list is made and the next round waits for some longer.  After the last round
the contact is dead, and it is removed with the event that says so.

There are three kinds of waiting, each with its timers: for a round to begin (`scheduled`), for an
answer (`inflight`), and, after an error has come back at once, for the next request (`rateLimit`).

Random numbers come with the event, as `Draws`.  A nonce that is in use already is drawn again; the
loop stops after the given number of rounds.  The vicinity graph, which loses the links to a
neighbour that is gone, is not part of this module.
-/

set_option autoImplicit false

namespace Kira

open Run RoutingTable

/-- What only this use case asks of a routing table. -/
class CloseContacts (T : Type) where
  /-- Whether the id belongs into one of the last two buckets. -/
  isCloseContact : T → NodeId → Bool

instance {k acc : Nat} : CloseContacts (FlatRoutingTable k acc) where
  isCloseContact self id :=
    self.getBucketIndex id + 1 == self.buckets.length ||
      self.getBucketIndex id + 2 == self.buckets.length

instance {k acc : Nat} : CloseContacts (UnlimitedULNRoutingTable k acc) where
  isCloseContact self := CloseContacts.isCloseContact self.inner

/-- The broken links, with their ages, as they are sent. -/
def NotViaStateList.toNotViaList (clock : Readings) (self : NotViaStateList) :
    Run (Option NotViaList) := do
  if self.nvsList.isEmpty then return none
  else
    let notVia ← self.nvsList.zipIdx.foldlM (fun entries nvs ↦ do
      let age := nvs.1.timestamp.toAge (clock.part nvs.2).now
      assert (age < 2 ^ 64) "age value should never exceed 64bit in ms"
      return NotViaList.insert entries ⟨nvs.1.link, .ofNat 64 age⟩) NotViaList.empty
    return some notVia

/-! ## The use case -/

inductive ReactiveUseCaseState where
  | idle
  | error
  deriving DecidableEq

/-- The interval for random timeouts is left out: it is never read. -/
structure FailureHandlingConfig where
  /-- How many of the closest contacts are told that a neighbour is unreachable. -/
  failureNotificationRadius : Nat
  groupingBits : NonZeroU8
  numberViaContacts : Nat
  maxRetryRounds : Nat
  /-- How many contacts are asked at once when a round begins. -/
  rediscoveryParallelism : Nat

def FailureHandlingConfig.default : FailureHandlingConfig where
  failureNotificationRadius := 4
  groupingBits := .MIN
  numberViaContacts := 20
  maxRetryRounds := 5
  rediscoveryParallelism := 2

inductive FailureHandlingError where
  | wrongContactState
  | duplicateTimerId
  deriving DecidableEq

/-- The contacts that are looked for. -/
structure FailureHandling where
  state : ReactiveUseCaseState
  config : FailureHandlingConfig
  inflightRediscoveries : InflightReqMap
  scheduledRediscoveries : KeyMap TimerId NodeId
  rateLimitRediscoveries : KeyMap TimerId NodeId

/-- The random numbers for one event. -/
structure Draws where
  /-- The nonces that are drawn for a request, one after the other. -/
  nonce : Nat → Nat → Nonce
  /-- How many of them are drawn at most. -/
  rounds : Nat
  unanswered : Nat → Nonce
  offset : Nat

namespace FailureHandling

def REDISCOVERY_WAITTIME_RATELIMIT : Duration := 100 * 1000000
def REDISCOVERY_WAITTIME_ULN : Duration := 100 * 1000000
def REDISCOVERY_WAITTIME_CLOSEST_NEIGHBORS : Duration := 500 * 1000000
def REDISCOVERY_WAITTIME_CONTACT_WITH_ULN : Duration := 1000 * 1000000
def REDISCOVERY_WAITTIME_OTHER : Duration := 2000 * 1000000
def REDISCOVERY_TIMEOUT_MAX : Duration := 250 * 1000000

def new (config : FailureHandlingConfig) : FailureHandling where
  state := .idle
  config := config
  inflightRediscoveries := .empty
  scheduledRediscoveries := ∅
  rateLimitRediscoveries := ∅

variable {T : Type} {k : Nat} [RoutingTable T k] [CloseContacts T]

def getRediscoveryWaitTime (context : UseCaseContext T) (contact : Contact) : Duration :=
  if contact.isUln then REDISCOVERY_WAITTIME_ULN
  else if CloseContacts.isCloseContact context.routingTable contact.id then
    REDISCOVERY_WAITTIME_CLOSEST_NEIGHBORS
  else if contact.hasBrokenFirstHop then REDISCOVERY_WAITTIME_CONTACT_WITH_ULN
  else REDISCOVERY_WAITTIME_OTHER

/-- The contact becomes invalid if its path contains the link. -/
def invalidateContaining (clock : Readings) (failedLink : Link) (contact : Contact) : Contact :=
  match contact.path with
  | some path =>
    if path.containsLink failedLink then
      contact.setInvalid (clock.part 1).clock (.singleton ⟨failedLink, (clock.part 0).now⟩)
    else contact
  | none => contact

def invalidateContactsContainingLink (clock : Readings) (context : UseCaseContext T)
    (failedLink : Link) : UseCaseContext T :=
  context.iterMut fun contact ↦
    invalidateContaining (clock.part contact.id.toNat) failedLink contact

/-- Goes through a list until the given number of usable ids is found; the second component counts
the ids that were looked at. -/
def selectVia (usable : NodeId → Bool) (noOfViaContacts : Nat) :
    List NodeId → List NodeId → List NodeId × Nat
  | selected, [] => (selected, 0)
  | selected, id :: ids =>
    let selected := if usable id then selected ++ [id] else selected
    if selected.length = noOfViaContacts then (selected, 1)
    else
      let rest := selectVia usable noOfViaContacts selected ids
      (rest.1, rest.2 + 1)

/-- Takes the next contacts to ask from the list of a contact that is being rediscovered, and skips
those that are not valid. -/
def extractEligibleViaContacts (context : UseCaseContext T) (contactId : NodeId)
    (noOfViaContacts : Nat) : Run (Option (List NodeId) × UseCaseContext T) := do
  match (contact context.routingTable contactId).map Contact.state with
  | some (.rediscovering rds) =>
    let usable (id : NodeId) : Bool :=
      ((contact context.routingTable id).map Contact.isValid).getD false
    let selected := selectVia usable noOfViaContacts [] rds.getViaContactList
    if 0 < selected.2 then
      match ← context.contactMut contactId fun contact ↦ .ok ((), contact.whileRediscovering
          fun rds ↦ .rediscovering (rds.dropFromNextViaContactId selected.2)) with
      | (some (), context) =>
        return (if selected.1.isEmpty then none else some selected.1, context)
      | (none, _) => .panic "called `Option::unwrap()` on a `None` value"
    else
      return (if selected.1.isEmpty then none else some selected.1, context)
  | _ => return (none, context)

/-! ### Asking for a contact -/

/-- The broken links that a contact in rediscovery has. -/
def notviaOf (contact : Contact) : NotViaStateList :=
  match contact.state with
  | .rediscovering rds => rds.notviastateList
  | _ => .empty

/-- Sends a request for a contact to another one, whose path is looked up last. -/
def sendFindNodeReq (clock : Readings) (context : UseCaseContext T) (contactId : NodeId)
    (nonce : Nonce) (notviastateList : NotViaStateList) (viaPath : Run Path) :
    Run (UseCaseContext T) := do
  if hk : 0 < k then
    let notVia ← notviastateList.toNotViaList clock
    let path ← viaPath
    let findNodeRequest : ReqRspMessage FindNodeReqData :=
      { commonHeader :=
          { CommonHeader.new .findNodeReq context.rootId contactId nonce
              (.value context.ulnTable.stateSeqNr) context.ulnTable.size with
            msgFlags := .exact }
        data := ⟨k, hk⟩
        notVia := notVia
        sourceRoute := .new context.rootId path }
    context.sendMessage (.findNodeReq findNodeRequest)
  else .panic "called `Option::unwrap()` on a `None` value"

/-- Tracks a request, with the first nonce drawn that is not in use.  A timer that is in use is
registered anew. -/
def trackRequest (debug : Bool) (nonces : Nat → Nonce) (contactId : NodeId) :
    Nat → Nat → TimerId → InflightReqMap → UseCaseContext T →
      Run (Nonce × InflightReqMap × UseCaseContext T)
  | 0, _, _, _, _ => .panic "every nonce that was drawn is in use"
  | rounds + 1, i, timerId, inflight, context =>
    match inflight.insert contactId timerId (nonces i) with
    | .ok inflight => return (nonces i, inflight, context)
    | .error .duplicateNonce =>
      trackRequest debug nonces contactId rounds (i + 1) timerId inflight context
    | .error .duplicateTimer => do
      let (timerId, context) ← context.registerTimer debug REDISCOVERY_TIMEOUT_MAX
      trackRequest debug nonces contactId rounds i timerId inflight context

def sendRequests (debug : Bool) (clock : Readings) (draws : Draws) (contactId : NodeId)
    (notviastateList : NotViaStateList) :
    Nat → List NodeId → FailureHandling → UseCaseContext T →
      Run (FailureHandling × UseCaseContext T)
  | _, [], self, context => return (self, context)
  | j, viaContactId :: viaContactIds, self, context => do
    let (timerId, context) ← context.registerTimer debug REDISCOVERY_TIMEOUT_MAX
    let (nonce, inflight, context) ← trackRequest debug (draws.nonce j) contactId draws.rounds 0
      timerId self.inflightRediscoveries context
    let viaContact ← expect (contact context.routingTable viaContactId)
      "Contact should still be present in Routingtable"
    let context ← sendFindNodeReq (clock.part j) context contactId nonce notviastateList
      (unwrap viaContact.path)
    sendRequests debug clock draws contactId notviastateList (j + 1) viaContactIds
      { self with inflightRediscoveries := inflight } context

/-- A round begins. -/
def sendRediscoveryForContact (debug : Bool) (clock : Readings) (draws : Draws)
    (self : FailureHandling) (context : UseCaseContext T) (contactId : NodeId) :
    Run (FailureHandling × UseCaseContext T) := do
  match ← extractEligibleViaContacts context contactId self.config.rediscoveryParallelism with
  | (none, context) =>
    let (newTimerId, context) ← context.registerTimer debug REDISCOVERY_TIMEOUT_MAX
    return ({ self with
      rateLimitRediscoveries := self.rateLimitRediscoveries.insert newTimerId contactId }, context)
  | (some closestViaContacts, context) =>
    let rediscovered ← unwrap (contact context.routingTable contactId)
    sendRequests debug clock draws contactId (notviaOf rediscovered) 0 closestViaContacts self
      context

/-! ### The beginning of a rediscovery -/

/-- Tells the closest contacts that a neighbour is unreachable. -/
def sendUpdates (clock : Readings) (draws : Draws) (self : FailureHandling)
    (context : UseCaseContext T) (unreachable : Contact) (notviastateList : NotViaStateList) :
    Run (UseCaseContext T) := do
  match ← closest context.routingTable context.rootId self.config.numberViaContacts
      self.config.groupingBits with
  | .error _ => .panic "invalid config"
  | .ok closestOwnContacts =>
    (closestOwnContacts.take self.config.failureNotificationRadius).zipIdx.foldlM
      (fun context neighbor ↦ do
        let notVia ← notviastateList.toNotViaList (clock.part neighbor.2)
        let path ← unwrap neighbor.1.2.path
        context.sendMessage (.updateRouteReq
          { commonHeader := .new .updateRouteReq context.rootId unreachable.id
              (draws.unanswered neighbor.2) (.value context.ulnTable.stateSeqNr)
              context.ulnTable.size
            notVia := notVia
            contactActions := [(unreachable, .unreachable)]
            sourceRoute := .new context.rootId path })) context

def scheduleRediscovery (debug : Bool) (self : FailureHandling) (context : UseCaseContext T)
    (contactId : NodeId) (waitTime : Duration) : Run (FailureHandling × UseCaseContext T) := do
  let (timerId, context) ← context.registerTimer debug waitTime
  return ({ self with
    scheduledRediscoveries := self.scheduledRediscoveries.insert timerId contactId }, context)

/-- The contact, as the event has it, has become invalid: the contact that is stored under its id is
going to be rediscovered. -/
def startRediscovery (debug : Bool) (clock : Readings) (draws : Draws) (self : FailureHandling)
    (context : UseCaseContext T) (contact : Contact) :
    Run (Except FailureHandlingError Unit × FailureHandling × UseCaseContext T) := do
  match contact.state with
  | .invalid notviastateList =>
    let context ← (if contact.isUln then
        sendUpdates clock draws self context contact notviastateList
      else pure context)
    match ← closest context.routingTable contact.id self.config.numberViaContacts
        self.config.groupingBits with
    | .error _ => .panic "invalid config"
    | .ok closestViaContacts =>
      let initialWaitTime := getRediscoveryWaitTime context contact
      match ← context.contactMut contact.id fun stored ↦ .ok ((), stored.startRediscovering
          notviastateList (closestViaContacts.map fun via ↦ via.2.id) self.config.maxRetryRounds
          initialWaitTime) with
      | (none, _) => .panic "contact should still be present in RT"
      | (some (), context) =>
        let (self, context) ← self.scheduleRediscovery debug context contact.id initialWaitTime
        return (.ok (), self, context)
  | _ => return (.error .wrongContactState, self, context)

/-! ### The end of an attempt -/

/-- Asks one more contact. -/
def sendNextRequest (debug : Bool) (clock : Readings) (draws : Draws) (self : FailureHandling)
    (context : UseCaseContext T) (nodeId nextViaContactId : NodeId) :
    Run (Except FailureHandlingError Unit × FailureHandling × UseCaseContext T) := do
  let (timerId, context) ← context.registerTimer debug REDISCOVERY_TIMEOUT_MAX
  match ← track timerId self.inflightRediscoveries draws.rounds 0 with
  | none => return (.error .duplicateTimerId, { self with state := .error }, context)
  | some (msgId, inflight) =>
    let rediscovered ← unwrap (contact context.routingTable nodeId)
    let context ← sendFindNodeReq clock context nodeId msgId (notviaOf rediscovered) do
      let viaContact ← unwrap (contact context.routingTable nextViaContactId)
      expect viaContact.path "valid via contact must have valid path"
    let sent ← unwrap (contact context.routingTable nodeId)
    match sent.state with
    | .rediscovering _ => return (.ok (), { self with inflightRediscoveries := inflight }, context)
    | _ => .panic "handle rediscovery failure: contact should be in Rediscovering state"
where
  /-- Tracks the request, with the first nonce drawn that is not in use; `none` if its timer is. -/
  track (timerId : TimerId) (inflight : InflightReqMap) :
      Nat → Nat → Run (Option (Nonce × InflightReqMap))
    | 0, _ => .panic "every nonce that was drawn is in use"
    | rounds + 1, i =>
      match inflight.insert nodeId timerId (draws.nonce 0 i) with
      | .ok inflight => return some (draws.nonce 0 i, inflight)
      | .error .duplicateNonce => track timerId inflight rounds (i + 1)
      | .error .duplicateTimer => return none

/-- What comes of a contact when a round is finished: nothing as long as there is another request or
another waiting time; otherwise the next round is due after the duration that is returned, or the
contact is dead. -/
def finishRound (debug : Bool) (draws : Draws) (self : FailureHandling) (nodeId : NodeId)
    (newViaContactList : List NodeId) (contact : Contact) : Run (Option Duration × Contact) := do
  match contact.state with
  | .rediscovering rds =>
    if self.inflightRediscoveries.nodeExists nodeId ||
        self.rateLimitRediscoveries.values.contains nodeId then
      return (none, contact)
    else
      match ← rds.backoff.next debug draws.offset with
      | (some duration, backoff) =>
        let rds ← { rds with backoff := backoff }.setViaContactList newViaContactList
        return (some duration, contact.setState (.rediscovering rds))
      | (none, backoff) =>
        if !self.inflightRediscoveries.nodeExists nodeId then
          return (none, contact.setState .dead)
        else
          return (none, contact.setState (.rediscovering { rds with backoff := backoff }))
  | _ => return (none, contact)

/-- There is nobody left to ask in this round. -/
def nextRound (debug : Bool) (clock : Readings) (draws : Draws) (self : FailureHandling)
    (context : UseCaseContext T) (nodeId : NodeId) :
    Run (Except FailureHandlingError Unit × FailureHandling × UseCaseContext T) := do
  match ← closest context.routingTable nodeId self.config.numberViaContacts
      self.config.groupingBits with
  | .error _ => .panic "invalid config"
  | .ok closestViaContacts =>
    match ← context.contactMut nodeId (finishRound debug draws self nodeId
        (closestViaContacts.map fun via ↦ via.2.id)) with
    | (some (some duration), context) =>
      match contact context.routingTable nodeId with
      | some contact =>
        let (self, context) ← self.scheduleRediscovery debug context contact.id duration
        return (.ok (), self, context)
      | none =>
        match ← extractEligibleViaContacts context nodeId 1 with
        | (some nextViaContacts, context) =>
          match nextViaContacts.getLast? with
          | some nextViaContactId =>
            sendNextRequest debug clock draws self context nodeId nextViaContactId
          | none => return (.ok (), self, context)
        | (none, context) => return (.ok (), self, context)
    | (_, context) => return (.ok (), self, context)

/-- The node that was waited for with this timer; from now on it is not. -/
def takeTimedOut (self : FailureHandling) (timerId : TimerId) :
    Run (Option NodeId × FailureHandling) := do
  if self.inflightRediscoveries.timerExists timerId then
    let (entry, inflight) ← self.inflightRediscoveries.removeByTimer timerId
    let entry ← expect entry ("internal error: handle_rediscovery_failure: " ++
      "inflight rediscoveries entry should be present")
    return (some entry.1, { self with inflightRediscoveries := inflight })
  else
    match self.rateLimitRediscoveries.lookup timerId with
    | some nodeId => return (some nodeId,
        { self with rateLimitRediscoveries := self.rateLimitRediscoveries.erase timerId })
    | none => return (none, self)

/-- An error has come back for a request, or the time for an answer is over. -/
def handleRediscoveryFailure (debug : Bool) (clock : Readings) (draws : Draws)
    (self : FailureHandling) (context : UseCaseContext T) (msgId : Option Nonce)
    (timerId : Option TimerId) :
    Run (Except FailureHandlingError Unit × FailureHandling × UseCaseContext T) := do
  match msgId, timerId with
  | none, none =>
    .panic ("internal error: handle_rediscovery_failure must be called either with message " ++
      "msg_id or timer timeout")
  | some msgId, _ =>
    if self.inflightRediscoveries.nonceExists msgId then
      let (entry, inflight) ← self.inflightRediscoveries.removeByNonce msgId
      let entry ← expect entry ("internal error: handle_rediscovery_failure: " ++
        "inflight rediscoveries entry should be present")
      let (newTimerId, context) ← context.registerTimer debug REDISCOVERY_WAITTIME_RATELIMIT
      return (.ok (),
        { self with
          inflightRediscoveries := inflight
          rateLimitRediscoveries := self.rateLimitRediscoveries.insert newTimerId entry.1 },
        context)
    else return (.ok (), self, context)
  | none, some timerId =>
    match ← self.takeTimedOut timerId with
    | (none, self) => return (.ok (), self, context)
    | (some nodeId, self) =>
      if contains context.routingTable nodeId then
        match ← extractEligibleViaContacts context nodeId 1 with
        | (some closestViaContacts, context) =>
          match closestViaContacts.getLast? with
          | some nextViaContactId =>
            sendNextRequest debug clock draws self context nodeId nextViaContactId
          | none => return (.ok (), self, context)
        | (none, context) => nextRound debug clock draws self context nodeId
      else return (.ok (), self, context)

/-! ### Neighbours that are gone -/

/-- The neighbours that are reached over a connection. -/
def affectedUnderlayNeighbors (context : UseCaseContext T) (ulnid : UnderlayNeighborId) :
    List NodeId :=
  (context.ulnTable.map.entries.filter fun entry ↦ entry.2.1 = ulnid).map fun entry ↦ entry.1

/-- The contact becomes invalid if its path begins with one of these neighbours. -/
def invalidateAffected (clock : Readings) (rootId : NodeId) (affected : List NodeId)
    (contact : Contact) : Contact :=
  match contact.path with
  | some activePath =>
    if affected.contains activePath.first then
      contact.setInvalid (clock.part 1).clock
        (.singleton ⟨.new rootId activePath.first, (clock.part 0).now⟩)
    else contact
  | none => contact

def invalidateAffectedContacts (clock : Readings) (context : UseCaseContext T)
    (ulnid : UnderlayNeighborId) : Run (UseCaseContext T) :=
  let affected := affectedUnderlayNeighbors context ulnid
  let context := context.iterMut fun contact ↦
    invalidateAffected (clock.part contact.id.toNat) context.rootId affected contact
  affected.foldlM (fun context neighbor ↦ context.ulnRemove neighbor) context

/-! ### Events -/

def handleEvent (debug : Bool) (clock : Readings) (draws : Draws) (self : FailureHandling)
    (context : UseCaseContext T) :
    UseCaseEvent → Run (Except FailureHandlingError Unit × FailureHandling × UseCaseContext T)
  | .contact (.updated new old) =>
    if new.id = old.id then
      if new.isDead then return (.ok (), self, context.removeContact new.id)
      else if new.isInvalid && old.isValid then
        self.startRediscovery debug clock draws context new
      else return (.ok (), self, context)
    else return (.ok (), self, context)
  | .contact (.removed contact) =>
    return (.ok (),
      { self with inflightRediscoveries := self.inflightRediscoveries.removeById contact.id },
      context)
  | .message (.findNodeRsp rsp) _ => do
    let (_, inflight) ← self.inflightRediscoveries.removeByNonce rsp.commonHeader.msgId
    return (.ok (), { self with inflightRediscoveries := inflight }, context)
  | .message (.error rsp) _ =>
    let context := match rsp.data with
      | .segmentFailure failedLink _ =>
        invalidateContactsContainingLink (clock.part 0) context failedLink
      | _ => context
    self.handleRediscoveryFailure debug (clock.part 1) draws context (some rsp.commonHeader.msgId)
      none
  | .timer id =>
    match self.scheduledRediscoveries.lookup id with
    | some contactId => do
      let (self, context) ← sendRediscoveryForContact debug clock draws
        { self with scheduledRediscoveries := self.scheduledRediscoveries.erase id } context
        contactId
      return (.ok (), self, context)
    | none => self.handleRediscoveryFailure debug clock draws context none (some id)
  | .underlayUpdate (.underlayNeighborDown ulnid) => do
    let context ← invalidateAffectedContacts clock context ulnid
    return (.ok (), self, context)
  | _ => return (.ok (), self, context)

/-! ## What the beginning of a rediscovery does -/

variable [LawfulRoutingTable T k] {debug : Bool} {clock : Readings} {draws : Draws}
  {self self' : FailureHandling} {context context' : UseCaseContext T}

omit [CloseContacts T] [LawfulRoutingTable T k] in
theorem sameState_sendUpdates {unreachable : Contact} {notviastateList : NotViaStateList}
    (h : sendUpdates clock draws self context unreachable notviastateList = .ok context') :
    context.SameState context' := by
  obtain ⟨answer, -, h⟩ := of_bind h
  cases answer with
  | error err => cases h
  | ok neighbors =>
    refine foldlM_invariant (fun neighbor _ mid mid' hmid hsend ↦ ?_) (.refl context) h
    obtain ⟨notVia, -, hsend⟩ := of_bind hsend
    obtain ⟨path, -, hsend⟩ := of_bind hsend
    exact hmid.trans (UseCaseContext.sameState_sendMessage hsend)

/-- The contact that is stored under this id is being rediscovered from now on, and the first round
is due. -/
structure Started (debug : Bool) (before : FailureHandling) (context : UseCaseContext T)
    (contactId : NodeId) (after : FailureHandling) (context' : UseCaseContext T) : Prop where
  contacts : ∃ stored notviastateList via wait,
    contact context.routingTable contactId = some stored ∧
      context'.routingTable = LawfulRoutingTable.write context.routingTable contactId
        (stored.startRediscovering notviastateList via before.config.maxRetryRounds wait)
  timers : ∃ timerId wait,
    context.runtime.registerTimer debug wait = .ok (timerId, context'.runtime) ∧
      after = { before with
        scheduledRediscoveries := before.scheduledRediscoveries.insert timerId contactId }
  ulnTable : context'.ulnTable = context.ulnTable

theorem startRediscovery_cases {invalid : Contact} {notviastateList : NotViaStateList}
    {res : Except FailureHandlingError Unit} (hstate : invalid.state = .invalid notviastateList)
    (h : startRediscovery debug clock draws self context invalid = .ok (res, self', context')) :
    res = .ok () ∧ Started debug self context invalid.id self' context' := by
  unfold startRediscovery at h
  simp only [hstate] at h
  obtain ⟨told, htold, h⟩ := of_bind h
  have hsame : context.SameState told := by
    split at htold
    · exact sameState_sendUpdates htold
    · cases htold
      exact .refl context
  obtain ⟨answer, -, h⟩ := of_bind h
  cases answer with
  | error err => cases h
  | ok via =>
    obtain ⟨⟨a, written⟩, hmut, h⟩ := of_bind h
    rcases UseCaseContext.contactMut_cases hmut with
      ⟨-, rfl, -⟩ | ⟨stored, u, stored', hc, hf, rfl, rfl⟩
    · cases h
    · obtain ⟨⟨scheduled, timed⟩, hsched, h⟩ := of_bind h
      obtain ⟨⟨timerId, timed'⟩, hreg, hsched⟩ := of_bind hsched
      cases hsched
      obtain ⟨runtime, hruntime, rfl⟩ := UseCaseContext.registerTimer_cases hreg
      cases h
      cases hf
      rw [hsame.routingTable] at hc
      refine ⟨rfl, ⟨⟨stored, notviastateList, via.map fun via ↦ via.2.id,
        getRediscoveryWaitTime told invalid, hc, ?_⟩,
        ⟨timerId, getRediscoveryWaitTime told invalid, ?_, rfl⟩, hsame.ulnTable⟩⟩
      · rw [← hsame.routingTable]
        rfl
      · rw [← hsame.runtime]
        exact hruntime

end FailureHandling

end Kira
