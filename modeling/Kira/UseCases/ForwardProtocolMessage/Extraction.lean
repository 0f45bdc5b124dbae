import Kira.Domain.InsertionStrategy
import Kira.UseCases.Context
import Kira.UseCases.ForwardProtocolMessage

/-!
# Learning from messages

Before a message is passed on or handed to the other use cases, the node learns from it.  First come
the broken links that it reports: a contact becomes invalid if its path has one of them and was
validated before the link broke.  Then comes the source, which can be reached on the way back; that
path has just been travelled, so it is valid.  What the message says about third nodes comes last:
their paths go on from the path to the source, and they have to be validated first.

Each of these steps is reported to the other use cases, but the reports wait until the whole message
has been dealt with.

A message that has gone astray is not learned from: its route has to have arrived here, from a node
that is an underlay neighbour now.
-/

set_option autoImplicit false

namespace Kira

open Run RoutingTable

/-- The time that was this long ago. -/
def Timestamp.ofAge (now : Timestamp) (age : Age) : Timestamp := now - age.toNat * 1000000

theorem Timestamp.lt_ofAge_iff {now time : Timestamp} {age : Age} :
    time < ofAge now age ↔ time + age.toNat * 1000000 < now :=
  Nat.lt_sub_iff_add_lt

namespace ForwardProtocolMessage

inductive ForwardingError where
  | fwdErrIgnore
  | fwdErrDropMessage
  deriving DecidableEq

variable {T : Type} {k : Nat} [RoutingTable T k]

/-- What the insertion strategy is given. -/
def strategyContext (order : PathOrder) (clock : Readings) (ulnTable : InMemoryULNTable) :
    UNSStrategy.Context where
  order := order
  ulnContains := ulnTable.contains
  validated := clock.clock 0
  ageContact := clock.clock 1
  ageExisting := clock.clock 2
  promoted := clock.clock 3

/-- Attempts to insert the contact, which may create an entry, update one, or do nothing. -/
def updateContact (order : PathOrder) (clock : Readings) (context : UseCaseContext T)
    (contact : Contact) : Run (UseCaseContext T) := do
  if contact.id = context.rootId then return context
  else
    let (result, observed) ← UNSStrategy.insert
      (strategyContext order clock context.ulnTable) contact
      (ObservableRoutingTable.ofTable context.routingTable)
    let context := context.withTable observed
    match result with
    | .needsValidation => return context.broadcastEvent (.contact (.proposed contact))
    | .dropped => return context
    | .inserted | .replaced _ | .updated =>
      let isUln :=
        ((RoutingTable.contact context.routingTable contact.id).map Contact.isUln).getD false
      if context.ulnTable.contains contact.id && !isUln then context.ulnRemove contact.id
      else return context

/-! ## The source -/

/-- The way back to the source.  Only the part of the route that has been travelled is trusted. -/
def extractPathToSource (clock : Readings) (message : ProtocolMessage) : Run Path := do
  match message.sourceRoute with
  | none => return (Path.ofIds [message.source] (by simp)).reverse.setValid clock.now
  | some route =>
    let path ← route.traveledPath
    return path.reverse.setValid clock.now

/-- Whether the message is part of how underlay neighbours get to know each other. -/
def isULNDisc : ProtocolMessage → Bool
  | .ulnDiscReq _ => true
  | .ulnDiscRsp _ => true
  | _ => false

/-- Learns the source.  Other messages than those between neighbours have to come from one. -/
def extractSourceInformation (order : PathOrder) (clock : Readings) (context : UseCaseContext T)
    (message : ProtocolMessage) : Run (Except ForwardingError Contact × UseCaseContext T) := do
  match message with
  | .ulnHello _ => return (.error .fwdErrIgnore, context)
  | message =>
    let path ← extractPathToSource (clock.part 0) message
    match message.commonHeader.stateSeqNum with
    | .reset => .panic "not yet implemented: implement reset of StateSeqNr"
    | .invalid => return (.error .fwdErrIgnore, context)
    | .value ssn =>
      let path := path.setValid (clock.clock 1)
      let contact := Contact.new (clock.clock 2) path ssn
      if path.first = context.rootId then return (.error .fwdErrDropMessage, context)
      else if !isULNDisc message && !context.ulnTable.contains path.first then
        return (.error .fwdErrDropMessage, context)
      else
        let context ← updateContact order (clock.part 3) context contact
        return (.ok contact, context)

/-! ## What the message says about others -/

def pathToReported (pathToSource : Path) (reportedContact : Contact) : Path :=
  match reportedContact.path with
  | some reported => pathToSource.extend reported
  | none => pathToSource

def extractReported (order : PathOrder) (clock : Readings) (pathToSource : Path)
    (context : UseCaseContext T) (reportedContact : Contact) : Run (UseCaseContext T) := do
  let path := pathToReported pathToSource reportedContact
  if path.contains context.rootId then return context
  else
    let path := path.removeCyclesInPlace.unsetLastValidated.setNotvalidated
    assert (reportedContact.id == path.last) "assertion `left == right` failed"
    updateContact order clock context (reportedContact.setPath path)

def extractRtableReqrsp (order : PathOrder) (clock : Readings) (context : UseCaseContext T)
    (rtable : RTableData) (pathToSource : Path) : Run (UseCaseContext T) :=
  rtable.contacts.zipIdx.foldlM (fun context reported ↦
    extractReported order (clock.part reported.2) pathToSource context reported.1) context

/-- The contact becomes invalid if its path has the link. -/
def invalidateFailed (clock : Readings) (failed : NotViaState) (contact : Contact) : Contact :=
  match contact.path with
  | some activePath =>
    if activePath.containsLink failed.link then contact.setInvalid clock.clock (.singleton failed)
    else contact
  | none => contact

def extractFailedContact (clock : Readings) (context : UseCaseContext T)
    (request : ReqRspMessage ErrorData) : UseCaseContext T :=
  match request.data with
  | .segmentFailure link _ =>
    if link.contains context.rootId then context
    else
      context.iterMut fun contact ↦
        invalidateFailed ((clock.part 1).part contact.id.toNat) ⟨link, (clock.part 0).now⟩ contact
  | .deadEnd => context
  | .routeFailureWrongHop _ _ => context

/-- One broken link, applied to a contact. -/
def applyNotVia (clock : Readings) (contact : Contact) (entry : NotVia) : Contact :=
  match contact.path with
  | some path =>
    match path.lastValidated with
    | some lastValidated =>
      if lastValidated < Timestamp.ofAge (clock.clock 0) entry.age &&
        path.containsLink entry.link then
        contact.setInvalid (clock.part 2).clock
          (.singleton ⟨entry.link, Timestamp.ofAge (clock.clock 1) entry.age⟩)
      else contact
    | none => contact
  | none => contact

/-- The broken links are applied one after the other to a contact that was valid before the first.
-/
def applyNotVias (clock : Readings) (notVia : List NotVia) (contact : Contact) : Contact :=
  if contact.isValid then
    notVia.zipIdx.foldl
      (fun contact entry ↦ applyNotVia (clock.part entry.2) contact entry.1) contact
  else contact

/-- Applies the reported links, except those of this node. -/
def extractNotViaData (clock : Readings) (context : UseCaseContext T) (newNotViaData : NotViaList) :
    UseCaseContext T :=
  let filtered := newNotViaData.entries.filter fun notVia ↦ !notVia.link.contains context.rootId
  context.iterMut fun contact ↦ applyNotVias (clock.part contact.id.toNat) filtered contact

/-- Whether the active path of a contact has the link. -/
def isReachedOver (link : Link) (contact : Contact) : Bool :=
  match contact.path with
  | some path => path.containsLink link
  | none => false

/-- What an update does to the contact that is stored. -/
def applyRouteUpdate (order : PathOrder) (clock : Readings) (sourceId : NodeId)
    (updatedContact : Contact) (newPath : Path) (context : UseCaseContext T) :
    RouteUpdateActionType → Run (UseCaseContext T)
  | .unreachable => do
    let directUlnLink := Link.new sourceId updatedContact.id
    let (found, context) ← context.contactMut updatedContact.id fun affected ↦
      if isReachedOver directUlnLink affected &&
          affected.isOlderThan (clock.clock 0) (clock.clock 1) updatedContact then
        .ok ((), affected.setInvalid (clock.part 3).clock
          (.singleton ⟨directUlnLink, clock.clock 2⟩))
      else .ok ((), affected)
    let _ ← expect found "contact should be present"
    return context
  | .announce | .change => do
    let (found, context) ← context.contactMut updatedContact.id fun old ↦
      old.assessPathCandidateAndUpdate order (clock.clock 0) newPath
    let _ ← unwrap found
    return context
  | .withDraw => return context
  | .other _ => return context

/-- One update of a route, by a source that is reached on the given path. -/
def handleUpdateRoute (order : PathOrder) (clock : Readings) (sourceId : NodeId)
    (pathToSourceContact : Path) (context : UseCaseContext T)
    (update : Contact × RouteUpdateActionType) : Run (UseCaseContext T) := do
  match contact context.routingTable update.1.id with
  | none => return context
  | some mycontact =>
    if mycontact.isUln then return context
    else
      match update.1.path with
      | none => return context
      | some path =>
        let newPath := pathToSourceContact.extend path
        if newPath.contains context.rootId then return context
        else
          let newPath := newPath.removeCyclesInPlace.setNotvalidated
          assert (update.1.id == newPath.last) "assertion `left == right` failed"
          applyRouteUpdate order clock sourceId update.1 newPath context update.2

def handleUpdateRoutes (order : PathOrder) (clock : Readings) (context : UseCaseContext T)
    (sourceId : NodeId) (routeUpdates : List (Contact × RouteUpdateActionType)) :
    Run (UseCaseContext T) := do
  match (contact context.routingTable sourceId).bind Contact.path with
  | none => return context
  | some pathToSourceContact =>
    routeUpdates.zipIdx.foldlM (fun context update ↦
      handleUpdateRoute order (clock.part update.2) sourceId pathToSourceContact context update.1)
      context

/-! ## A message -/

/-- What follows the source: the message may report contacts, failures or updates. -/
def extractData (order : PathOrder) (clock : Readings) (context : UseCaseContext T)
    (sourceContact : Contact) : ProtocolMessage → Run (UseCaseContext T)
  | .ulnDiscReq message | .ulnDiscRsp message => extractTable message.data
  | .queryRouteRsp message | .findNodeRsp message => extractTable message.data
  | .error message => return extractFailedContact clock context message
  | .updateRouteReq message =>
    handleUpdateRoutes order clock context message.sourceRoute.source message.contactActions
  | _ => return context
where
  extractTable (rtable : RTableData) : Run (UseCaseContext T) := do
    let path ← unwrap sourceContact.path
    extractRtableReqrsp order clock context rtable path

def extractMessageInfo (order : PathOrder) (clock : Readings) (context : UseCaseContext T)
    (message : ProtocolMessage) : Run (Except ForwardingError Unit × UseCaseContext T) := do
  let context := match message.notVia with
    | some notVia => extractNotViaData (clock.part 0) context notVia
    | none => context
  match ← extractSourceInformation order (clock.part 1) context message with
  | (.error err, context) => return (.error err, context)
  | (.ok sourceContact, context) =>
    let context ← extractData order (clock.part 2) context sourceContact message
    return (.ok (), context)

/-- Passes the message on, once it has been learned from. -/
def forward (context : UseCaseContext T) (message : ProtocolMessage) :
    Run (HandlingResult × UseCaseContext T) := do
  let (result, effects) ← handleForwarding context.rootId context.ulnTable message
  return (result, effects.foldl UseCaseContext.emit context)

def handleMessage (order : PathOrder) (clock : Readings) (context : UseCaseContext T)
    (message : ProtocolMessage) : Run (HandlingResult × UseCaseContext T) := do
  match ← extractMessageInfo order clock context message with
  | (.error .fwdErrDropMessage, context) => return (.handled, context)
  | (.error .fwdErrIgnore, context) => forward context message
  | (.ok (), context) => forward context message

def handleEvent (order : PathOrder) (clock : Readings) (context : UseCaseContext T) :
    UseCaseEvent → Run (HandlingResult × UseCaseContext T)
  | .message message _ => do
    match message.sourceRoute with
    | some sourceRoute =>
      if (← sourceRoute.currentHop) ≠ context.rootId then return (.handled, context)
      else if !context.ulnTable.contains (← sourceRoute.prevHop) then return (.handled, context)
      else handleMessage order clock context message
    | none => handleMessage order clock context message
  | _ => return (.notHandled, context)

end ForwardProtocolMessage

end Kira
