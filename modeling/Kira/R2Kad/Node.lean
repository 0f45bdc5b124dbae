import Kira.UseCases.FailureHandling
import Kira.UseCases.ForwardProtocolMessage.Extraction
import Kira.UseCases.HandleContactUpdate

/-!
# A node

An event passes through the use cases of a node in a fixed order.  Messages are learned from and
forwarded first; what has been forwarded, or is of no use, goes no further.  Changes of contacts are
passed on to other nodes, then failures are handled, and then the vicinity is kept up to date.  What
these use cases report meanwhile waits in the queue, behind the events that are there already.

These are the use cases that decide which contacts and underlay neighbours a node has, and they are
modelled as they are.  The others only touch what is shared in a few ways, the constructors of
`Act`: probing a path may change a contact, timers are registered, messages are sent, and two kinds
of events are raised.  Which of these acts happen, and when, is left open, and so are the readings
of the clock and random numbers.  Together they are an `Occurrence`.

Of the discovery of the vicinity only the table of underlay neighbours is modelled here.  The
vicinity graph is not, and neither is the handler's refusal to work on a greeting without a sequence
number; for these, see `VicinityDiscovery`.
-/

set_option autoImplicit false

namespace Kira

open RoutingTable

/-! ## What the other use cases do -/

/-- What probing a path does to a contact, through one guard. -/
inductive ProbeChange where
  | setInvalid (clock : Nat → Timestamp) (notviastateList : NotViaStateList)
  | clearProposedPath
  /-- The active path has been confirmed, and perhaps it was proposed as well. -/
  | confirmActive (now : Timestamp) (proposedToo : Bool)
  | confirmProposed (now : Timestamp)

def Contact.clearProposedPath (self : Contact) : Contact :=
  { self with pathCollection := { self.pathCollection with proposedPath := none } }

def ProbeChange.apply (contact : Contact) : ProbeChange → Contact
  | .setInvalid clock notviastateList => contact.setInvalid clock notviastateList
  | .clearProposedPath => contact.clearProposedPath
  | .confirmActive now proposedToo =>
    let confirmed := { contact with pathCollection := { contact.pathCollection with
      activePath := contact.pathCollection.activePath.map (Path.setValid now) } }
    -- the handler asserts that the path it confirms is valid
    if (contact.path.map Path.isValid).getD false then
      if proposedToo then confirmed.clearProposedPath else confirmed
    else contact
  | .confirmProposed now =>
    { contact with pathCollection := { contact.pathCollection with
      proposedPath := contact.pathCollection.proposedPath.map (Path.setValid now) } }

/-- What a use case that is not modelled does with what is shared. -/
inductive Act where
  | probe (id : NodeId) (change : ProbeChange)
  | registerTimer (duration : Duration)
  | registerPeriodicTimer (duration : Duration)
  | sendMessage (message : ProtocolMessage)
  | vicinityChanged
  | broadcastMessage (message : ProtocolMessage)

variable {T : Type} {k : Nat} [RoutingTable T k]

def Act.apply (debug : Bool) (context : UseCaseContext T) : Act → Run (UseCaseContext T)
  | .probe id change => do
    let (_, context) ← context.contactMut id fun contact ↦ .ok ((), change.apply contact)
    return context
  | .registerTimer duration => do
    let (_, context) ← context.registerTimer debug duration
    return context
  | .registerPeriodicTimer duration => do
    let (_, runtime) ← context.runtime.registerPeriodicTimer debug duration
    return { context with runtime := runtime }
  | .sendMessage message => context.sendMessage message
  | .vicinityChanged => return context.broadcastEvent (.vicinity .changed)
  | .broadcastMessage message => return context.broadcastEvent (.message message .ownNode)

/-! ## The table of underlay neighbours -/

namespace UnderlayNeighborDiscovery

/-- What the messages between neighbours do to the table. -/
def handleProtocolMessage (context : UseCaseContext T) (ulnid : UnderlayNeighborId) :
    ProtocolMessage → Run (UseCaseContext T)
  | .ulnHello commonHeader =>
    if commonHeader.srcNodeId = context.rootId then return context
    else if context.ulnTable.contains commonHeader.srcNodeId then return context
    else context.ulnOp (.insert commonHeader.srcNodeId ulnid)
  | .ulnDiscReq req => do
    let context ← context.ulnOp (.insert req.source ulnid)
    context.ulnOp (.confirm req.source ulnid)
  | .ulnDiscRsp rsp => context.ulnOp (.confirm rsp.source ulnid)
  | _ => return context

/-- Handles an event, with the interfaces that are up.  Messages from another interface, or from the
node itself, are ignored. -/
def handleEvent (interfaces : List Nat) (context : UseCaseContext T) :
    UseCaseEvent → Run (List Nat × UseCaseContext T)
  | .message message (.underlayNeighbor ulnid) =>
    if interfaces.contains ulnid.interfaceId then do
      let context ← handleProtocolMessage context ulnid message
      return (interfaces, context)
    else return (interfaces, context)
  | .underlayUpdate (.interfaceUp interfaceId) => return (interfaces.insert interfaceId, context)
  | .underlayUpdate (.interfaceDown interfaceId) =>
    return (interfaces.filter fun other ↦ other ≠ interfaceId, context)
  | _ => return (interfaces, context)

end UnderlayNeighborDiscovery

/-! ## Processing an event -/

/-- An instance of the protocol. -/
structure R2Kad (T : Type) where
  context : UseCaseContext T
  failureHandling : FailureHandling
  /-- The interfaces that the discovery of the vicinity knows to be up. -/
  interfaces : List Nat

/-- What is not decided by the node while it processes an event. -/
structure Occurrence where
  order : PathOrder
  clock : Readings
  draws : Draws
  nonces : Nat → Nonce
  /-- The acts of the use case that manages explicit paths. -/
  before : List Act
  /-- Whether that use case keeps the event from the others. -/
  intercepted : Bool
  /-- The acts that come before changes of contacts are handled. -/
  between : List Act
  /-- The acts that come before the vicinity is kept up to date. -/
  amid : List Act
  after : List Act

/-- The messages about explicit paths are the only ones that can be intercepted. -/
def UseCaseEvent.isPathManagement : UseCaseEvent → Bool
  | .message (.pathSetupReq _) _ => true
  | .message (.pathTeardownReq _) _ => true
  | _ => false

namespace R2Kad

variable [CloseContacts T]

/-- The context in which failures are handled, unless the event does not get that far. -/
def untilFailureHandling (debug : Bool) (occurrence : Occurrence) (node : R2Kad T)
    (event : UseCaseEvent) : Run (Bool × UseCaseContext T) := do
  let context ← runAll (Act.apply debug) node.context occurrence.before
  if occurrence.intercepted && event.isPathManagement then return (false, context)
  else
    match ← ForwardProtocolMessage.handleEvent occurrence.order (occurrence.clock.part 0) context
        event with
    | (.handled, context) => return (false, context)
    | (.notHandled, context) =>
      let context ← runAll (Act.apply debug) context occurrence.between
      let context ← HandleContactUpdate.handleEvent .default (occurrence.clock.part 1)
        occurrence.nonces context event
      return (true, context)

def processEvent (debug : Bool) (occurrence : Occurrence) (node : R2Kad T) (event : UseCaseEvent) :
    Run (R2Kad T) := do
  match ← node.untilFailureHandling debug occurrence event with
  | (false, context) => return { node with context := context }
  | (true, context) =>
    let (_, failureHandling, context) ← node.failureHandling.handleEvent debug
      (occurrence.clock.part 2) occurrence.draws context event
    let context ← runAll (Act.apply debug) context occurrence.amid
    let (interfaces, context) ← UnderlayNeighborDiscovery.handleEvent node.interfaces context event
    let context ← runAll (Act.apply debug) context occurrence.after
    return ⟨context, failureHandling, interfaces⟩

/-- What a node is given from outside. -/
inductive Input where
  | message (message : ProtocolMessage) (source : UnderlayNeighborId)
  | underlayUpdate (update : UnderlayNeighborUpdate)
  | injectMessage
  | api

def Input.toEvent : Input → UseCaseEvent
  | .message received source => .message received (.underlayNeighbor source)
  | .underlayUpdate update => .underlayUpdate update
  | .injectMessage => .injectMessage
  | .api => .api

/-- What its driver does with a node. -/
inductive Step where
  | input (input : Input) (occurrence : Occurrence)
  | timer (occurrence : Occurrence)
  | queued (occurrence : Occurrence)
  | setCurrentTime (now : Instant)

def step (debug : Bool) (node : R2Kad T) : Step → Run (R2Kad T)
  | .input input occurrence => node.processEvent debug occurrence input.toEvent
  | .timer occurrence => do
    match ← node.context.runtime.nextTimer debug with
    | (none, runtime) => return { node with context := { node.context with runtime := runtime } }
    | (some id, runtime) =>
      processEvent debug occurrence
        { node with context := { node.context with runtime := runtime } } (.timer id)
  | .queued occurrence =>
    match node.context.eventQueue with
    | [] => return node
    | event :: events =>
      processEvent debug occurrence
        { node with context := { node.context with eventQueue := events } } event
  | .setCurrentTime now =>
    return { node with context := { node.context with
      runtime := node.context.runtime.setCurrentTime now } }

/-- The event that the step makes the node process, unless it is a timer. -/
def nextEvent (node : R2Kad T) : Step → Option UseCaseEvent
  | .input input _ => some input.toEvent
  | .queued _ => node.context.eventQueue.head?
  | _ => none

def start (table : T) (startupTime : Instant) : R2Kad T where
  context :=
    { routingTable := table
      ulnTable := .new
      runtime := .withStartupTime startupTime
      eventQueue := []
      outputQueue := [] }
  failureHandling := .new .default
  interfaces := []

variable {debug : Bool} {table : T} {startupTime : Instant} {node : R2Kad T}

theorem reachable_of_steps (steps : List Step)
    (h : runAll (step debug) (start table startupTime) steps = .ok node) :
    Reachable (step debug) (fun _ _ ↦ True) (start table startupTime) node :=
  reachable_of_runAll steps h

/-! ### Simple occurrences -/

/-- The table of the node 0, which knows nobody yet. -/
def nodeZero : UnlimitedULNRoutingTable 20 1 := .new 0 Nat.one_pos one_lt_64

def quiet (now : Timestamp) : Occurrence where
  order := ⟨fun _ ↦ 0, 0⟩
  clock := fun _ ↦ now
  draws :=
    { nonce := fun j i ↦ .ofNat 64 (100 * j + i)
      rounds := 4
      unanswered := fun _ ↦ 0
      offset := 0 }
  nonces := fun _ ↦ 0
  before := []
  intercepted := false
  between := []
  amid := []
  after := []

/-- A neighbour makes itself known. -/
def greeting (id : NodeId) : ProtocolMessage :=
  .ulnDiscReq
    { commonHeader := .new .ulnDiscReq id 0 0 (.value .MIN) 1
      data := ⟨[]⟩ }

/-- A probe from the node 2 that has arrived at the end of its route. -/
def probeFromTwo (route : List NodeId) (hroute : 2 ≤ route.length) (notVia : Option NotViaList) :
    ProtocolMessage :=
  .probeReq
    { commonHeader := .new .probeReq 2 0 5 (.value .MIN) 1
      data := ⟨⟩
      notVia := notVia
      sourceRoute := ⟨route, route.length - 1, hroute⟩ }

/-- A probe from the node 2 through 1. -/
def probeOverOne : ProtocolMessage := probeFromTwo [2, 1, 0] (by decide) none

/-- The route from the node 1. -/
def fromOne : SourceRoute := ⟨[1, 0], 1, by decide⟩

/-- The node 2 is heard of through 3 and 1, and then through 1 alone. -/
def heardCloser : List Step :=
  [ .input (.underlayUpdate (.interfaceUp 1)) (quiet 1),
    .input (.message (greeting 1) ⟨1, 1⟩) (quiet 2), .queued (quiet 3), .queued (quiet 3),
    .input (.message (probeFromTwo [2, 3, 1, 0] (by decide) none) ⟨1, 1⟩) (quiet 6),
    .queued (quiet 7),
    .input (.message probeOverOne ⟨1, 1⟩) (quiet 8) ]

end R2Kad

end Kira
