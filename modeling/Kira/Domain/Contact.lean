import Kira.Domain.Path

/-!
# Contacts

A `Contact` is what a routing table stores of another node: its id, the paths to it, its state, the
state sequence number the information carries and the time it was last heard of.

The program compares contacts, and parts of them, with equalities of its own: broken links without
their timestamps, path collections by ids only.  Those are the functions named `eq` here.  They
decide what an observer of the table gets to see, and are kept apart from the equality of Lean.

`assessPathCandidateAndUpdate` is the one place where a stored contact takes over a new path;
`assess_cases` says everything it can do.
-/

set_option autoImplicit false

namespace Kira

open Run

/-! ## Broken links -/

/-- An undirected link: the smaller id comes first. -/
structure Link where
  first : NodeId
  second : NodeId
  sorted : first.toNat ≤ second.toNat
  deriving DecidableEq

def Link.new (first second : NodeId) : Link :=
  if h : first.toNat < second.toNat then ⟨first, second, Nat.le_of_lt h⟩
  else ⟨second, first, Nat.le_of_not_lt h⟩

def Link.contains (self : Link) (nodeId : NodeId) : Bool :=
  self.first == nodeId || self.second == nodeId

/-- Whether two nodes that follow each other on the path are the ends of the link. -/
def Path.containsLink (self : Path) (link : Link) : Bool :=
  (self.ids.zip (self.ids.drop 1)).any fun (first, second) ↦
    (first == link.first && second == link.second) || (first == link.second && second == link.first)

/-- A path contains the link between two nodes that follow each other on it, in either direction. -/
theorem Path.containsLink_of_infix {path : Path} {a b : NodeId} (h : [a, b] <:+: path.ids) :
    path.containsLink (Link.new a b) = true := by
  obtain ⟨before, after, hids⟩ := h
  have hmem : (a, b) ∈ path.ids.zip (path.ids.drop 1) := by
    rw [← hids]
    clear hids
    induction before with
    | nil => simp
    | cons x before ih =>
      cases before with
      | nil => simp
      | cons y before => exact List.mem_cons_of_mem _ ih
  refine List.any_eq_true.2 ⟨(a, b), hmem, ?_⟩
  dsimp only
  unfold Link.new
  split <;> simp

/-- A broken link and when it was found to be broken. -/
structure NotViaState where
  link : Link
  timestamp : Timestamp
  deriving DecidableEq

/-- A set of broken links; two entries for one link are the same element. -/
structure NotViaStateList where
  nvsList : List NotViaState
  /-- At most one entry for a link. -/
  nodup : (nvsList.map NotViaState.link).Nodup
  deriving DecidableEq

namespace NotViaStateList

def empty : NotViaStateList := ⟨[], List.nodup_nil⟩

def singleton (nvs : NotViaState) : NotViaStateList := ⟨[nvs], by simp⟩

def insert (self : NotViaStateList) (nvs : NotViaState) : NotViaStateList :=
  if h : nvs.link ∈ self.nvsList.map NotViaState.link then self
  else ⟨nvs :: self.nvsList, List.nodup_cons.2 ⟨h, self.nodup⟩⟩

def eq (self other : NotViaStateList) : Bool :=
  self.nvsList.length == other.nvsList.length &&
    self.nvsList.all fun nvs ↦ (other.nvsList.map NotViaState.link).contains nvs.link

@[simp] theorem eq_refl (self : NotViaStateList) : self.eq self = true := by
  simp only [eq, beq_self_eq_true, Bool.true_and, List.all_eq_true, List.contains_iff_mem]
  exact fun nvs h ↦ List.mem_map_of_mem h

end NotViaStateList

/-! ## States -/

structure ExponentialBackoff where
  base : Nat
  maxRetries : Nat
  currentRetries : Nat
  startDuration : Nat
  randomize : Bool
  limit : Bool
  deriving DecidableEq

def ExponentialBackoff.newRandom (base maxRetries startDuration : Nat) : ExponentialBackoff :=
  { base := base, maxRetries := maxRetries, currentRetries := 0, startDuration := startDuration
    randomize := true, limit := false }

/-- The progress of the search for a new path. -/
structure RediscoveryState where
  notviastateList : NotViaStateList
  /-- The contacts to ask, next one last. -/
  revViaContactList : List NodeId
  backoff : ExponentialBackoff
  deriving DecidableEq

namespace RediscoveryState

def new (notviastateList : NotViaStateList) (viaContactList : List NodeId)
    (maxRetries startDuration : Nat) : RediscoveryState :=
  { notviastateList := notviastateList
    revViaContactList := viaContactList.reverse
    backoff := .newRandom 2 maxRetries startDuration }

/-- The contacts to ask, next one first. -/
def getViaContactList (self : RediscoveryState) : List NodeId := self.revViaContactList.reverse

def dropFromNextViaContactId (len : Nat) (self : RediscoveryState) : RediscoveryState :=
  if len ≤ self.revViaContactList.length then
    { self with
      revViaContactList := self.revViaContactList.take (self.revViaContactList.length - len) }
  else self

def setViaContactList (viaContactList : List NodeId) (self : RediscoveryState) :
    Run RediscoveryState := do
  assert self.revViaContactList.isEmpty
    "assertion failed: self.rev_via_contact_list.is_empty()"
  return { self with revViaContactList := viaContactList.reverse }

@[simp] theorem dropFromNextViaContactId_backoff (len : Nat) (self : RediscoveryState) :
    (self.dropFromNextViaContactId len).backoff = self.backoff := by
  unfold dropFromNextViaContactId
  split <;> rfl

theorem setViaContactList_backoff {viaContactList : List NodeId} {self self' : RediscoveryState}
    (h : self.setViaContactList viaContactList = .ok self') : self'.backoff = self.backoff := by
  obtain ⟨-, -, h⟩ := of_bind h
  cases h
  rfl

/-- Adds a broken link.  Its time is handed over as an age in milliseconds and turned back into an
instant, so the two readings of the clock and the rounding show in it. -/
def addNotvia (sent received : Timestamp) (self : RediscoveryState) (nvs : NotViaState) :
    RediscoveryState :=
  { self with
    notviastateList := self.notviastateList.insert
      { nvs with timestamp := received - nvs.timestamp.toAge sent * 1000000 } }

def eq (self other : RediscoveryState) : Bool :=
  self.notviastateList.eq other.notviastateList &&
    self.revViaContactList == other.revViaContactList && self.backoff == other.backoff

@[simp] theorem eq_refl (self : RediscoveryState) : self.eq self = true := by
  simp [eq]

end RediscoveryState

/-- Whether a contact can be used. -/
inductive ContactState where
  /-- Heard of from another node. -/
  | unknown
  | valid
  | invalid (links : NotViaStateList)
  | rediscovering (rds : RediscoveryState)
  | dead
  deriving DecidableEq

namespace ContactState

def eq : ContactState → ContactState → Bool
  | unknown, unknown => true
  | valid, valid => true
  | invalid a, invalid b => a.eq b
  | rediscovering a, rediscovering b => a.eq b
  | dead, dead => true
  | _, _ => false

@[simp] theorem eq_refl (self : ContactState) : self.eq self = true := by
  cases self <;> simp [eq]

end ContactState

/-- A state sequence number that is neither the invalid one nor the reset signal. -/
structure SafeStateSeqNr where
  val : Nat
  pos : 0 < val
  lt : val < 2 ^ 32 - 1

def SafeStateSeqNr.MIN : SafeStateSeqNr := ⟨1, Nat.one_pos, by decide⟩

theorem SafeStateSeqNr.eq_of_val {ssn other : SafeStateSeqNr} (h : ssn.val = other.val) :
    ssn = other := by
  cases ssn
  cases other
  cases h
  rfl

instance : DecidableEq SafeStateSeqNr := fun ssn other ↦
  decidable_of_iff (ssn.val = other.val) ⟨SafeStateSeqNr.eq_of_val, congrArg SafeStateSeqNr.val⟩

/-- A state sequence number as it is sent: two of its values have a special meaning. -/
inductive StateSeqNr where
  | invalid
  | reset
  | value (ssn : SafeStateSeqNr)
  deriving DecidableEq

def StateSeqNr.ofNat (n : Nat) : StateSeqNr :=
  if h : 0 < n ∧ n < 2 ^ 32 - 1 then .value ⟨n, h.1, h.2⟩
  else if n = 0 then .invalid
  else .reset

/-- Adds to a number; on overflow it is reset. -/
def SafeStateSeqNr.add (self : SafeStateSeqNr) (rhs : Nat) : StateSeqNr :=
  .ofNat (min (self.val + rhs) (2 ^ 32 - 1))

def StateSeqNr.toOption : StateSeqNr → Option SafeStateSeqNr
  | .value ssn => some ssn
  | _ => none

theorem SafeStateSeqNr.add_one_eq_some {ssn ssn' : SafeStateSeqNr}
    (h : (ssn.add 1).toOption = some ssn') : ssn'.val = ssn.val + 1 := by
  unfold add StateSeqNr.ofNat at h
  have hlt := ssn.lt
  split at h
  · cases h
    show min (ssn.val + 1) (2 ^ 32 - 1) = _
    omega
  · split at h
    · simp [StateSeqNr.toOption] at h
    · simp [StateSeqNr.toOption] at h

/-! ## Contacts -/

/-- A node that is known, with the paths to it. -/
structure Contact where
  destId : NodeId
  state : ContactState
  lastSeen : Timestamp
  pathCollection : PathCollection
  stateSeqNr : SafeStateSeqNr
  deriving DecidableEq

namespace Contact

/-- A contact reached by `path`, just heard of. -/
def new (now : Timestamp) (path : Path) (stateSeqNr : SafeStateSeqNr) : Contact :=
  { destId := path.last
    state := .valid
    lastSeen := now
    pathCollection := .newWithActivePath path
    stateSeqNr := stateSeqNr }

/-- A contact on a fixed path, heard of at the start of the clock. -/
def ofIds (ids : List NodeId) (h : ids ≠ []) (stateSeqNr : SafeStateSeqNr) : Contact :=
  .new 0 (.ofIds ids h) stateSeqNr

def id (self : Contact) : NodeId := self.destId

def path (self : Contact) : Option Path := self.pathCollection.activePath

def proposedPath (self : Contact) : Option Path := self.pathCollection.proposedPath

def setPath (newPath : Path) (self : Contact) : Contact :=
  { self with pathCollection := self.pathCollection.setActivePath newPath }

def setState (contactState : ContactState) (self : Contact) : Contact :=
  { self with state := contactState }

def isValid (self : Contact) : Bool := self.state == .valid

def isDead (self : Contact) : Bool := self.state == .dead

def isInvalid (self : Contact) : Bool :=
  match self.state with
  | .invalid _ => true
  | _ => false

/-- Whether the first hop of the active path is an end of a link that is known to be broken. -/
def hasBrokenFirstHop (self : Contact) : Bool :=
  let broken (links : NotViaStateList) : Bool :=
    match self.path with
    | some path => links.nvsList.any fun nvs ↦ nvs.link.contains path.first
    | none => false
  match self.state with
  | .invalid links => broken links
  | .rediscovering rds => broken rds.notviastateList
  | _ => false

/-- An underlay neighbour: the active path is a single hop. -/
def isUln (self : Contact) : Bool :=
  match self.path with
  | some path => path.size == 1
  | none => false

/-- Which of two contacts carries the newer information: the larger sequence number, then the
smaller age.  The two ages are read off the clock one after the other. -/
def cmpActuality (nowSelf nowOther : Timestamp) (self other : Contact) : Ordering :=
  match compare self.stateSeqNr.val other.stateSeqNr.val,
    compare (self.lastSeen.toAge nowSelf) (other.lastSeen.toAge nowOther) with
  | .gt, _ => .gt
  | .lt, _ => .lt
  | .eq, ageOrdering => ageOrdering.swap

def isOlderThan (nowSelf nowOther : Timestamp) (self other : Contact) : Bool :=
  self.cmpActuality nowSelf nowOther other == .lt

/-- The equality of contacts: structural, except that states and path collections are compared with
their own equality. -/
def eq (self other : Contact) : Bool :=
  self.destId == other.destId && self.state.eq other.state && self.lastSeen == other.lastSeen &&
    self.pathCollection.eq other.pathCollection && self.stateSeqNr == other.stateSeqNr

/-- The active path is broken.  `clock` gives the readings of the clock during the call. -/
def setInvalid (clock : Nat → Timestamp) (notviastateList : NotViaStateList) (self : Contact) :
    Contact :=
  let state : ContactState :=
    match self.state with
    | .invalid existing => .invalid (notviastateList.nvsList.foldl .insert existing)
    | .rediscovering rds =>
      .rediscovering (notviastateList.nvsList.zipIdx.foldl
        (fun rds nvs ↦ rds.addNotvia (clock (2 * nvs.2 + 2)) (clock (2 * nvs.2 + 3)) nvs.1) rds)
    | _ => .invalid notviastateList
  { self with
    state := state
    lastSeen := ((notviastateList.nvsList.map NotViaState.timestamp).max?).getD (clock 0)
    pathCollection := { self.pathCollection with
      activePath := self.pathCollection.activePath.map (Path.invalidate (clock 1)) } }

def startRediscovering (notviastateList : NotViaStateList) (viaContactList : List NodeId)
    (maxRetries startDuration : Nat) (self : Contact) : Contact :=
  { self with
    state := .rediscovering (.new notviastateList viaContactList maxRetries startDuration) }

/-- Changes the state of a contact that is being rediscovered. -/
def whileRediscovering (f : RediscoveryState → ContactState) (contact : Contact) : Contact :=
  match contact.state with
  | .rediscovering rds => contact.setState (f rds)
  | _ => contact

/-- Whether a path is worth considering in the contact's present state. -/
def pathSuitable (order : PathOrder) (pathCandidate : Path) (self : Contact) : Run Bool :=
  match self.state with
  | .unknown => return true
  | .invalid _ => return true
  | .valid => do
    let activePath ← expect self.pathCollection.activePath
      "Valid contact should never have an unset active path"
    return pathCandidate.isBetterThan order activePath
  | .rediscovering _ => return true
  | .dead => return false

/-- Whether a path that has not been validated replaces the one proposed so far. -/
def shouldSetProposedPath (order : PathOrder) (pathCandidate : Path) (self : Contact) : Bool :=
  match self.pathCollection.proposedPath with
  | some currentProposedPath => pathCandidate.isBetterThan order currentProposedPath
  | none => true

/-- Takes over `pathCandidate` if it improves on what the contact has: as the active path if it
has been validated, otherwise as the proposed one.  Returns whether it was taken. -/
def assessPathCandidateAndUpdate (order : PathOrder) (now : Timestamp) (pathCandidate : Path)
    (self : Contact) : Run (Bool × Contact) := do
  if !(← self.pathSuitable order pathCandidate) then
    return (false, self)
  if pathCandidate.isValid then
    match self.pathCollection.proposedPath with
    | some proposedPath =>
      if pathCandidate.isSamePathAs proposedPath then
        let pathCollection ← self.pathCollection.setProposedToActive now
        return (true, { self with pathCollection := pathCollection, state := .valid })
      else
        return (true, { self with
          pathCollection := self.pathCollection.setActivePath pathCandidate, state := .valid })
    | none =>
      return (true, { self with
        pathCollection := self.pathCollection.setActivePath pathCandidate, state := .valid })
  else
    if self.shouldSetProposedPath order pathCandidate then
      return (true, { self with
        pathCollection := self.pathCollection.setProposedPath pathCandidate })
    else
      return (false, self)

/-! ### What an update can do -/

@[simp] theorem new_id (now : Timestamp) (path : Path) (ssn : SafeStateSeqNr) :
    (Contact.new now path ssn).id = path.last := rfl

@[simp] theorem setPath_id (path : Path) (self : Contact) : (self.setPath path).id = self.id := rfl

@[simp] theorem setPath_stateSeqNr (path : Path) (self : Contact) :
    (self.setPath path).stateSeqNr = self.stateSeqNr := rfl

@[simp] theorem setPath_path (path : Path) (self : Contact) :
    (self.setPath path).path = some path := rfl

@[simp] theorem setPath_state (path : Path) (self : Contact) :
    (self.setPath path).state = self.state := rfl

@[simp] theorem setState_id (st : ContactState) (self : Contact) :
    (self.setState st).id = self.id := rfl

@[simp] theorem setState_path (st : ContactState) (self : Contact) :
    (self.setState st).path = self.path := rfl

@[simp] theorem startRediscovering_id (nvs : NotViaStateList) (via : List NodeId)
    (retries start : Nat) (self : Contact) :
    (self.startRediscovering nvs via retries start).id = self.id := rfl

@[simp] theorem setInvalid_id (clock : Nat → Timestamp) (nvs : NotViaStateList) (self : Contact) :
    (self.setInvalid clock nvs).id = self.id := rfl

@[simp] theorem setInvalid_isValid (clock : Nat → Timestamp) (nvs : NotViaStateList)
    (self : Contact) : (self.setInvalid clock nvs).isValid = false := by
  simp only [isValid, setInvalid, beq_eq_false_iff_ne]
  cases self.state <;> simp

theorem setInvalid_path (clock : Nat → Timestamp) (nvs : NotViaStateList) (self : Contact) :
    (self.setInvalid clock nvs).path = self.path.map (Path.invalidate (clock 1)) := rfl

theorem isValid_iff (self : Contact) : self.isValid = true ↔ self.state = .valid := by
  simp [isValid]

theorem isInvalid_iff (self : Contact) :
    self.isInvalid = true ↔ ∃ nvs, self.state = .invalid nvs := by
  unfold isInvalid
  cases self.state <;> simp

theorem isUln_iff (self : Contact) :
    self.isUln = true ↔ ∃ path, self.path = some path ∧ path.size = 1 := by
  unfold isUln
  cases self.path <;> simp

/-- The outcome of an update.  An update that takes nothing over leaves the contact as it was; one
that takes a validated path over makes the contact valid on that path; one that takes another path
over only proposes it. -/
inductive Assessed (pathCandidate : Path) (self : Contact) : Bool → Contact → Prop
  | rejected : Assessed pathCandidate self false self
  | activated {self' : Contact} {active : Path} (hstate : self.state ≠ .dead)
      (hvalid : pathCandidate.isValid = true) (hpath : self'.path = some active)
      (hids : active.ids = pathCandidate.ids) (hactive : active.pathState = .valid)
      (hself : self' = { self with pathCollection := self'.pathCollection, state := .valid })
      (hproposed : self'.proposedPath = self.proposedPath ∨ self'.proposedPath = none) :
      Assessed pathCandidate self true self'
  | proposed (hstate : self.state ≠ .dead) (hvalid : pathCandidate.isValid = false) :
      Assessed pathCandidate self true
        { self with pathCollection := self.pathCollection.setProposedPath pathCandidate }

variable {pathCandidate : Path} {self self' : Contact} {order : PathOrder}

theorem pathSuitable_not_dead
    (h : self.pathSuitable order pathCandidate = .ok true) : self.state ≠ .dead := by
  intro hdead
  simp [pathSuitable, hdead] at h

theorem suitable_of_assess {now : Timestamp}
    (h : self.assessPathCandidateAndUpdate order now pathCandidate = .ok (true, self')) :
    self.pathSuitable order pathCandidate = .ok true := by
  obtain ⟨suitable, hs, h⟩ := of_bind h
  cases suitable with
  | false => simp at h
  | true => exact hs

/-- **Everything an update can do.** -/
theorem assess_cases {now : Timestamp} {taken : Bool}
    (h : self.assessPathCandidateAndUpdate order now pathCandidate = .ok (taken, self')) :
    Assessed pathCandidate self taken self' := by
  obtain ⟨suitable, hs, h⟩ := of_bind h
  cases suitable with
  | false =>
    cases h
    exact .rejected
  | true =>
    have hdead := pathSuitable_not_dead hs
    simp only [Bool.not_true, Bool.false_eq_true, if_false] at h
    by_cases hv : pathCandidate.isValid = true
    · have hactive : pathCandidate.pathState = .valid := by simpa [Path.isValid] using hv
      rw [if_pos hv] at h
      split at h
      · rename_i proposedPath hp
        split at h
        · rename_i hsame
          obtain ⟨pc, active, hpc, hact, hids, hstate, hnone⟩ :=
            PathCollection.setProposedToActive_spec hp now
          rw [hpc] at h
          cases h
          have hsame' : pathCandidate.ids = proposedPath.ids := by
            simpa [Path.isSamePathAs] using hsame
          exact .activated hdead hv hact (hids.trans hsame'.symm) hstate rfl (.inr hnone)
        · cases h
          exact .activated hdead hv rfl rfl hactive rfl (.inl rfl)
      · cases h
        exact .activated hdead hv rfl rfl hactive rfl (.inl rfl)
    · rw [if_neg hv] at h
      split at h
      · cases h
        exact .proposed hdead (by simpa using hv)
      · cases h
        exact .rejected

theorem Assessed.id_eq {taken : Bool}
    (h : Assessed pathCandidate self taken self') : self'.id = self.id := by
  cases h with
  | rejected | proposed => rfl
  | activated _ _ _ _ _ hself => rw [hself]; rfl

theorem Assessed.stateSeqNr_eq {taken : Bool}
    (h : Assessed pathCandidate self taken self') : self'.stateSeqNr = self.stateSeqNr := by
  cases h with
  | rejected | proposed => rfl
  | activated _ _ _ _ _ hself => rw [hself]

end Contact

end Kira
