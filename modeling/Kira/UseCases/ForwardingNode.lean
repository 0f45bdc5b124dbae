import Kira.Domain.InsertionStrategy
import Kira.UseCases.DeriveFwdTableEntries

/-!
# A node that forwards

`ForwardingNode` puts the routing table and the forwarding entries of a node together.  What happens
to it are operations on the table (`NodeOp`): insertions through the strategy, removals, and changes
of the contacts that are stored, made through a guard for one contact or for all of them.  After
each operation the events that the observable table has reported are handled by the use case that
derives the forwarding entries.

`Transition` collects what all changes have in common, and what the handler relies on: a dead
contact is never revived, and a valid one does not die at once.  Not every change is reported; but
one that is not leaves the route to the contact as it was (`guardDrop_cases`).
-/

set_option autoImplicit false

namespace Kira

open Run RoutingTable

/-- The ways in which the state of a stored contact is changed. -/
inductive StateChange where
  | setInvalid (clock : Nat → Timestamp) (notviastateList : NotViaStateList)
  | startRediscovering (notviastateList : NotViaStateList) (viaContactList : List NodeId)
      (maxRetries startDuration : Nat)
  /-- The search for a new path makes progress. -/
  | progress (f : RediscoveryState → RediscoveryState)
  | setDead

def StateChange.apply (contact : Contact) : StateChange → Contact
  | .setInvalid clock notviastateList => contact.setInvalid clock notviastateList
  | .startRediscovering notviastateList viaContactList maxRetries startDuration =>
    contact.startRediscovering notviastateList viaContactList maxRetries startDuration
  | .progress f => contact.whileRediscovering fun rds ↦ .rediscovering (f rds)
  | .setDead => contact.whileRediscovering fun _ ↦ .dead

/-- The contact after a change that may have been chosen for it. -/
def StateChange.applySelected (select : Contact → Option StateChange) (contact : Contact) :
    Contact :=
  match select contact with
  | some change => change.apply contact
  | none => contact

/-- What is done to the table of a node. -/
inductive NodeOp where
  | insert (call : UNSStrategy.Call)
  | remove (id : NodeId)
  | change (id : NodeId) (stateChange : StateChange)
  | changeAll (select : Contact → Option StateChange)
  | assess (id : NodeId) (order : PathOrder) (now : Timestamp) (pathCandidate : Path)

def NodeOp.apply {T : Type} {k : Nat} [RoutingTable T k] (t : T) : NodeOp → Run T
  | .insert call => call.apply t
  | .remove id => return (RoutingTable.remove t id).2
  | .change id stateChange => do
    let (_, t) ← contactMut t id fun c ↦ .ok ((), stateChange.apply c)
    return t
  | .changeAll select => return iterMut t (StateChange.applySelected select)
  | .assess id order now pathCandidate => do
    let (_, t) ← contactMut t id (Contact.assessPathCandidateAndUpdate order now pathCandidate)
    return t

/-- A routing table and the forwarding entries derived from it. -/
structure ForwardingNode (T : Type) where
  table : T
  fwd : DeriveFwdTableEntries

/-- A node with a table that has just been set up. -/
def ForwardingNode.start {T : Type} (table : T) : ForwardingNode T := ⟨table, .start⟩

def ForwardingNode.step {T : Type} {k : Nat} [RoutingTable T k] (cfg : FwdConfig)
    (node : ForwardingNode T) (op : NodeOp) : Run (ForwardingNode T) := do
  let observed ← op.apply (ObservableRoutingTable.ofTable node.table)
  let fwd ← node.fwd.handleEvents cfg observed.inner observed.events
  return ⟨observed.inner, fwd⟩

theorem ForwardingNode.step_cases {T : Type} {k : Nat} [RoutingTable T k] {cfg : FwdConfig}
    {node node' : ForwardingNode T} {op : NodeOp} (h : node.step cfg op = .ok node') :
    ∃ observed, op.apply (ObservableRoutingTable.ofTable node.table) = .ok observed ∧
      node'.table = observed.inner ∧
      node.fwd.handleEvents cfg node'.table observed.events = .ok node'.fwd := by
  obtain ⟨observed, hop, h⟩ := of_bind h
  obtain ⟨fwd, hfwd, h⟩ := of_bind h
  cases h
  exact ⟨observed, hop, rfl, hfwd⟩

/-! ## Changes of a contact -/

/-- What every change of a stored contact has in common. -/
structure Transition (old new : Contact) : Prop where
  id_eq : new.id = old.id
  hasPath : old.path.isSome = true → new.path.isSome = true
  known : old.state ≠ .unknown → new.state ≠ .unknown
  alive : new.state = .valid → old.state ≠ .dead
  notDead : old.state = .valid → new.state ≠ .dead

theorem Transition.refl (c : Contact) : Transition c c where
  id_eq := rfl
  hasPath := id
  known := id
  alive h := by simp [h]
  notDead h := by simp [h]

theorem Contact.whileRediscovering_cases (c : Contact) {f : RediscoveryState → ContactState}
    (hvalid : ∀ rds, f rds ≠ .valid) (hknown : ∀ rds, f rds ≠ .unknown) :
    c.whileRediscovering f = c ∨
      ((c.whileRediscovering f).state ≠ .valid ∧ Transition c (c.whileRediscovering f)) := by
  unfold whileRediscovering
  split
  · rename_i rds hstate
    exact .inr ⟨hvalid rds, rfl, fun h ↦ h, fun _ ↦ hknown rds, by simp [hstate], by simp [hstate]⟩
  · exact .inl rfl

theorem StateChange.apply_cases (c : Contact) (change : StateChange) :
    change.apply c = c ∨
      ((change.apply c).state ≠ .valid ∧ Transition c (change.apply c)) := by
  cases change with
  | setInvalid clock nvs =>
    have hstate : ∃ links rds, (c.setInvalid clock nvs).state = .invalid links ∨
        (c.setInvalid clock nvs).state = .rediscovering rds := by
      unfold Contact.setInvalid
      dsimp only
      cases c.state with
      | invalid | unknown | valid | dead => exact ⟨_, .new .empty [] 0 0, .inl rfl⟩
      | rediscovering => exact ⟨.empty, _, .inr rfl⟩
    obtain ⟨links, rds, hstate⟩ := hstate
    have hpath : c.path.isSome = true → (c.setInvalid clock nvs).path.isSome = true := by
      rw [Contact.setInvalid_path]
      simp
    refine .inr ?_
    show (c.setInvalid clock nvs).state ≠ .valid ∧ Transition c (c.setInvalid clock nvs)
    rcases hstate with hstate | hstate
    · exact ⟨by simp [hstate], rfl, hpath, by simp [hstate], by simp [hstate], by simp [hstate]⟩
    · exact ⟨by simp [hstate], rfl, hpath, by simp [hstate], by simp [hstate], by simp [hstate]⟩
  | startRediscovering nvs via retries start =>
    exact .inr ⟨by simp [apply, Contact.startRediscovering], rfl, id,
      by simp [apply, Contact.startRediscovering], by simp [apply, Contact.startRediscovering],
      by simp [apply, Contact.startRediscovering]⟩
  | progress f | setDead => exact Contact.whileRediscovering_cases c (by simp) (by simp)

theorem StateChange.transition (c : Contact) (change : StateChange) :
    Transition c (change.apply c) := by
  rcases change.apply_cases c with h | h
  · rw [h]
    exact .refl c
  · exact h.2

theorem StateChange.applySelected_cases (select : Contact → Option StateChange) (c : Contact) :
    applySelected select c = c ∨
      ((applySelected select c).state ≠ .valid ∧ Transition c (applySelected select c)) := by
  unfold applySelected
  cases select c with
  | none => exact .inl rfl
  | some change => exact change.apply_cases c

theorem StateChange.applySelected_transition (select : Contact → Option StateChange) (c : Contact) :
    Transition c (applySelected select c) := by
  rcases applySelected_cases select c with h | h
  · rw [h]
    exact .refl c
  · exact h.2

variable {old new : Contact}

theorem Contact.Assessed.transition {pathCandidate : Path} {taken : Bool}
    (h : Contact.Assessed pathCandidate old taken new) : Transition old new := by
  have hid := h.id_eq
  cases h with
  | rejected => exact .refl old
  | activated hstate _ hpath _ _ hself =>
    have hvalid : new.state = .valid := by rw [hself]
    exact ⟨hid, by simp [hpath], by simp [hvalid], fun _ ↦ hstate, by simp [hvalid]⟩
  | proposed hstate => exact ⟨hid, fun h ↦ h, fun h ↦ h, fun _ ↦ hstate, fun h ↦ by simp [h]⟩

theorem UNSStrategy.Updated.transition {ctx : Context} {contact : Contact}
    {res : InsertionStrategyResult} (h : Updated ctx contact old res new) : Transition old new := by
  cases h with
  | kept => exact .refl old
  | taken _ _ _ h => exact h.transition

/-! ## What is reported of a change -/

/-- The two contacts have the same id, and the same route: either both are valid or none, and their
active paths have the same ids. -/
structure SameRoute (a b : Contact) : Prop where
  id_eq : a.id = b.id
  isValid_eq : a.isValid = b.isValid
  ids_eq : a.path.map Path.ids = b.path.map Path.ids

theorem ContactState.isValid_eq_of_eq {a b : Contact} (h : a.state.eq b.state = true) :
    a.isValid = b.isValid := by
  unfold Contact.isValid
  cases ha : a.state <;> cases hb : b.state <;> simp_all [ContactState.eq]

theorem Contact.ids_eq_of_sameIds {a b : Option Path} (h : PathCollection.sameIds a b = true) :
    a.map Path.ids = b.map Path.ids := by
  cases a <;> cases b <;> simp_all [PathCollection.sameIds, Path.isSamePathAs]

theorem SameRoute.of_eq (h : new.eq old = true) : SameRoute new old := by
  simp only [Contact.eq, PathCollection.eq, Bool.and_eq_true, beq_iff_eq] at h
  obtain ⟨⟨⟨⟨hid, hstate⟩, -⟩, hpath, -⟩, -⟩ := h
  exact ⟨hid, ContactState.isValid_eq_of_eq hstate, Contact.ids_eq_of_sameIds hpath⟩

theorem SameRoute.of_sameView (hid : new.id = old.id)
    (h : old.sameView new = true) : SameRoute new old := by
  simp only [Contact.sameView, Bool.and_eq_true, beq_iff_eq] at h
  exact ⟨hid, (ContactState.isValid_eq_of_eq h.2).symm, congrArg _ h.1.1.1.symm⟩

/-- **A change is reported, or the route is as it was.** -/
theorem guardDrop_cases (hid : new.id = old.id) :
    (guardDrop old new = [] ∧ SameRoute new old) ∨
      guardDrop old new = [.updatedContact new old] := by
  unfold guardDrop notifyAll RoutingTableEvent.isNoticed
  split
  · rename_i heq
    exact .inl ⟨rfl, .of_eq heq⟩
  · by_cases hview : old.sameView new = true
    · exact .inl ⟨by simp [hview], .of_sameView hid hview⟩
    · exact .inr (by simp [hview])

theorem guardDrop_displaced (hid : new.id ≠ old.id)
    (hpath : new.path ≠ old.path) : guardDrop old new = [.updatedContact new old] := by
  have heq : new.eq old = false := by
    rw [Bool.eq_false_iff]
    intro h
    exact hid (SameRoute.of_eq h).id_eq
  have hview : old.sameView new = false := by
    simp [Contact.sameView, Ne.symm hpath]
  simp [guardDrop, notifyAll, RoutingTableEvent.isNoticed, heq, hview]

/-! ## The underlay neighbour table -/

section Hops

variable {T : Type} {k : Nat} [RoutingTable T k]

/-- The underlay neighbour table has the first hop of every stored path. -/
def HopsCovered (cfg : FwdConfig) (t : T) : Prop :=
  ∀ c ∈ iter t, ∀ path, c.path = some path → (cfg.ulnTable path.first).isSome = true

/-- No id of the underlay neighbour table is stored with a longer path. -/
def NeighborsDirect (cfg : FwdConfig) (t : T) : Prop :=
  ∀ c ∈ iter t, ∀ path, c.path = some path → (cfg.ulnTable c.id).isSome = true → path.size = 1

theorem DeriveFwdTableEntries.BucketUpdated.eq_ok [LawfulRoutingTable T k] {cfg : FwdConfig} {t : T}
    (hhops : HopsCovered cfg t) {b : Nat} {self self' : DeriveFwdTableEntries}
    {r : Except DeriveFwdEntriesError Unit} (h : BucketUpdated cfg t b self r self') :
    r = .ok () := by
  cases h with
  | failed hd =>
    cases hd with
    | foreign hb hbest huln =>
      have hmem := LawfulRoutingTable.mem_bucketByIndex hb hbest.mem
      have hsome := hhops _ hmem _ hbest.path_eq
      simp [huln] at hsome
  | cleared | installed => rfl

end Hops

/-! ## A small network -/

/-- The only underlay neighbour is 3. -/
def FwdConfig.overThree : FwdConfig where
  ulnTable id := if id = 3 then some ⟨1, 3⟩ else none
  hash ids := ids.foldl (fun sum id ↦ sum + id.zeroExtend 160) 0

/-- An id that differs from those of small numbers in the first bit. -/
def farId (n : Nat) : NodeId := .ofNat 112 (2 ^ 111 + n)

/-- The insertion of a contact that is reached over 3. -/
def insertOverThree (via : List NodeId) (id : NodeId) : NodeOp :=
  .insert
    { ctx := ⟨⟨fun _ ↦ 0, 0⟩, (· == 3), 0, 0, 0, 0⟩
      contact := .ofIds (3 :: via ++ [id]) (by simp) .MIN }

end Kira
