import Mathlib.Logic.Relation
import Kira.R2Kad.Node

/-!
# What use cases do with what they share

All use cases of a node work on the same context.  `Move` lists everything that any of them ever
does to it in one go: a contact is changed, or all of them are; a contact is removed, or learned
through the insertion strategy; an operation is made on the table of underlay neighbours; a timer is
registered; something is sent or raised.  What is kept by every move holds wherever the use cases
get to (`Moves.invariant`), and no invariant has to look into the use cases again.

Some moves are only made if the event that is being handled gives cause for it: contacts are learned
from messages, and a contact is looked for again, or given up, because of what has been reported of
it.  The `Cause` says what the event allows, and `Change` lists what becomes of a contact while it
is accessed.
-/

set_option autoImplicit false

namespace Kira

open Run RoutingTable LawfulRoutingTable

/-- What becomes of a stored contact while a use case has access to it. -/
inductive Change (c : Contact) : Contact → Prop
  | unchanged : Change c c
  /-- Broken links may be found one after the other. -/
  | setInvalid {d : Contact} (h : Change c d) (clock : Nat → Timestamp) (nvs : NotViaStateList) :
      Change c (d.setInvalid clock nvs)
  | progress {rds rds' : RediscoveryState} (h : c.state = .rediscovering rds)
      (hbackoff : rds'.backoff = rds.backoff ∨ ∃ debug offset duration,
        rds.backoff.next debug offset = .ok (duration, rds'.backoff)) :
      Change c (c.setState (.rediscovering rds'))
  | die {rds : RediscoveryState} (h : c.state = .rediscovering rds) : Change c (c.setState .dead)
  /-- A path that has to be validated before it is used. -/
  | propose (path : Path) :
      Change c { c with pathCollection := c.pathCollection.setProposedPath path }
  | probe (change : ProbeChange) : Change c (change.apply c)

theorem ProbeChange.apply_cases (c : Contact) (change : ProbeChange) :
    (∃ clock nvs, change.apply c = c.setInvalid clock nvs) ∨
    ((change.apply c).id = c.id ∧ (change.apply c).state = c.state ∧
      ((change.apply c).path = c.path ∨
        ∃ now, (change.apply c).path = c.path.map (Path.setValid now))) := by
  cases change with
  | setInvalid clock nvs => exact .inl ⟨clock, nvs, rfl⟩
  | clearProposedPath | confirmProposed now => exact .inr ⟨rfl, rfl, .inl rfl⟩
  | confirmActive now proposedToo =>
    refine .inr ?_
    dsimp only [apply]
    split
    · split
      · exact ⟨rfl, rfl, .inr ⟨now, rfl⟩⟩
      · exact ⟨rfl, rfl, .inr ⟨now, rfl⟩⟩
    · exact ⟨rfl, rfl, .inl rfl⟩

theorem ProbeChange.apply_id (c : Contact) (change : ProbeChange) : (change.apply c).id = c.id := by
  rcases change.apply_cases c with ⟨clock, nvs, heq⟩ | ⟨hid, -⟩
  · rw [heq]
    rfl
  · exact hid

theorem Change.id_eq {c d : Contact} (h : Change c d) : d.id = c.id := by
  induction h with
  | unchanged | progress | die | propose => rfl
  | setInvalid _ _ _ ih => exact ih
  | probe change => exact change.apply_id c

theorem Change.of_assessed {path : Path} {c d : Contact} {taken : Bool}
    (hpath : path.isValid = false) (h : Contact.Assessed path c taken d) : Change c d := by
  cases h with
  | rejected => exact .unchanged
  | activated _ hvalid => simp [hpath] at hvalid
  | proposed => exact .propose path

/-- What an event gives the use cases cause to do. -/
structure Cause where
  learns : Prop
  /-- This node makes itself known, whether it is an underlay neighbour yet or not. -/
  announced : NodeId → Prop
  /-- A contact with this id is gone, and it was not reached as a neighbour. -/
  departed : NodeId → Prop
  died : NodeId → Prop
  /-- The contact with this id is looked for, in so many rounds, and the first one waits for this
  time. -/
  searched : NodeId → Nat → Duration → Prop

/-- There is no cause for anything that needs one. -/
def Cause.none : Cause where
  learns := False
  announced _ := False
  departed _ := False
  died _ := False
  searched _ _ _ := False

namespace UseCaseContext

variable {T : Type} {k : Nat} [RoutingTable T k]

/-- No valid contact is reached over this neighbour. -/
def Avoids (ctx : UseCaseContext T) (id : NodeId) : Prop :=
  ∀ c ∈ iter ctx.routingTable, c.isValid = true → c.path.map Path.first ≠ some id

/-- The events that tell of a change of the routing table. -/
def isReport : UseCaseEvent → Bool
  | .contact (.proposed _) => false
  | .contact _ => true
  | _ => false

variable [LawfulRoutingTable T k]

/-- What a use case does to the context in one go. -/
inductive Move (cause : Cause) (ctx : UseCaseContext T) : UseCaseContext T → Prop
  | raise (events : List UseCaseEvent) (effects : List Effect)
      (h : ∀ event ∈ events, isReport event = false) :
      Move cause ctx { ctx with
        eventQueue := ctx.eventQueue ++ events
        outputQueue := ctx.outputQueue ++ effects }
  | register {debug : Bool} {duration : Duration} {id : TimerId} {runtime : R2KadRuntime}
      (h : ctx.runtime.registerTimer debug duration = .ok (id, runtime)) :
      Move cause ctx { ctx with runtime := runtime }
  | registerPeriodic {debug : Bool} {duration : Duration} {id : TimerId} {runtime : R2KadRuntime}
      (h : ctx.runtime.registerPeriodicTimer debug duration = .ok (id, runtime)) :
      Move cause ctx { ctx with runtime := runtime }
  | change {id : NodeId} {c d : Contact} (hc : contact ctx.routingTable id = some c)
      (h : Change c d) : Move cause ctx (ctx.write id c d)
  | changeAll {f : Contact → Contact} (h : ∀ c, Change c (f c)) : Move cause ctx (ctx.iterMut f)
  | search {id : NodeId} {c : Contact} {retries : Nat} {wait : Duration}
      (hc : contact ctx.routingTable id = some c) (hsearched : cause.searched id retries wait)
      (nvs : NotViaStateList) (via : List NodeId) :
      Move cause ctx (ctx.write id c (c.startRediscovering nvs via retries wait))
  | remove {id : NodeId} (hdied : cause.died id) : Move cause ctx (ctx.removeContact id)
  /-- The contact is reached over an underlay neighbour, or it has just made itself known. -/
  | learn {strategy : UNSStrategy.Context} {c : Contact} {path : Path}
      {res : InsertionStrategyResult} {observed : ObservableRoutingTable T} (hlearns : cause.learns)
      (huln : strategy.ulnContains = ctx.ulnTable.contains) (hpath : c.path = some path)
      (hfirst : ctx.ulnTable.contains path.first = true ∨
        cause.announced path.first ∧ path.first ≠ ctx.rootId)
      (h : UNSStrategy.insert strategy c (ObservableRoutingTable.ofTable ctx.routingTable) =
        .ok (res, observed)) : Move cause ctx (ctx.withTable observed)
  /-- A neighbour is only forgotten if no valid contact is reached over it, or for a cause. -/
  | uln {op : ULNOp} {observed : ObservableULNTable InMemoryULNTable}
      (hop : ∀ id, op = .remove id → ctx.Avoids id ∨ cause.departed id)
      (h : op.apply (ObservableULNTable.new ctx.ulnTable) = .ok observed) :
      Move cause ctx (ctx.withULNTable observed)

abbrev Moves (cause : Cause) : UseCaseContext T → UseCaseContext T → Prop :=
  Relation.ReflTransGen (Move cause)

variable {cause : Cause}

variable {ctx' ctx : UseCaseContext T} {id : NodeId}

/-- What every move keeps is kept by all of them. -/
theorem Moves.invariant {I : UseCaseContext T → Prop} (hmove : ∀ a b, I a → Move cause a b → I b)
    (h : Moves cause ctx ctx') (hctx : I ctx) : I ctx' := by
  induction h with
  | refl => exact hctx
  | tail _ hstep ih => exact hmove _ _ ih hstep

/-! ## The operations of the context -/

variable {ctx ctx' : UseCaseContext T}

theorem moves_of_ok {α : Type} {a a' : α}
    (h : (Run.ok (a, ctx) : Run (α × UseCaseContext T)) = .ok (a', ctx')) :
    Moves cause ctx ctx' := by
  cases h
  exact .refl

theorem moves_of_ok₂ {α β : Type} {a a' : α} {b b' : β}
    (h : (Run.ok (a, b, ctx) : Run (α × β × UseCaseContext T)) = .ok (a', b', ctx')) :
    Moves cause ctx ctx' := by
  obtain ⟨-, h⟩ := ok_mk_inj h
  exact moves_of_ok (congrArg Run.ok (Prod.ext (Prod.mk.inj h).1 (Prod.mk.inj h).2))

theorem moves_emits (ctx : UseCaseContext T) (effects : List Kira.Effect) :
    Moves cause ctx (effects.foldl emit ctx) := by
  induction effects generalizing ctx with
  | nil => exact .refl
  | cons effect effects ih =>
    refine .head ?_ (ih _)
    cases effect with
    | sendMessageVia message via =>
      have hmove : Move cause ctx _ := .raise [] [.sendMessageVia message via] (by simp)
      simpa [emit] using hmove
    | broadcastEvent message =>
      have hmove : Move cause ctx _ := .raise [.message message .ownNode] [] (by simp [isReport])
      simpa [emit, broadcastEvent] using hmove

theorem moves_sendMessage {message : ProtocolMessage} (h : ctx.sendMessage message = .ok ctx') :
    Moves cause ctx ctx' := by
  obtain ⟨effects, -, h⟩ := of_bind h
  cases h
  exact moves_emits ctx effects

theorem moves_broadcastEvent {event : UseCaseEvent} (h : isReport event = false) :
    Moves cause ctx (ctx.broadcastEvent event) := by
  have hmove : Move cause ctx _ := .raise [event] [] (by simpa using h)
  exact .single (by simpa [broadcastEvent] using hmove)

theorem moves_registerTimer {debug : Bool} {duration : Duration} {id : TimerId}
    (h : ctx.registerTimer debug duration = .ok (id, ctx')) : Moves cause ctx ctx' := by
  obtain ⟨runtime, hreg, rfl⟩ := registerTimer_cases h
  exact .single (.register hreg)

theorem moves_contactMut {α : Type} {f : Contact → Run (α × Contact)} {a : Option α}
    (hf : ∀ c a d, f c = .ok (a, d) → Change c d) (h : ctx.contactMut id f = .ok (a, ctx')) :
    Moves cause ctx ctx' := by
  rcases contactMut_cases h with ⟨-, -, rfl⟩ | ⟨c, a', d, hc, hd, -, rfl⟩
  · exact .refl
  · exact .single (.change hc (hf c a' d hd))

theorem moves_ulnOp {op : ULNOp} (hop : ∀ id, op ≠ .remove id)
    (h : ctx.ulnOp op = .ok ctx') : Moves cause ctx ctx' := by
  obtain ⟨observed, hobserved, h⟩ := of_bind h
  cases h
  exact .single (.uln (fun id heq ↦ absurd heq (hop id)) hobserved)

theorem moves_ulnRemove (hid : ctx.Avoids id ∨ cause.departed id)
    (h : ctx.ulnRemove id = .ok ctx') : Moves cause ctx ctx' := by
  obtain ⟨⟨removed, observed⟩, hremove, h⟩ := of_bind h
  cases h
  have hop : (ULNOp.remove id).apply (ObservableULNTable.new ctx.ulnTable) = .ok observed := by
    rw [ULNOp.apply, hremove]
    rfl
  refine .single (.uln (fun other heq ↦ ?_) hop)
  rw [← ULNOp.remove.inj heq]
  exact hid

theorem routingTable_ulnRemove (h : ctx.ulnRemove id = .ok ctx') :
    ctx'.routingTable = ctx.routingTable := by
  obtain ⟨⟨removed, observed⟩, -, h⟩ := of_bind h
  cases h
  rfl

theorem avoids_iterMut {f : Contact → Contact}
    (h : ∀ c, (f c).isValid = true → (f c).path.map Path.first ≠ some id) :
    (ctx.iterMut f).Avoids id := by
  intro c hc hvalid
  have hiter : iter (ctx.iterMut f).routingTable = (iter ctx.routingTable).map f :=
    (mem_iterMut ctx.routingTable f).2
  rw [hiter] at hc
  obtain ⟨d, -, rfl⟩ := List.mem_map.1 hc
  exact h d hvalid

theorem moves_foldlM {α : Type} {f : UseCaseContext T → α → Run (UseCaseContext T)} {l : List α}
    (hf : ∀ a ∈ l, ∀ b b', f b a = .ok b' → Moves cause b b') (h : l.foldlM f ctx = .ok ctx') :
    Moves cause ctx ctx' :=
  foldlM_invariant (I := Moves cause ctx)
    (fun a ha b b' hb hstep ↦ hb.trans (hf a ha b b' hstep)) .refl h

theorem moves_runAll {ι : Type} {step : UseCaseContext T → ι → Run (UseCaseContext T)}
    (hstep : ∀ a op b, step a op = .ok b → Moves cause a b) {ops : List ι}
    (h : runAll step ctx ops = .ok ctx') : Moves cause ctx ctx' := by
  induction ops generalizing ctx with
  | nil =>
    cases h
    exact .refl
  | cons op ops ih =>
    obtain ⟨mid, hmid, h⟩ := of_bind h
    exact (hstep _ _ _ hmid).trans (ih h)

/-! ## Tidiness -/

omit [LawfulRoutingTable T k] in
theorem routingTable_removeContact (ctx : UseCaseContext T) (id : NodeId) :
    (ctx.removeContact id).routingTable = (RoutingTable.remove ctx.routingTable id).2 :=
  (ObservableRoutingTable.remove_cases (ObservableRoutingTable.ofTable ctx.routingTable) id).2.1

theorem Move.tidy (h : Move cause ctx ctx')
    (ht : Tidy ctx.routingTable) : Tidy ctx'.routingTable ∧ ctx'.rootId = ctx.rootId := by
  cases h with
  | raise | register | registerPeriodic | uln => exact ⟨ht, rfl⟩
  | @change id c d hc h =>
    have hid : d.id = id := h.id_eq.trans (contact_id ht hc)
    exact ⟨(write_effect ht hc (.inl hid)).1, (mem_write _ _ _).1⟩
  | changeAll h => exact ⟨(iterMut_effect ht fun c _ ↦ (h c).id_eq).1, (mem_iterMut _ _).1⟩
  | @search id c retries wait hc _ nvs via =>
    have hid : (c.startRediscovering nvs via retries wait).id = id :=
      (Contact.startRediscovering_id nvs via retries wait c).trans (contact_id ht hc)
    exact ⟨(write_effect ht hc (.inl hid)).1, (mem_write _ _ _).1⟩
  | @remove id =>
    rw [rootId, routingTable_removeContact]
    exact ⟨(remove_effect ht id).2.1, (mem_remove _ _).1⟩
  | learn _ _ _ _ h =>
    refine ⟨UNSStrategy.insert_tidy (T := ObservableRoutingTable T) ht h, ?_⟩
    rcases UNSStrategy.insert_cases h with ⟨-, rfl⟩ | ⟨path, prepared, -, -, hout⟩
    · rfl
    · exact hout.mem.1

theorem Moves.tidy (h : Moves cause ctx ctx')
    (ht : Tidy ctx.routingTable) : Tidy ctx'.routingTable :=
  h.invariant (I := fun ctx ↦ Tidy ctx.routingTable) (fun _ _ ha hmove ↦ (hmove.tidy ha).1) ht

theorem Moves.rootId_eq (h : Moves cause ctx ctx')
    (ht : Tidy ctx.routingTable) : ctx'.rootId = ctx.rootId := by
  have hboth : Tidy ctx'.routingTable ∧ ctx'.rootId = ctx.rootId :=
    h.invariant (I := fun mid ↦ Tidy mid.routingTable ∧ mid.rootId = ctx.rootId)
      (fun _ _ ha hmove ↦ ⟨(hmove.tidy ha.1).1, (hmove.tidy ha.1).2.trans ha.2⟩) ⟨ht, rfl⟩
  exact hboth.2

end UseCaseContext

end Kira
