import Kira.Domain.RoutingTable.UnlimitedULNLawful
import Kira.R2Kad.Moves

/-!
# Events that come too late

What happens to a contact is reported by an event, and the event waits in the queue until the
message that has caused it is dealt with.  The event has a copy of the contact as it was then.  When
failures are handled, the decision to look for a contact again is taken from that copy, but it is
carried out on the contact that is stored by then.

One message is enough to make the two differ.  Its broken links come first and make a contact
invalid; then comes its source, which may be the same contact, now on a path that works.  The
contact is valid again, and the event that says it is invalid is still in the queue.  So the node
starts to look for a contact that it has just heard from: `valid_contact_searched_for`.

`stays_valid_iff` says for every run that an event does this to a valid contact if and only if it
tells of a contact that was valid and became invalid, or of one that is dead.
-/

set_option autoImplicit false

namespace Kira

open Run RoutingTable LawfulRoutingTable

namespace UseCaseContext

variable {T : Type} {k : Nat} [RoutingTable T k]

/-- Whether a valid contact is stored under this id. -/
def validAt (ctx : UseCaseContext T) (id : NodeId) : Bool :=
  ((contact ctx.routingTable id).map Contact.isValid).getD false

theorem validAt_eq_false_of_some {ctx : UseCaseContext T} {id : NodeId} {c : Contact}
    (hc : contact ctx.routingTable id = some c) (h : c.isValid = false) :
    ctx.validAt id = false := by
  simp [validAt, hc, h]

end UseCaseContext

namespace R2Kad

variable {T : Type} {k : Nat} [RoutingTable T k] [CloseContacts T]

/-- In a run from this table, the event is the next one of the queue, and it comes to the handling
of failures in the context `ctx`. -/
structure HandlesNext (debug : Bool) (table : T) (startupTime : Instant) (occurrence : Occurrence)
    (event : UseCaseEvent) (node : R2Kad T) (ctx : UseCaseContext T) : Prop where
  reachable : Reachable (step debug) (fun _ _ ↦ True) (start table startupTime) node
  next : ∃ events, node.context.eventQueue = event :: events ∧
    untilFailureHandling debug occurrence
      { node with context := { node.context with eventQueue := events } } event = .ok (true, ctx)

variable {debug : Bool} {table : T} {startupTime : Instant} {occurrence : Occurrence}
  {event : UseCaseEvent} {node : R2Kad T} {ctx : UseCaseContext T}

variable [LawfulRoutingTable T k]

theorem HandlesNext.tidy (h : HandlesNext debug table startupTime occurrence event node ctx)
    (ht : Tidy table) : Tidy ctx.routingTable := by
  obtain ⟨events, -, huntil⟩ := h.next
  have hnode : Tidy node.context.routingTable := tidy_of_run ht h.reachable
  exact (moves_untilFailureHandling (fun _ _ _ ↦ False) huntil hnode).tidy hnode

end R2Kad

namespace FailureHandling

/-- The event makes the handling of failures act on the contact: it is removed, or it is going to be
rediscovered. -/
def ActsOn (new old : Contact) : Prop :=
  new.id = old.id ∧ (new.isDead = true ∨ new.isInvalid = true ∧ old.isValid = true)

instance (new old : Contact) : Decidable (ActsOn new old) := inferInstanceAs (Decidable (_ ∧ _))

variable {T : Type} {k : Nat} [RoutingTable T k] [LawfulRoutingTable T k] [CloseContacts T]
  {debug : Bool} {clock : Readings} {draws : Draws} {self self' : FailureHandling}
  {ctx ctx' : UseCaseContext T} {res : Except FailureHandlingError Unit} {new old : Contact}

omit [CloseContacts T] in
theorem removeContact_validAt (ht : Tidy ctx.routingTable) (id : NodeId) :
    (ctx.removeContact id).validAt id = false := by
  have htable := ctx.routingTable_removeContact id
  have hnone : contact (RoutingTable.remove ctx.routingTable id).2 id = none := by
    rw [(remove_effect ht id).2.2, Function.update_self]
  simp [UseCaseContext.validAt, htable, hnone]

omit [CloseContacts T] in
theorem Started.validAt {id : NodeId} (h : Started debug self ctx id self' ctx')
    (ht : Tidy ctx.routingTable) : ctx'.validAt id = false := by
  obtain ⟨stored, nvs, via, wait, hc, htable⟩ := h.contacts
  have hstored : stored.id = id := contact_id ht hc
  have hid : (stored.startRediscovering nvs via self.config.maxRetryRounds wait).id = id := hstored
  have hwritten := (write_effect ht hc (.inl hid)).2
  refine UseCaseContext.validAt_eq_false_of_some
    (c := stored.startRediscovering nvs via self.config.maxRetryRounds wait) ?_ rfl
  rw [htable, hwritten, Contents.written_self _ hid, Function.update_self]

/-- What an event about a changed contact does: nothing, unless it makes the handler act. -/
theorem validAt_handleEvent (ht : Tidy ctx.routingTable)
    (h : handleEvent debug clock draws self ctx (.contact (.updated new old)) =
      .ok (res, self', ctx')) :
    (ActsOn new old ∧ ctx'.validAt new.id = false) ∨ (¬ ActsOn new old ∧ ctx' = ctx) := by
  simp only [handleEvent] at h
  split at h
  · rename_i hid
    split at h
    · rename_i hdead
      cases h
      exact .inl ⟨⟨hid, .inl hdead⟩, removeContact_validAt ht new.id⟩
    · rename_i hdead
      split at h
      · rename_i hboth
        obtain ⟨hinvalid, hold⟩ := (Bool.and_eq_true _ _).mp hboth
        obtain ⟨nvs, hstate⟩ := (Contact.isInvalid_iff new).1 hinvalid
        exact .inl ⟨⟨hid, .inr ⟨hinvalid, hold⟩⟩,
          (startRediscovery_cases hstate h).2.validAt ht⟩
      · rename_i hboth
        cases h
        refine .inr ⟨?_, rfl⟩
        rintro ⟨-, hd | hboth'⟩
        · exact hdead hd
        · exact hboth (by simpa using hboth')
  · rename_i hid
    cases h
    exact .inr ⟨fun hacts ↦ hid hacts.1, rfl⟩

end FailureHandling

namespace R2Kad

/-! ## Events about contacts that are valid -/

/-- **When an event leaves a valid contact valid.**  In every run, whatever has happened since the
event was raised: if and only if the event is none that makes the handler act. -/
theorem stays_valid_iff {k : Nat} {debug : Bool} {root : NodeId} {startupTime : Instant}
    {occurrence : Occurrence} {new old : Contact} {node : R2Kad (UnlimitedULNRoutingTable k 1)}
    {ctx ctx' : UseCaseContext (UnlimitedULNRoutingTable k 1)}
    {res : Except FailureHandlingError Unit} {failureHandling : FailureHandling}
    (hnext : HandlesNext debug (.new root (by decide) (by decide)) startupTime occurrence
      (.contact (.updated new old)) node ctx)
    (hvalid : ctx.validAt new.id = true)
    (h : node.failureHandling.handleEvent debug (occurrence.clock.part 2) occurrence.draws ctx
      (.contact (.updated new old)) = .ok (res, failureHandling, ctx')) :
    ctx'.validAt new.id = true ↔ ¬ FailureHandling.ActsOn new old := by
  have ht : Tidy ctx.routingTable :=
    hnext.tidy (UnlimitedULNRoutingTable.healthy_new root (by decide) (by decide)).tidy
  rcases FailureHandling.validAt_handleEvent ht h with ⟨hacts, hgone⟩ | ⟨hacts, rfl⟩
  · exact iff_of_false (by simp [hgone]) (not_not.2 hacts)
  · exact iff_of_true hvalid hacts

/-- An event that tells of a better path leaves the contact valid. -/
theorem stays_valid_on_better_path :
    ∃ (new old : Contact) (node : R2Kad (UnlimitedULNRoutingTable 20 1))
      (ctx : UseCaseContext (UnlimitedULNRoutingTable 20 1)),
      HandlesNext true nodeZero 0 (quiet 9) (.contact (.updated new old))
        node ctx ∧ ctx.validAt new.id = true ∧
      ∃ failureHandling ctx',
        node.failureHandling.handleEvent true ((quiet 9).clock.part 2) (quiet 9).draws ctx
          (.contact (.updated new old)) = .ok (.ok (), failureHandling, ctx') ∧
        ctx'.validAt new.id = true := by
  obtain ⟨new, old, node, ctx, hnext, hvalid, hacts, failureHandling, ctx', h⟩ :
      ∃ (new old : Contact) (node : R2Kad (UnlimitedULNRoutingTable 20 1))
        (ctx : UseCaseContext (UnlimitedULNRoutingTable 20 1)),
        HandlesNext true nodeZero 0 (quiet 9) (.contact (.updated new old))
          node ctx ∧ ctx.validAt new.id = true ∧ ¬ FailureHandling.ActsOn new old ∧
        ∃ failureHandling ctx',
          node.failureHandling.handleEvent true ((quiet 9).clock.part 2) (quiet 9).draws ctx
            (.contact (.updated new old)) = .ok (.ok (), failureHandling, ctx') := by
    refine ⟨_, _, _, _, ⟨reachable_of_steps heardCloser rfl, _, rfl, rfl⟩, ?_, ?_, ?_⟩
    · decide +kernel
    · decide +kernel
    · exact ⟨_, _, rfl⟩
  exact ⟨new, old, node, ctx, hnext, hvalid, failureHandling, ctx', h,
    (stays_valid_iff hnext hvalid h).2 hacts⟩

/-! ## A contact that is looked for although it has just been heard from -/

/-- The nodes 1 and 3 become neighbours.  The node 2 is first heard of through 1, then through 3,
with the message that its link to 1 is broken. -/
def heardAgain : List Step :=
  [ .input (.underlayUpdate (.interfaceUp 1)) (quiet 1),
    .input (.message (greeting 1) ⟨1, 1⟩) (quiet 2), .queued (quiet 3), .queued (quiet 3),
    .input (.message (greeting 3) ⟨1, 3⟩) (quiet 4), .queued (quiet 5), .queued (quiet 5),
    .input (.message probeOverOne ⟨1, 1⟩) (quiet 6), .queued (quiet 7),
    .input (.message (probeFromTwo [2, 3, 0] (by decide)
      (some (NotViaList.empty.insert ⟨.new 1 2, 0⟩))) ⟨1, 3⟩) (quiet 100) ]

/-- **A valid contact is searched for.** -/
theorem valid_contact_searched_for :
    ∃ (new old : Contact) (node : R2Kad (UnlimitedULNRoutingTable 20 1))
      (ctx : UseCaseContext (UnlimitedULNRoutingTable 20 1)),
      HandlesNext true nodeZero 0 (quiet 101) (.contact (.updated new old))
        node ctx ∧ ctx.validAt new.id = true ∧
      ∃ failureHandling ctx',
        node.failureHandling.handleEvent true ((quiet 101).clock.part 2) (quiet 101).draws ctx
          (.contact (.updated new old)) = .ok (.ok (), failureHandling, ctx') ∧
        ctx'.validAt new.id = false := by
  refine ⟨_, _, _, _, ⟨reachable_of_steps heardAgain rfl, _, rfl, rfl⟩, ?_, ?_⟩
  · decide +kernel
  · refine ⟨_, _, rfl, ?_⟩
    decide +kernel

end R2Kad

end Kira
