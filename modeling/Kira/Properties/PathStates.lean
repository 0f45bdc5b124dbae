import Kira.Domain.RoutingTable.UnlimitedULNLawful
import Kira.Properties.PreparedPaths
import Kira.Properties.TableInsertion

/-!
# The paths of stored contacts

The state of a contact and the states of its paths are two machines, and different operations move
them: an invalidation changes both, the start of a rediscovery only the first, an activation only
the second, and an assessment may change both or neither.  They stay together all the same (`Sane`).
A valid contact has an active path that is neither broken nor waiting for its validation, and each
path leads to the contact it is stored with.  So whether a path suits a contact, which for a valid
contact is decided by its active path, can always be said (`paths_usable`).

A path that is reported with a contact is rewritten before it is stored.  It still leads to the
contact because the paths it is spliced with lead to theirs.
-/

set_option autoImplicit false

namespace Kira

open Run RoutingTable LawfulRoutingTable UNSStrategy

/-- What holds of every stored contact. -/
structure Contact.Sane (c : Contact) : Prop where
  usable : c.isValid = true →
    ∃ path, c.path = some path ∧ path.pathState ≠ .faulty ∧ path.pathState ≠ .notValidated
  leads : ∀ path, c.path = some path ∨ c.proposedPath = some path → path.last = c.id

/-- The step is one that the program makes.  A contact is inserted with a path that fits its state,
a path is assessed for the contact it leads to. -/
def TableStep.Proper : TableStep → Prop
  | .node (.insert call) =>
    (∃ path, call.contact.path = some path ∧
      (call.contact.isValid = true ∧ path.isValid = true ∨
        call.contact.state = .unknown ∧ path.isNotvalidated = true)) ∧
    ∀ path, call.contact.path = some path ∨ call.contact.proposedPath = some path →
      path.last = call.contact.id
  | .node (.assess id _ _ pathCandidate) => pathCandidate.last = id
  | _ => True

/-! ## One contact -/

theorem Path.last_congr {path path' : Path} (h : path.ids = path'.ids) :
    path.last = path'.last := by
  simp only [Path.last, h]

namespace Contact

variable {c : Contact}

/-- A contact with a new valid path, and with the proposed path it had or with none. -/
theorem Sane.of_active {new : Contact} {active : Path} (hpath : new.path = some active)
    (hstate : active.pathState = .valid) (hlast : active.last = new.id)
    (hproposed : ∀ path, new.proposedPath = some path → path.last = new.id) : new.Sane := by
  refine ⟨fun _ ↦ ⟨active, hpath, by simp [hstate], by simp [hstate]⟩, fun path h ↦ ?_⟩
  rcases h with h | h
  · obtain rfl := Option.some.inj (hpath.symm.trans h)
    exact hlast
  · exact hproposed path h

theorem Assessed.sane {pathCandidate : Path} {new : Contact} {taken : Bool}
    (h : Assessed pathCandidate c taken new) (hc : c.Sane) (hlast : pathCandidate.last = c.id) :
    new.Sane := by
  have hid := h.id_eq
  cases h with
  | rejected => exact hc
  | activated _ _ hpath hids hstate _ hproposed =>
    refine .of_active hpath hstate ((Path.last_congr hids).trans (hlast.trans hid.symm)) ?_
    intro path h
    rcases hproposed with hproposed | hproposed
    · exact (hc.leads path (.inr (hproposed ▸ h))).trans hid.symm
    · cases hproposed.symm.trans h
  | proposed =>
    refine ⟨hc.usable, fun path h ↦ ?_⟩
    rcases h with h | h
    · exact hc.leads path (.inl h)
    · cases h
      exact hlast

theorem Sane.activated (hc : c.Sane) {now : Timestamp} {pathCollection : PathCollection}
    (h : c.pathCollection.setProposedToActive now = .ok pathCollection) :
    { c with pathCollection := pathCollection }.Sane := by
  obtain ⟨proposed, active, hproposed, hactive, hids, hstate, hnone⟩ :=
    PathCollection.setProposedToActive_cases h
  refine .of_active hactive hstate ((Path.last_congr hids).trans (hc.leads _ (.inr hproposed))) ?_
  intro path h
  cases hnone.symm.trans h

theorem Sane.pathSuitable_returns (hc : c.Sane) (order : PathOrder) (pathCandidate : Path) :
    ∃ suitable, c.pathSuitable order pathCandidate = .ok suitable := by
  unfold pathSuitable
  split
  case h_3 hstate =>
    obtain ⟨path, hpath, -⟩ := hc.usable ((isValid_iff c).2 hstate)
    have hpath : c.pathCollection.activePath = some path := hpath
    exact ⟨_, by rw [hpath, expect_some, ok_bind]; rfl⟩
  all_goals exact ⟨_, rfl⟩

end Contact

theorem StateChange.leads {c : Contact} (hc : c.Sane) (change : StateChange) :
    ∀ path, (change.apply c).path = some path ∨ (change.apply c).proposedPath = some path →
      path.last = c.id := by
  intro path h
  cases change with
  | setInvalid clock nvs =>
    rcases h with h | h
    · obtain ⟨active, hactive, rfl⟩ := Option.map_eq_some_iff.1 h
      exact hc.leads active (.inl hactive)
    · exact hc.leads path (.inr h)
  | startRediscovering => exact hc.leads path h
  | progress f | setDead =>
    simp only [apply, Contact.path, Contact.proposedPath,
      Contact.whileRediscovering_pathCollection] at h
    exact hc.leads path h

theorem StateChange.applySelected_sane {c : Contact} (hc : c.Sane)
    (select : Contact → Option StateChange) : (applySelected select c).Sane := by
  refine ⟨fun hvalid ↦ ?_, ?_⟩
  · rcases applySelected_cases select c with h | ⟨h, -⟩
    · rw [h] at hvalid ⊢
      exact hc.usable hvalid
    · exact absurd ((Contact.isValid_iff _).1 hvalid) h
  · rw [(applySelected_transition select c).id_eq]
    unfold applySelected
    cases select c with
    | none => exact hc.leads
    | some change => exact change.leads hc

theorem TableStep.Alters.sane {step : TableStep} {c c' : Contact} (h : step.Alters c c')
    (hproper : step.Proper) (hc : c.Sane) : c'.Sane := by
  cases h with
  | changed select => exact StateChange.applySelected_sane hc select
  | assessed hstep hid h =>
    rw [hstep] at hproper
    exact h.sane hc (Eq.trans hproper hid.symm)
  | activated h => exact hc.activated h

/-! ## All contacts -/

section

variable {T : Type} {k : Nat} [RoutingTable T k] [LawfulRoutingTable T k] {t t' : T}

/-- The table is in order, and so is every contact. -/
structure SaneTable (t : T) : Prop where
  tidy : Tidy t
  sane : ∀ c ∈ iter t, c.Sane

theorem SaneTable.pathsLead (h : SaneTable t) : ShortestFirstPathSimplifier.PathsLead t := by
  intro id c hc hvalid
  obtain ⟨hmem, hid⟩ := (contact_eq_some_iff h.tidy).1 hc
  obtain ⟨path, hpath, -⟩ := (h.sane c hmem).usable hvalid
  exact ⟨path, hpath, ((h.sane c hmem).leads path (.inl hpath)).trans hid⟩

theorem SaneTable.prepared (h : SaneTable t) {call : Call} {path : Path} {prepared : Contact}
    (hproper : TableStep.Proper (.node (.insert call))) (hpath : call.contact.path = some path)
    (hprepared : prepare call.ctx t call.contact path = .ok prepared) : prepared.Sane := by
  obtain ⟨⟨path₁, hpath₁, hfits⟩, hleads⟩ := hproper
  obtain rfl := Option.some.inj (hpath.symm.trans hpath₁)
  obtain ⟨path', rfl, hsimplified, hone, hmore⟩ := prepare_cases hprepared
  refine ⟨fun hvalid ↦ ⟨path', rfl, ?_⟩, fun other hother ↦ ?_⟩
  · have hstate : path'.pathState = .valid := by
      rcases hfits with ⟨-, hpath⟩ | ⟨hunknown, -⟩
      · by_cases hsize : path'.size = 1
        · simpa [Path.isValid] using hone hsize
        · simpa [hmore hsize, Path.isValid] using hpath
      · have hstate := (Contact.isValid_iff _).1 hvalid
        simp [hunknown] at hstate
    simp [hstate]
  · rcases hother with hother | hother
    · cases hother
      rw [hsimplified.last_eq h.pathsLead, Path.removeCyclesInPlace_last]
      exact hleads path (.inl hpath)
    · exact hleads other (.inr hother)

/-- **A step keeps the contacts in order.** -/
theorem SaneTable.step (h : SaneTable t) {step : TableStep} (hproper : step.Proper)
    (hstep : step.apply t = .ok t') : SaneTable t' := by
  obtain ⟨call, res, rfl, hins⟩ | ⟨htidy, hmem⟩ := step.apply_cases h.tidy hstep
  · refine ⟨insert_tidy h.tidy hins, ?_⟩
    obtain ⟨-, rfl⟩ | ⟨path, prepared, hadm, hprepared, hout⟩ := insert_cases hins
    · exact h.sane
    · have hsane := h.prepared hproper hadm.path_eq hprepared
      refine hout.forall_iter hsane h.sane fun _ existing _ hpath hid hexisting hassessed ↦ ?_
      exact hassessed.sane hexisting ((hsane.leads _ (.inl hpath)).trans hid.symm)
  · refine ⟨htidy, fun c hc ↦ ?_⟩
    obtain hc | ⟨old, hold, halters⟩ := hmem c hc
    · exact h.sane c hc
    · exact halters.sane hproper (h.sane old hold)

/-- A contact for which a path may be assessed: it is stored, or it is there when an insertion has
been refused and looks for the contact to update. -/
inductive MayAssess (t : T) (c : Contact) : Prop
  | stored (h : c ∈ iter t)
  | refused {call : Call} {path : Path} {prepared : Contact} {t₁ : T}
      (hproper : TableStep.Proper (.node (.insert call))) (hpath : call.contact.path = some path)
      (hprepared : prepare call.ctx t call.contact path = .ok prepared)
      (hrefused : Refused t prepared t₁) (h : c ∈ iter t₁)

theorem SaneTable.sane_of_mayAssess (h : SaneTable t) {c : Contact} (hc : MayAssess t c) :
    c.Sane := by
  cases hc with
  | stored hc => exact h.sane c hc
  | refused hproper hpath hprepared hrefused hc =>
    rcases hrefused.mem.2 c hc with rfl | hc
    · exact h.prepared hproper hpath hprepared
    · exact h.sane c hc

end

/-- **Valid contacts have a usable path, and paths lead to their contacts**, after every sequence of
insertions, removals, invalidations, rediscoveries, assessments and activations.  And the program
always finds the active path of a valid contact when a path is assessed. -/
theorem paths_usable {k acc : Nat} {root : NodeId} {acc_pos : 0 < acc} {acc_lt : acc < 64}
    {t : UnlimitedULNRoutingTable k acc}
    (h : Reachable TableStep.apply (fun _ step ↦ step.Proper) (.new root acc_pos acc_lt) t) :
    (∀ c ∈ iter t, c.Sane) ∧ ∀ c, MayAssess t c → ∀ order pathCandidate,
      ∃ suitable, c.pathSuitable order pathCandidate = .ok suitable := by
  have hsane : SaneTable t := by
    refine h.invariant ⟨UnlimitedULNRoutingTable.tidy_new root acc_pos acc_lt, fun c hc ↦ ?_⟩
      fun _ _ _ hs hproper hstep ↦ hs.step hproper hstep
    exact absurd hc (UnlimitedULNRoutingTable.not_mem_iter_new c)
  exact ⟨hsane.sane, fun c hc ↦ (hsane.sane_of_mayAssess hc).pathSuitable_returns⟩

/-- A contact on a path that is found broken is assessed with another path, over a shorter way, that
is not validated yet; then that path becomes the active one. -/
def shorterAfterFailure : List TableStep :=
  [.node (insertOverThree [4] 9), .node (.change 9 (.setInvalid (fun _ ↦ 1) .empty)),
    .node (.assess 9 ⟨fun _ ↦ 0, 0⟩ 2 { Path.via 3 [9] with pathState := .notValidated }),
    .setProposedToActive 9 3]

theorem paths_usable_after_failure : ∃ t : UnlimitedULNRoutingTable 4 1,
    runAll TableStep.apply (.new 0 (by decide) (by decide)) shorterAfterFailure = .ok t ∧
      ∃ c ∈ iter t, c.path.map Path.ids = some [3, 9] ∧ c.Sane := by
  refine exists_ok (p := fun t ↦ ∃ c ∈ iter t, c.path.map Path.ids = some [3, 9])
    ⟨_, rfl, by decide +kernel⟩ ?_
  rintro t hrun ⟨c, hc, hids⟩
  refine ⟨c, hc, hids, (paths_usable (.runAll .start ?_ hrun)).1 c hc⟩
  simp only [shorterAfterFailure, List.forall_mem_cons, List.not_mem_nil, false_imp_iff,
    implies_true, and_true]
  refine ⟨fun _ ↦ ⟨⟨_, rfl, .inl ⟨rfl, rfl⟩⟩, ?_⟩, fun _ ↦ trivial, fun _ ↦ rfl, fun _ ↦ trivial⟩
  rintro path (h | h)
  · cases h
    rfl
  · cases h

end Kira
