import Kira.Domain.RoutingTable.Observable
import Kira.Domain.RoutingTable.UnlimitedULNLawful

/-!
# Following a table by its events

Whoever applies the events of an observable table to an empty map, in order, should end up with what
the table stores: for every id the active and the proposed path, the sequence number and the state.
`Agrees` compares two such maps, with the equality that the program has for each of the four.

A map that follows the events loses track of the table in four cases.

* The table with the neighbour map lets go of a contact, or takes one in, and then returns an error
  (`event_missing`).
* A writer changes the attributes of a path, but not its ids.  To the guard the contact has not
  changed.
* A writer exchanges the id and nothing else that observers care about.
* A replacement, or a writer, brings the table itself out of order.

In a run without these (`Reported`) the map agrees with the table after every operation:
`replay_agrees`.
-/

set_option autoImplicit false

namespace Kira

open RoutingTable LawfulRoutingTable

/-! ## Maps that follow events -/

/-- The effect of an event on a map. -/
def RoutingTableEvent.replay (m : Contents) : RoutingTableEvent → Contents
  | .newContact c => Function.update m c.id (some c)
  | .updatedContact new old => m.written old.id new
  | .removedContact c => Function.update m c.id none
  | .updatedBucket _ => m
  | .newBucket _ => m

/-- What is left when all events have been replayed. -/
def replayAll (m : Contents) (events : List RoutingTableEvent) : Contents :=
  events.foldl RoutingTableEvent.replay m

@[simp] theorem replayAll_nil (m : Contents) : replayAll m [] = m := rfl

@[simp] theorem replayAll_cons (m : Contents) (e : RoutingTableEvent)
    (es : List RoutingTableEvent) : replayAll m (e :: es) = replayAll (e.replay m) es := rfl

@[simp] theorem replayAll_append (m : Contents) (es es' : List RoutingTableEvent) :
    replayAll m (es ++ es') = replayAll (replayAll m es) es' :=
  List.foldl_append

/-- The map has the same ids as the contents, and for each of them a contact that looks the same. -/
def Agrees (m contents : Contents) : Prop :=
  ∀ id, Option.Rel (fun a b : Contact ↦ a.sameView b = true) (m id) (contents id)

theorem NotViaStateList.eq_trans {a b c : NotViaStateList} (hab : a.eq b = true)
    (hbc : b.eq c = true) : a.eq c = true := by
  simp only [NotViaStateList.eq, Bool.and_eq_true, beq_iff_eq, List.all_eq_true,
    List.contains_iff_mem, List.mem_map] at *
  refine ⟨hab.1.trans hbc.1, fun x hx ↦ ?_⟩
  obtain ⟨y, hy, hxy⟩ := hab.2 x hx
  obtain ⟨z, hz, hyz⟩ := hbc.2 y hy
  exact ⟨z, hz, hyz.trans hxy⟩

theorem RediscoveryState.eq_trans {a b c : RediscoveryState} (hab : a.eq b = true)
    (hbc : b.eq c = true) : a.eq c = true := by
  simp only [RediscoveryState.eq, Bool.and_eq_true, beq_iff_eq] at *
  exact ⟨⟨NotViaStateList.eq_trans hab.1.1 hbc.1.1, hab.1.2.trans hbc.1.2⟩, hab.2.trans hbc.2⟩

theorem ContactState.eq_trans {a b c : ContactState} (hab : a.eq b = true) (hbc : b.eq c = true) :
    a.eq c = true :=
  match a, b, c, hab, hbc with
  | .unknown, .unknown, _, _, h => h
  | .valid, .valid, _, _, h => h
  | .invalid _, .invalid _, .invalid _, hab, hbc => NotViaStateList.eq_trans hab hbc
  | .rediscovering _, .rediscovering _, .rediscovering _, hab, hbc =>
    RediscoveryState.eq_trans hab hbc
  | .dead, .dead, _, _, h => h

@[simp] theorem Contact.sameView_refl (c : Contact) : c.sameView c = true := by
  simp [Contact.sameView]

theorem Contact.sameView_trans {a b c : Contact} (hab : a.sameView b = true)
    (hbc : b.sameView c = true) : a.sameView c = true := by
  simp only [Contact.sameView, Bool.and_eq_true, beq_iff_eq] at *
  exact ⟨⟨⟨hab.1.1.1.trans hbc.1.1.1, hab.1.1.2.trans hbc.1.1.2⟩, hab.1.2.trans hbc.1.2⟩,
    ContactState.eq_trans hab.2 hbc.2⟩

section Agrees

variable {m contents : Contents}

theorem Agrees.updateRel (h : Agrees m contents) (id : NodeId) {a b : Option Contact}
    (hab : Option.Rel (fun a b : Contact ↦ a.sameView b = true) a b) :
    Agrees (Function.update m id a) (Function.update contents id b) := by
  intro i
  by_cases hi : i = id
  · subst hi
    rwa [Function.update_self, Function.update_self]
  · rw [Function.update_of_ne hi, Function.update_of_ne hi]
    exact h i

theorem Agrees.update (h : Agrees m contents) (id : NodeId) (c : Contact) :
    Agrees (Function.update m id (some c)) (Function.update contents id (some c)) :=
  h.updateRel id (.some c.sameView_refl)

theorem Agrees.erase (h : Agrees m contents) (id : NodeId) :
    Agrees (Function.update m id none) (Function.update contents id none) :=
  h.updateRel id .none

theorem Agrees.written (h : Agrees m contents) (id : NodeId) (c : Contact) :
    Agrees (m.written id c) (contents.written id c) :=
  (h.erase id).update c.id c

/-- A change that observers would not see need not be reported. -/
theorem Agrees.unnoticed (h : Agrees m contents) {id : NodeId} {old new : Contact}
    (hold : contents id = some old) (hview : old.sameView new = true) :
    Agrees m (Function.update contents id (some new)) := by
  have hrel : Option.Rel (fun a b : Contact ↦ a.sameView b = true) (m id) (some new) := by
    have hid := h id
    rw [hold] at hid
    generalize m id = followed at hid
    cases hid with
    | some hview' => exact .some (Contact.sameView_trans hview' hview)
  have h' := h.updateRel id hrel
  rwa [Function.update_eq_self] at h'

theorem Agrees.notify (h : Agrees m contents) {id : NodeId} {old new : Contact}
    (hold : contents id = some old) (hid : old.id = id)
    (hsame : old.sameView new = true → new.id = id) :
    Agrees (replayAll m (notifyAll (.updatedContact new old))) (contents.written id new) := by
  subst hid
  by_cases hview : old.sameView new = true
  · rw [Contents.written_self _ (hsame hview)]
    simpa [notifyAll, RoutingTableEvent.isNoticed, hview] using h.unnoticed hold hview
  · simpa [notifyAll, RoutingTableEvent.isNoticed, hview, RoutingTableEvent.replay] using
      h.written old.id new

/-- The change shows: if the two contacts count as equal then observers could not tell them apart,
and if observers could not tell them apart then they have the same id. -/
structure Contact.Shows (old new : Contact) : Prop where
  ofEq : new.eq old = true → old.sameView new = true
  sameId : old.sameView new = true → new.id = old.id

theorem Agrees.guardDrop (h : Agrees m contents) {id : NodeId} {old new : Contact}
    (hold : contents id = some old) (hid : old.id = id) (hshows : old.Shows new) :
    Agrees (replayAll m (guardDrop old new)) (contents.written id new) := by
  have hsame : old.sameView new = true → new.id = id := fun hview ↦ (hshows.sameId hview).trans hid
  unfold Kira.guardDrop
  split
  · rename_i heq
    have hview := hshows.ofEq heq
    rw [Contents.written_self _ (hsame hview)]
    exact h.unnoticed hold hview
  · exact h.notify hold hid hsame

theorem Agrees.guardDrops {f : Contact → Contact} {l : List Contact} {contents' : Contents}
    (h : Agrees m contents) (hnodup : (l.map Contact.id).Nodup)
    (hstored : ∀ c ∈ l, contents c.id = some c) (hid : ∀ c ∈ l, (f c).id = c.id)
    (hshows : ∀ c ∈ l, c.Shows (f c)) (hmem : ∀ c ∈ l, contents' c.id = some (f c))
    (hothers : ∀ id, id ∉ l.map Contact.id → contents' id = contents id) :
    Agrees (replayAll m (l.flatMap fun c ↦ Kira.guardDrop c (f c))) contents' := by
  induction l generalizing m contents with
  | nil =>
    obtain rfl : contents' = contents := funext fun id ↦ hothers id (by simp)
    exact h
  | cons c l ih =>
    obtain ⟨hnot, hnodup⟩ := List.nodup_cons.1 hnodup
    rw [List.flatMap_cons, replayAll_append]
    have hfirst := h.guardDrop (hstored c (by simp)) rfl (hshows c (by simp))
    rw [Contents.written_self _ (hid c (by simp))] at hfirst
    refine ih hfirst hnodup ?_ (fun d hd ↦ hid d (List.mem_cons_of_mem c hd))
      (fun d hd ↦ hshows d (List.mem_cons_of_mem c hd))
      (fun d hd ↦ hmem d (List.mem_cons_of_mem c hd)) ?_
    · intro d hd
      have hne : d.id ≠ c.id := fun heq ↦ hnot (heq ▸ List.mem_map_of_mem hd)
      rw [Function.update_of_ne hne]
      exact hstored d (List.mem_cons_of_mem c hd)
    · intro id hnotin
      by_cases hc : id = c.id
      · subst hc
        rw [Function.update_self, hmem c (by simp)]
      · rw [Function.update_of_ne hc]
        exact hothers id (by simpa [hc] using hnotin)

end Agrees

/-! ## Operations -/

namespace UnlimitedULNRoutingTable

variable {k acc : Nat}

/-- The contact is stored, or it is refused without harm: there is no neighbour of this id that is
not valid any more and that would have to go, or the inner table has room for the contact. -/
def RefusalReported (t : UnlimitedULNRoutingTable k acc) (c : Contact) : Prop :=
  ∀ entry, t.unContacts.lookup c.id = some entry →
    c.isUln = true ∨ entry.isValid = true ∨
      ((∀ path, c.path = some path → path.isNotvalidated = false) ∧
        (t.inner.bucket c.id).isFull = false)

theorem Added.keeps {t t' : UnlimitedULNRoutingTable k acc} (ht : t.Tidy) {c : Contact}
    {err : AddError} (hsafe : RefusalReported t c) (h : Added t c (.error err) t') :
    t' = t ∧ ∀ entry, t.unContacts.lookup c.id = some entry →
      c.isUln = true ∨ entry.isValid = true := by
  cases h with
  | alreadyExists hlook hc =>
    refine ⟨rfl, fun entry hentry ↦ ?_⟩
    obtain rfl := Option.some.inj (hlook.symm.trans hentry)
    exact hc
  | inner hlook _ hadd =>
    rw [hadd.eq_of_error]
    exact ⟨rfl, by simp [hlook]⟩
  | @givenUp entry _ _ hlook hc hentry hadd =>
    exfalso
    obtain ⟨hval, hroom⟩ :=
      ((hsafe entry hlook).resolve_left (by simp [hc])).resolve_left (by simp [hentry])
    have hnone := ht.disjoint _ _ hlook
    cases hadd with
    | alreadyExists hin => simp [FlatRoutingTable.contains_eq_isSome, hnone] at hin
    | needsValidation _ hpath hval' => simp [hval _ hpath] at hval'
    | notAdded _ _ _ hfull => simp [hroom] at hfull

end UnlimitedULNRoutingTable

open UnlimitedULNRoutingTable

variable {k acc : Nat}

/-- The events tell what the operation does. -/
def TableOp.Reported (t : ObservableRoutingTable (UnlimitedULNRoutingTable k acc)) :
    TableOp → Prop
  | .add c => RefusalReported t.inner c
  | .insert c => RefusalReported t.inner c
  | .replace id c => c.id = id ∧ (t.inner.unContacts.lookup id).isSome = true
  | .modify id f => ∀ c, contact t id = some c → Fits t id (f c) ∧ c.Shows (f c)
  | .modifyAll f => ∀ c ∈ iter t, (f c).id = c.id ∧ c.Shows (f c)
  | _ => True

/-- The table is in order, and whoever follows the events knows what it stores. -/
structure Followed (t : ObservableRoutingTable (UnlimitedULNRoutingTable k acc)) : Prop where
  tidy : t.inner.Tidy
  agrees : Agrees (replayAll (fun _ ↦ none) t.events) (contact t)

namespace Followed

variable {t t' : ObservableRoutingTable (UnlimitedULNRoutingTable k acc)}

/-- An operation that extends the log by events that tell what it does. -/
theorem extend (h : Followed t) (t' : ObservableRoutingTable (UnlimitedULNRoutingTable k acc))
    (htidy : t'.inner.Tidy) {events : List RoutingTableEvent}
    (hevents : t'.events = t.events ++ events)
    (hagrees : ∀ m, Agrees m (contact t) → Agrees (replayAll m events) (contact t')) :
    Followed t' := by
  refine ⟨htidy, ?_⟩
  rw [hevents, replayAll_append]
  exact hagrees _ h.agrees

theorem add (h : Followed t) {c : Contact} {r : Except AddError Unit}
    (hsafe : RefusalReported t.inner c) (hadd : RoutingTable.add t c = .ok (r, t')) :
    Followed t' := by
  obtain ⟨hinner, hevents⟩ := ObservableRoutingTable.add_cases hadd
  have hadded := add_cases hinner
  refine h.extend t' (h.tidy.added hadded) hevents fun m hm ↦ ?_
  cases r with
  | error err =>
    obtain ⟨heq, -⟩ := hadded.keeps h.tidy hsafe
    rw [show contact t' = contact t from congrArg contact heq]
    exact hm
  | ok u =>
    have heff := h.tidy.addEffect hadded
    generalize heq : t'.inner.contact = contents at heff
    rw [show contact t' = contents from heq]
    cases heff with
    | stored => exact hm.update c.id c

theorem splitBucket (h : Followed t) {id : NodeId} {r : Except BucketSplitError Nat}
    (hsplit : RoutingTable.splitBucket t id = .ok (r, t')) :
    Followed t' ∧ t'.inner.unContacts = t.inner.unContacts := by
  obtain ⟨hinner, hevents⟩ := ObservableRoutingTable.splitBucket_cases hsplit
  obtain ⟨inner, hflat, heq⟩ := splitBucket_cases hinner
  obtain ⟨htidy, hsame⟩ := h.tidy.split hflat
  rw [← heq] at htidy hsame
  refine ⟨?_, by rw [heq]⟩
  have hcontents : contact t' = contact t := hsame
  rcases hevents with ⟨-, hevents⟩ | ⟨i, b, -, -, hevents⟩
  · have hnone : t'.events = t.events ++ [] := by rw [hevents, List.append_nil]
    refine h.extend t' htidy hnone fun m hm ↦ ?_
    rwa [hcontents]
  · refine h.extend t' htidy hevents fun m hm ↦ ?_
    rw [hcontents]
    split <;> exact hm

theorem insert (h : Followed t) {c : Contact} {r : Except InsertionError Unit}
    (hsafe : RefusalReported t.inner c) (hins : RoutingTable.insert t c = .ok (r, t')) :
    Followed t' := by
  -- a refused contact is refused without harm in the next round, too: splits leave the map alone
  have hround : ∀ (s s₁ : ObservableRoutingTable (UnlimitedULNRoutingTable k acc)) s₂,
      (Followed s ∧ RefusalReported s.inner c) →
      RoutingTable.add s c = .ok (.error .notAdded, s₁) →
      RoutingTable.splitBucket s₁ c.id = .ok s₂ →
      (Followed s₂.2 ∧ RefusalReported s₂.2.inner c) := by
    rintro s s₁ s₂ ⟨hs, hsafe⟩ hadd hsplit
    have hadded := add_cases (ObservableRoutingTable.add_cases hadd).1
    obtain ⟨heq, hkept⟩ := hadded.keeps hs.tidy hsafe
    obtain ⟨hs₂, hmap⟩ := (hs.add hsafe hadd).splitBucket hsplit
    refine ⟨hs₂, fun entry hentry ↦ ?_⟩
    rw [hmap, heq] at hentry
    exact (hkept entry hentry).imp_right .inl
  rcases insertRounds_induction hround _ t ⟨h, hsafe⟩ hins with
    ⟨s, ⟨hs, hsafe⟩, hadd, -⟩ | ⟨s, err, ⟨hs, hsafe⟩, hadd, -, -⟩ |
    ⟨s, s₁, err, ⟨hs, hsafe⟩, hadd, hfail, -⟩
  · exact hs.add hsafe hadd
  · exact hs.add hsafe hadd
  · exact ((hs.add hsafe hadd).splitBucket hfail).1

theorem remove (h : Followed t) (id : NodeId) : Followed (RoutingTable.remove t id).2 := by
  obtain ⟨-, hinner, hevents⟩ := ObservableRoutingTable.remove_cases t id
  obtain ⟨hremoved, htidy, hcontents⟩ := h.tidy.remove id
  have hcontents' : contact (RoutingTable.remove t id).2 = Function.update (contact t) id none :=
    (congrArg contact hinner).trans hcontents
  refine h.extend (RoutingTable.remove t id).2 (hinner ▸ htidy) hevents fun m hm ↦ ?_
  rw [hcontents', show (RoutingTable.remove t.inner id).1 = contact t id from hremoved]
  cases hc : contact t id with
  | none =>
    rwa [← hc, Function.update_eq_self, hc]
  | some c =>
    have hid : c.id = id := contact_id (show Tidy t from h.tidy) hc
    simpa [RoutingTableEvent.replay, hid] using hm.erase id

theorem replace (h : Followed t) {id : NodeId} {c : Contact} (hid : c.id = id)
    (hsome : (t.inner.unContacts.lookup id).isSome = true) :
    Followed (RoutingTable.replace t id c).2 := by
  obtain ⟨old, hold⟩ := Option.isSome_iff_exists.1 hsome
  obtain ⟨-, hinner, hevents⟩ := ObservableRoutingTable.replace_cases t id c
  have hflat : RoutingTable.replace t.inner id c =
      (.ok old, ⟨t.inner.unContacts.insert id c, t.inner.inner⟩) := by
    simp [RoutingTable.replace, UnlimitedULNRoutingTable.replace, hold]
  rw [hflat] at hinner hevents
  obtain ⟨htidy, hcontents⟩ := h.tidy.insert hid (h.tidy.disjoint id old hold)
  have hcontents' :
      contact (RoutingTable.replace t id c).2 = Contents.written (contact t) id c := by
    rw [Contents.written_self _ hid]
    exact (congrArg contact hinner).trans hcontents
  refine h.extend (RoutingTable.replace t id c).2 (hinner ▸ htidy) hevents fun m hm ↦ ?_
  rw [hcontents']
  refine hm.notify ?_ (h.tidy.keyed id old hold) fun _ ↦ hid
  exact show t.inner.contact id = some old by simp [UnlimitedULNRoutingTable.contact, hold]

theorem write (h : Followed t) {id : NodeId} {old new : Contact} (hold : contact t id = some old)
    (hfits : Fits t id new) (hshows : old.Shows new) :
    Followed (LawfulRoutingTable.write t id new) := by
  obtain ⟨htidy, hcontents⟩ := write_effect (show Tidy t from h.tidy) hold hfits
  refine h.extend (LawfulRoutingTable.write t id new) htidy rfl fun m hm ↦ ?_
  rw [hcontents, show RoutingTable.contact t.inner id = some old from hold]
  exact hm.guardDrop hold (contact_id (show Tidy t from h.tidy) hold) hshows

theorem iterMut (h : Followed t) {f : Contact → Contact}
    (hf : ∀ c ∈ iter t, (f c).id = c.id ∧ c.Shows (f c)) : Followed (RoutingTable.iterMut t f) := by
  have ht : Tidy t := h.tidy
  obtain ⟨htidy, hcontents⟩ := iterMut_effect ht fun c hc ↦ (hf c hc).1
  refine h.extend (RoutingTable.iterMut t f) htidy rfl fun m hm ↦ ?_
  refine hm.guardDrops h.tidy.nodup_iter (fun c hc ↦ contact_of_mem ht hc)
    (fun c hc ↦ (hf c hc).1) (fun c hc ↦ (hf c hc).2) ?_ ?_
  · intro c hc
    rw [hcontents, contact_of_mem ht hc, Option.map_some]
  · intro id hid
    have hnone : contact t id = none := by
      refine Option.eq_none_iff_forall_ne_some.2 fun c hc ↦ ?_
      obtain ⟨hmem, rfl⟩ := (contact_eq_some_iff ht).1 hc
      exact hid (List.mem_map_of_mem hmem)
    rw [hcontents, hnone, Option.map_none]

theorem apply (h : Followed t) {op : TableOp} (hop : op.Reported t) (hstep : op.apply t = .ok t') :
    Followed t' := by
  cases TableOp.applied_of_apply hstep with
  | add hadd => exact h.add hop hadd
  | insert hins => exact h.insert hop hins
  | splitBucket hsplit => exact (h.splitBucket hsplit).1
  | remove id => exact h.remove id
  | replace id c => exact h.replace hop.1 hop.2
  | absent => exact h
  | modify hc => exact h.write hc (hop _ hc).1 (hop _ hc).2
  | modifyAll f => exact h.iterMut hop

end Followed

/-- **Whoever follows the events knows what the table stores**, after every operation of a run whose
operations are all reported. -/
theorem replay_agrees {root : NodeId} {acc_pos : 0 < acc} {acc_lt : acc < 64}
    {t : ObservableRoutingTable (UnlimitedULNRoutingTable k acc)}
    (h : Reachable TableOp.apply TableOp.Reported (.ofTable (.new root acc_pos acc_lt)) t) :
    Agrees (replayAll (fun _ ↦ none) t.events) (contact t) := by
  have h₀ : Followed (.ofTable (.new root acc_pos acc_lt) :
      ObservableRoutingTable (UnlimitedULNRoutingTable k acc)) := by
    refine ⟨tidy_new root acc_pos acc_lt, fun id ↦ ?_⟩
    have hnone : (new root acc_pos acc_lt : UnlimitedULNRoutingTable k acc).contact id = none := by
      refine Option.eq_none_iff_forall_ne_some.2 fun c hc ↦ ?_
      have hmem := (((tidy_new root acc_pos acc_lt).contact_eq_some_iff id c).1 hc).1
      simp at hmem
    show Option.Rel _ none ((new root acc_pos acc_lt : UnlimitedULNRoutingTable k acc).contact id)
    rw [hnone]
    exact .none
  exact (h.invariant h₀ fun _ _ _ ht hop hstep ↦ ht.apply hop hstep).agrees

def neighborSeven : Contact := .ofIds [7] (by decide) .MIN

/-- The node 7 over the node 3, on a path that has not been validated. -/
def unvalidatedSeven : Contact :=
  .new 0 { Path.ofIds [3, 7] (by decide) with pathState := .notValidated }
    .MIN

/-- A neighbour is added and becomes invalid. -/
theorem replay_after_setState : ∃ t : ObservableRoutingTable (UnlimitedULNRoutingTable 1 1),
    runAll TableOp.apply (.ofTable (.new 0 (by decide) (by decide)))
      [.add neighborSeven, .modify 7 (Contact.setState (.invalid .empty))] = .ok t ∧
    (contact t 7).map Contact.isValid = some false ∧
    Agrees (replayAll (fun _ ↦ none) t.events) (contact t) := by
  refine Run.exists_ok (p := fun t ↦ ∃ s : ObservableRoutingTable (UnlimitedULNRoutingTable 1 1),
    TableOp.apply (.ofTable (.new 0 (by decide) (by decide))) (.add neighborSeven) = .ok s ∧
    contact s 7 = some neighborSeven ∧
    TableOp.apply s (.modify 7 (Contact.setState (.invalid .empty))) = .ok t ∧
    (contact t 7).map Contact.isValid = some false)
    ⟨_, rfl, _, rfl, by decide +kernel, rfl, by decide +kernel⟩ ?_
  rintro t - ⟨s, hadd, hstored, hmodify, hinvalid⟩
  refine ⟨hinvalid, replay_agrees (.step (.step .start ?_ hadd) ?_ hmodify)⟩
  · intro entry hentry
    exact .inl (by decide)
  · intro c hc
    obtain rfl := Option.some.inj (hstored.symm.trans hc)
    exact ⟨.inl rfl, fun heq ↦ absurd heq (by decide), fun _ ↦ rfl⟩

/-- **An event is missing.**  A neighbour that has become invalid is gone after a failed attempt to
add a path to it that has yet to be validated, but observers have not been told. -/
theorem event_missing : ∃ t : ObservableRoutingTable (UnlimitedULNRoutingTable 1 1),
    runAll TableOp.apply (.ofTable (.new 0 (by decide) (by decide)))
      [.add neighborSeven, .modify 7 (Contact.setState (.invalid .empty)),
        .add unvalidatedSeven] = .ok t ∧
    (replayAll (fun _ ↦ none) t.events 7).isSome = true ∧ contact t 7 = none := by
  exact ⟨_, rfl, by decide +kernel, by decide +kernel⟩

end Kira
