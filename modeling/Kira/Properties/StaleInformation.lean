import Kira.Domain.InsertionStrategy
import Kira.Domain.RoutingTable.UnlimitedULNLawful

/-!
# Old information about a contact

Information about a contact carries the sequence number of the contact's state.  The insertion
strategy compares it with the number of the stored contact, so that what is older than what has been
accepted before should have no effect.

It compares with the right number only as long as the stored one is the largest that was accepted.
An update takes over the *path* of newer information but not its number
(`Contact.Assessed.stateSeqNr_eq`), so that after the update everything between the two numbers
still passes for new: `stale_information_accepted`.  And a contact that the table itself puts in the
place of the stored one, because it is a neighbour now or because the stored one is not valid, is
never compared with it.

`stale_information_ignored` says for every table that there is no third way.
-/

set_option autoImplicit false

namespace Kira

open Run RoutingTable LawfulRoutingTable

/-- The result says that the information was accepted: the contact has been stored, or its path has
been taken over. -/
def InsertionStrategyResult.isAccepted : InsertionStrategyResult → Bool
  | .inserted => true
  | .replaced _ => true
  | .updated => true
  | .dropped => false
  | .needsValidation => false

namespace UNSStrategy

/-- A table, and the largest sequence number that has been accepted so far; zero if there is none.
-/
structure History (T : Type) where
  table : T
  accepted : Nat

variable {T : Type} {k : Nat} [RoutingTable T k]

/-- A call of the strategy, with its effect on the record. -/
def History.step (s : History T) (call : Call) : Run (History T) := do
  let (res, table) ← insert call.ctx call.contact s.table
  return ⟨table, if res.isAccepted then max s.accepted call.contact.stateSeqNr.val
    else s.accepted⟩

/-- The active and the proposed path of the contact with this id. -/
def History.paths (s : History T) (id : NodeId) : Option (Option Path × Option Path) :=
  (contact s.table id).map fun c ↦ (c.path, c.proposedPath)

/-- The contact, with its path rewritten, does not get around the comparison of sequence numbers:
newer information is not taken over into the stored contact, and older information does not make the
table replace it. -/
def KeepsOrder (ctx : Context) (t : T) (c : Contact) : Prop :=
  ∀ old, contact t c.id = some old →
    (old.stateSeqNr.val < c.stateSeqNr.val →
      ∀ path, c.path = some path → old.pathSuitable ctx.order path = .ok false) ∧
    (c.stateSeqNr.val < old.stateSeqNr.val → c.state ≠ .unknown →
      c.isUln = false ∧ old.isValid = true)

/-- A call about the contact `id` that keeps to the order of sequence numbers and, as all others,
leaves the contact stored. -/
structure Call.InOrder (id : NodeId) (s : History T) (call : Call) : Prop where
  id_eq : call.contact.id = id
  keepsOrder : ∀ path prepared, call.contact.path = some path →
    prepare call.ctx s.table call.contact path = .ok prepared →
      KeepsOrder call.ctx s.table prepared
  staysStored : ∀ s', s.step call = .ok s' → (RoutingTable.contact s.table id).isSome = true →
    (RoutingTable.contact s'.table id).isSome = true

/-- A contact that the table has let go of was not newer than the one that made it do so. -/
theorem KeepsOrder.le_of_dropped {ctx : Context} {t : T} {c old : Contact} (h : KeepsOrder ctx t c)
    (hold : contact t c.id = some old) (hknown : c.state ≠ .unknown)
    (hreplaced : c.isUln = true ∨ old.isValid = false) :
    old.stateSeqNr.val ≤ c.stateSeqNr.val := by
  by_contra hlt
  obtain ⟨huln, hvalid⟩ := (h old hold).2 (by omega) hknown
  rcases hreplaced with hc | hinvalid
  · simp [huln] at hc
  · simp [hvalid] at hinvalid

/-- Nothing but the path is taken over from information that is no newer. -/
theorem KeepsOrder.eq_of_taken {ctx : Context} {t : T} {c old : Contact} {path : Path}
    (h : KeepsOrder ctx t c) (hold : contact t c.id = some old)
    (hssn : old.stateSeqNr.val ≤ c.stateSeqNr.val) (hpath : c.path = some path)
    (hsuitable : old.pathSuitable ctx.order path = .ok true) :
    c.stateSeqNr.val = old.stateSeqNr.val := by
  by_contra hne
  have := (h old hold).1 (by omega) path hpath
  simp [hsuitable] at this

/-- The stored contact carries the largest sequence number that has been accepted. -/
structure History.UpToDate [LawfulRoutingTable T k] (id : NodeId) (s : History T) : Prop where
  tidy : Tidy s.table
  le : ∀ c, contact s.table id = some c → s.accepted ≤ c.stateSeqNr.val
  absent : contact s.table id = none → s.accepted = 0

variable [LawfulRoutingTable T k]

/-- What the strategy does to the contents, when the contact is not turned away. -/
theorem History.step_cases {s s' : History T} {call : Call} (ht : Tidy s.table)
    (h : s.step call = .ok s') :
    s' = s ∨ ∃ path prepared res, call.contact.path = some path ∧
      prepare call.ctx s.table call.contact path = .ok prepared ∧
      prepared.id = call.contact.id ∧ prepared.stateSeqNr = call.contact.stateSeqNr ∧
      Tidy s'.table ∧ Effect call.ctx (contact s.table) prepared res (contact s'.table) ∧
      s'.accepted = if res.isAccepted then max s.accepted call.contact.stateSeqNr.val
        else s.accepted := by
  obtain ⟨⟨res, t'⟩, hins, h⟩ := of_bind h
  obtain rfl : (⟨t', if res.isAccepted then max s.accepted call.contact.stateSeqNr.val
    else s.accepted⟩ : History T) = s' := by simpa using h
  rcases insert_cases hins with ⟨rfl, rfl⟩ | ⟨path, prepared, hadm, hprep, hout⟩
  · exact .inl rfl
  · obtain ⟨ht', heff⟩ := hout.effect ht
    obtain ⟨path', rfl, -⟩ := prepare_cases hprep
    exact .inr ⟨path, _, res, hadm.path_eq, hprep, rfl, rfl, ht', heff, rfl⟩

/-- **The stored contact stays up to date.** -/
theorem History.UpToDate.step {id : NodeId} {s s' : History T} {call : Call}
    (h : s.UpToDate id) (hcall : call.InOrder id s) (hstep : s.step call = .ok s') :
    s'.UpToDate id := by
  rcases History.step_cases h.tidy hstep with
    rfl | ⟨path, c, res, hpath, hprep, hid, hssn, ht', heff, hacc⟩
  · exact h
  have hkeeps := hcall.keepsOrder path c hpath hprep
  have hstays := hcall.staysStored s' hstep
  obtain rfl : c.id = id := hid.trans hcall.id_eq
  rw [← hssn] at hacc
  -- a contact that is stored now has a number as large as everything accepted before
  have hnew : ∀ {old : Option Contact}, contact s.table c.id = old →
      (∀ x, old = some x → x.stateSeqNr.val ≤ c.stateSeqNr.val) →
      s.accepted ≤ c.stateSeqNr.val := by
    intro old hold hle
    cases old with
    | none => rw [h.absent hold]; exact Nat.zero_le _
    | some x => exact Nat.le_trans (h.le x hold) (hle x rfl)
  have hstored : contact s'.table c.id = some c → s.accepted ≤ c.stateSeqNr.val →
      res.isAccepted = true → s'.UpToDate c.id := by
    intro hc hle hres
    rw [if_pos hres] at hacc
    refine ⟨ht', fun x hx ↦ ?_, fun hnone ↦ ?_⟩
    · obtain rfl := Option.some.inj (hc.symm.trans hx)
      omega
    · simp [hc] at hnone
  generalize hm : contact s'.table = m' at heff
  cases heff with
  | stored hknown hrep =>
    refine hstored (by rw [hm, Function.update_self]) (hnew rfl ?_) rfl
    intro x hx
    exact hkeeps.le_of_dropped hx hknown (hrep x hx)
  | kept hunder _ hres =>
    have hacc : s'.accepted = s.accepted := by
      rcases hres with rfl | rfl <;> simpa [InsertionStrategyResult.isAccepted] using hacc
    cases hunder with
    | unchanged => exact ⟨ht', by rw [hm, hacc]; exact h.le, by rw [hm, hacc]; exact h.absent⟩
    | dropped hold =>
      rw [hm, hold, Function.update_self] at hstays
      simp at hstays
  | @updated _ existing existing' hexisting hup =>
    have hcontact : contact s'.table c.id = some existing' := by rw [hm, Function.update_self]
    have hle := h.le existing hexisting
    refine ⟨ht', fun x hx ↦ ?_, fun hnone ↦ by simp [hcontact] at hnone⟩
    obtain rfl := Option.some.inj (hcontact.symm.trans hx)
    cases hup with
    | kept => simpa [InsertionStrategyResult.isAccepted, hacc] using hle
    | taken hle' hp hsuitable hassessed =>
      have heq := hkeeps.eq_of_taken hexisting hle' hp hsuitable
      have hmax : s'.accepted = max s.accepted c.stateSeqNr.val := hacc
      rw [hassessed.stateSeqNr_eq]
      omega
  | @replaced m₁ old hknown hunder hnone hold =>
    refine hstored ?_ ?_ rfl
    · rw [hm, Contents.written, Function.update_self]
    · cases hunder with
      | unchanged => exact hnew hnone (by simp)
      | dropped hx hinvalid _ =>
        refine hnew hx ?_
        rintro x ⟨⟩
        exact hkeeps.le_of_dropped hx hknown (.inr hinvalid)

theorem History.paths_eq_of_older {s s' : History T} {call : Call} {old : Contact}
    (ht : Tidy s.table) (hcall : call.InOrder call.contact.id s)
    (hold : RoutingTable.contact s.table call.contact.id = some old)
    (holder : call.contact.stateSeqNr.val < old.stateSeqNr.val) (hstep : s.step call = .ok s') :
    s'.paths call.contact.id = s.paths call.contact.id := by
  rcases History.step_cases ht hstep with
    rfl | ⟨path, c, res, hpath, hprep, hid, hssn, -, heff, -⟩
  · rfl
  have hkeeps := hcall.keepsOrder path c hpath hprep
  rw [← hid] at hold ⊢
  rw [← hssn] at holder
  -- the table does not let go of a contact that is newer
  have hnever : c.state ≠ .unknown → c.isUln = true ∨ old.isValid = false → False := by
    intro hknown hreplaced
    have := hkeeps.le_of_dropped hold hknown hreplaced
    omega
  unfold History.paths
  generalize contact s'.table = m' at heff
  cases heff with
  | stored hknown hrep => exact (hnever hknown (hrep old hold)).elim
  | kept hunder hunknown _ =>
    cases hunder with
    | unchanged => rfl
    | dropped hx hinvalid _ =>
      obtain rfl := Option.some.inj (hold.symm.trans hx)
      by_cases hstate : c.state = .unknown
      · rw [hunknown hstate]
      · exact (hnever hstate (.inr hinvalid)).elim
  | updated hexisting hup =>
    obtain rfl := Option.some.inj (hold.symm.trans hexisting)
    cases hup with
    | kept => rw [Function.update_self, hold]
    | taken hle => omega
  | replaced hknown hunder hnone _ =>
    cases hunder with
    | unchanged => simp [hold] at hnone
    | dropped hx hinvalid _ =>
      obtain rfl := Option.some.inj (hold.symm.trans hx)
      exact (hnever hknown (.inr hinvalid)).elim

end UNSStrategy

open UNSStrategy

/-- **Stale information has no effect** in any run whose calls keep to the order of sequence
numbers: a call with a smaller number than one that has been accepted changes neither the active nor
the proposed path. -/
theorem stale_information_ignored {T : Type} {k : Nat} [RoutingTable T k] [LawfulRoutingTable T k]
    (id : NodeId) {t₀ : T} (h₀ : Tidy t₀) {s s' : History T} {call : Call}
    (hrun : Reachable History.step (fun s call ↦ call.InOrder id s) ⟨t₀, 0⟩ s)
    (hcall : call.InOrder id s) (hstep : s.step call = .ok s')
    (hstale : call.contact.stateSeqNr.val < s.accepted) : s'.paths id = s.paths id := by
  have hs : s.UpToDate id := hrun.invariant (I := History.UpToDate id)
    ⟨h₀, fun _ _ ↦ Nat.zero_le _, fun _ ↦ rfl⟩ fun _ _ _ hs hop h ↦ hs.step hop h
  cases hold : contact s.table id with
  | none =>
    rw [hs.absent hold] at hstale
    omega
  | some old =>
    obtain rfl := hcall.id_eq
    exact History.paths_eq_of_older hs.tidy hcall hold
      (Nat.lt_of_lt_of_le hstale (hs.le old hold)) hstep

/-- The node has the neighbour 1. -/
def oneNeighbor : Context where
  order := ⟨fun _ ↦ 0, 0⟩
  ulnContains id := id == 1
  validated := 0
  ageContact := 0
  ageExisting := 0
  promoted := 0

/-- Information about the node 9, over the neighbour 1 and further nodes. -/
def aboutNine (via : List NodeId) (ssn : SafeStateSeqNr) : Call :=
  ⟨oneNeighbor, .ofIds (1 :: via ++ [9]) (by simp) ssn⟩

/-- The node 9 is behind the nodes 1 and 2. -/
def newerNine : Call := aboutNine [2] ⟨5, by decide, by decide⟩

/-- The node 9 is behind the node 1, says an older message. -/
def olderNine : Call := aboutNine [] ⟨3, by decide, by decide⟩

/-- An older path, to a node on which newer information is stored. -/
theorem older_path_ignored : ∃ s s' : History (UnlimitedULNRoutingTable 4 1),
    s.accepted = 5 ∧ s.step olderNine = .ok s' ∧ s'.paths 9 = s.paths 9 := by
  have hrun : ∃ s s' : History (UnlimitedULNRoutingTable 4 1),
      History.step ⟨.new 0 (by decide) (by decide), 0⟩ newerNine = .ok s ∧
      s.step olderNine = .ok s' ∧ s.accepted = 5 ∧
      contact s.table 9 = some newerNine.contact ∧ (contact s'.table 9).isSome = true ∧
      prepare oneNeighbor s.table olderNine.contact (.ofIds [1, 9] (by decide)) =
        .ok olderNine.contact :=
    ⟨_, _, rfl, rfl, rfl, by decide +kernel, by decide +kernel, by decide +kernel⟩
  obtain ⟨s, s', hfirst, hsecond, hacc, hstored, hstays, hprep⟩ := hrun
  have hnew : newerNine.InOrder 9
      (⟨.new 0 (by decide) (by decide), 0⟩ : History (UnlimitedULNRoutingTable 4 1)) := by
    refine ⟨by decide, fun _ _ _ _ old hold ↦ ?_, fun _ _ hsome ↦ absurd hsome (by decide +kernel)⟩
    exact absurd (mem_of_contact hold) (UnlimitedULNRoutingTable.not_mem_iter_new old)
  have hold : olderNine.InOrder 9 s := by
    refine ⟨by decide, fun path c hpath hc old hold ↦ ?_, fun s₁ hs₁ _ ↦ ?_⟩
    · obtain rfl : .ofIds [1, 9] (by decide) = path := Option.some.inj hpath
      obtain rfl : olderNine.contact = c := ok.inj (hprep.symm.trans hc)
      obtain rfl : newerNine.contact = old := Option.some.inj (hstored.symm.trans hold)
      exact ⟨fun hlt ↦ absurd hlt (by decide), fun _ _ ↦ by decide⟩
    · obtain rfl : s' = s₁ := ok.inj (hsecond.symm.trans hs₁)
      exact hstays
  refine ⟨s, s', hacc, hsecond, ?_⟩
  exact stale_information_ignored 9 (UnlimitedULNRoutingTable.tidy_new 0 (by decide) (by decide))
    (.step .start hnew hfirst) hold hsecond (by rw [hacc]; decide)

/-- **Stale information is accepted.**  The node 9 is stored with the sequence number 1, its path is
updated with the number 5, and then with the number 3. -/
theorem stale_information_accepted : ∃ s s' : History (UnlimitedULNRoutingTable 4 1),
    runAll History.step ⟨.new 0 (by decide) (by decide), 0⟩
      [aboutNine [2, 3] ⟨1, by decide, by decide⟩, aboutNine [4] ⟨5, by decide, by decide⟩] =
        .ok s ∧
      s.accepted = 5 ∧ s.step (aboutNine [] ⟨3, by decide, by decide⟩) = .ok s' ∧
      s'.paths 9 ≠ s.paths 9 := by
  exact ⟨_, _, rfl, rfl, rfl, by decide +kernel⟩

end Kira
