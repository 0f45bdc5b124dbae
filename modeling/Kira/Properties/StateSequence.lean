import Kira.Domain.UnderlayNeighborTable

/-!
# The state sequence number of a node

Other nodes tell by the state sequence number whether what they know about the neighbourhood of a
node is up to date.  So whenever the bidirectional mappings of the underlay neighbour table have
changed, the number should have become larger.

Confirmations and removals see to that, but insertions do not: a new connection to a neighbour takes
the place of the old one and is tentative, so a bidirectional mapping is gone and the number is as
it was (`neighbor_lost_silently`).  In a run in which no bidirectional mapping is overwritten the
number keeps track of them: `ssn_tracks_neighbors`.
-/

set_option autoImplicit false

namespace Kira

namespace InMemoryULNTable

/-- The neighbour hears the node. -/
def Bidirectional (t : InMemoryULNTable) (id : NodeId) (ulnid : UnderlayNeighborId) : Prop :=
  t.map.lookup id = some (ulnid, .bidirectional)

/-- The same neighbours hear the node. -/
def SameNeighbors (t t' : InMemoryULNTable) : Prop :=
  ∀ id ulnid, t.Bidirectional id ulnid ↔ t'.Bidirectional id ulnid

/-- The sequence number of `t'` is no smaller than that of `t`, and larger if the bidirectional
mappings are others. -/
structure Tracks (t t' : InMemoryULNTable) : Prop where
  le : t.stateSeqNr.val ≤ t'.stateSeqNr.val
  lt : ¬ SameNeighbors t t' → t.stateSeqNr.val < t'.stateSeqNr.val

variable {t t' : InMemoryULNTable}

theorem Tracks.of_same (hssn : t'.stateSeqNr = t.stateSeqNr)
    (h : SameNeighbors t t') : Tracks t t' :=
  ⟨Nat.le_of_eq (congrArg _ hssn.symm), fun hnot ↦ absurd h hnot⟩

theorem Tracks.of_lt (h : t.stateSeqNr.val < t'.stateSeqNr.val) :
    Tracks t t' :=
  ⟨Nat.le_of_lt h, fun _ ↦ h⟩

theorem Tracks.refl (t : InMemoryULNTable) : Tracks t t :=
  .of_same rfl fun _ _ ↦ Iff.rfl

theorem Tracks.trans {t₁ t₂ : InMemoryULNTable} (h : Tracks t t₁) (h' : Tracks t₁ t₂) :
    Tracks t t₂ := by
  refine ⟨h.le.trans h'.le, fun hnot ↦ ?_⟩
  by_cases hsame : SameNeighbors t t₁
  · have hnot' : ¬ SameNeighbors t₁ t₂ := by
      intro hsame'
      exact hnot fun id ulnid ↦ (hsame id ulnid).trans (hsame' id ulnid)
    exact Nat.lt_of_le_of_lt h.le (h'.lt hnot')
  · exact Nat.lt_of_lt_of_le (h.lt hsame) h'.le

/-- The operation overwrites no bidirectional mapping with another one. -/
def OverwritesNone (t : InMemoryULNTable) : ULNOp → Prop
  | .insert id ulnid => ∀ existing, t.Bidirectional id existing → existing = ulnid
  | _ => True

/-- **The sequence number tracks a step** exactly if that overwrites no bidirectional mapping. -/
theorem Stepped.tracks_iff {op : ULNOp} (h : t.Stepped op t') :
    Tracks t t' ↔ t.OverwritesNone op := by
  cases h with
  | @known id ulnid state hlook =>
    refine iff_of_true (.refl t) fun existing hexisting ↦ ?_
    rw [Bidirectional, hlook] at hexisting
    simp_all
  | @inserted id ulnid hnew =>
    refine ⟨fun htracks existing hexisting ↦ ?_, fun hover ↦ .of_same rfl fun id' ulnid' ↦ ?_⟩
    · -- the number stays, so the mapping would have to be there still
      by_contra hne
      refine absurd (htracks.lt fun hsame ↦ ?_) (Nat.lt_irrefl _)
      have hstill := (hsame id existing).1 hexisting
      simp [Bidirectional] at hstill
    · rw [Bidirectional, Bidirectional, KeyMap.lookup_insert_eq]
      split
      · rename_i hid
        subst hid
        refine iff_of_false (fun hlook ↦ ?_) (by simp)
        exact hnew _ _ hlook (hover _ hlook)
      · rfl
  | confirmedBefore => exact iff_of_true (.refl t) trivial
  | confirmed _ hssn | disconnected _ hssn =>
    exact iff_of_true (.of_lt (hssn ▸ Nat.lt_succ_self _)) trivial
  | @removed id hnot =>
    refine iff_of_true (.of_same rfl fun id' ulnid ↦ ?_) trivial
    rw [Bidirectional, Bidirectional, KeyMap.lookup_erase_eq]
    split
    · rename_i hid
      exact iff_of_false (hid ▸ hnot ulnid) (by simp)
    · rfl

end InMemoryULNTable

open InMemoryULNTable

/-- **The sequence number keeps track of the neighbours.**  Between any two points of a run in which
no bidirectional mapping is overwritten, it does not decrease, and it has increased if the
bidirectional mappings are others.  And every operation from there on tells observers exactly if it
changes the number. -/
theorem ssn_tracks_neighbors {t t' : ObservableULNTable InMemoryULNTable}
    (h : Reachable ULNOp.apply (fun t op ↦ t.inner.OverwritesNone op) t t') :
    t.inner.stateSeqNr.val ≤ t'.inner.stateSeqNr.val ∧
    (¬ SameNeighbors t.inner t'.inner → t.inner.stateSeqNr.val < t'.inner.stateSeqNr.val) ∧
    ∀ (op : ULNOp) (t'' : ObservableULNTable InMemoryULNTable), op.apply t' = .ok t'' →
      t''.events = t'.events ++
        if t''.inner.stateSeqNr = t'.inner.stateSeqNr then [] else [.ssnChanged] := by
  have htracks : Tracks t.inner t'.inner := by
    refine h.invariant (I := fun s ↦ Tracks t.inner s.inner) (.refl t.inner) ?_
    intro s op s' hs hop hstep
    exact hs.trans ((ULNOp.apply_cases hstep).1.tracks_iff.2 hop)
  exact ⟨htracks.le, htracks.lt, fun op t'' hop ↦ (ULNOp.apply_cases hop).2⟩

/-- A neighbour is found and confirmed. -/
theorem ssn_after_confirm : ∃ t : ObservableULNTable InMemoryULNTable,
    runAll ULNOp.apply (.new .new) [.insert 7 ⟨1, 1⟩, .confirm 7 ⟨1, 1⟩] = .ok t ∧
    InMemoryULNTable.new.stateSeqNr.val < t.inner.stateSeqNr.val ∧ t.events = [.ssnChanged] := by
  refine Run.exists_ok (p := fun t ↦ ∃ s, ULNOp.apply (.new .new) (.insert 7 ⟨1, 1⟩) = .ok s ∧
    s.events = [] ∧ ULNOp.apply s (.confirm 7 ⟨1, 1⟩) = .ok t ∧
    t.inner.map.lookup 7 = some (⟨1, 1⟩, .bidirectional) ∧
    t.inner.stateSeqNr ≠ s.inner.stateSeqNr)
    ⟨_, rfl, _, rfl, rfl, rfl, by decide +kernel, by decide +kernel⟩ ?_
  rintro t - ⟨s, hinsert, hquiet, hconfirm, hlook, hne⟩
  have hfirst : (ObservableULNTable.new InMemoryULNTable.new).inner.OverwritesNone
      (.insert 7 ⟨1, 1⟩) := by
    intro existing hexisting
    simp [Bidirectional, ObservableULNTable.new, InMemoryULNTable.new] at hexisting
  have hinserted : Reachable ULNOp.apply (fun t op ↦ t.inner.OverwritesNone op) (.new .new) s :=
    .step .start hfirst hinsert
  have hother : ¬ SameNeighbors InMemoryULNTable.new t.inner := by
    intro hsame
    have hnew := (hsame 7 ⟨1, 1⟩).2 hlook
    simp [Bidirectional, InMemoryULNTable.new] at hnew
  have hsecond : s.inner.OverwritesNone (.confirm 7 ⟨1, 1⟩) := trivial
  refine ⟨(ssn_tracks_neighbors (hinserted.step hsecond hconfirm)).2.1 hother, ?_⟩
  rw [(ssn_tracks_neighbors hinserted).2.2 _ _ hconfirm, hquiet, if_neg hne, List.nil_append]

/-- **A neighbour is lost silently.**  A bidirectional mapping is overwritten, and the sequence
number is as it was. -/
theorem neighbor_lost_silently : ∃ t t' : ObservableULNTable InMemoryULNTable,
    runAll ULNOp.apply (.new .new) [.insert 7 ⟨1, 1⟩, .confirm 7 ⟨1, 1⟩] = .ok t ∧
    ULNOp.apply t (.insert 7 ⟨2, 1⟩) = .ok t' ∧
    t.inner.map.lookup 7 = some (⟨1, 1⟩, .bidirectional) ∧
    t'.inner.map.lookup 7 = some (⟨2, 1⟩, .tentative) ∧
    t'.inner.stateSeqNr = t.inner.stateSeqNr ∧ t'.events = t.events := by
  exact ⟨_, _, rfl, rfl, by decide +kernel, by decide +kernel, by decide +kernel, by decide +kernel⟩

end Kira
