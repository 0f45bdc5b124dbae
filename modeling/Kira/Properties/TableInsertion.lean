import Kira.UseCases.ForwardingNode
import Kira.Properties.TableShape

/-!
# Insertions into the flat table

An insertion may split the last bucket several times.  Each split takes the bucket out, appends a
level and adds the contacts of the bucket again, and the program panics if one of them is refused.
That never happens: the new buckets are empty and no smaller than the old one, and a contact that is
stored has an active path that is not waiting for its validation (`Settled`), which is what the
table asks for.  The contact to be inserted may be refused, but then only the last bucket may have
been split.

This holds for an acceleration below 64.  The constructor accepts more, and then the width of a
level overflows when the first contact is inserted (`insertion_overflows`).
-/

set_option autoImplicit false

namespace Kira

open Run RoutingTable

/-- The contact has an active path, and that is not waiting for its validation. -/
def Contact.Settled (c : Contact) : Prop :=
  ∃ path, c.path = some path ∧ path.isNotvalidated = false

namespace Bucket

variable {k : Nat} {self : Bucket k} {c : Contact}

theorem contacts_length_le (self : Bucket k) : self.contacts.length ≤ k :=
  (List.reduceOption_length_le _).trans_eq self.length_slots

theorem insert_returns (hpath : c.path.isSome = true) : ∃ r, self.insert c = .ok r := by
  obtain ⟨path, hpath⟩ := Option.isSome_iff_exists.1 hpath
  unfold insert
  rw [hpath, expect_some, ok_bind]
  split
  · exact ⟨_, rfl⟩
  · split
    · exact ⟨_, rfl⟩
    · split
      · exact ⟨_, rfl⟩
      · exact ⟨_, rfl⟩

end Bucket

namespace FlatRoutingTable

variable {k acc : Nat} {t t' : FlatRoutingTable k acc} {c : Contact}

/-! ## A split does not fail -/

theorem add_returns (hpath : c.path.isSome = true) : ∃ r t', t.add c = .ok (r, t') := by
  obtain ⟨r, hr⟩ := (t.bucket c.id).insert_returns hpath
  unfold add
  rw [hr, ok_bind]
  split
  · exact ⟨_, _, rfl⟩
  · exact ⟨_, _, rfl⟩
  · exact ⟨_, _, rfl⟩
  · exact ⟨_, _, rfl⟩

theorem add_settled (hsettled : c.Settled) (hnew : t.contains c.id = false)
    (hroom : (t.bucket c.id).contacts.length < k) : ∃ t', t.add c = .ok (.ok (), t') := by
  obtain ⟨path, hpath, hval⟩ := hsettled
  obtain ⟨r, t', hadd⟩ := add_returns (t := t) (c := c) (by rw [hpath]; rfl)
  cases add_cases hadd with
  | added => exact ⟨_, hadd⟩
  | alreadyExists h => exact absurd (hnew.symm.trans h) (by decide)
  | needsValidation _ hpath' hval' =>
    obtain rfl := Option.some.inj (hpath.symm.trans hpath')
    exact absurd (hval.symm.trans hval') (by decide)
  | notAdded _ _ _ hfull => exact absurd (Bucket.contacts_length_of_isFull hfull) hroom.ne

/-- An addition makes no bucket longer than by one, and stores no other id. -/
theorem Added.grows (h : Added t c (.ok ()) t') (id : NodeId) :
    (t'.bucket id).contacts.length ≤ (t.bucket id).contacts.length + 1 ∧
      (id ≠ c.id → t.contains id = false → t'.contains id = false) := by
  cases h with
  | @added path bucket hnew hpath hval hperm =>
    have hbucket := bucket_setBucket t (buckets_getBucketIndex t c.id) bucket id
    rw [contains, contains, hbucket]
    split
    · rename_i hindex
      have hsame : t.bucket id = t.bucket c.id := bucket_congr hindex.symm
      rw [hsame]
      refine ⟨by rw [hperm.length_eq]; rfl, fun hid hold ↦ ?_⟩
      rw [Bool.eq_false_iff, ne_eq, Bucket.contains_iff] at hold ⊢
      rintro ⟨x, hx, hxid⟩
      obtain rfl | hx := List.mem_cons.1 (hperm.mem_iff.1 hx)
      · exact hid hxid.symm
      · exact hold ⟨x, hx, hxid⟩
    · exact ⟨Nat.le_succ _, fun _ hold ↦ hold⟩

theorem readd_returns {contacts : List Contact} (hsettled : ∀ c ∈ contacts, c.Settled)
    (hnodup : (contacts.map Contact.id).Nodup) (hnew : ∀ c ∈ contacts, t.contains c.id = false)
    (hroom : ∀ c ∈ contacts, (t.bucket c.id).contacts.length + contacts.length ≤ k) :
    ∃ t', t.readd contacts = .ok t' := by
  induction contacts generalizing t with
  | nil => exact ⟨t, rfl⟩
  | cons c contacts ih =>
    have hlen := hroom c List.mem_cons_self
    rw [List.length_cons] at hlen
    obtain ⟨t₁, hadd⟩ := add_settled (hsettled c List.mem_cons_self) (hnew c List.mem_cons_self)
      (show (t.bucket c.id).contacts.length < k by omega)
    have hadded := add_cases hadd
    obtain ⟨hfirst, hrest⟩ := List.nodup_cons.1 hnodup
    obtain ⟨t', h⟩ := ih (fun x hx ↦ hsettled x (List.mem_cons_of_mem _ hx)) hrest
      (fun x hx ↦ (hadded.grows x.id).2
        (fun hid ↦ hfirst (hid ▸ List.mem_map_of_mem hx)) (hnew x (List.mem_cons_of_mem _ hx)))
      (fun x hx ↦ by
        have hgrows := (hadded.grows x.id).1
        have hroom := hroom x (List.mem_cons_of_mem _ hx)
        rw [List.length_cons] at hroom
        omega)
    refine ⟨t', ?_⟩
    rw [readd, hadd, ok_bind]
    exact h

theorem bucket_withNewLevel (h : t.buckets.length < maxBuckets acc) {id : NodeId}
    (hlast : t.getBucketIndex id = t.numBuckets - 1) : (t.withNewLevel h).bucket id = .new := by
  obtain ⟨hlt, -⟩ | ⟨-, hnew⟩ := buckets_withNewLevel t h (buckets_getBucketIndex _ id)
  · have hnum := t.withNewLevel_numBuckets h
    have hindex : t.getBucketIndex id =
        min ((t.withNewLevel h).getBucketIndex id) (t.numBuckets - 1) := by
      rw [getBucketIndex, getBucketIndex, withNewLevel_root]
      split
      · omega
      · dsimp only
        omega
    omega
  · exact hnew

/-- **A split does not fail.** -/
theorem splitBucket_returns (ht : t.Tidy) (hsettled : ∀ c ∈ t.iter, c.Settled) (id : NodeId) :
    ∃ r t', t.splitBucket id = .ok (r, t') := by
  unfold splitBucket
  split
  · rename_i h
    split
    · exact ⟨_, _, rfl⟩
    · rename_i hlast
      rw [Decidable.not_not] at hlast
      have hb := buckets_getBucketIndex t id
      have hhome : ∀ c ∈ (t.bucket id).contacts, t.getBucketIndex c.id = t.numBuckets - 1 :=
        fun c hc ↦ (ht.home _ _ hb c hc).trans hlast
      obtain ⟨t', hreadd⟩ := readd_returns (t := t.withNewLevel h)
        (fun c hc ↦ hsettled c (mem_iter_of_mem_bucket t hc)) (ht.nodup _ _ hb)
        (fun c hc ↦ by
          rw [contains, bucket_withNewLevel h (hhome c hc)]
          simp [Bucket.contains])
        (fun c hc ↦ by
          rw [bucket_withNewLevel h (hhome c hc), Bucket.contacts_new, List.length_nil,
            Nat.zero_add]
          exact Bucket.contacts_length_le _)
      rw [hreadd, ok_bind]
      exact ⟨_, _, rfl⟩
  · exact ⟨_, _, rfl⟩

/-! ## What comes of an insertion -/

/-- **An insertion comes to an end.** -/
theorem insertRounds_returns (ht : t.Tidy) (hsettled : ∀ c ∈ t.iter, c.Settled)
    (hpath : c.path.isSome = true) {rounds : Nat} (hrounds : t.levelsLeft < rounds) :
    ∃ r t', RoutingTable.insertRounds rounds t c = .ok (r, t') := by
  induction rounds generalizing t with
  | zero => exact absurd hrounds (Nat.not_lt_zero _)
  | succ rounds ih =>
    obtain ⟨r, t₁, hadd⟩ := add_returns (t := t) hpath
    rw [insertRounds]
    show ∃ r t', (t.add c >>= _) = .ok (r, t')
    rw [hadd, ok_bind]
    rcases r with (_ | _ | _) | ⟨⟩
    case ok | error.alreadyExists | error.needsValidation => exact ⟨_, _, rfl⟩
    case error.notAdded =>
      obtain rfl := (add_cases hadd).eq_of_error
      obtain ⟨r, t₂, hsplit⟩ := splitBucket_returns ht hsettled c.id
      show ∃ r t', (t₁.splitBucket c.id >>= _) = .ok (r, t')
      rw [hsplit, ok_bind]
      have hcases := splitBucket_cases hsplit
      cases r with
      | error err => exact ⟨_, _, rfl⟩
      | ok i =>
        refine ih (hcases.tidy ht) (fun x hx ↦ hsettled x ((hcases.mem_iter_iff x).1 hx)) ?_
        have := hcases.levelsLeft_lt
        omega

/-- What is to come of an insertion. -/
structure InsertionOutcome (t : FlatRoutingTable k acc) (c : Contact)
    (r : Except InsertionError Unit) (t' : FlatRoutingTable k acc) : Prop where
  /-- All contacts are as they were, and the new one is there, too. -/
  stored : r = .ok () → c.Settled ∧ t'.iter.Perm (c :: t.iter)
  kept {err : InsertionError} : r = .error err → t'.iter.Perm t.iter
  nodup : (t'.iter.map Contact.id).Nodup
  /-- The id is there already, the path is not validated, or the bucket is full of other contacts
  and cannot be split. -/
  refused {err : InsertionError} : r = .error err → t.contains c.id = true ∨
    (∃ path, c.path = some path ∧ path.isNotvalidated = true) ∨
    ((t'.bucket c.id).isFull = true ∧ t'.contains c.id = false ∧
      ∃ err, t'.splitBucket c.id = .ok (.error err, t'))

theorem perm_of_mem_iff (ht' : t'.Tidy) {l : List Contact} (hl : l.Nodup)
    (h : ∀ x, x ∈ t'.iter ↔ x ∈ l) : t'.iter.Perm l :=
  (List.perm_ext_iff_of_nodup (List.Nodup.of_map _ ht'.nodup_iter) hl).2 h

theorem insertionOutcome {r : Except InsertionError Unit} (ht : t.Tidy)
    (h : RoutingTable.insert t c = .ok (r, t')) : InsertionOutcome t c r t' := by
  have hnodup : t.iter.Nodup := List.Nodup.of_map _ ht.nodup_iter
  have hsplit : ∀ (s r : FlatRoutingTable k acc) s', SplitsTo t s →
      RoutingTable.add s c = .ok (.error .notAdded, r) →
      RoutingTable.splitBucket r c.id = .ok s' → SplitsTo t s'.2 := by
    intro s r s' hs hadd hsplit
    obtain rfl := (add_cases hadd).eq_of_error
    exact hs.trans (splitBucket_cases hsplit).splitsTo
  have hcases := RoutingTable.insertRounds_induction hsplit _ t (SplitsTo.refl t) h
  obtain ⟨t₁, hs, hadd, rfl⟩ | ⟨t₁, err, hs, hadd, hne, rfl⟩ |
    ⟨t₁, t₂, err, hs, hadd, hsplit, rfl⟩ :=
    hcases
  · have hadded := add_cases hadd
    have ht' := (hs.tidy ht).added hadded
    refine ⟨fun _ ↦ ⟨?_, perm_of_mem_iff ht' (List.nodup_cons.2 ⟨?_, hnodup⟩) fun x ↦ ?_⟩, nofun,
      ht'.nodup_iter, nofun⟩
    · cases hadded with
      | added _ hpath hval => exact ⟨_, hpath, hval⟩
    · intro hmem
      cases hadded with
      | added hnew =>
        have hcontact :=
          ((hs.tidy ht).contact_eq_some_iff c.id c).2 ⟨(hs.mem_iter_iff c).2 hmem, rfl⟩
        simp [contains_eq_isSome, hcontact] at hnew
    · rw [hadded.mem_iter_iff, hs.mem_iter_iff, List.mem_cons]
  · have hadded := add_cases hadd
    obtain rfl := hadded.eq_of_error
    refine ⟨nofun, fun _ ↦ perm_of_mem_iff (hs.tidy ht) hnodup hs.mem_iter_iff,
      (hs.tidy ht).nodup_iter, fun _ ↦ ?_⟩
    cases hadded with
    | alreadyExists hexists =>
      refine .inl ?_
      rw [contains_eq_isSome, Option.isSome_iff_exists] at hexists ⊢
      obtain ⟨x, hx⟩ := hexists
      rw [(hs.tidy ht).contact_eq_some_iff, hs.mem_iter_iff] at hx
      exact ⟨x, (ht.contact_eq_some_iff _ x).2 hx⟩
    | needsValidation _ hpath hval => exact .inr (.inl ⟨_, hpath, hval⟩)
    | notAdded => exact absurd rfl hne
  · have hadded := add_cases hadd
    obtain rfl := hadded.eq_of_error
    obtain rfl := (splitBucket_cases hsplit).eq_of_error
    refine ⟨nofun, fun _ ↦ perm_of_mem_iff (hs.tidy ht) hnodup hs.mem_iter_iff,
      (hs.tidy ht).nodup_iter, fun _ ↦ .inr (.inr ?_)⟩
    cases hadded with
    | notAdded hnew _ _ hfull => exact ⟨hfull, hnew, err, hsplit⟩

end FlatRoutingTable

/-! ## Runs -/

/-- What is done to a table between the insertions. -/
inductive TableStep where
  | node (op : NodeOp)
  | setProposedToActive (id : NodeId) (now : Timestamp)

/-- A step of the node, or a proposed path becomes active. -/
def TableStep.apply {T : Type} {k : Nat} [RoutingTable T k] (t : T) : TableStep → Run T
  | .node op => op.apply t
  | .setProposedToActive id now => do
    let (_, t) ← contactMut t id fun c ↦ do
      let pathCollection ← c.pathCollection.setProposedToActive now
      return ((), { c with pathCollection := pathCollection })
    return t

/-- How a step may alter a stored contact. -/
inductive TableStep.Alters (step : TableStep) : Contact → Contact → Prop
  | changed {c : Contact} (select : Contact → Option StateChange) :
      Alters step c (StateChange.applySelected select c)
  | assessed {id : NodeId} {order : PathOrder} {now : Timestamp} {pathCandidate : Path}
      {c c' : Contact} {taken : Bool} (hstep : step = .node (.assess id order now pathCandidate))
      (hid : c.id = id) (h : Contact.Assessed pathCandidate c taken c') : Alters step c c'
  | activated {now : Timestamp} {c : Contact} {pathCollection : PathCollection}
      (h : c.pathCollection.setProposedToActive now = .ok pathCollection) :
      Alters step c { c with pathCollection := pathCollection }

section

open LawfulRoutingTable

variable {T : Type} {k : Nat} [RoutingTable T k] [LawfulRoutingTable T k] {t t' : T}
  {step : TableStep}

/-- The table is in order, and what is in it was there before or has been altered. -/
def TableStep.Altered (step : TableStep) (t t' : T) : Prop :=
  Tidy t' ∧ ∀ c ∈ iter t', c ∈ iter t ∨ ∃ old ∈ iter t, step.Alters old c

theorem TableStep.altered_contactMut (ht : Tidy t) {α : Type} {id : NodeId}
    {f : Contact → Run (α × Contact)}
    (hf : ∀ c a c', c.id = id → f c = .ok (a, c') → c'.id = c.id ∧ step.Alters c c')
    (h : (contactMut t id f >>= fun r ↦ .ok r.2) = .ok t') : step.Altered t t' := by
  obtain ⟨⟨a, t₁⟩, hmut, h⟩ := of_bind h
  cases h
  obtain ⟨-, -, rfl⟩ | ⟨c, b, c', hc, hb, -, rfl⟩ := contactMut_cases hmut
  · exact ⟨ht, fun c hc ↦ .inl hc⟩
  · obtain ⟨hmem, hid⟩ := (contact_eq_some_iff ht).1 hc
    obtain ⟨hid', halters⟩ := hf c b c' hid hb
    refine ⟨(write_effect ht hc (.inl (hid'.trans hid))).1, fun x hx ↦ ?_⟩
    obtain rfl | hx := (mem_write t id c').2 x hx
    · exact .inr ⟨c, hmem, halters⟩
    · exact .inl hx

/-- **Everything a step can do**: it inserts a contact, or alters some that are stored. -/
theorem TableStep.apply_cases (ht : Tidy t) (hstep : step.apply t = .ok t') :
    (∃ call res, step = .node (.insert call) ∧
      UNSStrategy.insert call.ctx call.contact t = .ok (res, t')) ∨ step.Altered t t' := by
  cases step with
  | node op =>
    cases op with
    | insert call =>
      obtain ⟨res, hins⟩ := UNSStrategy.Call.apply_eq_ok hstep
      exact .inl ⟨call, res, rfl, hins⟩
    | remove id =>
      cases hstep
      exact .inr ⟨(remove_effect ht id).2.1, fun c hc ↦ .inl ((mem_remove t id).2 c hc)⟩
    | change id change =>
      refine .inr (altered_contactMut ht (fun c a c' _ hc ↦ ?_) hstep)
      cases hc
      exact ⟨(change.transition c).id_eq, .changed fun _ ↦ some change⟩
    | changeAll select =>
      cases hstep
      refine .inr ⟨(iterMut_effect ht fun c _ ↦
        (StateChange.applySelected_transition select c).id_eq).1, fun c hc ↦ ?_⟩
      rw [(mem_iterMut t _).2] at hc
      obtain ⟨old, hold, rfl⟩ := List.mem_map.1 hc
      exact .inr ⟨old, hold, .changed select⟩
    | assess id order now pathCandidate =>
      refine .inr (altered_contactMut ht (fun c a c' hid hc ↦ ?_) hstep)
      have hassessed := Contact.assess_cases hc
      exact ⟨hassessed.id_eq, .assessed rfl hid hassessed⟩
  | setProposedToActive id now =>
    refine .inr (altered_contactMut ht (fun c a c' _ hc ↦ ?_) hstep)
    obtain ⟨pathCollection, hcollection, hc⟩ := of_bind hc
    cases hc
    exact ⟨rfl, .activated hcollection⟩

end

/-! ### Contacts stay settled -/

theorem Contact.Assessed.settled {pathCandidate : Path} {old new : Contact} {taken : Bool}
    (h : Contact.Assessed pathCandidate old taken new) (hold : old.Settled) : new.Settled := by
  cases h with
  | rejected | proposed => exact hold
  | activated _ _ hpath _ hactive _ => exact ⟨_, hpath, by rw [Path.isNotvalidated, hactive]; rfl⟩

theorem Contact.whileRediscovering_pathCollection (c : Contact)
    (f : RediscoveryState → ContactState) :
    (c.whileRediscovering f).pathCollection = c.pathCollection := by
  unfold whileRediscovering
  split <;> rfl

theorem StateChange.settled {c : Contact} (hc : c.Settled) (change : StateChange) :
    (change.apply c).Settled := by
  obtain ⟨path, hpath, hval⟩ := hc
  cases change with
  | setInvalid clock nvs =>
    refine ⟨path.invalidate (clock 1), ?_, rfl⟩
    rw [apply, Contact.setInvalid_path, hpath]
    rfl
  | startRediscovering => exact ⟨path, hpath, hval⟩
  | progress f | setDead =>
    refine ⟨path, ?_, hval⟩
    rw [apply, Contact.path, Contact.whileRediscovering_pathCollection]
    exact hpath

theorem StateChange.applySelected_settled {c : Contact} (hc : c.Settled)
    (select : Contact → Option StateChange) : (applySelected select c).Settled := by
  unfold applySelected
  cases select c with
  | none => exact hc
  | some change => exact change.settled hc

theorem TableStep.Alters.settled {step : TableStep} {c c' : Contact} (h : step.Alters c c')
    (hc : c.Settled) : c'.Settled := by
  cases h with
  | changed select => exact StateChange.applySelected_settled hc select
  | assessed _ _ h => exact h.settled hc
  | activated h =>
    obtain ⟨-, active, -, hactive, -, hstate, -⟩ := PathCollection.setProposedToActive_cases h
    exact ⟨active, hactive, by rw [Path.isNotvalidated, hstate]; rfl⟩

namespace FlatRoutingTable

open UNSStrategy LawfulRoutingTable

variable {k acc : Nat} {t t' : FlatRoutingTable k acc}

/-- Every contact lies where it belongs, and all of them are settled. -/
structure Sound (t : FlatRoutingTable k acc) : Prop where
  tidy : t.Tidy
  settled : ∀ c ∈ t.iter, c.Settled

theorem sound_new (root : NodeId) (acc_pos : 0 < acc) (acc_lt : acc < 64) :
    (FlatRoutingTable.new root acc_pos acc_lt : FlatRoutingTable k acc).Sound where
  tidy := tidy_new root acc_pos acc_lt
  settled := by simp

theorem Sound.refused {c : Contact} (h : t.Sound) (hrefused : Refused t c t') : t'.Sound := by
  cases hrefused with
  | untried => exact h
  | tried _ hins =>
    have hout := insertionOutcome h.tidy hins
    exact ⟨(insert_effect h.tidy hins).1, fun x hx ↦ h.settled x ((hout.kept rfl).mem_iff.1 hx)⟩

theorem Sound.outcome {ctx : UNSStrategy.Context} {c : Contact} {res : InsertionStrategyResult}
    (h : t.Sound) (hout : Outcome ctx t c res t') : t'.Sound := by
  refine ⟨(hout.effect h.tidy).1, fun x hx ↦ ?_⟩
  cases hout with
  | stored _ hins =>
    obtain ⟨hsettled, hperm⟩ := (insertionOutcome h.tidy hins).stored rfl
    obtain rfl | hx := List.mem_cons.1 (hperm.mem_iff.1 hx)
    · exact hsettled
    · exact h.settled x hx
  | kept hrefused => exact (h.refused hrefused).settled x hx
  | @updated _ t₁ existing existing' hrefused hc hid hup =>
    have h₁ := h.refused hrefused
    obtain rfl | hx := (mem_write t₁ c.id existing').2 x hx
    · have hexisting := h₁.settled existing (mem_of_contact hc)
      cases hup with
      | kept => exact hexisting
      | taken _ _ _ hassessed => exact hassessed.settled hexisting
    · exact h₁.settled x hx
  | @replaced t₁ err old oldStored hknown hins _ hold hc =>
    have h₁ := h.refused (.tried hknown hins)
    obtain rfl | hx := (mem_write t₁ old.id c).2 x hx
    · obtain ⟨path, -, hpath, -, hval, -⟩ := hold.shorter
      exact ⟨path, hpath, hval⟩
    · exact h₁.settled x hx

/-- **A step keeps the table sound.** -/
theorem Sound.step (h : t.Sound) {step : TableStep} (hstep : step.apply t = .ok t') : t'.Sound := by
  obtain ⟨call, res, -, hins⟩ | ⟨htidy, hmem⟩ := step.apply_cases h.tidy hstep
  · obtain ⟨-, rfl⟩ | ⟨path, prepared, -, -, hout⟩ := insert_cases hins
    · exact h
    · exact h.outcome hout
  · refine ⟨htidy, fun c hc ↦ ?_⟩
    obtain hc | ⟨old, hold, halters⟩ := hmem c hc
    · exact h.settled c hc
    · exact halters.settled (h.settled old hold)

end FlatRoutingTable

/-- **Every insertion comes to an end**, in every table that is reached by insertions of the
strategy, removals and changes of contacts, and keeps the contacts that are stored. -/
theorem insertion_of_run {k acc : Nat} {root : NodeId} {acc_pos : 0 < acc} {acc_lt : acc < 64}
    {t : FlatRoutingTable k acc}
    (h : Reachable TableStep.apply (fun _ _ ↦ True) (.new root acc_pos acc_lt) t) {c : Contact}
    (hpath : c.path.isSome = true) :
    ∃ r t', (∀ rounds, NodeId.BITS < rounds → insertRounds rounds t c = .ok (r, t')) ∧
      FlatRoutingTable.InsertionOutcome t c r t' := by
  have hsound : t.Sound := h.invariant (FlatRoutingTable.sound_new root acc_pos acc_lt)
    fun _ _ _ hsound _ hstep ↦ hsound.step hstep
  obtain ⟨r, t', hins⟩ := FlatRoutingTable.insertRounds_returns hsound.tidy hsound.settled hpath
    (Nat.lt_succ_of_le t.levelsLeft_le)
  refine ⟨r, t', fun rounds hrounds ↦ ?_, FlatRoutingTable.insertionOutcome hsound.tidy hins⟩
  rw [FlatRoutingTable.insertRounds_eq_insert t c rounds hrounds]
  exact hins

/-- A contact on the other side of the ring. -/
def farContact : Contact := .ofIds [3, farId 0] (by decide) .MIN

/-- A contact is inserted and found broken; then another one is inserted, for which the bucket has
to be split. -/
theorem insertion_after_failure : ∃ t : FlatRoutingTable 1 1,
    runAll TableStep.apply (.new 0 (by decide) (by decide))
      [.node (insertOverThree [] 9), .node (.change 9 (.setInvalid (fun _ ↦ 1) .empty))] = .ok t ∧
      ∃ r t', RoutingTable.insert t farContact = .ok (r, t') ∧ r = .ok () ∧ t'.numBuckets = 2 ∧
        FlatRoutingTable.InsertionOutcome t farContact r t' := by
  refine exists_ok (p := fun t ↦ ∃ t', RoutingTable.insert t farContact = .ok (.ok (), t') ∧
    t'.numBuckets = 2) ⟨_, rfl, _, rfl, by decide +kernel⟩ ?_
  rintro t hboth ⟨t', hins, hnum⟩
  obtain ⟨r, t'', hrounds, hout⟩ :=
    insertion_of_run (c := farContact) (reachable_of_runAll _ hboth) rfl
  have hins' := hrounds (NodeId.BITS + 1) (Nat.lt_succ_self _)
  obtain ⟨rfl, rfl⟩ := ok_mk_inj (hins.symm.trans hins')
  exact ⟨_, _, hins, rfl, hnum, hout⟩

/-- **The first insertion overflows.**  The acceleration 64 is accepted, but the bucket of a contact
whose id differs from the root in the first bit cannot be found. -/
theorem insertion_overflows :
    farContact.path.isSome = true ∧ accepted 64 = true ∧
      FlatRoutingTable.checkedBucketIndex 0 1 64 farContact.id =
        .panic "attempt to shift left with overflow" := by
  decide +kernel

end Kira
