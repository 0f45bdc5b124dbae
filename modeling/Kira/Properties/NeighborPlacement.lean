import Kira.Domain.InsertionStrategy
import Kira.Domain.RoutingTable.UnlimitedULNLawful

/-!
# Where neighbours are stored

The table with a neighbour map is documented to keep underlay neighbours, that is contacts with an
active path of one hop, out of its inner table.  `Placed` is that invariant, with what it takes to
read the table as one map: no id is in both parts, and the map has every contact under its own id.

The part a contact belongs to is chosen when it is added.  Whatever writes to a contact in place can
change its path afterwards, and so does the insertion strategy: a contact in state `Unknown` is
never added, only used to update what is stored, and after simplification its path may be a single
hop (`neighbor_in_inner_table`).  A contact in state `Valid` cannot do that, since the table itself
takes it out of the inner table first.

`placed_of_run` is about every run in which this does not happen (`Operation.KeepsPlacement`).
-/

set_option autoImplicit false

namespace Kira

open RoutingTable UNSStrategy

namespace UnlimitedULNRoutingTable

variable {k acc : Nat}

/-- No neighbour is stored in the inner table. -/
def Remote (t : UnlimitedULNRoutingTable k acc) : Prop := ∀ c ∈ t.inner.iter, c.isUln = false

/-- The documented invariant. -/
structure Placed (t : UnlimitedULNRoutingTable k acc) : Prop where
  remote : t.Remote
  disjoint : ∀ id c, t.unContacts.lookup id = some c → ∀ x ∈ t.inner.iter, x.id ≠ id
  keyed : ∀ id c, t.unContacts.lookup id = some c → c.id = id

variable {t t' : UnlimitedULNRoutingTable k acc} {c : Contact}

theorem Remote.placed (h : t.Remote) (ht : t.Tidy) :
    t.Placed where
  remote := h
  disjoint id c hlook := (ht.inner.contact_eq_none_iff id).1 (ht.disjoint id c hlook)
  keyed := ht.keyed

/-! ## The operations of the table -/

theorem Remote.added {r : Except AddError Unit} (h : t.Remote) (hadd : Added t c r t') :
    t'.Remote := by
  intro x hx
  cases hadd with
  | alreadyExists => exact h x hx
  | neighbor => exact h x (FlatRoutingTable.mem_iter_of_mem_remove hx)
  | inner _ hc hadd | givenUp _ hc _ hadd =>
    rcases hadd.mem_iter hx with rfl | hx
    · exact hc
    · exact h x hx

theorem Remote.split {id : NodeId} {r : Except BucketSplitError Nat} (h : t.Remote)
    (hsplit : t.splitBucket id = .ok (r, t')) :
    t'.Remote := by
  obtain ⟨inner, hinner, rfl⟩ := splitBucket_cases hsplit
  intro x hx
  exact h x ((hinner.mem_iter_iff x).1 hx)

theorem Remote.insert {r : Except InsertionError Unit} (h : t.Remote)
    (hins : RoutingTable.insert t c = .ok (r, t')) : t'.Remote := by
  rcases insertRounds_induction (P := Remote) (fun s r s' hs hadd hsplit ↦
      (hs.added (add_cases hadd)).split hsplit) _ t h hins with
    ⟨t₁, h₁, hadd, -⟩ | ⟨t₁, err, h₁, hadd, -, -⟩ | ⟨t₁, t₂, err, h₁, hadd, hsplit, -⟩
  · exact h₁.added (add_cases hadd)
  · exact h₁.added (add_cases hadd)
  · exact (h₁.added (add_cases hadd)).split hsplit

theorem Remote.remove (h : t.Remote) (id : NodeId) :
    (t.remove id).2.Remote := by
  rw [UnlimitedULNRoutingTable.remove]
  split
  · exact h
  · exact fun x hx ↦ h x (FlatRoutingTable.mem_iter_of_mem_remove hx)

theorem Remote.write (h : t.Remote) {id : NodeId}
    (hc : t.unContacts.lookup id = none → c.isUln = false) : (t.write id c).Remote := by
  rw [UnlimitedULNRoutingTable.write]
  split
  · exact h
  · rename_i hlook
    intro x hx
    rcases FlatRoutingTable.mem_iter_of_mem_write t.inner hx with hx | hx
    · exact h x hx
    · cases hx
      exact hc hlook

theorem Remote.iterMut {f : Contact → Contact} (hf : ∀ c ∈ t.inner.iter, (f c).isUln = false) :
    (t.iterMut f).Remote := by
  intro x hx
  rw [UnlimitedULNRoutingTable.iterMut, FlatRoutingTable.iter_iterMut, List.mem_map] at hx
  obtain ⟨c, hc, rfl⟩ := hx
  exact hf c hc

/-- Writers do not turn a contact of the inner table into a neighbour. -/
def WritesRemote (t : UnlimitedULNRoutingTable k acc) : TableOp → Prop
  | .modify id f => t.unContacts.lookup id = none →
      ∀ c, t.inner.contact id = some c → (f c).isUln = false
  | .modifyAll f => ∀ c ∈ t.inner.iter, (f c).isUln = false
  | _ => True

theorem Remote.apply {op : TableOp} (h : t.Remote) (hop : op.WellBehaved Replaceable t)
    (hwrites : t.WritesRemote op) (happly : op.apply t = .ok t') : t'.Remote := by
  cases TableOp.applied_of_apply happly with
  | add hadd => exact h.added (add_cases hadd)
  | insert hins => exact h.insert hins
  | splitBucket hsplit => exact h.split hsplit
  | remove id => exact h.remove id
  | replace id c =>
    show Remote (t.replace id c).2
    rw [replace_of_replaceable hop]
    exact h
  | absent => exact h
  | modify hc =>
    refine h.write fun hlook ↦ hwrites hlook _ ?_
    simpa [RoutingTable.contact, contact, hlook] using hc
  | modifyAll f => exact iterMut hwrites

/-! ## Insertions through the strategy -/

theorem insert_neighbor_error {err : InsertionError} (hc : c.isUln = true)
    (h : RoutingTable.insert t c = .ok (.error err, t')) :
    (∃ id, err = .add (.alreadyExists id)) ∧ (t'.unContacts.lookup c.id).isSome = true := by
  have hadd : ∀ {s s' : UnlimitedULNRoutingTable k acc} {err : AddError},
      RoutingTable.add s c = .ok (.error err, s') →
      err = .alreadyExists c.id ∧ (s'.unContacts.lookup c.id).isSome = true := by
    intro s s' err hadd
    cases add_cases hadd with
    | alreadyExists hlook => exact ⟨rfl, by simp [hlook]⟩
    | inner _ hnot | givenUp _ hnot => simp [hc] at hnot
  rcases insertRounds_induction (P := fun _ ↦ True) (fun _ _ _ _ _ _ ↦ trivial) _ t trivial h with
    ⟨t₁, -, -, herr⟩ | ⟨t₁, err', -, herr, -, heq⟩ | ⟨t₁, t₂, err', -, herr, -, -⟩
  · simp at herr
  · obtain rfl : err = .add err' := by simpa using heq
    exact ⟨⟨c.id, congrArg InsertionError.add (hadd herr).1⟩, (hadd herr).2⟩
  · simpa using (hadd herr).1

theorem Updated.isUln_eq_false {ctx : Context} {existing existing' : Contact}
    {res : InsertionStrategyResult} (h : Updated ctx c existing res existing')
    (hc : c.isUln = false) (hexisting : existing.isUln = false) : existing'.isUln = false := by
  cases h with
  | kept => exact hexisting
  | taken _ hpath _ h =>
    cases h with
    | activated _ _ hactive hids =>
      simp only [Contact.isUln, hpath] at hc
      simp only [Contact.isUln, hactive, Path.size, hids]
      exact hc
    | proposed => exact hexisting

theorem Remote.refused {t₁ : UnlimitedULNRoutingTable k acc} (h : t.Remote)
    (hrefused : Refused t c t₁) : t₁.Remote := by
  cases hrefused with
  | untried => exact h
  | tried _ hins => exact h.insert hins

/-- **An insertion leaves the inner table without neighbours**, unless it updates a contact there
with a single hop learnt from a contact in state `Unknown`. -/
theorem Remote.outcome {ctx : Context} {res : InsertionStrategyResult} (h : t.Remote)
    (hc : c.state = .unknown → t.inner.contains c.id = true → c.isUln = false)
    (hout : Outcome ctx t c res t') : t'.Remote := by
  cases hout with
  | stored _ hins => exact h.insert hins
  | kept hrefused => exact h.refused hrefused
  | @updated _ t₁ existing existing' hrefused hcontact _ hup =>
    refine (h.refused hrefused).write fun hlook ↦ ?_
    have hinner : t₁.inner.contact c.id = some existing := by
      simpa [RoutingTable.contact, contact, hlook] using hcontact
    have hexisting : existing.isUln = false :=
      h.refused hrefused _ (FlatRoutingTable.mem_iter_of_contact hinner)
    refine Updated.isUln_eq_false hup ?_ hexisting
    cases hrefused with
    | untried hstate =>
      exact hc hstate (by rw [FlatRoutingTable.contains_eq_isSome, hinner]; rfl)
    | tried _ hins =>
      by_contra huln
      have := (insert_neighbor_error (by simpa using huln) hins).2
      simp [hlook] at this
  | @replaced t₁ err old _ _ hins herr =>
    refine (h.insert hins).write fun _ ↦ ?_
    by_contra huln
    obtain ⟨⟨id, hexists⟩, -⟩ := insert_neighbor_error (by simpa using huln) hins
    exact herr id hexists

/-- The contact does not bring a single hop to a contact of the inner table that it could only
update. -/
def StaysRemote (t : UnlimitedULNRoutingTable k acc) (call : Call) : Prop :=
  call.contact.state = .unknown → t.inner.contains call.contact.id = true →
    ∀ path, call.contact.path = some path → path.last = call.contact.id ∧
      path.first ≠ path.last ∧ call.ctx.ulnContains path.last = false

theorem StaysRemote.prepared {ctx : Context} {prepared : Contact} {path : Path} (ht : t.Tidy)
    (h : t.Remote) (hcall : t.StaysRemote ⟨ctx, c⟩) (hpath : c.path = some path)
    (hprep : prepare ctx t c path = .ok prepared) (hstate : prepared.state = .unknown)
    (hinner : t.inner.contains prepared.id = true) : prepared.isUln = false := by
  obtain ⟨path', rfl, hsimp, -, -⟩ := prepare_cases hprep
  obtain ⟨hlast, hfirst, huln⟩ := hcall hstate hinner path hpath
  by_contra hone
  obtain ⟨_, ⟨⟩, hsize⟩ := (Contact.isUln_iff _).1 (by simpa using hone)
  rcases hsimp.of_size_eq_one hsize with hone | hn | ⟨via, hvia, hviaUln⟩
  · have := Path.first_eq_last_of_size_eq_one hone
    exact hfirst (by simpa using this)
  · rw [Path.removeCyclesInPlace_last] at hn
    exact absurd (huln.symm.trans hn) (by simp)
  · -- the contact itself is stored, in the inner table, where there are no neighbours
    rw [Path.removeCyclesInPlace_last, hlast] at hvia
    cases hlook : t.unContacts.lookup c.id with
    | some entry =>
      rw [FlatRoutingTable.contains_eq_isSome, Contact.setPath_id, ht.disjoint _ _ hlook] at hinner
      simp at hinner
    | none =>
      have hmem : t.inner.contact c.id = some via := by
        simpa [RoutingTable.contact, contact, hlook] using hvia
      have := h via (FlatRoutingTable.mem_iter_of_contact hmem)
      simp [hviaUln] at this

end UnlimitedULNRoutingTable

/-- The operation does not bring a neighbour into the inner table, nor a contact out of its place.
-/
def Operation.KeepsPlacement {k acc : Nat} (t : UnlimitedULNRoutingTable k acc) : Operation → Prop
  | .table op => op.WellBehaved UnlimitedULNRoutingTable.Replaceable t ∧ t.WritesRemote op
  | .strategy call => t.StaysRemote call

open UnlimitedULNRoutingTable in
/-- **Neighbours are stored in the map and nowhere else**, in every state that operations lead to
which do not make a neighbour of a contact in the inner table. -/
theorem placed_of_run {k acc : Nat} (root : NodeId) (acc_pos : 0 < acc) (acc_lt : acc < 64)
    {t : UnlimitedULNRoutingTable k acc}
    (h : Reachable Operation.apply Operation.KeepsPlacement (.new root acc_pos acc_lt) t) :
    t.Placed := by
  have hempty : Remote (.new root acc_pos acc_lt : UnlimitedULNRoutingTable k acc) := by
    intro c hc
    simp [UnlimitedULNRoutingTable.new] at hc
  obtain ⟨ht, hremote⟩ := h.invariant (I := fun t ↦ t.Tidy ∧ t.Remote)
    ⟨tidy_new root acc_pos acc_lt, hempty⟩ (by
      rintro s op s' ⟨ht, hremote⟩ hop happly
      cases op with
      | table op =>
        exact ⟨TableOp.tidy_apply (fun _ _ _ ht h ↦ Tidy.replace ht h) ht hop.1 happly,
          hremote.apply hop.1 hop.2 happly⟩
      | strategy call =>
        obtain ⟨res, hins⟩ := Call.apply_eq_ok happly
        refine ⟨insert_tidy ht hins, ?_⟩
        rcases insert_cases hins with ⟨-, rfl⟩ | ⟨path, prepared, hadm, hprep, hout⟩
        · exact hremote
        · exact hremote.outcome (StaysRemote.prepared ht hremote hop hadm.path_eq hprep) hout)
  exact hremote.placed ht

/-- The node has the neighbour 3, and later also the neighbour 5. -/
def neighborsUpTo (n : NodeId) : Context where
  order := ⟨fun _ ↦ 0, 0⟩
  ulnContains id := id == 3 || id == n
  validated := 0
  ageContact := 0
  ageExisting := 0
  promoted := 0

/-- The node 5, over the neighbour 3. -/
def overThree : Contact := .new 0 (.via 3 [5]) .MIN

/-- The neighbour 3, the node 5 behind it, and a shorter path to node 5 heard from others. -/
def heardOfFive : List Operation :=
  [.strategy ⟨neighborsUpTo 3, .new 0 (.via 3 []) .MIN⟩,
    .strategy ⟨neighborsUpTo 3, .new 0 (.via 3 [7, 5]) .MIN⟩,
    .strategy ⟨neighborsUpTo 3, overThree.setState .unknown⟩]

/-- The test that a contact leads over a neighbour to a node that is none. -/
def Operation.leadsAway : Operation → Bool
  | .table _ => false
  | .strategy call => call.contact.state != .unknown || call.contact.path.all fun path ↦
      path.last == call.contact.id && path.first != path.last && !call.ctx.ulnContains path.last

theorem Operation.keepsPlacement_of_leadsAway {k acc : Nat} (t : UnlimitedULNRoutingTable k acc)
    (op : Operation) (h : op.leadsAway = true) : op.KeepsPlacement t := by
  cases op with
  | table op => cases h
  | strategy call =>
    intro hstate _ path hpath
    simpa [leadsAway, hstate, hpath, and_assoc] using h

/-- The node 5 stays in the inner table when its path is updated, the neighbour in the map. -/
theorem placed_after_update : ∃ t : UnlimitedULNRoutingTable 4 1,
    runAll Operation.apply (.new 0 (by decide) (by decide)) heardOfFive = .ok t ∧
      ((t.inner.contact 5).map (fun c ↦ c.path.map Path.ids) = some (some [3, 5]) ∧
        (t.unContacts.lookup 3).isSome = true) ∧ t.Placed := by
  refine Run.exists_ok (p := fun t ↦ (t.inner.contact 5).map (fun c ↦ c.path.map Path.ids) =
    some (some [3, 5]) ∧ (t.unContacts.lookup 3).isSome = true) ⟨_, rfl, by decide +kernel⟩ ?_
  exact fun t hrun hcontact ↦ ⟨hcontact, placed_of_run 0 (by decide) (by decide)
    (reachable_of_testAll Operation.keepsPlacement_of_leadsAway .start (by decide +kernel) hrun)⟩

/-- **A neighbour in the inner table.**  The node 5 is stored with a path over the node 3 and then
becomes a neighbour itself.  What is heard about it from others updates the stored contact. -/
theorem neighbor_in_inner_table : ∃ t : UnlimitedULNRoutingTable 4 1,
    runAll Operation.apply (.new 0 (by decide) (by decide))
      [.strategy ⟨neighborsUpTo 3, overThree⟩,
        .strategy ⟨neighborsUpTo 5, overThree.setState .unknown⟩] = .ok t ∧
      ∃ c ∈ t.inner.iter, c.id = 5 ∧ c.isUln = true := by
  exact ⟨_, rfl, by decide +kernel⟩

end Kira
