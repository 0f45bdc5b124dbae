import Kira.Domain.RoutingTable.UnlimitedULNLawful

/-!
# What a query for the closest contacts returns

In a tidy table the answer to a query is what `ClosestContacts` asks for: valid contacts of the
table, none of them twice, sorted, enough of them, and nothing that is left out shares a longer
prefix with the target.

A table is tidy as long as its callers are well-behaved (`TableOp.WellBehaved`).  Only the writers
and `replace` can bring a table out of order, because they take the caller's word for where a
contact belongs.  `replace` does so for good callers too: the table with the neighbor map stores the
new contact in the map without looking for the id in the inner table, so a contact of the inner
table is then stored twice (`closest_twice`).
-/

set_option autoImplicit false

namespace Kira

open RoutingTable

section

variable {k acc : Nat} (root : NodeId) (acc_pos : 0 < acc) (acc_lt : acc < 64)

/-- **Well-behaved callers get the closest contacts**, from either table and for every grouping that
is accepted. -/
theorem closest_of_wellBehaved (target : NodeId) (n : Nat) (g : NonZeroU8)
    (hg : g.get ≤ NodeId.BITS) :
    (∀ t : FlatRoutingTable k acc,
      Reachable TableOp.apply (TableOp.WellBehaved FlatRoutingTable.Replaceable)
        (.new root acc_pos acc_lt) t →
      ∃ res, closest t target n g = .ok (.ok res) ∧ ClosestContacts (iter t) target n g.get res) ∧
    (∀ t : UnlimitedULNRoutingTable k acc,
      Reachable TableOp.apply (TableOp.WellBehaved UnlimitedULNRoutingTable.Replaceable)
        (.new root acc_pos acc_lt) t →
      ∃ res, closest t target n g = .ok (.ok res) ∧
        ClosestContacts (iter t) target n g.get res) := by
  constructor
  · intro t hrun
    have ht : t.Tidy := TableOp.tidy_of_run (fun _ _ _ ht h ↦ FlatRoutingTable.Tidy.replace ht h)
      (FlatRoutingTable.tidy_new root acc_pos acc_lt) hrun
    obtain ⟨res, omitted, hres, hanswer⟩ := FlatRoutingTable.closest_answer ht target n hg
    exact ⟨res, hres, hanswer.closestContacts ht.nodup_iter⟩
  · intro t hrun
    have ht : t.Tidy := TableOp.tidy_of_run
      (fun _ _ _ ht h ↦ UnlimitedULNRoutingTable.Tidy.replace ht h)
      (UnlimitedULNRoutingTable.tidy_new root acc_pos acc_lt) hrun
    obtain ⟨res, omitted, hres, hanswer⟩ :=
      UnlimitedULNRoutingTable.closest_answer ht.inner target n hg
    exact ⟨res, hres, hanswer.closestContacts ht.nodup_iter⟩

end

/-- A contact two hops away. -/
def twoHops : Contact := .ofIds [3, 5] (by decide) .MIN

/-- What makes an operation well-behaved, to be tested. -/
def keepsPlaces (t : UnlimitedULNRoutingTable 20 1) : TableOp → Bool
  | .replace id c => c.id == id && !t.inner.contains id
  | .modify id f => (contact t id).all fun c ↦ (f c).id == id
  | .modifyAll _ => false
  | _ => true

/-- A neighbour and three contacts behind it, one of them far away.  A contact is written to, and
the neighbour is replaced. -/
def behindThree : List TableOp :=
  [.add (.new 0 (.via 3 []) .MIN), .add twoHops, .add (.new 0 (.via 3 [6]) .MIN),
    .add (.new 0 (.via 3 [.ofNat 112 (2 ^ 111)]) .MIN), .splitBucket 0,
    .modify 6 (·.setState .valid), .replace 3 (.new 0 (.via 3 []) .MIN)]

theorem behindThree_holds :
    (runAll TableOp.apply (.new 0 (by decide) (by decide)) behindThree).Holds
      fun t : UnlimitedULNRoutingTable 20 1 ↦
        (iter t).map Contact.id = [3, .ofNat 112 (2 ^ 111), 5, 6] ∧
        (closest t 7 2 .MIN).Holds fun res ↦ (res.toOption.map fun res ↦
          res.map fun x ↦ x.2.id) = some [6, 5] := by
  decide +kernel

/-- Of the four contacts the two that are closest to 7 are returned. -/
theorem closest_of_four : ∃ t : UnlimitedULNRoutingTable 20 1,
    runAll TableOp.apply (.new 0 (by decide) (by decide)) behindThree = .ok t ∧
      (iter t).map Contact.id = [3, .ofNat 112 (2 ^ 111), 5, 6] ∧
      ∃ res, closest t 7 2 .MIN = .ok (.ok res) ∧ res.map (fun x ↦ x.2.id) = [6, 5] ∧
        ClosestContacts (iter t) 7 2 1 res := by
  have htest : ∀ (t : UnlimitedULNRoutingTable 20 1) op, keepsPlaces t op →
      TableOp.WellBehaved UnlimitedULNRoutingTable.Replaceable t op := by
    intro t op h
    cases op with
    | replace id c =>
      simpa [keepsPlaces, TableOp.WellBehaved, UnlimitedULNRoutingTable.Replaceable] using h
    | modify id f =>
      intro c hc
      simp only [keepsPlaces, hc, Option.all_some, beq_iff_eq] at h
      exact .inl h
    | modifyAll f => cases h
    | add | insert | splitBucket | remove => trivial
  obtain ⟨t, hrun, hids, hreturned⟩ := behindThree_holds.exists_ok
  obtain ⟨res, hclosest, hspec⟩ :=
    (closest_of_wellBehaved 0 (by decide) (by decide) 7 2 .MIN (by decide)).2 t
      (reachable_of_testAll htest .start (by decide +kernel) hrun)
  rw [hclosest] at hreturned
  exact ⟨t, hrun, hids, res, hclosest, Option.some.inj hreturned, hspec⟩

/-- **A replacement can store a contact twice**, and then a query returns it twice. -/
theorem closest_twice : ∃ t : UnlimitedULNRoutingTable 1 1,
    Reachable TableOp.apply (fun _ _ ↦ True) (.new 0 (by decide) (by decide)) t ∧
      ∃ x, closest t 5 2 .MIN = .ok (.ok [x, x]) := by
  have hrun : ∃ t, runAll TableOp.apply
      (.new 0 (by decide) (by decide) : UnlimitedULNRoutingTable 1 1)
      [.add twoHops, .replace 5 twoHops] = .ok t ∧
        closest t 5 2 .MIN = .ok (.ok [(NodeId.sharedPrefix 5 5 1, twoHops),
          (NodeId.sharedPrefix 5 5 1, twoHops)]) := ⟨_, rfl, by decide +kernel⟩
  obtain ⟨t, hrun, hclosest⟩ := hrun
  exact ⟨t, reachable_of_runAll _ hrun, _, hclosest⟩

end Kira
