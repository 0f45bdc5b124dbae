import Kira.Domain.InsertionStrategy
import Kira.Domain.RoutingTable.FlatLawful

/-!
# The shape of the flat table

A flat table grows by whole levels, up to the last digit of an id.  Every split changes the bucket
of many ids, and a displacement puts a contact into the place of another one; all the same every
contact is found in the bucket of its id, and no id is stored twice (`shape_of_run`).

With an acceleration below 64 none of the checks in the computation of the index ever fails.  But
the constructor accepts more, and then the width of a level does not fit a machine word: already the
empty table cannot be asked for an id (`lookup_overflows`).
-/

set_option autoImplicit false

namespace Kira

open RoutingTable LawfulRoutingTable

/-- The operation is neither a replacement nor a write access. -/
def Operation.IsPlain : Operation → Prop
  | .table (.replace _ _) => False
  | .table (.modify _ _) => False
  | .table (.modifyAll _) => False
  | _ => True

theorem Operation.IsPlain.tidy {T : Type} {k : Nat} [RoutingTable T k] [LawfulRoutingTable T k]
    {t t' : T} {op : Operation} (hop : op.IsPlain) (ht : Tidy t) (h : op.apply t = .ok t') :
    Tidy t' := by
  cases op with
  | table op =>
    have hgood : op.WellBehaved (fun _ _ _ ↦ False) t := by
      cases op with
      | replace | modify | modifyAll => exact False.elim hop
      | _ => trivial
    exact TableOp.tidy_apply (by simp) ht hgood h
  | strategy call =>
    obtain ⟨res, hins⟩ := UNSStrategy.Call.apply_eq_ok h
    exact UNSStrategy.insert_tidy ht hins

/-- The constructor's check of the acceleration. -/
def accepted (acc : Nat) : Bool := acc != 0 && acc ≤ NodeId.BITS

/-- What is to hold of a table. -/
structure FlatRoutingTable.WellShaped {k acc : Nat} (t : FlatRoutingTable k acc) : Prop where
  /-- The buckets are a number of levels and one more. -/
  levels : ∃ levels, t.numBuckets = 1 + levels * (2 ^ acc - 1)
  limit : t.numBuckets ≤ 1 + 112 / acc * (2 ^ acc - 1)
  index : ∀ id, checkedBucketIndex t.root t.numBuckets acc id = .ok (t.getBucketIndex id)
  home : ∀ i bucket, t.buckets[i]? = some bucket →
    ∀ c ∈ bucket.contacts, t.getBucketIndex c.id = i
  nodup : (t.iter.map Contact.id).Nodup
  contact_iff : ∀ id c, t.contact id = some c ↔ c ∈ t.iter ∧ c.id = id
  contains_iff : ∀ id, t.contains id = true ↔ ∃ c ∈ t.iter, c.id = id

theorem FlatRoutingTable.Tidy.wellShaped {k acc : Nat} {t : FlatRoutingTable k acc} (ht : t.Tidy) :
    t.WellShaped where
  levels := ⟨t.levels, by rw [t.numBuckets_eq, Nat.add_comm]; rfl⟩
  limit := by
    rw [t.numBuckets_eq, Nat.add_comm]
    exact Nat.add_le_add_left (Nat.mul_le_mul_right _ t.levels_le) 1
  index := t.checkedBucketIndex_eq
  home := ht.home
  nodup := ht.nodup_iter
  contact_iff id c := ht.contact_eq_some_iff id c
  contains_iff id := by
    rw [t.contains_eq_isSome, Option.isSome_iff_exists]
    simp only [ht.contact_eq_some_iff]

/-- **The shape of every table** that is reached by plain operations. -/
theorem shape_of_run {k acc : Nat} {root : NodeId} {acc_pos : 0 < acc} {acc_lt : acc < 64}
    {t : FlatRoutingTable k acc}
    (h : Reachable Operation.apply (fun _ op ↦ op.IsPlain) (.new root acc_pos acc_lt) t) :
    t.WellShaped := by
  have ht : t.Tidy := h.invariant (FlatRoutingTable.tidy_new root acc_pos acc_lt)
    fun _ _ _ ht hop hstep ↦ hop.tidy ht hstep
  exact ht.wellShaped

/-- Two contacts that make the table split its bucket. -/
theorem shape_after_split : ∃ t : FlatRoutingTable 1 2,
    runAll Operation.apply (.new 0 (by decide) (by decide))
      [.table (.insert (.ofIds [3, 9] (by decide) ⟨1, by decide, by decide⟩)),
        .table (.insert (.ofIds [3, .ofNat 112 (2 ^ 111)] (by decide) ⟨1, by decide, by decide⟩))] =
      .ok t ∧ t.numBuckets = 4 ∧ t.WellShaped := by
  refine Run.exists_ok (p := fun t ↦ t.numBuckets = 4) ⟨_, rfl, by decide +kernel⟩ ?_
  intro t hboth hnum
  exact ⟨hnum, shape_of_run (.runAll .start (by simp [Operation.IsPlain]) hboth)⟩

/-- **Looking up an id overflows.**  The acceleration 64 is accepted, but the index of an id that
differs from the root in the first bit cannot be computed. -/
theorem lookup_overflows :
    accepted 64 = true ∧ FlatRoutingTable.checkedBucketIndex 0 1 64 (.ofNat 112 (2 ^ 111)) =
      .panic "attempt to shift left with overflow" := by
  decide +kernel

end Kira
