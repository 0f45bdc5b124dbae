import Kira.Domain.RoutingTable.FlatClosest
import Kira.Domain.RoutingTable.Lawful

/-!
# The flat table is a lawful routing table

Everything `FlatInvariant` says about what is stored, restated as what happens to the map from ids
to contacts.  A tidy table finds exactly what it stores, so each law follows from the corresponding
fact about membership (`contact_eq`).
-/

set_option autoImplicit false

namespace Kira

namespace FlatRoutingTable

variable {k acc : Nat}

theorem contains_eq_isSome (self : FlatRoutingTable k acc) (id : NodeId) :
    self.contains id = (self.contact id).isSome :=
  Bucket.contains_eq_isSome ..

variable {self : FlatRoutingTable k acc}

theorem mem_iter_of_contact {id : NodeId} {c : Contact}
    (h : self.contact id = some c) : c ∈ self.iter :=
  mem_iter_of_mem_bucket self (Bucket.get_eq_some h).1

theorem mem_iter_of_mem_replace {id : NodeId} {c x : Contact}
    (h : x ∈ (self.replace id c).2.iter) : x = c ∨ x ∈ self.iter := by
  rcases replace_cases self id c with ⟨old, -, -, heq⟩ | ⟨err, heq⟩
  · rw [heq] at h
    rcases mem_iter_of_mem_write self h with hx | hx
    · exact .inr hx
    · exact .inl (Option.some.inj hx).symm
  · rw [heq] at h
    exact .inr h

theorem replace_root (self : FlatRoutingTable k acc) (id : NodeId) (c : Contact) :
    (self.replace id c).2.root = self.root := by
  rcases replace_cases self id c with ⟨old, -, -, heq⟩ | ⟨err, heq⟩
  · rw [heq, write_root]
  · rw [heq]

namespace Tidy

variable {self self' : FlatRoutingTable k acc}

theorem contact_eq (ht : self.Tidy) {m : Contents}
    (h : ∀ id c, m id = some c ↔ c ∈ self.iter ∧ c.id = id) : self.contact = m := by
  funext id
  ext c
  rw [ht.contact_eq_some_iff, h]

variable {c : Contact} {id : NodeId}

theorem contact_added (ht : self.Tidy) (h : Added self c (.ok ()) self') :
    self'.contact = Function.update self.contact c.id (some c) := by
  refine (ht.added h).contact_eq ?_
  intro id x
  rw [h.mem_iter_iff, Function.update_apply]
  by_cases hid : id = c.id
  · subst hid
    rw [if_pos rfl]
    cases h with
    | added hnew =>
      have hnone : self.contact c.id = none := by simpa [contains_eq_isSome] using hnew
      constructor
      · rintro ⟨⟩
        exact ⟨.inl rfl, rfl⟩
      · rintro ⟨rfl | hx, hxid⟩
        · rfl
        · exact absurd hxid ((ht.contact_eq_none_iff _).1 hnone x hx)
  · rw [if_neg hid, ht.contact_eq_some_iff]
    constructor
    · rintro ⟨hx, hxid⟩
      exact ⟨.inr hx, hxid⟩
    · rintro ⟨rfl | hx, hxid⟩
      · exact absurd hxid.symm hid
      · exact ⟨hx, hxid⟩

theorem contact_added_ne (ht : self.Tidy) {r : Except AddError Unit}
    (h : Added self c r self') (hid : id ≠ c.id) :
    self'.contact id = self.contact id := by
  cases r with
  | ok u => rw [ht.contact_added h, Function.update_of_ne hid]
  | error err => rw [h.eq_of_error]

theorem addEffect (ht : self.Tidy) {r : Except AddError Unit}
    (h : Added self c r self') : AddEffect self.contact c r self'.contact := by
  cases r with
  | ok u =>
    rw [ht.contact_added h]
    refine .stored ?_
    intro old hold
    cases h with
    | added hnew =>
      rw [contains_eq_isSome, hold] at hnew
      simp at hnew
  | error err =>
    obtain rfl := h.eq_of_error
    refine .refused err ?_
    rw [← contains_eq_isSome]
    cases h with
    | alreadyExists hdup => simp [hdup]
    | needsValidation hnew | notAdded hnew => simp [hnew]

theorem contact_split (ht : self.Tidy) {r : Except BucketSplitError Nat}
    (h : Split self id r self') : self'.contact = self.contact := by
  refine (h.tidy ht).contact_eq ?_
  intro i c
  rw [h.mem_iter_iff, ht.contact_eq_some_iff]

theorem contact_remove (ht : self.Tidy) (id : NodeId) :
    (self.remove id).2.contact = Function.update self.contact id none := by
  refine (ht.remove id).contact_eq ?_
  intro i c
  rw [ht.mem_iter_remove, Function.update_apply]
  by_cases hi : i = id
  · subst hi
    simp only [if_true, reduceCtorEq, false_iff]
    rintro ⟨⟨-, hne⟩, heq⟩
    exact hne heq
  · rw [if_neg hi, ht.contact_eq_some_iff]
    constructor
    · rintro ⟨hc, rfl⟩
      exact ⟨⟨hc, hi⟩, rfl⟩
    · rintro ⟨⟨hc, -⟩, heq⟩
      exact ⟨hc, heq⟩

theorem writable_of_fits (h : Fits self id c) : c.id = id ∨
    (self.getBucketIndex c.id = self.getBucketIndex id ∧ self.contains c.id = false) := by
  rcases h with h | ⟨-, hidx, hnone⟩
  · exact .inl h
  · refine .inr ⟨hidx, ?_⟩
    rw [contains_eq_isSome]
    exact Option.isSome_eq_false_iff.2 (Option.isNone_iff_eq_none.2 hnone)

theorem contact_write (ht : self.Tidy) {old : Contact}
    (h : self.contact id = some old) (hfits : Fits self id c) :
    (self.write id c).contact = Contents.written self.contact id c := by
  refine (ht.write (writable_of_fits hfits)).contact_eq ?_
  intro i x
  rw [ht.mem_iter_write h, Contents.written, Function.update_apply, Function.update_apply]
  by_cases hi : i = c.id
  · subst hi
    rw [if_pos rfl]
    constructor
    · rintro ⟨⟩
      exact ⟨.inr rfl, rfl⟩
    · rintro ⟨⟨hx, hne⟩ | rfl, hxid⟩
      · -- the id of the new contact is not that of another one
        rcases hfits with heq | ⟨-, -, hnone⟩
        · exact absurd (hxid.trans heq) hne
        · exact absurd hxid ((ht.contact_eq_none_iff _).1 hnone x hx)
      · rfl
  · rw [if_neg hi]
    by_cases hid : i = id
    · subst hid
      simp only [if_true, reduceCtorEq, false_iff]
      rintro ⟨⟨-, hne⟩ | rfl, hxid⟩
      · exact hne hxid
      · exact hi hxid.symm
    · rw [if_neg hid, ht.contact_eq_some_iff]
      constructor
      · rintro ⟨hx, rfl⟩
        exact ⟨.inl ⟨hx, hid⟩, rfl⟩
      · rintro ⟨⟨hx, -⟩ | rfl, hxid⟩
        · exact ⟨hx, hxid⟩
        · exact absurd hxid.symm hi

theorem contact_iterMut (ht : self.Tidy) {f : Contact → Contact}
    (hf : ∀ c ∈ self.iter, (f c).id = c.id) (id : NodeId) :
    (self.iterMut f).contact id = (self.contact id).map f := by
  ext c
  rw [(ht.iterMut hf).contact_eq_some_iff, iter_iterMut, List.mem_map, Option.map_eq_some_iff]
  constructor
  · rintro ⟨⟨x, hx, rfl⟩, hid⟩
    exact ⟨x, (ht.contact_eq_some_iff id x).2 ⟨hx, (hf x hx).symm.trans hid⟩, rfl⟩
  · rintro ⟨x, hx, rfl⟩
    obtain ⟨hmem, hid⟩ := (ht.contact_eq_some_iff id x).1 hx
    exact ⟨⟨x, hmem, rfl⟩, (hf x hmem).trans hid⟩

end Tidy

instance : LawfulRoutingTable (FlatRoutingTable k acc) k where
  Tidy := Tidy
  write := write
  contactMut_eq t id f := by
    show t.contactMut id f = match t.contact id with
      | none => .ok (none, t)
      | some c => f c >>= fun p ↦ .ok (some p.1, t.write id p.2)
    rw [contactMut]
    cases t.contact id <;> rfl
  contains_eq := contains_eq_isSome
  mem_of_contact := mem_iter_of_contact
  mem_add h := ⟨(add_cases h).root_eq, fun _ hx ↦ (add_cases h).mem_iter hx⟩
  mem_splitBucket h := ⟨(splitBucket_cases h).root_eq, (splitBucket_cases h).mem_iter_iff⟩
  mem_write t id c := by
    refine ⟨write_root t id c, fun x hx ↦ ?_⟩
    rcases mem_iter_of_mem_write t hx with hx | hx
    · exact .inr hx
    · exact .inl (Option.some.inj hx).symm
  mem_remove t id := ⟨rfl, fun _ hx ↦ mem_iter_of_mem_remove hx⟩
  mem_replace t id c := ⟨replace_root t id c, fun _ hx ↦ mem_iter_of_mem_replace hx⟩
  mem_iterMut t f := ⟨rfl, iter_iterMut t f⟩
  mem_closest := mem_closest
  contact_eq_some_iff ht := ht.contact_eq_some_iff _ _
  mem_bucket ht h := (ht.mem_bucket_iff _ _).1 h
  mem_bucketByIndex h hc := (mem_iter_iff _ _).2 ⟨_, _, Run.expect_eq_ok.1 h, hc⟩
  nodup_iter ht := ht.nodup_iter
  bucket_congr h := bucket_congr h
  add_effect ht h := ⟨ht.added (add_cases h), ht.addEffect (add_cases h)⟩
  splitBucket_effect ht h :=
    ⟨(splitBucket_cases h).tidy ht, ht.contact_split (splitBucket_cases h)⟩
  write_effect ht h hfits := ⟨ht.write (Tidy.writable_of_fits hfits), ht.contact_write h hfits⟩
  remove_effect ht id := ⟨rfl, ht.remove id, ht.contact_remove id⟩
  iterMut_effect ht hf := ⟨ht.iterMut hf, ht.contact_iterMut hf⟩

theorem healthy_new (root : NodeId) (acc_pos : 0 < acc) (acc_lt : acc < 64) :
    TableOp.Healthy (FlatRoutingTable.new root acc_pos acc_lt : FlatRoutingTable k acc) where
  tidy := tidy_new root acc_pos acc_lt
  rootFree c hc := by
    have hempty := iter_new (k := k) root acc_pos acc_lt
    exact absurd (hempty ▸ (show c ∈ iter _ from hc)) List.not_mem_nil

/-- A contact may replace another one: they belong into the same bucket. -/
def Replaceable (self : FlatRoutingTable k acc) (id : NodeId) (c : Contact) : Prop :=
  self.getBucketIndex c.id = self.getBucketIndex id

theorem Tidy.replace (ht : self.Tidy) {id : NodeId} {c : Contact}
    (h : self.Replaceable id c) : (self.replace id c).2.Tidy := by
  rcases replace_cases self id c with ⟨old, -, hnew, heq⟩ | ⟨err, heq⟩
  · rw [heq]
    refine ht.write (.inr ⟨h, ?_⟩)
    rw [contains, bucket_congr h]
    exact hnew
  · rw [heq]
    exact ht

end FlatRoutingTable

end Kira
