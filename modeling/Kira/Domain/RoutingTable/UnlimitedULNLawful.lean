import Kira.Domain.RoutingTable.UnlimitedULN
import Kira.Domain.RoutingTable.FlatLawful

/-!
# The table with room for all underlay neighbors is lawful

The table is tidy if its inner table is, every neighbor is stored under its own id, and no id is
stored in both places.  Then its lookup is that of the inner table with the map of neighbors laid
over it, and every law follows from that of the inner table.

`Added` lists everything an addition can do.  Two of its cases are particular to this table: a
neighbor *takes the place* of a contact of the inner table, and a contact that was a neighbor is
*given up* before the inner table has its say.

The search merges the valid neighbors into what the inner table returns (`closest_answer`).
-/

set_option autoImplicit false

namespace Kira

open Run
open List (Perm)

namespace UnlimitedULNRoutingTable

variable {k acc : Nat}

/-! ## What an addition does -/

/-- **Everything an addition can do.** -/
inductive Added (self : UnlimitedULNRoutingTable k acc) (c : Contact) :
    Except AddError Unit → UnlimitedULNRoutingTable k acc → Prop
  | alreadyExists {entry : Contact} (h : self.unContacts.lookup c.id = some entry)
      (hc : c.isUln = true ∨ entry.isValid = true) :
      Added self c (.error (.alreadyExists c.id)) self
  | neighbor (h : self.unContacts.lookup c.id = none) (hc : c.isUln = true) :
      Added self c (.ok ()) ⟨self.unContacts.insert c.id c, (self.inner.remove c.id).2⟩
  | inner {r : Except AddError Unit} {inner : FlatRoutingTable k acc}
      (h : self.unContacts.lookup c.id = none) (hc : c.isUln = false)
      (hadd : self.inner.Added c r inner) : Added self c r ⟨self.unContacts, inner⟩
  | givenUp {entry : Contact} {r : Except AddError Unit} {inner : FlatRoutingTable k acc}
      (h : self.unContacts.lookup c.id = some entry) (hc : c.isUln = false)
      (hentry : entry.isValid = false) (hadd : self.inner.Added c r inner) :
      Added self c r ⟨self.unContacts.erase c.id, inner⟩

variable {self self' : UnlimitedULNRoutingTable k acc} {c : Contact} {r : Except AddError Unit}

theorem addInner_cases (h : self.addInner c = .ok (r, self')) :
    ∃ inner, self.inner.Added c r inner ∧ self' = ⟨self.unContacts, inner⟩ := by
  obtain ⟨⟨res, inner⟩, hadd, h⟩ := of_bind h
  obtain ⟨rfl, rfl⟩ :
      res = r ∧ (⟨self.unContacts, inner⟩ : UnlimitedULNRoutingTable k acc) = self' := by
    simpa using h
  exact ⟨inner, FlatRoutingTable.add_cases hadd, rfl⟩

theorem add_cases (h : self.add c = .ok (r, self')) : Added self c r self' := by
  rw [add] at h
  cases hlook : self.unContacts.lookup c.id with
  | some entry =>
    simp only [hlook] at h
    split at h
    · rename_i hc
      cases h
      exact .alreadyExists hlook (.inl hc)
    · rename_i hc
      split at h
      · rename_i hentry
        cases h
        exact .alreadyExists hlook (.inr hentry)
      · rename_i hentry
        obtain ⟨inner, hadd, rfl⟩ := addInner_cases h
        exact .givenUp hlook (by simpa using hc) (by simpa using hentry) hadd
  | none =>
    simp only [hlook] at h
    split at h
    · rename_i hc
      cases h
      exact .neighbor hlook hc
    · rename_i hc
      obtain ⟨inner, hadd, rfl⟩ := addInner_cases h
      exact .inner hlook (by simpa using hc) hadd

variable {id : NodeId} {x : Contact}

theorem splitBucket_cases {r : Except BucketSplitError Nat}
    (h : self.splitBucket id = .ok (r, self')) :
    ∃ inner, self.inner.Split id r inner ∧ self' = ⟨self.unContacts, inner⟩ := by
  obtain ⟨⟨res, inner⟩, hsplit, h⟩ := of_bind h
  obtain ⟨rfl, rfl⟩ :
      res = r ∧ (⟨self.unContacts, inner⟩ : UnlimitedULNRoutingTable k acc) = self' := by
    simpa using h
  exact ⟨inner, FlatRoutingTable.splitBucket_cases hsplit, rfl⟩

/-! ## What is stored -/

theorem mem_iter :
    x ∈ self.iter ↔ (∃ id, self.unContacts.lookup id = some x) ∨ x ∈ self.inner.iter := by
  rw [iter, List.mem_append, KeyMap.mem_values]

theorem mem_iter_of_contact (h : self.contact id = some c) : c ∈ self.iter := by
  rw [contact, Option.or_eq_some_iff] at h
  rcases h with h | ⟨-, h⟩
  · exact mem_iter.2 (.inl ⟨id, h⟩)
  · exact mem_iter.2 (.inr (FlatRoutingTable.mem_iter_of_contact h))

theorem contains_eq_isSome (self : UnlimitedULNRoutingTable k acc) (id : NodeId) :
    self.contains id = (self.contact id).isSome := by
  rw [contains, contact, Option.isSome_or, FlatRoutingTable.contains_eq_isSome]

theorem Added.mem_iter (h : Added self c r self') (hx : x ∈ self'.iter) :
    x = c ∨ x ∈ self.iter := by
  rw [UnlimitedULNRoutingTable.mem_iter] at hx ⊢
  cases h with
  | alreadyExists => exact .inr hx
  | neighbor =>
    rcases hx with ⟨id, hx⟩ | hx
    · exact (KeyMap.lookup_of_insert hx).imp_right fun h ↦ .inl ⟨id, h⟩
    · exact .inr (.inr (FlatRoutingTable.mem_iter_of_mem_remove hx))
  | inner _ _ hadd =>
    rcases hx with hx | hx
    · exact .inr (.inl hx)
    · exact (hadd.mem_iter hx).imp_right .inr
  | givenUp _ _ _ hadd =>
    rcases hx with ⟨id, hx⟩ | hx
    · exact .inr (.inl ⟨id, KeyMap.lookup_of_erase hx⟩)
    · exact (hadd.mem_iter hx).imp_right .inr

theorem Added.root_eq (h : Added self c r self') : self'.root = self.root := by
  cases h with
  | alreadyExists | neighbor => rfl
  | inner _ _ hadd | givenUp _ _ _ hadd => exact hadd.root_eq

theorem write_root (self : UnlimitedULNRoutingTable k acc) (id : NodeId) (c : Contact) :
    (self.write id c).root = self.root := by
  rw [write]
  split <;> rfl

theorem mem_iter_of_mem_write (h : x ∈ (self.write id c).iter) :
    x = c ∨ x ∈ self.iter := by
  rw [write] at h
  rw [mem_iter]
  split at h
  · rcases mem_iter.1 h with ⟨key, hx⟩ | hx
    · exact (KeyMap.lookup_of_insert hx).imp_right fun h ↦ .inl ⟨key, h⟩
    · exact .inr (.inr hx)
  · rcases mem_iter.1 h with hx | hx
    · exact .inr (.inl hx)
    · rcases FlatRoutingTable.mem_iter_of_mem_write self.inner hx with hx | hx
      · exact .inr (.inr hx)
      · exact .inl (Option.some.inj hx).symm

theorem remove_root (self : UnlimitedULNRoutingTable k acc) (id : NodeId) :
    (self.remove id).2.root = self.root := by
  rw [remove]
  split <;> rfl

theorem mem_iter_of_mem_remove (h : x ∈ (self.remove id).2.iter) :
    x ∈ self.iter := by
  rw [remove] at h
  rw [mem_iter]
  split at h
  · rcases mem_iter.1 h with ⟨key, hx⟩ | hx
    · exact .inl ⟨key, KeyMap.lookup_of_erase hx⟩
    · exact .inr hx
  · rcases mem_iter.1 h with hx | hx
    · exact .inl hx
    · exact .inr (FlatRoutingTable.mem_iter_of_mem_remove hx)

theorem replace_root (self : UnlimitedULNRoutingTable k acc) (id : NodeId) (c : Contact) :
    (self.replace id c).2.root = self.root := by
  rw [replace]
  split
  · rfl
  · exact FlatRoutingTable.replace_root self.inner id c

theorem mem_iter_of_mem_replace (h : x ∈ (self.replace id c).2.iter) :
    x = c ∨ x ∈ self.iter := by
  rw [replace] at h
  rw [mem_iter]
  split at h
  · rcases mem_iter.1 h with ⟨key, hx⟩ | hx
    · exact (KeyMap.lookup_of_insert hx).imp_right fun h ↦ .inl ⟨key, h⟩
    · exact .inr (.inr hx)
  · rcases mem_iter.1 h with ⟨key, hx⟩ | hx
    · exact (KeyMap.lookup_of_insert hx).imp_right fun h ↦ .inl ⟨key, h⟩
    · exact (FlatRoutingTable.mem_iter_of_mem_replace hx).imp_right .inr

theorem iter_iterMut (self : UnlimitedULNRoutingTable k acc) (f : Contact → Contact) :
    (self.iterMut f).iter = self.iter.map f := by
  rw [iter, iter, List.map_append, iterMut, KeyMap.values_mapValues, FlatRoutingTable.iter_iterMut]

/-! ## Tidy tables -/

/-- The inner table is tidy, neighbors are stored under their ids, and nothing is stored twice. -/
structure Tidy (table : UnlimitedULNRoutingTable k acc) : Prop where
  inner : table.inner.Tidy
  keyed : ∀ id c, table.unContacts.lookup id = some c → c.id = id
  disjoint : ∀ id c, table.unContacts.lookup id = some c → table.inner.contact id = none

@[simp] theorem iter_new (root : NodeId) (acc_pos : 0 < acc) (acc_lt : acc < 64) :
    (new root acc_pos acc_lt : UnlimitedULNRoutingTable k acc).iter = [] := by
  simp [iter, new]

theorem tidy_new (root : NodeId) (acc_pos : 0 < acc) (acc_lt : acc < 64) :
    (new root acc_pos acc_lt : UnlimitedULNRoutingTable k acc).Tidy where
  inner := FlatRoutingTable.tidy_new root acc_pos acc_lt
  keyed := by simp [new]
  disjoint := by simp [new]

namespace Tidy

variable {self self' : UnlimitedULNRoutingTable k acc}

theorem contact_eq_some_iff (ht : self.Tidy) (id : NodeId) (c : Contact) :
    self.contact id = some c ↔ c ∈ self.iter ∧ c.id = id := by
  rw [contact, Option.or_eq_some_iff, mem_iter, ht.inner.contact_eq_some_iff]
  constructor
  · rintro (h | ⟨-, h, hid⟩)
    · exact ⟨.inl ⟨id, h⟩, ht.keyed id c h⟩
    · exact ⟨.inr h, hid⟩
  · rintro ⟨⟨key, h⟩ | h, hid⟩
    · obtain rfl := (ht.keyed key c h).symm.trans hid
      exact .inl h
    · cases hlook : self.unContacts.lookup id with
      | none => exact .inr ⟨rfl, h, hid⟩
      | some d =>
        exact absurd hid ((ht.inner.contact_eq_none_iff id).1 (ht.disjoint id d hlook) c h)

variable {c : Contact} {inner : FlatRoutingTable k acc}

theorem inner_eq_none_of_mem (ht : self.Tidy) (h : ∃ key, self.unContacts.lookup key = some c) :
    self.inner.contact c.id = none := by
  obtain ⟨key, h⟩ := h
  rw [ht.keyed key c h]
  exact ht.disjoint key c h

theorem nodup_iter (ht : self.Tidy) : (self.iter.map Contact.id).Nodup := by
  rw [iter, List.map_append, List.nodup_append]
  refine ⟨KeyMap.nodup_map_values ht.keyed, ht.inner.nodup_iter, ?_⟩
  intro x hx y hy
  obtain ⟨c, hc, rfl⟩ := List.mem_map.1 hx
  obtain ⟨d, hd, rfl⟩ := List.mem_map.1 hy
  have hnone := ht.inner_eq_none_of_mem (KeyMap.mem_values.1 hc)
  exact ((ht.inner.contact_eq_none_iff c.id).1 hnone d hd).symm

theorem added (ht : self.Tidy) {r : Except AddError Unit} (h : Added self c r self') :
    self'.Tidy := by
  cases h with
  | alreadyExists => exact ht
  | neighbor =>
    refine ⟨ht.inner.remove c.id, ?_, ?_⟩
    · intro id x hx
      rw [KeyMap.lookup_insert_eq] at hx
      split at hx
      · rename_i hid
        rw [← Option.some.inj hx, hid]
      · exact ht.keyed id x hx
    · intro id x hx
      rw [KeyMap.lookup_insert_eq] at hx
      rw [ht.inner.contact_remove, Function.update_apply]
      split at hx
      · rename_i hid
        rw [if_pos hid]
      · rename_i hid
        rw [if_neg hid]
        exact ht.disjoint id x hx
  | inner hnone _ hadd =>
    refine ⟨ht.inner.added hadd, ht.keyed, ?_⟩
    intro id x hx
    have hid : id ≠ c.id := by
      rintro rfl
      simp [hnone] at hx
    rw [ht.inner.contact_added_ne hadd hid]
    exact ht.disjoint id x hx
  | givenUp _ _ _ hadd =>
    refine ⟨ht.inner.added hadd, fun id x hx ↦ ht.keyed id x (KeyMap.lookup_of_erase hx), ?_⟩
    intro id x hx
    have hid : id ≠ c.id := by
      rintro rfl
      simp at hx
    rw [ht.inner.contact_added_ne hadd hid]
    exact ht.disjoint id x (KeyMap.lookup_of_erase hx)

/-! What an addition does to the map from ids: what the inner addition does to its part, with the
neighbors laid over it. -/

theorem contact_neighbor (ht : self.Tidy) (c : Contact) :
    contact ⟨self.unContacts.insert c.id c, (self.inner.remove c.id).2⟩ =
      Function.update self.contact c.id (some c) := by
  funext id
  rw [contact, KeyMap.lookup_insert_eq, ht.inner.contact_remove, Function.update_apply,
    Function.update_apply]
  by_cases hid : id = c.id
  · simp [hid]
  · simp [hid, contact]

theorem contact_addedInner (ht : self.Tidy) (hlook : self.unContacts.lookup c.id = none)
    (hadd : self.inner.Added c (.ok ()) inner) :
    contact ⟨self.unContacts, inner⟩ = Function.update self.contact c.id (some c) := by
  funext id
  rw [contact, ht.inner.contact_added hadd, Function.update_apply, Function.update_apply]
  by_cases hid : id = c.id
  · subst hid
    simp [hlook]
  · simp [hid, contact]

theorem contact_givenUp (ht : self.Tidy) (hadd : self.inner.Added c (.ok ()) inner) :
    contact ⟨self.unContacts.erase c.id, inner⟩ = Function.update self.contact c.id (some c) := by
  funext id
  rw [contact, ht.inner.contact_added hadd, KeyMap.lookup_erase_eq, Function.update_apply,
    Function.update_apply]
  by_cases hid : id = c.id
  · simp [hid]
  · simp [hid, contact]

variable {id : NodeId}

theorem contact_erase (hnone : self.inner.contact id = none) :
    contact ⟨self.unContacts.erase id, self.inner⟩ = Function.update self.contact id none := by
  funext i
  rw [contact, KeyMap.lookup_erase_eq, Function.update_apply]
  by_cases hi : i = id
  · simp [hi, hnone]
  · simp [hi, contact]

theorem addEffect (ht : self.Tidy) {r : Except AddError Unit} (h : Added self c r self') :
    AddEffect self.contact c r self'.contact := by
  cases h with
  | alreadyExists hlook =>
    refine .refused _ ?_
    simp [contact, hlook]
  | neighbor hlook hc =>
    rw [ht.contact_neighbor]
    exact .stored fun _ _ ↦ .inl hc
  | inner hlook _ hadd =>
    have hself : self.contact c.id = self.inner.contact c.id := by simp [contact, hlook]
    have hinner := ht.inner.addEffect hadd
    cases r with
    | ok u =>
      rw [ht.contact_addedInner hlook hadd]
      refine .stored ?_
      rw [hself]
      exact hinner.replaces
    | error err =>
      obtain rfl := hadd.eq_of_error
      refine .refused err ?_
      rw [hself]
      exact hinner.isSome_iff
  | @givenUp entry _ _ hlook hc hentry hadd =>
    have hself : self.contact c.id = some entry := by simp [contact, hlook]
    have hnone := ht.disjoint _ _ hlook
    have hinner := ht.inner.addEffect hadd
    cases r with
    | ok u =>
      rw [ht.contact_givenUp hadd]
      refine .stored ?_
      intro old hold
      obtain rfl := Option.some.inj (hself.symm.trans hold)
      exact .inr hentry
    | error err =>
      obtain rfl := hadd.eq_of_error
      rw [contact_erase hnone]
      refine .dropped err ?_ hself hentry hc
      intro id herr
      have := hinner.isSome_iff.2 ⟨id, herr⟩
      simp [hnone] at this

theorem split (ht : self.Tidy) {r : Except BucketSplitError Nat} (h : self.inner.Split id r inner) :
    Tidy ⟨self.unContacts, inner⟩ ∧ contact ⟨self.unContacts, inner⟩ = self.contact := by
  have hsame := ht.inner.contact_split h
  refine ⟨⟨h.tidy ht.inner, ht.keyed, ?_⟩, ?_⟩
  · intro i c hc
    rw [hsame]
    exact ht.disjoint i c hc
  · funext i
    rw [contact, contact, hsame]

theorem fits_inner (hlook : self.unContacts.lookup id = none) (h : Fits self id c) :
    Fits self.inner id c ∧ self.unContacts.lookup c.id = none := by
  rcases h with heq | ⟨hold, hidx, hnone⟩
  · exact ⟨.inl heq, heq ▸ hlook⟩
  · obtain ⟨hun, hin⟩ := Option.or_eq_none_iff.1 hnone
    exact ⟨.inr ⟨hold, hidx, hin⟩, hun⟩

theorem id_eq_of_fits (ht : self.Tidy) {entry : Contact}
    (hlook : self.unContacts.lookup id = some entry) (h : Fits self id c) : c.id = id := by
  rcases h with heq | ⟨⟨old, hold, hid⟩, -, -⟩
  · exact heq
  · have hnone := (ht.inner.contact_eq_none_iff id).1 (ht.disjoint id entry hlook)
    exact absurd hid (hnone old (FlatRoutingTable.mem_iter_of_mem_bucket _ hold))

theorem insert (ht : self.Tidy) (hid : c.id = id) (hnone : self.inner.contact id = none) :
    Tidy ⟨self.unContacts.insert id c, self.inner⟩ ∧
      contact ⟨self.unContacts.insert id c, self.inner⟩ =
        Function.update self.contact id (some c) := by
  refine ⟨⟨ht.inner, ?_, ?_⟩, ?_⟩
  · intro i x hx
    rw [KeyMap.lookup_insert_eq] at hx
    split at hx
    · rename_i hi
      rw [← Option.some.inj hx, hid, hi]
    · exact ht.keyed i x hx
  · intro i x hx
    rw [KeyMap.lookup_insert_eq] at hx
    split at hx
    · rename_i hi
      rwa [hi]
    · exact ht.disjoint i x hx
  · funext i
    rw [contact, KeyMap.lookup_insert_eq, Function.update_apply]
    by_cases hi : i = id
    · simp [hi]
    · simp [hi, contact]

theorem write (ht : self.Tidy) {old : Contact} (h : self.contact id = some old)
    (hfits : Fits self id c) :
    (self.write id c).Tidy ∧ (self.write id c).contact = Contents.written self.contact id c := by
  rw [UnlimitedULNRoutingTable.write]
  cases hlook : self.unContacts.lookup id with
  | some entry =>
    have hid := ht.id_eq_of_fits hlook hfits
    rw [Contents.written_self _ hid]
    exact ht.insert hid (ht.disjoint id entry hlook)
  | none =>
    obtain ⟨hin, hun⟩ := fits_inner hlook hfits
    have hinner : self.inner.contact id = some old := by simpa [contact, hlook] using h
    have hw := ht.inner.contact_write hinner hin
    refine ⟨⟨ht.inner.write (FlatRoutingTable.Tidy.writable_of_fits hin), ht.keyed, ?_⟩, ?_⟩
    · intro i x hx
      have h1 : i ≠ c.id := by
        rintro rfl
        simp [hun] at hx
      have h2 : i ≠ id := by
        rintro rfl
        simp [hlook] at hx
      show (self.inner.write id c).contact i = none
      rw [hw, Contents.written, Function.update_of_ne h1, Function.update_of_ne h2]
      exact ht.disjoint i x hx
    · funext i
      rw [contact, hw, Contents.written, Contents.written, Function.update_apply,
        Function.update_apply, Function.update_apply, Function.update_apply]
      by_cases h1 : i = c.id
      · subst h1
        simp [hun]
      · by_cases h2 : i = id
        · subst h2
          simp [h1, hlook]
        · simp [h1, h2, contact]

theorem remove (ht : self.Tidy) (id : NodeId) : (self.remove id).1 = self.contact id ∧
    (self.remove id).2.Tidy ∧
      (self.remove id).2.contact = Function.update self.contact id none := by
  rw [UnlimitedULNRoutingTable.remove]
  cases hlook : self.unContacts.lookup id with
  | some entry =>
    refine ⟨by simp [contact, hlook], ⟨ht.inner, ?_, ?_⟩, contact_erase (ht.disjoint _ _ hlook)⟩
    · exact fun i x hx ↦ ht.keyed i x (KeyMap.lookup_of_erase hx)
    · exact fun i x hx ↦ ht.disjoint i x (KeyMap.lookup_of_erase hx)
  | none =>
    have hrem := ht.inner.contact_remove id
    refine ⟨by simp [contact, hlook, FlatRoutingTable.remove_fst],
      ⟨ht.inner.remove id, ht.keyed, ?_⟩, ?_⟩
    · intro i x hx
      show (self.inner.remove id).2.contact i = none
      rw [hrem, Function.update_apply, ht.disjoint i x hx, ite_self]
    · funext i
      show (self.unContacts.lookup i).or ((self.inner.remove id).2.contact i) = _
      rw [hrem, Function.update_apply, Function.update_apply]
      by_cases hi : i = id
      · subst hi
        simp [hlook]
      · simp [hi, contact]

theorem iterMut (ht : self.Tidy) {f : Contact → Contact} (hf : ∀ c ∈ self.iter, (f c).id = c.id) :
    (self.iterMut f).Tidy ∧ ∀ id, (self.iterMut f).contact id = (self.contact id).map f := by
  have hinner : ∀ c ∈ self.inner.iter, (f c).id = c.id := fun c hc ↦ hf c (mem_iter.2 (.inr hc))
  have hcon := ht.inner.contact_iterMut hinner
  refine ⟨⟨ht.inner.iterMut hinner, ?_, ?_⟩, ?_⟩
  · intro i x hx
    rw [UnlimitedULNRoutingTable.iterMut, KeyMap.lookup_mapValues, Option.map_eq_some_iff] at hx
    obtain ⟨c, hc, rfl⟩ := hx
    rw [hf c (mem_iter.2 (.inl ⟨i, hc⟩))]
    exact ht.keyed i c hc
  · intro i x hx
    rw [UnlimitedULNRoutingTable.iterMut, KeyMap.lookup_mapValues, Option.map_eq_some_iff] at hx
    obtain ⟨c, hc, rfl⟩ := hx
    show (self.inner.iterMut f).contact i = none
    rw [hcon, ht.disjoint i c hc, Option.map_none]
  · intro i
    show ((self.unContacts.mapValues f).lookup i).or ((self.inner.iterMut f).contact i) = _
    rw [KeyMap.lookup_mapValues, hcon, contact]
    cases self.unContacts.lookup i <;> rfl

end Tidy

theorem candidatesOf_append (l₁ l₂ : List Contact) (target : NodeId) (g : Nat) :
    candidatesOf (l₁ ++ l₂) target g = candidatesOf l₁ target g ++ candidatesOf l₂ target g := by
  rw [candidatesOf, List.filter_append, List.map_append]
  rfl

theorem mem_closest {target : NodeId} {n : Nat} {g : NonZeroU8} {res : List PrefixContact}
    (h : self.closest target n g = .ok (.ok res)) :
    g.get ≤ NodeId.BITS ∧ ∀ x ∈ res, x ∈ candidatesOf self.iter target g.get := by
  obtain ⟨r, hinner, h⟩ := of_bind h
  cases r with
  | error err => simp at h
  | ok found =>
    obtain ⟨hg, hmem⟩ := FlatRoutingTable.mem_closest hinner
    have hsorted : ∀ x ∈ sortXor (found ++ candidatesOf self.unContacts.values target g.get),
        x ∈ candidatesOf self.iter target g.get := by
      intro x hx
      rw [iter, candidatesOf_append]
      rcases List.mem_append.1 ((sortXor_perm _).mem_iff.1 hx) with hx | hx
      · exact List.mem_append_right _ (hmem x hx)
      · exact List.mem_append_left _ hx
    refine ⟨hg, ?_⟩
    simp only at h
    split at h
    · cases h
      exact hsorted
    · split at h
      · cases h
        exact fun x hx ↦ hsorted x (List.mem_of_mem_take hx)
      · cases h
        exact hsorted

instance : LawfulRoutingTable (UnlimitedULNRoutingTable k acc) k where
  Tidy := Tidy
  write := write
  contactMut_eq t id f := by
    show t.contactMut id f = match t.contact id with
      | none => .ok (none, t)
      | some c => f c >>= fun p ↦ .ok (some p.1, t.write id p.2)
    simp only [contactMut, contact, write]
    cases t.unContacts.lookup id with
    | some c => rfl
    | none =>
      rw [FlatRoutingTable.contactMut, Option.none_or]
      cases t.inner.contact id with
      | none => rfl
      | some c => cases hf : f c <;> simp [hf]
  contains_eq := contains_eq_isSome
  mem_of_contact := mem_iter_of_contact
  mem_add h := ⟨(add_cases h).root_eq, fun _ hx ↦ (add_cases h).mem_iter hx⟩
  mem_splitBucket h := by
    obtain ⟨inner, hsplit, rfl⟩ := splitBucket_cases h
    refine ⟨hsplit.root_eq, fun x ↦ ?_⟩
    show x ∈ iter _ ↔ x ∈ iter _
    rw [mem_iter, mem_iter, hsplit.mem_iter_iff]
  mem_write t id c := ⟨write_root t id c, fun _ hx ↦ mem_iter_of_mem_write hx⟩
  mem_remove t id := ⟨remove_root t id, fun _ hx ↦ mem_iter_of_mem_remove hx⟩
  mem_replace t id c := ⟨replace_root t id c, fun _ hx ↦ mem_iter_of_mem_replace hx⟩
  mem_iterMut t f := ⟨rfl, iter_iterMut t f⟩
  mem_closest := mem_closest
  contact_eq_some_iff ht := ht.contact_eq_some_iff _ _
  mem_bucket ht h :=
    ⟨mem_iter.2 (.inr ((ht.inner.mem_bucket_iff _ _).1 h).1), ((ht.inner.mem_bucket_iff _ _).1 h).2⟩
  mem_bucketByIndex h hc :=
    mem_iter.2 (.inr ((FlatRoutingTable.mem_iter_iff _ _).2 ⟨_, _, expect_eq_ok.1 h, hc⟩))
  nodup_iter ht := ht.nodup_iter
  bucket_congr h := FlatRoutingTable.bucket_congr h
  add_effect ht h := ⟨ht.added (add_cases h), ht.addEffect (add_cases h)⟩
  splitBucket_effect ht h := by
    obtain ⟨inner, hsplit, rfl⟩ := splitBucket_cases h
    exact ht.split hsplit
  write_effect ht h hfits := ht.write h hfits
  remove_effect ht id := ht.remove id
  iterMut_effect ht hf := ht.iterMut hf

theorem not_mem_iter_new {root : NodeId} {acc_pos : 0 < acc} {acc_lt : acc < 64} (c : Contact) :
    c ∉ RoutingTable.iter (new root acc_pos acc_lt : UnlimitedULNRoutingTable k acc) := by
  show c ∉ (new root acc_pos acc_lt).iter
  simp

theorem healthy_new (root : NodeId) (acc_pos : 0 < acc) (acc_lt : acc < 64) :
    TableOp.Healthy (new root acc_pos acc_lt : UnlimitedULNRoutingTable k acc) where
  tidy := tidy_new root acc_pos acc_lt
  rootFree c hc := absurd hc (not_mem_iter_new c)

/-- A contact may replace another one: they have the same id, and it is not stored in the inner
table. -/
def Replaceable (self : UnlimitedULNRoutingTable k acc) (id : NodeId) (c : Contact) : Prop :=
  c.id = id ∧ self.inner.contains id = false

theorem replace_of_replaceable (h : self.Replaceable id c) :
    (self.replace id c).2 = ⟨self.unContacts.insert id c, self.inner⟩ := by
  have hnone : self.inner.contact id = none := by
    simpa [FlatRoutingTable.contains_eq_isSome] using h.2
  rw [replace]
  cases self.unContacts.lookup id with
  | some entry => rfl
  | none =>
    rcases FlatRoutingTable.replace_cases self.inner id c with ⟨old, hold, -⟩ | ⟨err, heq⟩
    · rw [hnone] at hold
      exact absurd hold (by simp)
    · rw [heq]

theorem Tidy.replace (ht : self.Tidy) (h : self.Replaceable id c) :
    (self.replace id c).2.Tidy := by
  rw [replace_of_replaceable h]
  refine (ht.insert h.1 ?_).1
  simpa [FlatRoutingTable.contains_eq_isSome] using h.2

/-! ## Refused contacts -/

/-- The neighbour map after the inner table has refused a contact. -/
def mapAfterRefusal (m : KeyMap NodeId Contact) (c : Contact) : KeyMap NodeId Contact :=
  match m.lookup c.id with
  | none => m
  | some entry => if c.isUln || entry.isValid then m else m.erase c.id

theorem mapAfterRefusal_idem (m : KeyMap NodeId Contact) (c : Contact) :
    mapAfterRefusal (mapAfterRefusal m c) c = mapAfterRefusal m c := by
  cases hlook : m.lookup c.id with
  | none => simp [mapAfterRefusal, hlook]
  | some entry =>
    by_cases hkept : (c.isUln || entry.isValid) = true
    · simp [mapAfterRefusal, hlook, hkept]
    · simp [mapAfterRefusal, hlook, hkept, AList.lookup_erase]

theorem Added.refused {t t' : UnlimitedULNRoutingTable k acc} {err : AddError}
    (h : Added t c (.error err) t') :
    t' = ⟨mapAfterRefusal t.unContacts c, t.inner⟩ := by
  cases h with
  | alreadyExists hlook hc => simp [mapAfterRefusal, hlook, hc]
  | inner hlook _ hadd =>
    rw [hadd.eq_of_error]
    simp [mapAfterRefusal, hlook]
  | givenUp hlook hc hentry hadd =>
    rw [hadd.eq_of_error]
    simp [mapAfterRefusal, hlook, hc, hentry]

theorem insert_refused {t t' : UnlimitedULNRoutingTable k acc} {err : InsertionError}
    (h : RoutingTable.insert t c = .ok (.error err, t')) :
    t'.unContacts = mapAfterRefusal t.unContacts c ∧ t.inner.SplitsTo t'.inner := by
  -- at the beginning of every round the map is the one at the start or the one at the end
  let I (s : UnlimitedULNRoutingTable k acc) : Prop :=
    (s.unContacts = t.unContacts ∨ s.unContacts = mapAfterRefusal t.unContacts c) ∧
      t.inner.SplitsTo s.inner
  have hadd : ∀ {s s' : UnlimitedULNRoutingTable k acc} {err : AddError}, I s →
      s.add c = .ok (.error err, s') →
      s'.unContacts = mapAfterRefusal t.unContacts c ∧ t.inner.SplitsTo s'.inner := by
    rintro s s' err ⟨hmap, hsplits⟩ hadd
    rw [(add_cases hadd).refused]
    refine ⟨?_, hsplits⟩
    rcases hmap with hmap | hmap
    · rw [hmap]
    · rw [hmap, mapAfterRefusal_idem]
  have hsplit : ∀ {s s' : UnlimitedULNRoutingTable k acc} {r : Except BucketSplitError Nat},
      s.splitBucket c.id = .ok (r, s') →
      s'.unContacts = s.unContacts ∧ s.inner.SplitsTo s'.inner := by
    intro s s' r hsplit
    obtain ⟨inner, hinner, rfl⟩ := splitBucket_cases hsplit
    exact ⟨rfl, hinner.splitsTo⟩
  have hround : ∀ (s r : UnlimitedULNRoutingTable k acc) s', I s →
      RoutingTable.add s c = .ok (.error .notAdded, r) →
      RoutingTable.splitBucket r c.id = .ok s' → I s'.2 := by
    intro s r s' hs hr hs'
    obtain ⟨hmap, hsplits⟩ := hadd hs hr
    obtain ⟨hmap', hsplits'⟩ := hsplit hs'
    exact ⟨.inr (hmap'.trans hmap), hsplits.trans hsplits'⟩
  rcases RoutingTable.insertRounds_induction hround _ t ⟨.inl rfl, .refl _⟩ h with
    ⟨s, -, -, herr⟩ | ⟨s, err', hs, herr, -, -⟩ | ⟨s, s', err', hs, herr, hfail, -⟩
  · simp at herr
  · exact hadd hs herr
  · obtain ⟨hmap, hsplits⟩ := hadd hs herr
    obtain ⟨hmap', hsplits'⟩ := hsplit hfail
    exact ⟨hmap'.trans hmap, hsplits.trans hsplits'⟩

/-! ## Searching -/

/-- **What a search returns is an answer.** -/
theorem closest_answer (ht : self.inner.Tidy) (target : NodeId) (n : Nat) {g : NonZeroU8}
    (hg : g.get ≤ NodeId.BITS) :
    ∃ res omitted, self.closest target n g = .ok (.ok res) ∧
      Answer (candidatesOf self.iter target g.get) n res omitted := by
  obtain ⟨res, omitted, hres, hanswer⟩ := FlatRoutingTable.closest_answer ht target n hg
  have hmerged := (hanswer.merge (candidatesOf self.unContacts.values target g.get)).of_perm
    (show Perm _ (candidatesOf self.iter target g.get) by
      rw [iter, candidatesOf_append]
      exact List.perm_append_comm)
  rw [closest, hres]
  simp only [ok_bind]
  split
  · exact ⟨_, _, rfl, hmerged⟩
  · split
    · exact ⟨_, _, rfl, hmerged.truncate⟩
    · exact ⟨_, _, rfl, hmerged⟩

end UnlimitedULNRoutingTable

end Kira
