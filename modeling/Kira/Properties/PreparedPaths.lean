import Kira.Domain.PathSimplifier
import Kira.Domain.RoutingTable.FlatLawful

/-!
# Preparing a path

A path is prepared before it is stored: its cycles are removed, and then it is shortened with what
the node knows.  Neither may invent links, change where the path leads, or get lost in its own
indices.

The cycle remover goes over a copy of the path and over the path itself at the same time, with an
iterator and an index; `loop` is this loop as it stands.  It is in step as long as what is left of
the iterator is what is behind the index (`loop_eq`), and then it does what `removeCycles` does.

The links of a path are the pairs of ids that follow each other, `[a, b] <:+: ids`.
-/

set_option autoImplicit false

namespace Kira

open Run RoutingTable

/-! ## Removing cycles -/

namespace InOrderCycleRemover

/-- Removes the ids from `startIndex` on, up to `endIndex`. -/
def removeIn (ids : List NodeId) (startIndex endIndex : Nat) : Run (List NodeId) := do
  assert (startIndex < endIndex) "assertion failed: end_index > start_index"
  assert (endIndex ≤ ids.length) "assertion failed: end_index <= self.ids.len()"
  Path.removeTimes startIndex (endIndex - startIndex) ids

/-- The last position of an id. -/
def lastPosition (id : NodeId) (ids : List NodeId) (start : Nat) : Option Nat :=
  (ids.zipIdx start).reverse.findSome? fun entry ↦ if entry.1 = id then some entry.2 else none

/-- The loop, with what is left of the iterator; the next `skip` ids of it are passed over. -/
def loop : List NodeId → Nat → List NodeId → Nat → Run (List NodeId)
  | [], _, ids, _ => return ids
  | _ :: iter, skip + 1, ids, index => loop iter skip ids index
  | id :: iter, 0, ids, index => do
    if index = ids.length then return ids
    else
      assert (index + 1 ≤ ids.length) "range start index out of range for slice"
      match lastPosition id (ids.drop (index + 1)) 0 with
      | none => loop iter 0 ids (index + 1)
      | some position =>
        let endIndex := index + 1 + position
        let ids ← removeIn ids index endIndex
        loop iter (endIndex - index - 1 + 1) ids (index + 1)

def removeCyclesInPlace (ids : List NodeId) : Run (List NodeId) :=
  if ids.length < 2 then return ids else loop ids 0 ids 0

/-- What comes after the last position is what comes after the last occurrence. -/
theorem lastPosition_spec (id : NodeId) (ids : List NodeId) (start : Nat) :
    match lastPosition id ids start with
    | none => afterLast id ids = none
    | some position => ∃ n < ids.length, position = start + n ∧
        afterLast id ids = some (ids.drop (n + 1)) := by
  induction ids generalizing start with
  | nil => rfl
  | cons first rest ih =>
    have hcons : lastPosition id (first :: rest) start =
        (lastPosition id rest (start + 1)).or (if first = id then some start else none) := by
      simp only [lastPosition, List.zipIdx_cons, List.reverse_cons, List.findSome?_append,
        List.findSome?_singleton]
    have ih := ih (start + 1)
    rw [hcons]
    cases hrest : lastPosition id rest (start + 1) with
    | some position =>
      rw [hrest] at ih
      obtain ⟨n, hn, rfl, hafter⟩ := ih
      refine ⟨n + 1, Nat.succ_lt_succ hn, by rw [Nat.add_assoc, Nat.add_comm 1], ?_⟩
      rw [afterLast, hafter, List.drop_succ_cons]
    | none =>
      rw [hrest] at ih
      rw [Option.none_or]
      split
      · rename_i hsplit
        rw [afterLast, ih]
        split at hsplit
        · cases hsplit
        · exact if_neg ‹_›
      · rename_i position hsplit
        split at hsplit
        · rename_i heq
          cases hsplit
          refine ⟨0, Nat.succ_pos _, rfl, ?_⟩
          rw [afterLast, ih]
          exact if_pos heq
        · cases hsplit

/-- **The loop is in step.**  If the iterator has before it what is behind the index, then the
cycles there are removed and nothing fails. -/
theorem loop_eq {iter kept rest : List NodeId} {skip fuel : Nat} (hstep : iter.drop skip = rest)
    (hfuel : rest.length ≤ fuel) :
    loop iter skip (kept ++ rest) kept.length = .ok (kept ++ removeCyclesFrom fuel rest) := by
  induction iter generalizing skip kept rest fuel with
  | nil =>
    obtain rfl : [] = rest := by rw [← hstep, List.drop_nil]
    cases fuel <;> simp [loop, removeCyclesFrom]
  | cons id iter ih =>
    cases skip with
    | succ skip => exact ih hstep hfuel
    | zero =>
      obtain rfl : id :: iter = rest := hstep
      obtain ⟨fuel, rfl⟩ : ∃ n, fuel = n + 1 := ⟨fuel - 1, by simp at hfuel; omega⟩
      have hfuel : iter.length ≤ fuel := Nat.le_of_succ_le_succ hfuel
      have hlength : (kept ++ id :: iter).length = kept.length + 1 + iter.length := by
        rw [List.length_append, List.length_cons]
        omega
      have hdrop : (kept ++ id :: iter).drop (kept.length + 1) = iter := by
        rw [← List.drop_drop, List.drop_left, List.drop_one, List.tail_cons]
      -- the id is kept, and the loop goes on behind it
      have hnext : ∀ {skip rest}, iter.drop skip = rest →
          loop iter skip (kept ++ id :: rest) (kept.length + 1) =
            .ok (kept ++ id :: removeCyclesFrom fuel rest) := by
        intro skip rest hrest
        have hlen : rest.length ≤ fuel := by
          rw [← hrest, List.length_drop]
          omega
        have hgo : loop iter skip ((kept ++ [id]) ++ rest) (kept ++ [id]).length = _ :=
          ih hrest hlen
        simpa using hgo
      rw [loop, if_neg (by omega), assert_of (by simp), ok_bind, hdrop, removeCyclesFrom]
      have hspec := lastPosition_spec id iter 0
      cases hposition : lastPosition id iter 0 with
      | none =>
        rw [hposition] at hspec
        rw [hspec]
        exact hnext rfl
      | some position =>
        rw [hposition] at hspec
        obtain ⟨n, hn, rfl, hafter⟩ := hspec
        -- the id at the position is the same one
        have hsame : iter.drop n = id :: iter.drop (n + 1) := by
          rw [List.suffix_iff_eq_drop.1 (afterLast_eq_some hafter).1]
          congr 1
          rw [List.length_cons, List.length_drop]
          omega
        have hremoved : removeIn (kept ++ id :: iter) kept.length (kept.length + 1 + (0 + n)) =
            .ok (kept ++ id :: iter.drop (n + 1)) := by
          rw [removeIn, assert_of (by simp; omega), ok_bind,
            assert_of (by rw [hlength]; simp; omega), ok_bind,
            Path.removeTimes_eq (by omega), List.take_left, ← hsame]
          conv_rhs => rw [← hdrop, List.drop_drop]
          congr 3
          omega
        rw [hafter]
        show removeIn _ _ _ >>= _ = _
        rw [hremoved, ok_bind]
        exact hnext (by congr 1; omega)

theorem removeCyclesInPlace_eq (ids : List NodeId) :
    removeCyclesInPlace ids = .ok (removeCycles ids) := by
  unfold removeCyclesInPlace
  split
  · match ids with
    | [] => rfl
    | [id] => rfl
  · show loop ids 0 ([] ++ ids) ([] : List NodeId).length = .ok ([] ++ removeCyclesFrom _ ids)
    exact loop_eq rfl (Nat.le_refl _)

theorem cons_afterLast_suffix (id : NodeId) (ids : List NodeId) :
    id :: (afterLast id ids).getD ids <:+ id :: ids := by
  cases hafter : afterLast id ids with
  | none => exact List.suffix_refl _
  | some rest => exact (afterLast_eq_some hafter).1.trans (List.suffix_cons id ids)

theorem removeCyclesFrom_sublist (fuel : Nat) (ids : List NodeId) :
    (removeCyclesFrom fuel ids).Sublist ids := by
  induction fuel generalizing ids with
  | zero => exact List.nil_sublist ids
  | succ fuel ih =>
    cases ids with
    | nil => exact List.Sublist.refl _
    | cons id rest =>
      exact ((ih _).cons_cons id).trans (cons_afterLast_suffix id rest).sublist

/-- Removing cycles makes no links. -/
theorem infix_of_removeCyclesFrom {fuel : Nat} {ids : List NodeId} {a b : NodeId}
    (hfuel : ids.length ≤ fuel) (h : [a, b] <:+: removeCyclesFrom fuel ids) : [a, b] <:+: ids := by
  induction fuel generalizing ids with
  | zero => cases List.infix_nil.1 h
  | succ fuel ih =>
    cases ids with
    | nil => exact h
    | cons id rest =>
      have hsuffix := cons_afterLast_suffix id rest
      have hlen : ((afterLast id rest).getD rest).length ≤ fuel := by
        have := hsuffix.length_le
        simp only [List.length_cons] at this hfuel
        omega
      obtain ⟨-, -, -, hhead⟩ := removeCyclesFrom_spec fuel _ hlen
      rcases List.infix_cons_iff.1 h with hfirst | hrest
      · -- the first link leads to the head of what the remover goes on with
        obtain ⟨rfl, hb⟩ := List.cons_prefix_cons.1 hfirst
        obtain ⟨tail, htail⟩ := hb
        rw [← htail] at hhead
        obtain ⟨tail', htail'⟩ := List.head?_eq_some_iff.1 hhead.symm
        rw [htail'] at hsuffix
        exact (List.prefix_append [a, b] tail').isInfix.trans hsuffix.isInfix
      · exact (ih hlen hrest).trans ((List.suffix_cons _ _).trans hsuffix).isInfix

theorem removeCyclesFrom_of_nodup {fuel : Nat} {ids : List NodeId} (hfuel : ids.length ≤ fuel)
    (h : ids.Nodup) : removeCyclesFrom fuel ids = ids := by
  induction fuel generalizing ids with
  | zero => rw [List.length_eq_zero_iff.1 (Nat.le_zero.1 hfuel), removeCyclesFrom]
  | succ fuel ih =>
    cases ids with
    | nil => rfl
    | cons id rest =>
      obtain ⟨hnot, hrest⟩ := List.nodup_cons.1 h
      have hnone : afterLast id rest = none := by
        cases hafter : afterLast id rest with
        | none => rfl
        | some tail => exact absurd ((afterLast_eq_some hafter).1.subset List.mem_cons_self) hnot
      rw [removeCyclesFrom, hnone, Option.getD_none, ih (Nat.le_of_succ_le_succ hfuel) hrest]

/-- **Removing the cycles of a path.**  Nothing fails; no id is left twice; the path begins and ends
as before, it has lost ids but not changed their order, and its links are links of the old path.
Doing it again changes nothing. -/
theorem cycles_removed (path : Path) : ∃ ids, removeCyclesInPlace path.ids = .ok ids ∧
    ids.Nodup ∧ ids.head? = path.ids.head? ∧ ids.getLast? = path.ids.getLast? ∧
    ids.Sublist path.ids ∧ (∀ a b, [a, b] <:+: ids → [a, b] <:+: path.ids) ∧
    removeCyclesInPlace ids = .ok ids := by
  have hnodup := removeCycles_nodup path.ids
  refine ⟨_, removeCyclesInPlace_eq path.ids, hnodup, removeCycles_head? _, removeCycles_getLast? _,
    removeCyclesFrom_sublist _ _, fun a b ↦ infix_of_removeCyclesFrom (Nat.le_refl _), ?_⟩
  rw [removeCyclesInPlace_eq, removeCycles, removeCyclesFrom_of_nodup (Nat.le_refl _) hnodup]

end InOrderCycleRemover

/-! ## Shortening -/

namespace ShortestFirstPathSimplifier

variable {T : Type} {k : Nat} [RoutingTable T k] {t : T} {ulnContains : NodeId → Bool}
  {path path' : Path}

/-- The valid contact that is stored for an id has an active path, and the path ends in this id. -/
def PathsLead (t : T) : Prop := ∀ id c, contact t id = some c → c.isValid = true →
  ∃ path, c.path = some path ∧ path.last = id

theorem viaNeighbor_ok (ulnContains : NodeId → Bool) {n : Nat} (hn : n < path.size) :
    ∃ path', viaNeighbor ulnContains path n = .ok path' := by
  induction n with
  | zero => exact ⟨path, rfl⟩
  | succ n ih =>
    rw [viaNeighbor, List.getElem?_eq_getElem hn, expect_some, ok_bind]
    split
    · exact ⟨_, Path.replaceInterval_zero hn _ _⟩
    · exact ih (Nat.lt_of_succ_lt hn)

theorem viaContact_ok (ht : PathsLead t) {n : Nat} (hn : n < path.size) :
    ∃ path', viaContact t path n = .ok path' := by
  induction n with
  | zero => exact ⟨path, rfl⟩
  | succ n ih =>
    have ih := ih (Nat.lt_of_succ_lt hn)
    rw [viaContact, List.getElem?_eq_getElem hn, expect_some, ok_bind]
    cases hc : (contact t path.ids[n + 1]).filter Contact.isValid with
    | none => exact ih
    | some c =>
      obtain ⟨hstored, hvalid⟩ := Option.filter_eq_some_iff.1 hc
      obtain ⟨known, hknown, -⟩ := ht _ c hstored hvalid
      dsimp only
      rw [hknown, expect_some, ok_bind]
      split
      · exact ⟨_, Path.replaceInterval_zero hn _ _⟩
      · exact ih

theorem simplify_ok (ht : PathsLead t) (ulnContains : NodeId → Bool) (path : Path) :
    ∃ path', simplify t ulnContains path = .ok path' := by
  have hlast : ∀ path : Path, path.size - 1 < path.size :=
    fun path ↦ Nat.sub_lt path.size_pos Nat.one_pos
  unfold simplify
  split
  · exact ⟨path, rfl⟩
  · obtain ⟨mid, hmid⟩ := viaNeighbor_ok ulnContains (hlast path)
    rw [hmid, ok_bind]
    exact viaContact_ok ht (hlast mid)

theorem last_eq_of_drop {ids : List NodeId} {i : Nat} (hlt : i < path.ids.length)
    (hids : path'.ids = ids ++ path.ids.drop i) : path'.last = path.last := by
  have hlast : path'.ids.getLast? = path.ids.getLast? := by
    rw [hids, List.getLast?_append, List.getLast?_drop, if_neg (Nat.not_le.2 hlt),
      List.getLast?_eq_some_getLast path.ids_ne, Option.some_or]
  rw [List.getLast?_eq_some_getLast path.ids_ne,
    List.getLast?_eq_some_getLast path'.ids_ne] at hlast
  exact Option.some.inj hlast

theorem Simplified.last_eq (ht : PathsLead t) (h : Simplified t ulnContains path path') :
    path'.last = path.last := by
  cases h with
  | @shortened i hids =>
    have hlt : i < path.size := by
      by_contra hge
      rw [List.drop_eq_nil_of_le (Nat.not_lt.1 hge)] at hids
      exact path'.ids_ne hids
    exact last_eq_of_drop hlt (hids.trans (List.nil_append _).symm)
  | @spliced index via known h =>
    obtain ⟨destId, hdest, hstored⟩ := h.stored
    obtain ⟨known', hknown', hlast⟩ := ht destId via hstored h.valid
    obtain rfl := Option.some.inj (h.path_eq.symm.trans hknown')
    -- the stored path ends where it meets the old one
    have hids : path'.ids = known.ids.dropLast ++ path.ids.drop index := by
      rw [h.ids_eq, ← cons_drop_of_getElem? hdest, ← hlast, Path.last, ← List.append_assoc,
        List.dropLast_append_getLast]
    exact last_eq_of_drop (List.getElem?_eq_some_iff.1 hdest).1 hids

/-- **Shortening a path.**  No index is out of bounds.  The path does not become longer and leads to
the same node.  It begins as before, with a neighbour, or with the first hop of a valid contact, and
its links are links of the old path or of the path of a valid contact. -/
theorem path_shortened (ht : PathsLead t) (ulnContains : NodeId → Bool) (path : Path) :
    ∃ path', simplify t ulnContains path = .ok path' ∧ path'.size ≤ path.size ∧
      path'.last = path.last ∧
      (path'.first = path.first ∨ ulnContains path'.first = true ∨ ∃ id c known,
        contact t id = some c ∧ c.isValid = true ∧ c.path = some known ∧
          path'.first = known.first) ∧
      ∀ a b, [a, b] <:+: path'.ids → [a, b] <:+: path.ids ∨ ∃ id c known,
        contact t id = some c ∧ c.isValid = true ∧ c.path = some known ∧
          [a, b] <:+: known.ids := by
  obtain ⟨path', hpath'⟩ := simplify_ok ht ulnContains path
  refine ⟨path', hpath', ?_⟩
  obtain ⟨-, hsimplified⟩ := simplify_cases hpath'
  have hlast := hsimplified.last_eq ht
  cases hsimplified with
  | @shortened i hids huln =>
    refine ⟨?_, hlast, ?_, fun a b hab ↦ .inl ?_⟩
    · rw [Path.size, hids, List.length_drop]
      exact Nat.sub_le _ _
    · rcases huln with rfl | ⟨destId, hdest, huln⟩
      · exact .inl (Path.first_eq_of_head? (by rw [hids, List.drop_zero, path.head?_ids]))
      · refine .inr (.inl ?_)
        rwa [Path.first_eq_of_head? (by rw [hids, List.head?_drop, hdest])]
    · exact (hids ▸ hab).trans (List.drop_suffix i path.ids).isInfix
  | @spliced index via known h =>
    obtain ⟨destId, hdest, hstored⟩ := h.stored
    obtain ⟨known', hknown', hends⟩ := ht destId via hstored h.valid
    obtain rfl := Option.some.inj (h.path_eq.symm.trans hknown')
    have hshorter : known.ids.length ≤ index := h.shorter
    have hfront : known.ids = known.ids.dropLast ++ [destId] := by
      rw [← hends, Path.last, List.dropLast_append_getLast]
    have hdrop : path.ids.drop index = destId :: path.ids.drop (index + 1) :=
      (cons_drop_of_getElem? hdest).symm
    refine ⟨?_, hlast, .inr (.inr ⟨destId, via, known, hstored, h.valid, h.path_eq, ?_⟩), ?_⟩
    · obtain ⟨hlt, -⟩ := List.getElem?_eq_some_iff.1 hdest
      rw [Path.size, Path.size, h.ids_eq, List.length_append, List.length_drop]
      omega
    · exact Path.first_eq_of_head?
        (by rw [h.ids_eq, List.head?_append_of_ne_nil _ known.ids_ne, known.head?_ids])
    · intro a b hab
      have hold : ∀ {ids}, ids <:+: path.ids.drop index → ids <:+: path.ids :=
        fun h ↦ h.trans (List.drop_suffix index path.ids).isInfix
      rw [h.ids_eq, List.infix_append_iff] at hab
      rcases hab with hab | hab | ⟨front, rear, heq, hfront', hrear⟩
      · exact .inr ⟨destId, via, known, hstored, h.valid, h.path_eq, hab⟩
      · exact .inl (hold (hdrop ▸ hab.trans (List.suffix_cons _ _).isInfix))
      · rcases front with _ | ⟨first, _ | ⟨second, front⟩⟩
        · obtain rfl : [a, b] = rear := heq
          exact .inl (hold (hdrop ▸ hrear.isInfix.trans (List.suffix_cons _ _).isInfix))
        · obtain ⟨rfl, rfl⟩ : a = first ∧ [b] = rear := List.cons.inj heq
          rw [hfront] at hfront'
          obtain rfl : a = destId := by simpa using hfront'
          exact .inl (hold (hdrop ▸ (List.cons_prefix_cons.2 ⟨rfl, hrear⟩).isInfix))
        · obtain ⟨rfl, rfl, hnil⟩ :
              a = first ∧ b = second ∧ [] = front ++ rear := by simpa using heq
          obtain ⟨rfl, -⟩ := List.append_eq_nil_iff.1 hnil.symm
          exact .inr ⟨destId, via, known, hstored, h.valid, h.path_eq, hfront'.isInfix⟩

/-- A path to 6, and a contact on it. -/
def longWay : Path := .ofIds [1, 2, 3, 7, 4, 6] (by decide)

/-- The node 4 is behind the node 5. -/
def shortcut : Contact := .ofIds [5, 4] (by decide) .MIN

/-- The node 0 has the neighbour 2 and knows a path to 4.  The path to 6 is cut at 2, and then what
leads to 4 is exchanged. -/
theorem path_shortened_twice : ∃ (t : FlatRoutingTable 20 1) (path' : Path),
    contact t 4 = some shortcut ∧ simplify t (· = 2) longWay = .ok path' ∧
      path'.ids = [5, 4, 6] ∧ path'.last = longWay.last := by
  have hknows : (TableOp.apply (.new 0 (by decide) (by decide)) (.add shortcut)).Holds
      fun t : FlatRoutingTable 20 1 ↦ iter t = [shortcut] ∧ contact t 4 = some shortcut ∧
        (simplify t (· = 2) longWay).Holds (·.ids = [5, 4, 6]) := by
    decide +kernel
  obtain ⟨t, hadd, hiter, hcontact, hids⟩ := hknows.exists_ok
  have hop : TableOp.WellBehaved FlatRoutingTable.Replaceable
    (.new 0 (by decide) (by decide) : FlatRoutingTable 20 1) (.add shortcut) := trivial
  have ht : LawfulRoutingTable.Tidy t := TableOp.tidy_of_run
    (fun _ _ _ ht h ↦ FlatRoutingTable.Tidy.replace ht h) (FlatRoutingTable.tidy_new 0 _ _)
    (.step .start hop hadd)
  have hlead : PathsLead t := by
    intro id c hc _
    obtain ⟨hmem, rfl⟩ := (LawfulRoutingTable.contact_eq_some_iff ht).1 hc
    rw [hiter, List.mem_singleton] at hmem
    subst hmem
    exact ⟨_, rfl, rfl⟩
  obtain ⟨path', h, -, hlast, -⟩ := path_shortened hlead (· = 2) longWay
  rw [h] at hids
  exact ⟨t, path', hcontact, h, hids, hlast⟩

end ShortestFirstPathSimplifier

end Kira
