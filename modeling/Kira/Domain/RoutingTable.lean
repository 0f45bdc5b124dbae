import Kira.Lib.Iter
import Kira.Domain.Bucket

/-!
# The interface of a routing table

`RoutingTable T k` is the interface every table offers, over buckets of `k` slots.  An operation
that changes the table returns it changed, next to its result; an error is part of the result, so
that a table can change and still report an error.  Only the operations that can panic return a
`Run`.

A mutable access is a function.  `contactMut t id f` looks the contact up, lets `f` work on it, and
puts back what `f` makes of it together with a result of its own; `iterMut` does so with every
contact.  `f` may return any contact at all: a caller that holds the mutable reference can overwrite
the contact, its id included.

On top of the interface are the two operations every table gets for free:

* `insert` adds a contact and splits the last bucket as often as that helps.  The source recurses
  without a bound; here a number of rounds bounds it, and for the tables of this development the
  rounds never run out (`insertRounds_of_measure`).
* `nextHop` picks the contact to forward to.  It asks for the single closest contact and decides
  from what comes back.
-/

set_option autoImplicit false

namespace Kira

open Run

inductive AddError where
  | alreadyExists (id : NodeId)
  | notAdded
  | needsValidation
  deriving DecidableEq

inductive BucketSplitError where
  | unsplittable
  | maxBucketsReached
  deriving DecidableEq

inductive InsertionError where
  | add (err : AddError)
  | bucketSplit (err : BucketSplitError)
  deriving DecidableEq

abbrev PrefixContact := SharedPrefix × Contact

/-- What a routing table offers. -/
class RoutingTable (T : Type) (k : outParam Nat) where
  root : T → NodeId
  /-- Adds a contact to the bucket of its id, without splitting or replacing. -/
  add : T → Contact → Run (Except AddError Unit × T)
  remove : T → NodeId → Option Contact × T
  /-- Puts a contact in the place of another. -/
  replace : T → NodeId → Contact → Except ReplacementError Contact × T
  contact : T → NodeId → Option Contact
  /-- Access to the contact with this id for writing. -/
  contactMut {α : Type} : T → NodeId → (Contact → Run (α × Contact)) → Run (Option α × T)
  contains : T → NodeId → Bool
  /-- Splits the bucket this id belongs into and returns its index. -/
  splitBucket : T → NodeId → Run (Except BucketSplitError Nat × T)
  bucket : T → NodeId → Bucket k
  bucketByIndex : T → Nat → Run (Bucket k)
  getBucketIndex : T → NodeId → Nat
  /-- The number of leading bits that the ids of this bucket share. -/
  getBucketPrefixLength : T → Nat → Nat
  /-- At least `n` contacts close to a target, closest first. -/
  closest : T → NodeId → Nat → NonZeroU8 → Run (Except GroupingError (List PrefixContact))
  iter : T → List Contact
  /-- Access to all contacts for writing. -/
  iterMut : T → (Contact → Contact) → T

def sorterXor (a b : PrefixContact) : Prop := a.1.le b.1

instance : DecidableRel sorterXor := fun a b ↦ inferInstanceAs (Decidable (a.1.le b.1))

instance : Std.Total sorterXor where
  total a b := Std.Total.total (r := SharedPrefix.le) a.1 b.1

instance : IsTrans PrefixContact sorterXor where
  trans _ _ _ hab hbc := IsTrans.trans (r := SharedPrefix.le) _ _ _ hab hbc

def sortXor (l : List PrefixContact) : List PrefixContact := l.insertionSort sorterXor

theorem sortXor_perm (l : List PrefixContact) : (sortXor l).Perm l := List.perm_insertionSort _ l

theorem sortXor_pairwise (l : List PrefixContact) : (sortXor l).Pairwise sorterXor :=
  List.pairwise_insertionSort _ l

theorem sorterXor_length {a b : PrefixContact} (h : sorterXor a b) : b.1.length ≤ a.1.length := by
  have := (SharedPrefix.le_iff a.1 b.1).1 h
  omega

/-! ## What a query for the closest contacts promises

A query selects from candidates.  `Answer` says what it returns by naming what it leaves out.
-/

/-- All valid contacts of a list with their shared prefix to a target. -/
def candidatesOf (stored : List Contact) (target : NodeId) (g : Nat) : List PrefixContact :=
  (stored.filter Contact.isValid).map fun c ↦ (target.sharedPrefix c.id g, c)

variable {stored : List Contact}

theorem mem_candidatesOf {target : NodeId} {g : Nat} {a : PrefixContact} :
    a ∈ candidatesOf stored target g ↔
      a.2 ∈ stored ∧ a.2.isValid = true ∧ a.1 = target.sharedPrefix a.2.id g := by
  constructor
  · intro h
    obtain ⟨c, hc, rfl⟩ := List.mem_map.1 h
    exact ⟨(List.mem_filter.1 hc).1, (List.mem_filter.1 hc).2, rfl⟩
  · rintro ⟨hmem, hvalid, hshared⟩
    exact List.mem_map.2 ⟨a.2, List.mem_filter.2 ⟨hmem, hvalid⟩, Prod.ext hshared.symm rfl⟩

theorem mk_mem_candidatesOf {c : Contact} (hc : c ∈ stored)
    (hvalid : c.isValid = true) (target : NodeId) (g : Nat) :
    (target.sharedPrefix c.id g, c) ∈ candidatesOf stored target g :=
  mem_candidatesOf.2 ⟨hc, hvalid, rfl⟩

/-- `res` answers a query for `n` of the candidates and leaves `omitted` out. -/
structure Answer (candidates : List PrefixContact) (n : Nat) (res omitted : List PrefixContact) :
    Prop where
  /-- Every candidate is returned or left out, once. -/
  perm : (res ++ omitted).Perm candidates
  /-- The answer is sorted, closest first. -/
  sorted : res.Pairwise sorterXor
  /-- Nothing is left out of an answer that is too short. -/
  enough : omitted ≠ [] → n ≤ res.length
  /-- What is left out shares no longer prefix than any of the first `n`. -/
  shorter : ∀ x ∈ res.take n, ∀ y ∈ omitted, y.1.length ≤ x.1.length

namespace Answer

variable {candidates more res omitted : List PrefixContact} {n : Nat}

theorem of_perm {candidates' : List PrefixContact} (h : Answer candidates n res omitted)
    (hperm : candidates.Perm candidates') : Answer candidates' n res omitted :=
  ⟨h.perm.trans hperm, h.sorted, h.enough, h.shorter⟩

/-- Cutting a sorted answer at `n` leaves an answer. -/
theorem truncate (h : Answer candidates n res omitted) :
    Answer candidates n (res.take n) (res.drop n ++ omitted) where
  perm := by rw [← List.append_assoc, List.take_append_drop]; exact h.perm
  sorted := h.sorted.sublist (List.take_sublist n res)
  enough := by
    intro hne
    rw [List.length_take]
    by_cases hn : n ≤ res.length
    · omega
    · rw [List.drop_eq_nil_of_le (by omega), List.nil_append] at hne
      exact absurd (h.enough hne) hn
  shorter := by
    intro x hx y hy
    rw [List.take_take, Nat.min_self] at hx
    rcases List.mem_append.1 hy with hy | hy
    · have hsort := h.sorted
      rw [← List.take_append_drop n res, List.pairwise_append] at hsort
      exact sorterXor_length (hsort.2.2 x hx y hy)
    · exact h.shorter x hx y hy

/-- Sorting further candidates into an answer leaves an answer: the first `n` only get closer. -/
theorem merge (h : Answer candidates n res omitted) (more : List PrefixContact) :
    Answer (candidates ++ more) n (sortXor (res ++ more)) omitted where
  perm := by
    refine ((sortXor_perm _).append_right _).trans ?_
    rw [List.append_assoc]
    refine (List.Perm.append_left res List.perm_append_comm).trans ?_
    rw [← List.append_assoc]
    exact h.perm.append_right more
  sorted := sortXor_pairwise _
  enough := by
    intro hne
    have hn := h.enough hne
    rw [(sortXor_perm _).length_eq, List.length_append]
    omega
  shorter := by
    intro x hx y hy
    -- at least `n` of the sorted candidates share as much with the target as `y`
    have hcount : n ≤ (sortXor (res ++ more)).countP fun z ↦ decide (y.1.length ≤ z.1.length) := by
      have hn := h.enough (List.ne_nil_of_mem hy)
      rw [(sortXor_perm _).countP_eq, List.countP_append]
      refine Nat.le_trans ?_ (Nat.le_add_right _ _)
      rw [← List.take_append_drop n res, List.countP_append, List.countP_eq_length.2]
      · rw [List.length_take]
        omega
      · intro z hz
        exact decide_eq_true (h.shorter z hz y hy)
    have hdown : ∀ a b : PrefixContact, sorterXor a b → decide (y.1.length ≤ b.1.length) = true →
        decide (y.1.length ≤ a.1.length) = true := by
      intro a b hab hb
      exact decide_eq_true (Nat.le_trans (of_decide_eq_true hb) (sorterXor_length hab))
    exact of_decide_eq_true
      (Iter.forall_mem_take_of_le_countP hdown (sortXor_pairwise _) hcount x hx)

end Answer

/-- What the answer to a query for `n` contacts close to a target owes to its caller. -/
structure ClosestContacts (stored : List Contact) (target : NodeId) (n g : Nat)
    (res : List PrefixContact) : Prop where
  /-- Only valid contacts of the table are returned, with their shared prefix to the target. -/
  valid : ∀ x ∈ res, x.2 ∈ stored ∧ x.2.isValid = true ∧ x.1 = target.sharedPrefix x.2.id g
  /-- No contact is returned twice. -/
  nodup : (res.map fun x ↦ x.2.id).Nodup
  /-- They are sorted, closest first. -/
  sorted : res.Pairwise sorterXor
  /-- There are `n` of them unless there are fewer valid contacts. -/
  enough : min n (stored.filter Contact.isValid).length ≤ res.length
  /-- What is left out shares no longer prefix than any of the first `n`. -/
  shorter : ∀ c ∈ stored, c.isValid = true → c ∉ res.map Prod.snd →
    ∀ x ∈ res.take n, (target.sharedPrefix c.id g).length ≤ x.1.length

/-- An answer from the valid contacts of a table that stores every id once. -/
theorem Answer.closestContacts {target : NodeId} {n g : Nat}
    {res omitted : List PrefixContact} (h : Answer (candidatesOf stored target g) n res omitted)
    (hnodup : (stored.map Contact.id).Nodup) : ClosestContacts stored target n g res where
  valid x hx := mem_candidatesOf.1 (h.perm.mem_iff.1 (List.mem_append_left _ hx))
  nodup := by
    have hids : ((candidatesOf stored target g).map fun x ↦ x.2.id).Nodup := by
      rw [candidatesOf, List.map_map]
      exact hnodup.sublist (List.filter_sublist.map _)
    have hperm := h.perm.map fun x ↦ x.2.id
    rw [List.map_append] at hperm
    exact (List.nodup_append.1 (hperm.nodup_iff.2 hids)).1
  sorted := h.sorted
  enough := by
    have hlen := h.perm.length_eq
    rw [List.length_append, candidatesOf, List.length_map] at hlen
    cases homitted : omitted with
    | nil =>
      rw [homitted, List.length_nil] at hlen
      omega
    | cons y ys => exact Nat.le_trans (Nat.min_le_left _ _) (h.enough (by simp [homitted]))
  shorter := by
    intro c hc hvalid hout x hx
    have hmem : (target.sharedPrefix c.id g, c) ∈ candidatesOf stored target g :=
      mem_candidatesOf.2 ⟨hc, hvalid, rfl⟩
    rcases List.mem_append.1 (h.perm.mem_iff.2 hmem) with hin | hin
    · exact absurd (List.mem_map.2 ⟨_, hin, rfl⟩) hout
    · exact h.shorter x hx _ hin

namespace RoutingTable

variable {T : Type} {k : Nat} [RoutingTable T k]

/-! ## Inserting -/

/-- Adds a contact, splitting the bucket it belongs into while that is full and can be split; at
most so many rounds. -/
def insertRounds : Nat → T → Contact → Run (Except InsertionError Unit × T)
  | 0, _, _ => .panic "out of rounds"
  | rounds + 1, self, contact => do
    match ← add self contact with
    | (.ok (), self) => return (.ok (), self)
    | (.error .notAdded, self) =>
      match ← splitBucket self contact.id with
      | (.ok _, self) => insertRounds rounds self contact
      | (.error err, self) => return (.error (.bucketSplit err), self)
    | (.error err, self) => return (.error (.add err), self)

/-- Adds a contact, splitting buckets until that succeeds or splitting fails. -/
def insert (self : T) (contact : Contact) : Run (Except InsertionError Unit × T) :=
  insertRounds (NodeId.BITS + 1) self contact

/-- **The rounds of an insertion suffice** as soon as some measure of the table bounds the splits
that are still possible: with more rounds than that, further ones change nothing. -/
theorem insertRounds_of_measure (splits : T → Nat)
    (hadd : ∀ (t : T) c r t', add t c = .ok (r, t') → splits t' = splits t)
    (hsplit : ∀ (t : T) id i t', splitBucket t id = .ok (.ok i, t') → splits t' < splits t)
    (rounds : Nat) (t : T) (c : Contact) (h : splits t < rounds) :
    insertRounds (rounds + 1) t c = insertRounds rounds t c := by
  induction rounds generalizing t with
  | zero => omega
  | succ rounds ih =>
    rw [insertRounds, insertRounds]
    cases ha : add t c with
    | panic msg => rfl
    | ok p =>
      obtain ⟨r, t₁⟩ := p
      have h₁ := hadd t c r t₁ ha
      match r with
      | .ok () => rfl
      | .error .needsValidation => rfl
      | .error (.alreadyExists id) => rfl
      | .error .notAdded =>
        cases hs : splitBucket t₁ c.id with
        | panic msg => simp [hs]
        | ok q =>
          obtain ⟨r₂, t₂⟩ := q
          cases r₂ with
          | error err => simp [hs]
          | ok i =>
            have h₂ := hsplit t₁ c.id i t₂ hs
            simpa [hs] using ih t₂ (by omega)

/-- What an insertion returns is the result of adding the contact to a table that splits alone have
led to, so whatever splits preserve holds of that table. -/
theorem insertRounds_induction {P : T → Prop} {c : Contact}
    (hsplit : ∀ t r t', P t → add t c = .ok (.error .notAdded, r) → splitBucket r c.id = .ok t' →
      P t'.2)
    (rounds : Nat) (t : T) {r : Except InsertionError Unit} {t' : T} (hP : P t)
    (h : insertRounds rounds t c = .ok (r, t')) :
    (∃ t₁, P t₁ ∧ add t₁ c = .ok (.ok (), t') ∧ r = .ok ()) ∨
    (∃ t₁ err, P t₁ ∧ add t₁ c = .ok (.error err, t') ∧ err ≠ .notAdded ∧
      r = .error (.add err)) ∨
    (∃ t₁ t₂ err, P t₁ ∧ add t₁ c = .ok (.error .notAdded, t₂) ∧
      splitBucket t₂ c.id = .ok (.error err, t') ∧ r = .error (.bucketSplit err)) := by
  induction rounds generalizing t with
  | zero => simp [insertRounds] at h
  | succ rounds ih =>
    rw [insertRounds] at h
    obtain ⟨⟨ra, t₁⟩, ha, h⟩ := of_bind h
    match ra with
    | .ok () =>
      cases h
      exact .inl ⟨t, hP, ha, rfl⟩
    | .error .needsValidation =>
      cases h
      exact .inr (.inl ⟨t, _, hP, ha, by simp, rfl⟩)
    | .error (.alreadyExists id) =>
      cases h
      exact .inr (.inl ⟨t, _, hP, ha, by simp, rfl⟩)
    | .error .notAdded =>
      obtain ⟨⟨rs, t₂⟩, hs, h⟩ := of_bind h
      cases rs with
      | error err =>
        cases h
        exact .inr (.inr ⟨t, t₁, err, hP, ha, hs, rfl⟩)
      | ok i => exact ih t₂ (hsplit t t₁ _ hP ha hs) h

/-! ## Choosing the next hop -/

/-- What both comparisons of candidates assert in a debug build. -/
def assertSameLength (debugAssertions : Bool) (a b : PrefixContact) : Run Unit :=
  assert (!debugAssertions || a.1.length == b.1.length)
    "Select contacts with most prefix progress first"

/-- Among contacts with equally long prefixes, the smaller exclusive or. -/
def strictXorMetric (debugAssertions : Bool) (a b : PrefixContact) : Run Ordering := do
  assertSameLength debugAssertions a b
  return compare a.1.xor.toNat b.1.xor.toNat

/-- Among contacts with equally long prefixes, the shorter path, then the smaller exclusive or. -/
def proximityNeighborSelection (debugAssertions : Bool) (a b : PrefixContact) : Run Ordering := do
  assertSameLength debugAssertions a b
  let pathA ← unwrap a.2.path
  let pathB ← unwrap b.2.path
  match compare pathA.size pathB.size with
  | .eq => return compare a.1.xor.toNat b.1.xor.toNat
  | ord => return ord

/-- The assertion of a debug build: if the nearest contact lies in the last bucket, no other
candidate has an equally long prefix.  The two buckets are compared by their contents. -/
def nextHopAssertion (debugAssertions : Bool) (self : T) (nearestPrefix : SharedPrefix)
    (nearest : Contact) (closest : List PrefixContact) : Run Unit :=
  if debugAssertions && (bucket self (root self)).eq (bucket self nearest.id) then
    match closest[1]? with
    | some (sp, _) => assert (sp.length < nearestPrefix.length)
        ("No alternative contacts with equal shared prefix length in last bucket; " ++
          "strictly select by XOR-metric")
    | none => return ()
  else return ()

/-- The next overlay hop towards a target, or none if this node is the closest. -/
def nextHop (debugAssertions : Bool) (self : T) (target : NodeId)
    (sharedPrefixGrouping : NonZeroU8) : Run (Except GroupingError (Option Contact)) := do
  match ← closest self target 1 sharedPrefixGrouping with
  | .error err => return .error err
  | .ok [] => return .ok none
  | .ok ((nearestPrefix, nearest) :: rest) =>
    let candidates := ((nearestPrefix, nearest) :: rest).takeWhile
      fun candidate ↦ candidate.1.length == nearestPrefix.length
    match (root self).sharedPrefixLen target sharedPrefixGrouping with
    | .error err => return .error err
    | .ok rootPrefix =>
      if rootPrefix.length > nearestPrefix.length then
        return .ok none
      -- no prefix progress: strictly by the XOR metric
      else if nearestPrefix.length = rootPrefix.length then
        if rootPrefix.xor.toNat < nearestPrefix.xor.toNat then
          return .ok none
        else
          let nextHop ← Iter.minByM (strictXorMetric debugAssertions) candidates
          return .ok (nextHop.map Prod.snd)
      else
        nextHopAssertion debugAssertions self nearestPrefix nearest
          ((nearestPrefix, nearest) :: rest)
        -- several contacts make the same progress: the one with the shortest path
        let nextHop ← Iter.minByM (proximityNeighborSelection debugAssertions) candidates
        return .ok (nextHop.map Prod.snd)

end RoutingTable

end Kira
