import Kira.Domain.RoutingTable

/-!
# The flat routing table

The buckets of the table are one array.  With acceleration `acc`, an id is read in digits of `acc`
bits, and the buckets come in levels of `2 ^ acc - 1`: level `l` is for the ids that agree with the
root on the first `l` digits and differ in the next one, one bucket for each value the exclusive or
of the two digits can have, the largest first.  One more bucket at the end takes everything that
agrees with the root on all the levels there are.  Splitting it appends a level and distributes its
contacts.

The structure carries what every table built by the program satisfies: the number of buckets is that
of some number of levels and one more, and there are no more levels than digits.  It does *not*
carry that a contact lies in the bucket of its id, or that ids do not repeat.  The program does not
guarantee either, see `Kira.Domain.RoutingTable.FlatInvariant`.

The constructor of the source accepts every acceleration from 1 to 112.  From 64 on, the number of
buckets of a level overflows a machine word: looking up an id that differs from the root in the
first digit panics, and so does every split (`checkedBucketIndex`).  The table here has an
acceleration below that.
-/

set_option autoImplicit false

namespace Kira

open Run XorMetric

/-- A random number below a bound, which must not be zero; the draw is arbitrary. -/
def randomRange (draw : Nat → Nat) (bound : Nat) : Run Nat := do
  assert (bound != 0) "cannot sample empty range"
  return draw bound % bound

def levelWidth (acc : Nat) : Nat := 2 ^ acc - 1

/-- The index of the first bucket on the level of the bucket at `index`. -/
def firstBucketOnLevel (acc index : Nat) : Nat := index - index % levelWidth acc

def maxBuckets (acc : Nat) : Nat := NodeId.BITS / acc * levelWidth acc

/-- A routing table of buckets of `k` slots, with acceleration `acc`. -/
structure FlatRoutingTable (k acc : Nat) where
  /-- The buckets, level by level, the bucket of the root last. -/
  buckets : List (Bucket k)
  root : NodeId
  /-- An acceleration of zero is refused. -/
  acc_pos : 0 < acc
  /-- The number of buckets of a level fits a machine word. -/
  acc_lt : acc < 64
  /-- The buckets are a number of levels and one more. -/
  length_buckets : ∃ levels, levels ≤ NodeId.BITS / acc ∧
    buckets.length = levels * levelWidth acc + 1

theorem one_lt_64 : 1 < 64 := by decide

namespace FlatRoutingTable

variable {k acc : Nat}

def new (root : NodeId) (acc_pos : 0 < acc) (acc_lt : acc < 64) : FlatRoutingTable k acc :=
  { buckets := [.new], root := root, acc_pos := acc_pos, acc_lt := acc_lt
    length_buckets := ⟨0, Nat.zero_le _, by simp⟩ }

def numBuckets (self : FlatRoutingTable k acc) : Nat := self.buckets.length

def iter (self : FlatRoutingTable k acc) : List Contact := self.buckets.flatMap Bucket.contacts

def len (self : FlatRoutingTable k acc) : Nat := self.iter.length

def isEmpty (self : FlatRoutingTable k acc) : Bool :=
  self.buckets.length == 1 && self.buckets.head?.all Bucket.isEmpty

/-- The id of a contact that is drawn at random. -/
def randomId (self : FlatRoutingTable k acc) (draw : Nat → Nat) : Run (Option NodeId) := do
  let randomContact ← randomRange draw self.len
  return self.iter[randomContact]?.map Contact.id

theorem numBuckets_pos (self : FlatRoutingTable k acc) : 0 < self.numBuckets := by
  obtain ⟨levels, -, h⟩ := self.length_buckets
  rw [numBuckets, h]
  omega

/-- The index of the bucket an id belongs into.

The source takes the exclusive or `delta` of the id with the root and its first non-zero digit.
Where there is none left among the whole digits the id is the root, or agrees with it on all of
them.  It asserts that the digit is not zero and that the index does not exceed the maximal number
of buckets; `digit_pos` and `index_le_maxBuckets` say that these assertions hold. -/
def getBucketIndex (self : FlatRoutingTable k acc) (of : NodeId) : Nat :=
  let delta := (self.root.sharedPrefix of acc).xor
  let prefixLen := (self.root.sharedPrefix of acc).length
  if NodeId.BITS < (prefixLen + 1) * acc then self.numBuckets - 1
  else
    let bitIndex := NodeId.BITS - (prefixLen + 1) * acc
    let digit := delta.toNat / 2 ^ bitIndex % 2 ^ acc
    let index := prefixLen * levelWidth acc + (levelWidth acc - digit)
    min index (self.numBuckets - 1)

theorem getBucketIndex_lt (self : FlatRoutingTable k acc) (of : NodeId) :
    self.getBucketIndex of < self.buckets.length := by
  have h := self.numBuckets_pos
  simp only [getBucketIndex, numBuckets] at h ⊢
  split
  · omega
  · omega

def bucket (self : FlatRoutingTable k acc) (of : NodeId) : Bucket k :=
  self.buckets.get ⟨self.getBucketIndex of, self.getBucketIndex_lt of⟩

def setBucket (self : FlatRoutingTable k acc) (index : Nat) (bucket : Bucket k) :
    FlatRoutingTable k acc :=
  { self with
    buckets := self.buckets.set index bucket
    length_buckets := by
      rw [List.length_set]
      exact self.length_buckets }

def add (self : FlatRoutingTable k acc) (contact : Contact) :
    Run (Except AddError Unit × FlatRoutingTable k acc) := do
  match ← (self.bucket contact.id).insert contact with
  | .error .full => return (.error .notAdded, self)
  | .error (.duplicateId id) => return (.error (.alreadyExists id), self)
  | .error .needsValidation => return (.error .needsValidation, self)
  | .ok bucket => return (.ok (), self.setBucket (self.getBucketIndex contact.id) bucket)

def remove (self : FlatRoutingTable k acc) (id : NodeId) :
    Option Contact × FlatRoutingTable k acc :=
  let (removed, bucket) := (self.bucket id).remove id
  (removed, self.setBucket (self.getBucketIndex id) bucket)

/-- Puts a contact in the place of another, in the bucket of the *replaced* id. -/
def replace (self : FlatRoutingTable k acc) (id : NodeId) (withContact : Contact) :
    Except ReplacementError Contact × FlatRoutingTable k acc :=
  match (self.bucket id).replace id withContact with
  | .error err => (.error err, self)
  | .ok (replaced, bucket) => (.ok replaced, self.setBucket (self.getBucketIndex id) bucket)

def contact (self : FlatRoutingTable k acc) (id : NodeId) : Option Contact :=
  (self.bucket id).get id

def contains (self : FlatRoutingTable k acc) (id : NodeId) : Bool := (self.bucket id).contains id

/-- Overwrites a contact where it is, in the bucket of its *old* id. -/
def write (self : FlatRoutingTable k acc) (id : NodeId) (contact : Contact) :
    FlatRoutingTable k acc :=
  self.setBucket (self.getBucketIndex id) ((self.bucket id).write id (some contact))

def contactMut {α : Type} (self : FlatRoutingTable k acc) (id : NodeId)
    (f : Contact → Run (α × Contact)) : Run (Option α × FlatRoutingTable k acc) :=
  match self.contact id with
  | none => return (none, self)
  | some contact => do
    let (a, contact) ← f contact
    return (some a, self.write id contact)

def iterMut (self : FlatRoutingTable k acc) (f : Contact → Contact) : FlatRoutingTable k acc :=
  { self with
    buckets := self.buckets.map fun bucket ↦
      ⟨bucket.slots.map (Option.map f), by rw [List.length_map, bucket.length_slots]⟩
    length_buckets := by
      rw [List.length_map]
      exact self.length_buckets }

/-! ## Splitting -/

/-- Adds contacts one after the other.  None may be refused. -/
def readd : FlatRoutingTable k acc → List Contact → Run (FlatRoutingTable k acc)
  | self, [] => return self
  | self, contact :: contacts => do
    match ← self.add contact with
    | (.ok (), self) => readd self contacts
    | (.error _, _) => .panic "Error inserting after splitting last bucket"

/-- The table in which the last bucket has given way to an empty level and an empty last bucket. -/
def withNewLevel (self : FlatRoutingTable k acc) (h : self.buckets.length < maxBuckets acc) :
    FlatRoutingTable k acc :=
  { self with
    buckets := self.buckets.dropLast ++ List.replicate (levelWidth acc) .new ++ [.new]
    length_buckets := by
      obtain ⟨levels, -, hlen⟩ := self.length_buckets
      refine ⟨levels + 1, ?_, ?_⟩
      · have hlt : levels * levelWidth acc < NodeId.BITS / acc * levelWidth acc := by
          rw [hlen] at h
          exact Nat.lt_of_succ_lt h
        exact Nat.lt_of_mul_lt_mul_right hlt
      · simp only [List.length_append, List.length_dropLast, List.length_replicate,
          List.length_singleton, hlen, Nat.succ_mul]
        omega }

/-- Splits the bucket of an id, if it is the last one, and returns its index. -/
def splitBucket (self : FlatRoutingTable k acc) (id : NodeId) :
    Run (Except BucketSplitError Nat × FlatRoutingTable k acc) :=
  if h : self.buckets.length < maxBuckets acc then
    if self.getBucketIndex id ≠ self.buckets.length - 1 then return (.error .unsplittable, self)
    else do
      let self' ← (self.withNewLevel h).readd (self.bucket id).contacts
      return (.ok (self.getBucketIndex id), self')
  else return (.error .maxBucketsReached, self)

/-! ## Searching -/

/-- What a search for the contacts close to a target works with. -/
structure Search where
  target : NodeId
  sharedPrefixGrouping : Nat
  targetBucketIndex : Nat
  targetLevelStartIndex : Nat
  targetLevel : Nat

def Search.validOf (s : Search) (bucket : Bucket k) : List PrefixContact :=
  bucket.iterValidWithPrefix s.target s.sharedPrefixGrouping

def search (self : FlatRoutingTable k acc) (target : NodeId) (sharedPrefixGrouping : Nat) :
    Search :=
  let targetBucketIndex := self.getBucketIndex target
  let targetLevelStartIndex := firstBucketOnLevel acc targetBucketIndex
  { target := target
    sharedPrefixGrouping := sharedPrefixGrouping
    targetBucketIndex := targetBucketIndex
    targetLevelStartIndex := targetLevelStartIndex
    targetLevel := targetLevelStartIndex / levelWidth acc }

/-- The valid contacts of consecutive buckets of a level, from `offset` on.  The source asserts that
it does not visit the bucket of the target a second time. -/
def levelContent (acc : Nat) (s : Search) (currentLevel : Nat) :
    Nat → List (Bucket k) → Run (List PrefixContact)
  | _, [] => return []
  | offset, bucket :: buckets => do
    assert (currentLevel * levelWidth acc + offset != s.targetBucketIndex)
      "No duplicate collection of target's bucket"
    let rest ← levelContent acc s currentLevel (offset + 1) buckets
    return s.validOf bucket ++ rest

/-- The contents of a level below the target's.  The source would add the last bucket to the level
before it, under a condition that no table meets. -/
def deeperGroup (self : FlatRoutingTable k acc) (s : Search) (buckets : List (Bucket k))
    (relativeDepth : Nat) : Run (List PrefixContact) := do
  let lastBucketIndex := self.buckets.length - 1
  let currentLevel := s.targetLevel + relativeDepth + 1
  let content ← levelContent acc s currentLevel 0 buckets
  if currentLevel * levelWidth acc + 1 = lastBucketIndex ∧
      lastBucketIndex ≠ s.targetBucketIndex ∧ acc > 1 then
    let last ← expect self.buckets[lastBucketIndex]? "index out of bounds"
    return content ++ s.validOf last
  else
    return content

/-- The contents of the levels below the target's, level by level. -/
def deeperGroups (self : FlatRoutingTable k acc) (s : Search) : List (Run (List PrefixContact)) :=
  let deeperBuckets := self.buckets.drop (s.targetLevelStartIndex + levelWidth acc)
  (Iter.chunks (levelWidth acc) deeperBuckets).zipIdx.map fun (buckets, relativeDepth) ↦
    self.deeperGroup s buckets relativeDepth

/-- The offsets of the buckets of a level, in the order of their distance to the target.  Offset
`levelWidth` stands for the way down to the deeper levels. -/
def sortedOffsets (acc targetXorRootAtLevel : Nat) : List (Nat × Nat) :=
  ((List.range (levelWidth acc + 1)).map fun relativeOffset ↦
    (relativeOffset, (levelWidth acc - relativeOffset) ^^^ targetXorRootAtLevel)).insertionSort
      fun a b ↦ a.2 ≤ b.2

/-- The contents of the buckets on the level of the target's bucket and below. -/
def groupsFromLevel (self : FlatRoutingTable k acc) (s : Search) (offsets : List (Nat × Nat)) :
    List (Run (List PrefixContact)) :=
  offsets.flatMap fun (bucketOffset, _) ↦
    if bucketOffset = levelWidth acc then self.deeperGroups s
    else
      [do
        let bucket ← expect self.buckets[s.targetLevelStartIndex + bucketOffset]?
          "index out of bounds"
        return s.validOf bucket]

/-- The contents of the levels above the target's, going up. -/
def groupsAbove (self : FlatRoutingTable k acc) (s : Search) : List (Run (List PrefixContact)) :=
  (Iter.rchunksExact (levelWidth acc) (self.buckets.take s.targetLevelStartIndex)).zipIdx.map
    fun (buckets, relativeLevel) ↦
      levelContent acc s (s.targetLevel - relativeLevel - 1) 0 buckets

/-- The offsets at the target's level, from the digits of the root and of the target there. -/
def offsetsAtLevel (self : FlatRoutingTable k acc) (s : Search) : Run (List (Nat × Nat)) := do
  let bitIndex ← expect
    (if (s.targetLevel + 1) * acc ≤ NodeId.BITS then
      some (NodeId.BITS - (s.targetLevel + 1) * acc) else none)
    "target_level exceeds the maximum possible depth for the NodeId size"
  let rootBitsAtLevel ← expect (self.root.bits bitIndex acc)
    "target_level depth exceeds NodeId bit size"
  let targetBitsAtLevel ← expect (s.target.bits bitIndex acc)
    "target_level depth exceeds NodeId bit size"
  return sortedOffsets acc (rootBitsAtLevel ^^^ targetBitsAtLevel)

/-- At least `n` contacts close to the target, if there are as many, closest first.

The bucket of the target comes first.  If it is the last bucket its contacts are cut down to `n`.
Otherwise the other buckets of its level and the levels below follow in the order of their distance
to the target; and in both cases, at last, the levels above. -/
def closest (self : FlatRoutingTable k acc) (target : NodeId) (n : Nat)
    (sharedPrefixGrouping : NonZeroU8) : Run (Except GroupingError (List PrefixContact)) :=
  match target.sharedPrefixLen self.root sharedPrefixGrouping with
  | .error err => return .error err
  | .ok _ => do
    let s := self.search target sharedPrefixGrouping.get
    assert (s.targetLevelStartIndex % levelWidth acc == 0)
      "The start index of a level must be a multiple of the level width"
    if s.targetBucketIndex = self.buckets.length - 1 then
      let bucket ← expect self.buckets[s.targetBucketIndex]? "index out of bounds"
      let result := (sortXor (s.validOf bucket)).take n
      if n ≤ result.length ∨ self.buckets.length = 1 then
        return .ok result
      else
        let result ← Iter.collect n (self.groupsAbove s) result
        return .ok (sortXor result)
    else
      let offsets ← self.offsetsAtLevel s
      let first ← expect offsets.head? "index out of bounds"
      assert (s.targetLevel * levelWidth acc + first.1 == s.targetBucketIndex)
        "Collect target's bucket first"
      let result ← Iter.collect n (self.groupsFromLevel s offsets ++ self.groupsAbove s) []
      return .ok (sortXor result)

def bucketByIndex (self : FlatRoutingTable k acc) (index : Nat) : Run (Bucket k) :=
  expect self.buckets[index]? "index out of bounds"

/-- The number of leading bits shared by the ids that belong into a bucket. -/
def getBucketPrefixLength (_self : FlatRoutingTable k acc) (bucketIndex : Nat) : Nat :=
  acc + acc * (bucketIndex / levelWidth acc)

instance : RoutingTable (FlatRoutingTable k acc) k where
  root := root
  add := add
  remove := remove
  replace := replace
  contact := contact
  contactMut := contactMut
  contains := contains
  splitBucket := splitBucket
  bucket := bucket
  bucketByIndex := bucketByIndex
  getBucketIndex := getBucketIndex
  getBucketPrefixLength := getBucketPrefixLength
  closest := closest
  iter := iter
  iterMut := iterMut

end FlatRoutingTable

end Kira
