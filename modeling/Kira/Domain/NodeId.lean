import Kira.Lib.XorMetric

/-!
# Node ids, shared prefixes and subnets

A `NodeId` is a word of 112 bits.  The program keeps it in the low bits of a `u128`; here it is the
`BitVec 112` itself.

The program never compares ids by their value.  What it compares is the `SharedPrefix` of each with
a common target: the exclusive or, and the number of leading groups of bits on which the id and the
target agree.  `SharedPrefix.cmp` orders by the number of groups first, *longest first*, and breaks
ties by the exclusive or.  Since the one is determined by the other, the two criteria never
disagree, and for a common target the order is that by XOR distance (`sharedPrefix_le_iff`).
-/

set_option autoImplicit false

namespace Kira

open XorMetric

abbrev NodeId.SIZE : Nat := 14

abbrev NodeId.BITS : Nat := 112

abbrev NodeId := BitVec NodeId.BITS

/-- A byte that is not zero: the type of a grouping and of the acceleration. -/
structure NonZeroU8 where
  get : Nat
  pos : 0 < get
  lt : get < 256
  deriving DecidableEq

def NonZeroU8.MIN : NonZeroU8 := ⟨1, by decide, by decide⟩

theorem NonZeroU8.le_bits {self : NonZeroU8} (h : ¬ self.get > NodeId.BITS) :
    self.get ≤ NodeId.BITS :=
  Nat.not_lt.1 h

theorem NonZeroU8.min_le_bits : NonZeroU8.MIN.get ≤ NodeId.BITS := by decide

/-- The grouping handed to a prefix computation is larger than an id. -/
inductive GroupingError where
  | invalid (groupSize : NonZeroU8)
  deriving DecidableEq

/-- How far an id agrees with a target: their exclusive or, and the number of leading groups of
bits they share. -/
structure SharedPrefix where
  xor : NodeId
  length : Nat
  deriving DecidableEq

namespace SharedPrefix

/-- The order in which candidates are tried: longer shared prefixes first, then smaller exclusive
or. -/
def cmp (a b : SharedPrefix) : Ordering :=
  match compare a.length b.length, compare a.xor.toNat b.xor.toNat with
  | .eq, xorOrdering => xorOrdering
  | ordering, _ => ordering.swap

def le (a b : SharedPrefix) : Prop := cmp a b ≠ .gt

def lt (a b : SharedPrefix) : Prop := cmp a b = .lt

instance : DecidableRel le := fun a b ↦ inferInstanceAs (Decidable (cmp a b ≠ .gt))

instance : DecidableRel lt := fun a b ↦ inferInstanceAs (Decidable (cmp a b = .lt))

theorem le_iff (a b : SharedPrefix) :
    le a b ↔ b.length < a.length ∨ (a.length = b.length ∧ a.xor.toNat ≤ b.xor.toNat) := by
  unfold le cmp
  rcases Nat.lt_trichotomy a.length b.length with h | h | h
  · rw [Nat.compare_eq_lt.2 h]
    simp only [Ordering.swap, ne_eq, not_true_eq_false, false_iff]
    omega
  · rw [Nat.compare_eq_eq.2 h]
    simp only [ne_eq, Nat.compare_eq_gt]
    omega
  · rw [Nat.compare_eq_gt.2 h]
    simp [Ordering.swap, h]

theorem lt_iff (a b : SharedPrefix) :
    lt a b ↔ b.length < a.length ∨ (a.length = b.length ∧ a.xor.toNat < b.xor.toNat) := by
  unfold lt cmp
  rcases Nat.lt_trichotomy a.length b.length with h | h | h
  · rw [Nat.compare_eq_lt.2 h]
    simp only [Ordering.swap, reduceCtorEq, false_iff]
    omega
  · rw [Nat.compare_eq_eq.2 h]
    simp only [Nat.compare_eq_lt]
    omega
  · rw [Nat.compare_eq_gt.2 h]
    simp [Ordering.swap, h]

instance : Std.Total le where
  total a b := by
    rw [le_iff, le_iff]
    omega

instance : IsTrans SharedPrefix le where
  trans a b c hab hbc := by
    rw [le_iff] at *
    omega

end SharedPrefix

namespace NodeId

/-- The shared prefix of two ids for a grouping that has been checked. -/
def sharedPrefix (self other : NodeId) (bitsPerGroup : Nat) : SharedPrefix :=
  { xor := self ^^^ other
    length := sharedBits self other / bitsPerGroup }

/-- The shared prefix of two ids, in groups of bits; an error if a group is larger than an id. -/
def sharedPrefixLen (self other : NodeId) (bitsPerGroup : NonZeroU8) :
    Except GroupingError SharedPrefix :=
  if bitsPerGroup.get > BITS then .error (.invalid bitsPerGroup)
  else if self = other then .ok ⟨self ^^^ other, BITS / bitsPerGroup.get⟩
  else .ok ⟨self ^^^ other, leadingZeros (self ^^^ other) / bitsPerGroup.get⟩

/-- The bits from `fromBitIndex` on, counted from the least significant one; nothing if they do not
all lie inside the id. -/
def bits (self : NodeId) (fromBitIndex numBits : Nat) : Option Nat :=
  if fromBitIndex + numBits > BITS then none
  else some (self.toNat / 2 ^ fromBitIndex % 2 ^ numBits)

/-- The leading `prefixLen` bits, with the rest set to zero. -/
def topBits (self : NodeId) (prefixLen : Nat) : NodeId :=
  BitVec.ofNat BITS (self.toNat / 2 ^ (BITS - prefixLen) * 2 ^ (BITS - prefixLen))

/-! ## The order is the XOR distance -/

theorem sharedPrefixLen_of_le (self other : NodeId) {g : NonZeroU8} (hg : g.get ≤ BITS) :
    sharedPrefixLen self other g = .ok (sharedPrefix self other g.get) := by
  rw [sharedPrefixLen, if_neg (Nat.not_lt.2 hg), sharedPrefix]
  split
  · rename_i heq
    rw [heq, sharedBits_self]
  · rfl

theorem sharedPrefixLen_of_lt (self other : NodeId) {g : NonZeroU8} (hg : BITS < g.get) :
    sharedPrefixLen self other g = .error (.invalid g) :=
  if_pos hg

theorem sharedPrefix_comm (x y : NodeId) (g : Nat) : sharedPrefix x y g = sharedPrefix y x g := by
  rw [sharedPrefix, sharedPrefix, sharedBits_comm, BitVec.xor_comm]

/-- **The order on shared prefixes is the order by XOR distance**, whatever the grouping: a longer
shared prefix already means a smaller distance. -/
theorem sharedPrefix_le_iff (t x y : NodeId) (g : Nat) :
    (sharedPrefix t x g).le (sharedPrefix t y g) ↔ dist t x ≤ dist t y := by
  rw [SharedPrefix.le_iff]
  constructor
  · rintro (h | ⟨-, h⟩)
    · exact Nat.le_of_lt (dist_lt_of_sharedBits_lt (Nat.lt_of_div_lt_div h))
    · exact h
  · intro h
    have hlen : sharedBits t y / g ≤ sharedBits t x / g :=
      Nat.div_le_div_right (sharedBits_le_of_dist_le h)
    rcases Nat.lt_or_eq_of_le hlen with hlt | heq
    · exact .inl hlt
    · exact .inr ⟨heq.symm, h⟩

theorem sharedPrefix_lt_iff (t x y : NodeId) (g : Nat) :
    (sharedPrefix t x g).lt (sharedPrefix t y g) ↔ dist t x < dist t y := by
  rw [← Nat.not_le, ← sharedPrefix_le_iff t y x g, SharedPrefix.le_iff, SharedPrefix.lt_iff]
  omega

end NodeId

/-! ## Subnets -/

/-- A node id with a prefix length; length zero stands for the id itself, see `NodeIdSubnet.new`. -/
structure NodeIdSubnet where
  nodeId : NodeId
  prefixLength : Nat
  deriving DecidableEq

namespace NodeIdSubnet

def tryNew (nodeId : NodeId) (prefixLength : Nat) : Option NodeIdSubnet :=
  if prefixLength ≤ NodeId.BITS then some ⟨nodeId, prefixLength⟩ else none

/-- The entry of a single id, kept under the prefix length zero. -/
def new (nodeId : NodeId) : NodeIdSubnet := ⟨nodeId, 0⟩

end NodeIdSubnet

end Kira
