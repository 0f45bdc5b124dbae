import Kira.Domain.RoutingTable.Flat

/-!
# Which ids belong into which bucket

The bucket of an id is computed from the first digit in which the id differs from the root.  This
file turns that computation around.  With `m` the number of whole digits on the levels up to some
level, everything there is to know about the bucket of an id is the number

`top (m * acc) (root ^^^ id)`,

the leading `m` digits of its distance to the root.  An id is on level `l` at offset `off` exactly
when the leading `l + 1` digits of that distance are `levelWidth - off` (`getBucketIndex_eq_iff`),
and in the last bucket exactly when the leading digits of all the levels are zero
(`getBucketIndex_eq_last_iff`).  As exclusive or distributes over leading digits, this is enough to
compare the distances of two buckets to a third id.
-/

set_option autoImplicit false

namespace Kira

open Run XorMetric

theorem levelWidth_pos {acc : Nat} (h : 0 < acc) : 0 < levelWidth acc := by
  have := Nat.pow_le_pow_right (show 0 < 2 by decide) h
  simp only [levelWidth]
  omega

theorem levelWidth_add_one (acc : Nat) : levelWidth acc + 1 = 2 ^ acc := by
  have := Nat.two_pow_pos acc
  simp only [levelWidth]
  omega

@[simp] theorem levelWidth_one : levelWidth 1 = 1 := rfl

namespace FlatRoutingTable

variable {k acc : Nat}

def levels (self : FlatRoutingTable k acc) : Nat := (self.numBuckets - 1) / levelWidth acc

theorem numBuckets_eq (self : FlatRoutingTable k acc) :
    self.numBuckets = self.levels * levelWidth acc + 1 := by
  obtain ⟨levels, -, h⟩ := self.length_buckets
  have hw := levelWidth_pos self.acc_pos
  rw [FlatRoutingTable.levels, numBuckets, h, Nat.add_sub_cancel, Nat.mul_div_cancel _ hw]

theorem levels_eq_of_numBuckets {self : FlatRoutingTable k acc} {n : Nat}
    (h : self.numBuckets = n * levelWidth acc + 1) : self.levels = n := by
  have hw := levelWidth_pos self.acc_pos
  rw [levels, h, Nat.add_sub_cancel, Nat.mul_div_cancel _ hw]

theorem levels_le (self : FlatRoutingTable k acc) : self.levels ≤ NodeId.BITS / acc := by
  obtain ⟨levels, hle, h⟩ := self.length_buckets
  rwa [levels_eq_of_numBuckets h]

variable {l : Nat} {id : NodeId}

theorem levels_mul_le (self : FlatRoutingTable k acc) (h : l ≤ self.levels) :
    l * acc ≤ NodeId.BITS :=
  calc l * acc ≤ NodeId.BITS / acc * acc := Nat.mul_le_mul_right acc (h.trans self.levels_le)
    _ ≤ NodeId.BITS := Nat.div_mul_le_self _ _

/-- The leading `m` digits of the distance of an id to the root. -/
def digits (self : FlatRoutingTable k acc) (m : Nat) (id : NodeId) : Nat :=
  top (m * acc) (self.root ^^^ id)

theorem digits_eq_div (self : FlatRoutingTable k acc) (m : Nat) (id : NodeId) :
    self.digits m id = (self.root ^^^ id).toNat / 2 ^ (NodeId.BITS - m * acc) := by
  rw [digits, top, Nat.shiftRight_eq_div_pow]

theorem digits_eq_zero_iff (self : FlatRoutingTable k acc) {m : Nat} (hm : m * acc ≤ NodeId.BITS)
    (id : NodeId) : self.digits m id = 0 ↔ m ≤ sharedBits self.root id / acc := by
  rw [digits, top_eq_zero_iff hm, Nat.le_div_iff_mul_le self.acc_pos, sharedBits]

theorem digits_succ (self : FlatRoutingTable k acc) {m : Nat} (hm : (m + 1) * acc ≤ NodeId.BITS)
    (id : NodeId) :
    self.digits (m + 1) id = 2 ^ acc * self.digits m id +
      digit (m * acc) acc (self.root ^^^ id) := by
  rw [digits, digits, Nat.succ_mul, top_succ_digit (by rwa [← Nat.succ_mul])]

theorem digits_eq_zero_of_le (self : FlatRoutingTable k acc) {m : Nat} (hlm : l ≤ m)
    (hm : m * acc ≤ NodeId.BITS) (h : self.digits m id = 0) :
    self.digits l id = 0 := by
  have hl : l * acc ≤ NodeId.BITS := (Nat.mul_le_mul_right acc hlm).trans hm
  rw [digits_eq_zero_iff self hl]
  exact hlm.trans ((digits_eq_zero_iff self hm id).1 h)

theorem digits_eq_zero_of_succ_lt (self : FlatRoutingTable k acc)
    (hl : (l + 1) * acc ≤ NodeId.BITS) (h : self.digits (l + 1) id < 2 ^ acc) :
    self.digits l id = 0 := by
  have hs := digits_succ self hl id
  by_contra hne
  have : 2 ^ acc * 1 ≤ 2 ^ acc * self.digits l id :=
    Nat.mul_le_mul_left _ (Nat.pos_of_ne_zero hne)
  omega

/-! ## The computation of the index -/

/-- **The digit the index is computed from is not zero**, as the source asserts. -/
theorem digit_pos (self : FlatRoutingTable k acc) (id : NodeId)
    (h : (sharedBits self.root id / acc + 1) * acc ≤ NodeId.BITS) :
    0 < self.digits (sharedBits self.root id / acc + 1) id := by
  apply Nat.pos_of_ne_zero
  rw [ne_eq, digits_eq_zero_iff self h]
  omega

theorem digits_lt (self : FlatRoutingTable k acc) (id : NodeId)
    (h : (sharedBits self.root id / acc + 1) * acc ≤ NodeId.BITS) :
    self.digits (sharedBits self.root id / acc + 1) id < 2 ^ acc := by
  have hl : sharedBits self.root id / acc * acc ≤ NodeId.BITS :=
    (Nat.div_mul_le_self _ _).trans (sharedBits_le _ _)
  rw [digits_succ self h, (digits_eq_zero_iff self hl id).2 (Nat.le_refl _)]
  simpa using digit_lt (sharedBits self.root id / acc * acc) acc (self.root ^^^ id)

theorem getBucketIndex_eq_min (self : FlatRoutingTable k acc) (id : NodeId)
    (h : (sharedBits self.root id / acc + 1) * acc ≤ NodeId.BITS) :
    self.getBucketIndex id =
      min (sharedBits self.root id / acc * levelWidth acc +
        (levelWidth acc - self.digits (sharedBits self.root id / acc + 1) id))
        (self.numBuckets - 1) := by
  have hlt := digits_lt self id h
  have hlen : ¬ NodeId.BITS < ((self.root.sharedPrefix id acc).length + 1) * acc := Nat.not_lt.2 h
  rw [getBucketIndex, if_neg hlen]
  show min (sharedBits self.root id / acc * levelWidth acc + (levelWidth acc -
    (self.root ^^^ id).toNat / 2 ^ (NodeId.BITS - (sharedBits self.root id / acc + 1) * acc) %
      2 ^ acc)) _ = _
  rw [← digits_eq_div, Nat.mod_eq_of_lt hlt]

/-- **The index does not exceed the maximal number of buckets**, as the source asserts. -/
theorem index_le_maxBuckets (self : FlatRoutingTable k acc) (id : NodeId)
    (h : (sharedBits self.root id / acc + 1) * acc ≤ NodeId.BITS) :
    sharedBits self.root id / acc * levelWidth acc +
      (levelWidth acc - self.digits (sharedBits self.root id / acc + 1) id) ≤ maxBuckets acc := by
  have hle : sharedBits self.root id / acc + 1 ≤ NodeId.BITS / acc :=
    (Nat.le_div_iff_mul_le self.acc_pos).2 h
  calc sharedBits self.root id / acc * levelWidth acc +
        (levelWidth acc - self.digits (sharedBits self.root id / acc + 1) id)
      ≤ (sharedBits self.root id / acc + 1) * levelWidth acc := by
        rw [Nat.succ_mul]
        omega
    _ ≤ maxBuckets acc := Nat.mul_le_mul_right _ hle

/-- The number of buckets of a level, computed by shifting a word of 64 bits. -/
def checkedLevelWidth (acc : Nat) : Run Nat := do
  assert (acc < 64) "attempt to shift left with overflow"
  return 2 ^ acc - 1

theorem checkedLevelWidth_eq {acc : Nat} (h : acc < 64) :
    checkedLevelWidth acc = .ok (levelWidth acc) := by
  rw [checkedLevelWidth, assert_of (decide_eq_true h)]
  rfl

/-- The index of the bucket an id belongs into, with everything the source checks on the way.  This
is `FlatRoutingTable.getBucketIndex` for any acceleration that the constructor accepts. -/
def checkedBucketIndex (root : NodeId) (numBuckets acc : Nat) (of : NodeId) : Run Nat := do
  let delta := (root.sharedPrefix of acc).xor
  let prefixLen := (root.sharedPrefix of acc).length
  if NodeId.BITS < (prefixLen + 1) * acc then return numBuckets - 1
  else
    let bitIndex := NodeId.BITS - (prefixLen + 1) * acc
    assert (bitIndex + acc ≤ NodeId.BITS) "bit_index + ACC <= NodeId::BITS"
    -- the cast to a word keeps the low 64 bits
    let digit := delta.toNat / 2 ^ bitIndex % 2 ^ acc % 2 ^ 64
    assert (digit != 0)
      "bit_index is the LSB of the first non-zero digit, so digit must not be zero"
    assert (NodeId.BITS ≤ bitIndex + acc || delta.toNat / 2 ^ (bitIndex + acc) % 2 ^ acc == 0)
      "bit_index + ACC >= NodeId::BITS || delta.bits(bit_index + ACC, ACC) == Ok(0)"
    let width ← checkedLevelWidth acc
    assert (digit ≤ width) "attempt to subtract with overflow"
    let index := prefixLen * width + (width - digit)
    let maxBuckets := NodeId.BITS / acc * width
    assert (index ≤ maxBuckets)
      "assertion failed: index <= Self::max_buckets()"
    return min index (numBuckets - 1)

/-- **No check fails** as long as the width of a level fits a word. -/
theorem checkedBucketIndex_eq (self : FlatRoutingTable k acc) (id : NodeId) :
    checkedBucketIndex self.root self.numBuckets acc id = .ok (self.getBucketIndex id) := by
  unfold checkedBucketIndex
  by_cases hb : (sharedBits self.root id / acc + 1) * acc ≤ NodeId.BITS
  · have hpos := self.digit_pos id hb
    have hlt := self.digits_lt id hb
    have hword := Nat.mod_eq_of_lt (hlt.trans (Nat.pow_lt_pow_right (by decide) self.acc_lt))
    have hwidth : self.digits (sharedBits self.root id / acc + 1) id ≤ levelWidth acc :=
      Nat.le_sub_one_of_lt hlt
    have hindex := self.index_le_maxBuckets id hb
    rw [maxBuckets] at hindex
    -- the digits before this one are those that the id shares with the root
    have hbefore : self.digits (sharedBits self.root id / acc) id = 0 :=
      (self.digits_eq_zero_iff ((Nat.div_mul_le_self _ _).trans (sharedBits_le ..)) id).2
        (Nat.le_refl _)
    have hbit : NodeId.BITS - (sharedBits self.root id / acc + 1) * acc + acc =
        NodeId.BITS - sharedBits self.root id / acc * acc := by
      rw [Nat.succ_mul] at hb ⊢
      omega
    have hlen : ¬ NodeId.BITS < ((self.root.sharedPrefix id acc).length + 1) * acc :=
      Nat.not_lt.2 hb
    rw [getBucketIndex_eq_min self id hb, if_neg hlen]
    simp only [NodeId.sharedPrefix, hbit, ← digits_eq_div, hbefore, Nat.mod_eq_of_lt hlt, hword]
    rw [assert_of (by simp), ok_bind,
      assert_of (by simpa using Nat.ne_of_gt hpos), ok_bind,
      assert_of (by simp), ok_bind, checkedLevelWidth_eq self.acc_lt, ok_bind,
      assert_of (decide_eq_true hwidth), ok_bind, assert_of (decide_eq_true hindex)]
    rfl
  · have hlen : NodeId.BITS < ((self.root.sharedPrefix id acc).length + 1) * acc :=
      Nat.not_le.1 hb
    simp only [hlen, if_true, getBucketIndex]
    rfl

theorem getBucketIndex_of_digits (self : FlatRoutingTable k acc) (hl : l < self.levels)
    (hpos : 0 < self.digits (l + 1) id) (hlt : self.digits (l + 1) id < 2 ^ acc) :
    self.getBucketIndex id = l * levelWidth acc + (levelWidth acc - self.digits (l + 1) id) := by
  have hbits : (l + 1) * acc ≤ NodeId.BITS := self.levels_mul_le hl
  have hzero := self.digits_eq_zero_of_succ_lt hbits hlt
  have hlevel : sharedBits self.root id / acc = l := by
    have h1 := (digits_eq_zero_iff self (self.levels_mul_le (Nat.le_of_lt hl)) id).1 hzero
    have h2 : ¬ l + 1 ≤ sharedBits self.root id / acc := by
      rw [← digits_eq_zero_iff self hbits]
      omega
    omega
  have hw := levelWidth_add_one acc
  rw [getBucketIndex_eq_min self id (by rwa [hlevel]), hlevel, numBuckets_eq]
  have : (l + 1) * levelWidth acc ≤ self.levels * levelWidth acc := Nat.mul_le_mul_right _ hl
  rw [Nat.succ_mul] at this
  omega

theorem getBucketIndex_of_digits_eq_zero (self : FlatRoutingTable k acc)
    (h : self.digits self.levels id = 0) :
    self.getBucketIndex id = self.levels * levelWidth acc := by
  have hle := (digits_eq_zero_iff self (self.levels_mul_le (Nat.le_refl _)) id).1 h
  by_cases hb : (sharedBits self.root id / acc + 1) * acc ≤ NodeId.BITS
  · rw [getBucketIndex_eq_min self id hb, numBuckets_eq, Nat.add_sub_cancel]
    have := Nat.mul_le_mul_right (levelWidth acc) hle
    omega
  · have hlen : NodeId.BITS < ((self.root.sharedPrefix id acc).length + 1) * acc :=
      Nat.not_le.1 hb
    rw [getBucketIndex, if_pos hlen, numBuckets_eq, Nat.add_sub_cancel]

theorem digits_cases (self : FlatRoutingTable k acc) (id : NodeId) :
    self.digits self.levels id = 0 ∨
      ∃ l < self.levels, 0 < self.digits (l + 1) id ∧ self.digits (l + 1) id < 2 ^ acc := by
  by_cases h : self.digits self.levels id = 0
  · exact .inl h
  · rw [digits_eq_zero_iff self (self.levels_mul_le (Nat.le_refl _)), Nat.not_le] at h
    have hb := self.levels_mul_le h
    exact .inr ⟨_, h, digit_pos self id hb, digits_lt self id hb⟩

/-- **The ids of a bucket on a level**, by the leading digits of their distance to the root. -/
theorem getBucketIndex_eq_iff (self : FlatRoutingTable k acc) {off : Nat} (hl : l < self.levels)
    (hoff : off < levelWidth acc) (id : NodeId) :
    self.getBucketIndex id = l * levelWidth acc + off ↔
      self.digits (l + 1) id = levelWidth acc - off := by
  have hw := levelWidth_add_one acc
  constructor
  · intro h
    rcases digits_cases self id with hz | ⟨l', hl', hpos, hlt⟩
    · rw [getBucketIndex_of_digits_eq_zero self hz] at h
      have : (l + 1) * levelWidth acc ≤ self.levels * levelWidth acc := Nat.mul_le_mul_right _ hl
      rw [Nat.succ_mul] at this
      omega
    · rw [getBucketIndex_of_digits self hl' hpos hlt] at h
      obtain rfl : l' = l := by
        have h1 := congrArg (· / levelWidth acc) h
        have hwpos := levelWidth_pos self.acc_pos
        simpa [Nat.mul_add_div, Nat.mul_comm _ (levelWidth acc), hwpos, Nat.div_eq_of_lt hoff,
          Nat.div_eq_of_lt
            (show levelWidth acc - self.digits (l' + 1) id < levelWidth acc by omega)]
          using h1
      omega
  · intro h
    rw [getBucketIndex_of_digits self hl (by omega) (by omega), h]
    omega

/-- **The ids of the last bucket** are those that agree with the root on all the levels. -/
theorem getBucketIndex_eq_last_iff (self : FlatRoutingTable k acc) (id : NodeId) :
    self.getBucketIndex id = self.levels * levelWidth acc ↔
      self.digits self.levels id = 0 := by
  constructor
  · intro h
    rcases digits_cases self id with hz | ⟨l, hl, hpos, hlt⟩
    · exact hz
    · rw [getBucketIndex_of_digits self hl hpos hlt] at h
      have : (l + 1) * levelWidth acc ≤ self.levels * levelWidth acc := Nat.mul_le_mul_right _ hl
      have hw := levelWidth_pos self.acc_pos
      rw [Nat.succ_mul] at this
      omega
  · exact getBucketIndex_of_digits_eq_zero self

/-- **An id closer to the target than the root** is in the last bucket if and only if the target
belongs there. -/
theorem getBucketIndex_eq_last_congr (self : FlatRoutingTable k acc) {target : NodeId}
    (h : sharedBits target self.root < sharedBits target id) :
    self.getBucketIndex id = self.numBuckets - 1 ↔
      self.getBucketIndex target = self.numBuckets - 1 := by
  have hm := self.levels_mul_le (Nat.le_refl _)
  rw [sharedBits_comm] at h
  rw [numBuckets_eq, Nat.add_sub_cancel, getBucketIndex_eq_last_iff, getBucketIndex_eq_last_iff,
    digits_eq_zero_iff self hm, digits_eq_zero_iff self hm, sharedBits_eq_of_lt h]

theorem digits_eq_zero_iff_le_index (self : FlatRoutingTable k acc)
    (hl : l ≤ self.levels) (id : NodeId) :
    self.digits l id = 0 ↔ l * levelWidth acc ≤ self.getBucketIndex id := by
  have hw := levelWidth_pos self.acc_pos
  rcases digits_cases self id with hz | ⟨l', hl', hpos, hlt⟩
  · have hzl := self.digits_eq_zero_of_le hl (self.levels_mul_le (Nat.le_refl _)) hz
    rw [getBucketIndex_of_digits_eq_zero self hz]
    exact iff_of_true hzl (Nat.mul_le_mul_right _ hl)
  · rw [getBucketIndex_of_digits self hl' hpos hlt]
    constructor
    · intro h
      have hle : l ≤ l' := by
        by_contra hgt
        have := self.digits_eq_zero_of_le (show l' + 1 ≤ l by omega) (self.levels_mul_le hl) h
        omega
      exact (Nat.mul_le_mul_right _ hle).trans (Nat.le_add_right _ _)
    · intro h
      have hle : l ≤ l' := by
        by_contra hgt
        have := Nat.mul_le_mul_right (levelWidth acc) (show l' + 1 ≤ l by omega)
        rw [Nat.succ_mul] at this
        omega
      exact self.digits_eq_zero_of_le hle (self.levels_mul_le (Nat.le_of_lt hl'))
        (self.digits_eq_zero_of_succ_lt (self.levels_mul_le hl') hlt)

end FlatRoutingTable

end Kira
