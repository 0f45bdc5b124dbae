import Mathlib.Data.Nat.Bitwise

/-!
# The XOR metric on fixed-width words

Words of `w` bits, compared by the numeric value of their exclusive or.  Two measures of closeness
come out of that: `dist x y`, the value itself, and `sharedBits x y`, the number of leading bits on
which the two words agree.  The first refines the second, and the second is an ultrametric.

Everything here is derived from one description of a run of leading zeros (`le_leadingZeros_iff`): a
word has at least `m` of them exactly when it is below `2 ^ (w - m)`.  The word's `m` leading bits,
read as a number, are `top m x`; agreeing on `m` bits is having the same `top m`
(`le_sharedBits_iff`), and `top m` sends exclusive or to exclusive or.

A routing decision rests on `dist_lt_dist_iff_getMsbD`: of two different words the one closer to a
third is decided by the first bit in which the two differ.
-/

set_option autoImplicit false

namespace XorMetric

variable {w : Nat}

/-- The number of leading zero bits of a word; all `w` of them for the zero word. -/
def leadingZeros (x : BitVec w) : Nat :=
  if x.toNat = 0 then w else w - 1 - x.toNat.log2

/-- The distance of two words. -/
def dist (x y : BitVec w) : Nat := (x ^^^ y).toNat

/-- The number of leading bits two words share. -/
def sharedBits (x y : BitVec w) : Nat := leadingZeros (x ^^^ y)

/-- The leading `m` bits of a word, as a number. -/
def top (m : Nat) (x : BitVec w) : Nat := x.toNat >>> (w - m)

/-! ## Leading zeros -/

theorem leadingZeros_le (x : BitVec w) : leadingZeros x ≤ w := by
  unfold leadingZeros
  split <;> omega

variable {m : Nat} {x y : BitVec w}

theorem le_leadingZeros_iff (hm : m ≤ w) (x : BitVec w) :
    m ≤ leadingZeros x ↔ x.toNat < 2 ^ (w - m) := by
  unfold leadingZeros
  split
  · rename_i h
    rw [h]
    exact iff_of_true hm (Nat.two_pow_pos _)
  · rename_i h
    have hlt : x.toNat.log2 < w := (Nat.log2_lt h).2 x.isLt
    rw [← Nat.log2_lt h]
    omega

theorem leadingZeros_eq_width_iff (x : BitVec w) : leadingZeros x = w ↔ x = 0#w := by
  constructor
  · intro h
    have h0 := (le_leadingZeros_iff (Nat.le_refl w) x).1 (Nat.le_of_eq h.symm)
    apply BitVec.eq_of_toNat_eq
    simpa using h0
  · rintro rfl
    simp [leadingZeros]

theorem leadingZeros_anti (h : x.toNat ≤ y.toNat) :
    leadingZeros y ≤ leadingZeros x := by
  rw [le_leadingZeros_iff (leadingZeros_le y)]
  exact Nat.lt_of_le_of_lt h ((le_leadingZeros_iff (leadingZeros_le y) y).1 (Nat.le_refl _))

theorem toNat_lt_of_leadingZeros_lt (h : leadingZeros y < leadingZeros x) :
    x.toNat < y.toNat := by
  by_contra hle
  have := leadingZeros_anti (Nat.le_of_not_lt hle)
  omega

/-! ## Leading bits -/

theorem top_xor (m : Nat) (x y : BitVec w) : top m (x ^^^ y) = top m x ^^^ top m y := by
  simp only [top, BitVec.toNat_xor, Nat.shiftRight_xor_distrib]

theorem top_eq_zero_iff (hm : m ≤ w) (x : BitVec w) :
    top m x = 0 ↔ m ≤ leadingZeros x := by
  rw [le_leadingZeros_iff hm, top, Nat.shiftRight_eq_div_pow,
    Nat.div_eq_zero_iff_lt (Nat.two_pow_pos _)]

variable {a : Nat} {t : BitVec w}

/-- Splitting off the last `a` of the leading `m + a` bits. -/
theorem top_add (h : m + a ≤ w) (x : BitVec w) :
    top (m + a) x / 2 ^ a = top m x := by
  rw [top, top, ← Nat.shiftRight_eq_div_pow, ← Nat.shiftRight_add]
  congr 1
  omega

theorem top_add_eq (h : m + a ≤ w) (x : BitVec w) :
    top (m + a) x = 2 ^ a * top m x + top (m + a) x % 2 ^ a := by
  rw [← top_add h, Nat.div_add_mod]

theorem toNat_lt_of_top_lt (h : top m x < top m y) :
    x.toNat < y.toNat := by
  by_contra hle
  have : top m y ≤ top m x := by
    simp only [top, Nat.shiftRight_eq_div_pow]
    exact Nat.div_le_div_right (Nat.le_of_not_lt hle)
  omega

theorem leadingZeros_anti_of_top (hm : m ≤ w) (h : top m x ≤ top m y) (hy : top m y ≠ 0) :
    leadingZeros y ≤ leadingZeros x := by
  rcases Nat.lt_or_eq_of_le h with hlt | heq
  · exact leadingZeros_anti (Nat.le_of_lt (toNat_lt_of_top_lt hlt))
  · have hlz : leadingZeros y < m := by
      by_contra hle
      exact hy ((top_eq_zero_iff hm y).2 (Nat.le_of_not_lt hle))
    -- the zeros of `y` all lie among the leading `m` bits, which the two words share
    have hs : ∀ z : BitVec w, top (leadingZeros y) z = top m z >>> (m - leadingZeros y) := by
      intro z
      rw [top, top, ← Nat.shiftRight_add]
      congr 1
      omega
    rw [← top_eq_zero_iff (leadingZeros_le y), hs, heq, ← hs,
      top_eq_zero_iff (leadingZeros_le y)]

/-! ## Shared bits -/

theorem sharedBits_le (x y : BitVec w) : sharedBits x y ≤ w := leadingZeros_le _

theorem sharedBits_comm (x y : BitVec w) : sharedBits x y = sharedBits y x := by
  rw [sharedBits, sharedBits, BitVec.xor_comm]

@[simp] theorem sharedBits_self (x : BitVec w) : sharedBits x x = w := by
  simp [sharedBits, leadingZeros]

theorem xor_eq_zero_iff (x y : BitVec w) : x ^^^ y = 0#w ↔ x = y := by
  constructor
  · intro h
    have := congrArg (fun z ↦ z ^^^ y) h
    simpa [BitVec.xor_assoc] using this
  · rintro rfl
    exact BitVec.xor_self

theorem sharedBits_eq_width_iff (x y : BitVec w) : sharedBits x y = w ↔ x = y := by
  rw [sharedBits, leadingZeros_eq_width_iff, xor_eq_zero_iff]

theorem le_sharedBits_iff (hm : m ≤ w) (x y : BitVec w) :
    m ≤ sharedBits x y ↔ top m x = top m y := by
  rw [sharedBits, ← top_eq_zero_iff hm, top_xor, Nat.xor_eq_zero_iff]

/-- **The ultrametric inequality.** -/
theorem min_sharedBits_le (x y z : BitVec w) :
    min (sharedBits x y) (sharedBits y z) ≤ sharedBits x z := by
  have hm : min (sharedBits x y) (sharedBits y z) ≤ w :=
    Nat.le_trans (Nat.min_le_left _ _) (sharedBits_le x y)
  rw [le_sharedBits_iff hm, (le_sharedBits_iff hm x y).1 (Nat.min_le_left _ _),
    (le_sharedBits_iff hm y z).1 (Nat.min_le_right _ _)]

/-- If `x` leaves `y` before `z` does, it leaves `z` at the same bit. -/
theorem sharedBits_eq_of_lt {z : BitVec w} (h : sharedBits x y < sharedBits y z) :
    sharedBits x z = sharedBits x y := by
  have h1 := min_sharedBits_le x y z
  have h2 := min_sharedBits_le x z y
  rw [sharedBits_comm z y] at h2
  omega

theorem sharedBits_le_of_dist_le (h : dist t x ≤ dist t y) :
    sharedBits t y ≤ sharedBits t x :=
  leadingZeros_anti h

theorem dist_lt_of_sharedBits_lt (h : sharedBits t y < sharedBits t x) :
    dist t x < dist t y :=
  toNat_lt_of_leadingZeros_lt h

theorem dist_inj (h : dist t x = dist t y) : x = y := by
  have h' : t ^^^ x = t ^^^ y := BitVec.eq_of_toNat_eq h
  have := congrArg (fun z ↦ t ^^^ z) h'
  simpa [← BitVec.xor_assoc] using this

/-! ## Digits

A word read in base `2 ^ a`: the digit after the leading `m` bits. -/

/-- The `a` bits that follow the leading `m` bits, as a number. -/
def digit (m a : Nat) (x : BitVec w) : Nat := top (m + a) x % 2 ^ a

theorem digit_lt (m a : Nat) (x : BitVec w) : digit m a x < 2 ^ a :=
  Nat.mod_lt _ (Nat.two_pow_pos _)

theorem digit_xor (m a : Nat) (x y : BitVec w) :
    digit m a (x ^^^ y) = digit m a x ^^^ digit m a y := by
  rw [digit, digit, digit, top_xor, Nat.xor_mod_two_pow]

theorem top_succ_digit (h : m + a ≤ w) (x : BitVec w) :
    top (m + a) x = 2 ^ a * top m x + digit m a x :=
  top_add_eq h x

theorem top_add_eq_iff (h : m + a ≤ w) (x y : BitVec w) :
    top (m + a) x = top (m + a) y ↔ top m x = top m y ∧ digit m a x = digit m a y := by
  constructor
  · intro heq
    exact ⟨by rw [← top_add h, ← top_add h, heq], by rw [digit, digit, heq]⟩
  · rintro ⟨h1, h2⟩
    rw [top_succ_digit h, top_succ_digit h, h1, h2]

/-- Of two words that agree on the leading `m` bits, the one whose next digit is closer to a
third word's is the closer word. -/
theorem dist_lt_of_digit_lt (h : m + a ≤ w) (htop : top m x = top m y)
    (hd : digit m a (t ^^^ x) < digit m a (t ^^^ y)) :
    dist t x < dist t y := by
  apply toNat_lt_of_top_lt (m := m + a)
  rw [top_succ_digit h, top_succ_digit h, top_xor, top_xor, htop]
  omega

theorem digit_one (h : m < w) (x : BitVec w) :
    digit m 1 x = (x.getMsbD m).toNat := by
  have hbit : (x.getMsbD m).toNat = (x.toNat.testBit (w - (m + 1))).toNat := by
    rw [BitVec.getMsbD_eq_getLsbD, ← BitVec.testBit_toNat]
    simp only [h, decide_true, Bool.true_and]
    congr 2
    omega
  rw [hbit, Nat.toNat_testBit, digit, top, Nat.shiftRight_eq_div_pow, Nat.pow_one]

theorem getMsbD_eq_of_lt_sharedBits (h : m < sharedBits x y) :
    x.getMsbD m = y.getMsbD m := by
  have hlt : m < w := Nat.lt_of_lt_of_le h (sharedBits_le x y)
  have htop := (le_sharedBits_iff (show m + 1 ≤ w from hlt) x y).1 h
  have hdigit := ((top_add_eq_iff (show m + 1 ≤ w from hlt) x y).1 htop).2
  rw [digit_one hlt, digit_one hlt] at hdigit
  cases hx : x.getMsbD m <;> cases hy : y.getMsbD m <;> simp_all

theorem getMsbD_ne_of_ne (hne : x ≠ y) :
    x.getMsbD (sharedBits x y) ≠ y.getMsbD (sharedBits x y) := by
  have hlt : sharedBits x y < w :=
    Nat.lt_of_le_of_ne (sharedBits_le x y) fun h ↦ hne ((sharedBits_eq_width_iff x y).1 h)
  intro heq
  have htop := (le_sharedBits_iff (Nat.le_of_lt hlt) x y).1 (Nat.le_refl _)
  have hle : sharedBits x y + 1 ≤ w := hlt
  have : sharedBits x y + 1 ≤ sharedBits x y := by
    rw [le_sharedBits_iff hle, top_add_eq_iff hle, digit_one hlt, digit_one hlt, heq]
    exact ⟨htop, rfl⟩
  omega

/-- Two words that leave a third at the same bit agree there: a bit has only two values. -/
theorem lt_sharedBits_of_eq (h : sharedBits t x = sharedBits t y)
    (hlt : sharedBits t x < w) : sharedBits t x < sharedBits x y := by
  have hmin := min_sharedBits_le x t y
  rw [sharedBits_comm x t, ← h, Nat.min_self] at hmin
  refine Nat.lt_of_le_of_ne hmin fun heq ↦ ?_
  have hx := getMsbD_ne_of_ne fun htx : t = x ↦ hlt.ne ((sharedBits_eq_width_iff t x).2 htx)
  have hy := getMsbD_ne_of_ne fun hty : t = y ↦
    hlt.ne (h.trans ((sharedBits_eq_width_iff t y).2 hty))
  have hxy := getMsbD_ne_of_ne fun hxy : x = y ↦
    hlt.ne (heq.trans ((sharedBits_eq_width_iff x y).2 hxy))
  rw [← h] at hy
  rw [← heq] at hxy
  revert hx hy hxy
  cases t.getMsbD (sharedBits t x) <;> cases x.getMsbD (sharedBits t x) <;>
    cases y.getMsbD (sharedBits t x) <;> simp

/-- Two words that share as many groups with a third one, and at least one, share two bits. -/
theorem two_le_sharedBits_of_div_eq (hw : 1 < w) {g : Nat}
    (h : sharedBits t x / g = sharedBits t y / g) (hpos : 0 < sharedBits t x / g) :
    2 ≤ sharedBits x y := by
  have hmin := min_sharedBits_le x t y
  rw [sharedBits_comm x t] at hmin
  by_contra hlt
  obtain ⟨hg, hx⟩ := Nat.div_pos_iff.1 hpos
  have hy : g ≤ sharedBits t y := (Nat.div_pos_iff.1 (h ▸ hpos)).2
  -- only groups of one bit leave so little room, and then both share exactly one bit
  obtain rfl : g = 1 := by omega
  rw [Nat.div_one, Nat.div_one] at h
  have := lt_sharedBits_of_eq h (by omega)
  omega

/-- There is a word that leaves a given one at a given bit. -/
theorem exists_sharedBits_eq (x : BitVec w) (hm : m ≤ w) : ∃ y, sharedBits x y = m := by
  rcases Nat.lt_or_eq_of_le hm with hlt | rfl
  · refine ⟨x ^^^ .twoPow w (w - 1 - m), ?_⟩
    have hpow : 2 ^ (w - 1 - m) < 2 ^ w := Nat.pow_lt_pow_right (by decide) (by omega)
    rw [sharedBits, ← BitVec.xor_assoc, BitVec.xor_self, BitVec.zero_xor, leadingZeros,
      BitVec.toNat_twoPow, Nat.mod_eq_of_lt hpow, if_neg (Nat.two_pow_pos _).ne', Nat.log2_two_pow]
    omega
  · exact ⟨x, sharedBits_self x⟩

/-- **Which of two words is closer to a third** is decided by the first bit in which the two
differ: the one that agrees with the third word there is the closer one. -/
theorem dist_lt_dist_iff_getMsbD (hne : x ≠ y) :
    dist t x < dist t y ↔ t.getMsbD (sharedBits x y) = x.getMsbD (sharedBits x y) := by
  have hlt : sharedBits x y < w :=
    Nat.lt_of_le_of_ne (sharedBits_le x y) fun h ↦ hne ((sharedBits_eq_width_iff x y).1 h)
  have htop := (le_sharedBits_iff (Nat.le_of_lt hlt) x y).1 (Nat.le_refl _)
  have hbits := getMsbD_ne_of_ne hne
  generalize sharedBits x y = d at hlt htop hbits ⊢
  have hle : d + 1 ≤ w := hlt
  have hx : digit d 1 (t ^^^ x) = (t.getMsbD d ^^ x.getMsbD d).toNat := by
    rw [digit_one hlt, BitVec.getMsbD_xor]
  have hy : digit d 1 (t ^^^ y) = (t.getMsbD d ^^ y.getMsbD d).toNat := by
    rw [digit_one hlt, BitVec.getMsbD_xor]
  by_cases h : t.getMsbD d = x.getMsbD d
  · refine iff_of_true (dist_lt_of_digit_lt hle htop ?_) h
    rw [hx, hy, h]
    revert hbits
    cases x.getMsbD d <;> cases y.getMsbD d <;> decide
  · refine iff_of_false (Nat.not_lt.2 (Nat.le_of_lt (dist_lt_of_digit_lt hle htop.symm ?_))) h
    rw [hx, hy]
    revert hbits h
    cases t.getMsbD d <;> cases x.getMsbD d <;> cases y.getMsbD d <;> decide

end XorMetric
