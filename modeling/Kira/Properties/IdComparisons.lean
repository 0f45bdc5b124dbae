import Kira.UseCases.VicinityDiscovery

/-!
# Comparing ids

Ids are compared in two ways.  What is looked up is compared by how much of the target it shares, in
groups of bits; whatever the groups, that is the order by distance (`cmp_sharedPrefixLen`).

Of two neighbours that greet each other one should answer: comparing the last bits of their ids
around the clock, the one that is less than half a turn behind the other.  The difference is taken
in 128 bits, however, not in the 32 bits that are compared, so that it never wraps to something
small.  If the bits are more than half a turn apart then neither node answers (`one_answers_iff`).
-/

set_option autoImplicit false

namespace Kira

open Run XorMetric

/-- **The order on shared prefixes.**  Comparing what two ids share with a target is comparing their
distances to it, for every size of the groups; it yields equality for equal ids only. -/
theorem NodeId.cmp_sharedPrefixLen (target a b : NodeId) (bitsPerGroup : NonZeroU8)
    (hgroup : bitsPerGroup.get ≤ NodeId.BITS) : ∃ prefixA prefixB,
      target.sharedPrefixLen a bitsPerGroup = .ok prefixA ∧
      target.sharedPrefixLen b bitsPerGroup = .ok prefixB ∧
      prefixA.cmp prefixB = compare (target ^^^ a).toNat (target ^^^ b).toNat ∧
      (prefixA.cmp prefixB = .eq ↔ a = b) := by
  refine ⟨_, _, sharedPrefixLen_of_le target a hgroup, sharedPrefixLen_of_le target b hgroup, ?_⟩
  have hle := sharedPrefix_le_iff target a b bitsPerGroup.get
  have hlt := sharedPrefix_lt_iff target a b bitsPerGroup.get
  have hcmp : (sharedPrefix target a bitsPerGroup.get).cmp
      (sharedPrefix target b bitsPerGroup.get) = compare (dist target a) (dist target b) := by
    rcases Nat.lt_trichotomy (dist target a) (dist target b) with h | h | h
    · rw [Nat.compare_eq_lt.2 h]
      exact hlt.2 h
    · rw [Nat.compare_eq_eq.2 h]
      have hnotGt := hle.2 h.le
      have hnotLt := mt hlt.1 h.not_lt
      cases hcmp : (sharedPrefix target a bitsPerGroup.get).cmp _ with
      | eq => rfl
      | lt => exact absurd hcmp hnotLt
      | gt => exact absurd hcmp hnotGt
    · rw [Nat.compare_eq_gt.2 h]
      exact not_not.1 (mt hle.1 h.not_ge)
  refine ⟨hcmp, ?_⟩
  rw [hcmp, Nat.compare_eq_eq]
  exact ⟨fun h ↦ dist_inj h, fun h ↦ h ▸ rfl⟩

/-- Of groups of three bits, the ids 1 and 9 share the same number with 0, and 1 is closer. -/
theorem NodeId.cmp_sharedPrefixLen_three : ∃ prefixA prefixB,
    NodeId.sharedPrefixLen 0 1 ⟨3, by decide, by decide⟩ = .ok prefixA ∧
    NodeId.sharedPrefixLen 0 9 ⟨3, by decide, by decide⟩ = .ok prefixB ∧
    prefixA.cmp prefixB = .lt := by
  obtain ⟨prefixA, prefixB, hA, hB, hcmp, -⟩ :=
    NodeId.cmp_sharedPrefixLen 0 1 9 ⟨3, by decide, by decide⟩ (by decide)
  exact ⟨prefixA, prefixB, hA, hB, hcmp.trans (by decide)⟩

namespace VicinityDiscovery

/-- The bits of an id that decide who answers. -/
def lowBits (id : NodeId) : Nat := id.toNat % 2 ^ 32

theorem lowBits_lt (id : NodeId) : lowBits id < 2 ^ 32 := Nat.mod_lt _ (by decide)

theorem bits_eq_lowBits (id : NodeId) : id.bits 0 32 = some (lowBits id) := by
  rw [NodeId.bits, if_neg (by decide), pow_zero, Nat.div_one, lowBits]

/-- The difference of two numbers in a modulus that is larger than both. -/
theorem wrapping_sub_eq {x y modulus : Nat} (hx : x < modulus) (hy : y < modulus) :
    (y + modulus - x) % modulus = if x ≤ y then y - x else modulus - (x - y) := by
  split
  · rename_i hle
    rw [show y + modulus - x = y - x + modulus by omega, Nat.add_mod_right]
    exact Nat.mod_eq_of_lt (by omega)
  · rw [show y + modulus - x = modulus - (x - y) by omega]
    exact Nat.mod_eq_of_lt (by omega)

/-- **When a node answers.**  The bits of the other node are ahead of its own, by less than half a
turn; or the ids themselves decide. -/
theorem deterministicHeuristic_default (selfId other : NodeId) :
    deterministicHeuristic selfId other VicinityDiscoveryConfig.default.heuristicCalculationBits =
      .ok (decide ((lowBits selfId < lowBits other ∧ lowBits other < lowBits selfId + 2 ^ 31) ∨
        (lowBits other = lowBits selfId ∨ lowBits other = lowBits selfId + 2 ^ 31) ∧
          selfId < other)) := by
  have hself := lowBits_lt selfId
  have hother := lowBits_lt other
  have hmodulus : 2 ^ 33 ≤ 2 ^ 128 := Nat.pow_le_pow_right (by decide) (by decide)
  suffices h : ∀ delta, delta = (lowBits other + 2 ^ 128 - lowBits selfId) % 2 ^ 128 →
      (if delta < 0x80000000 ∧ delta ≠ 0 then .ok true
        else .ok (decide ((delta = 0 ∨ delta = 0x80000000) ∧ selfId < other))) = Run.ok _ by
    rw [deterministicHeuristic, VicinityDiscoveryConfig.default, bits_eq_lowBits, bits_eq_lowBits,
      unwrap_some, ok_bind, unwrap_some, ok_bind]
    exact h _ rfl
  intro delta hdelta
  rw [wrapping_sub_eq (by omega) (by omega)] at hdelta
  -- the bits of the other node are ahead, or they are not
  split at hdelta <;> split <;> rw [ok.injEq]
  · rw [eq_comm, decide_eq_true_eq]
    omega
  · rw [decide_eq_decide, BitVec.lt_def]
    omega
  · omega
  · rw [decide_eq_decide, BitVec.lt_def]
    omega

/-- The bits of two ids are less than half a turn apart; or they are exactly half a turn apart, and
the smaller id is the one with the smaller bits. -/
def Comparable (a b : NodeId) : Prop :=
  (lowBits a < lowBits b + 2 ^ 31 ∧ lowBits b < lowBits a + 2 ^ 31) ∨
    (lowBits b = lowBits a + 2 ^ 31 ∧ a < b) ∨ (lowBits a = lowBits b + 2 ^ 31 ∧ b < a)

/-- **Who answers a greeting.**  Exactly one of two nodes does if and only if their bits are
comparable; if they are not, then neither does. -/
theorem one_answers_iff {a b : NodeId} (hne : a ≠ b) : ∃ answersA answersB,
    deterministicHeuristic a b VicinityDiscoveryConfig.default.heuristicCalculationBits =
      .ok answersA ∧
    deterministicHeuristic b a VicinityDiscoveryConfig.default.heuristicCalculationBits =
      .ok answersB ∧
    (answersA ≠ answersB ↔ Comparable a b) := by
  refine ⟨_, _, deterministicHeuristic_default a b, deterministicHeuristic_default b a, ?_⟩
  have hne : a.toNat ≠ b.toNat := fun h ↦ hne (BitVec.eq_of_toNat_eq h)
  rw [Ne, decide_eq_decide, Comparable]
  simp only [BitVec.lt_def]
  omega

/-- The nodes 1 and 2: the first one answers. -/
theorem one_answers_two : ∃ answersA answersB,
    deterministicHeuristic 1 2 VicinityDiscoveryConfig.default.heuristicCalculationBits =
      .ok answersA ∧
    deterministicHeuristic 2 1 VicinityDiscoveryConfig.default.heuristicCalculationBits =
      .ok answersB ∧ answersA ≠ answersB := by
  obtain ⟨answersA, answersB, hA, hB, hiff⟩ := one_answers_iff (a := 1) (b := 2) (by decide)
  exact ⟨answersA, answersB, hA, hB, hiff.2 (.inl ⟨by decide, by decide⟩)⟩

/-- The nodes 0 and 3000000000 both wait for the other one. -/
theorem nobody_answers :
    deterministicHeuristic 0 3000000000
      VicinityDiscoveryConfig.default.heuristicCalculationBits = .ok false ∧
    deterministicHeuristic 3000000000 0
      VicinityDiscoveryConfig.default.heuristicCalculationBits = .ok false := by
  constructor <;> decide

end VicinityDiscovery

end Kira
