import Mathlib.Algebra.Order.Group.Nat
import Mathlib.Data.List.Induction
import Mathlib.Tactic.Ring

/-!
# Numbers as bytes

An unsigned number is written with its most significant byte first, in as many bytes as its type
has.  Both directions are on natural numbers; a number of the width of its type survives.
-/

set_option autoImplicit false

namespace Kira

abbrev Bytes := List (BitVec 8)

/-- A number in this many bytes, the most significant one first. -/
def toBeBytes : (width : Nat) → Nat → Bytes
  | 0, _ => []
  | width + 1, n => toBeBytes width (n / 256) ++ [BitVec.ofNat 8 n]

/-- The number that is written with these bytes. -/
def fromBeBytes (bytes : Bytes) : Nat := bytes.foldl (fun n byte ↦ n * 256 + byte.toNat) 0

@[simp] theorem length_toBeBytes (width n : Nat) : (toBeBytes width n).length = width := by
  induction width generalizing n with
  | zero => rfl
  | succ width ih => simp [toBeBytes, ih]

@[simp] theorem fromBeBytes_nil : fromBeBytes [] = 0 := rfl

@[simp] theorem fromBeBytes_concat (bytes : Bytes) (byte : BitVec 8) :
    fromBeBytes (bytes ++ [byte]) = fromBeBytes bytes * 256 + byte.toNat := by
  simp [fromBeBytes]

theorem fromBeBytes_singleton (byte : BitVec 8) : fromBeBytes [byte] = byte.toNat := by
  simp [fromBeBytes]

theorem fromBeBytes_lt (bytes : Bytes) : fromBeBytes bytes < 256 ^ bytes.length := by
  induction bytes using List.reverseRecOn with
  | nil => simp
  | append_singleton bytes byte ih =>
    have hbyte : byte.toNat < 256 := byte.isLt
    calc fromBeBytes (bytes ++ [byte]) = fromBeBytes bytes * 256 + byte.toNat :=
          fromBeBytes_concat bytes byte
      _ < (fromBeBytes bytes + 1) * 256 := by omega
      _ ≤ 256 ^ bytes.length * 256 := Nat.mul_le_mul_right 256 ih
      _ = 256 ^ (bytes ++ [byte]).length := by simp [pow_succ]

theorem fromBeBytes_toBeBytes {width n : Nat} (h : n < 256 ^ width) :
    fromBeBytes (toBeBytes width n) = n := by
  induction width generalizing n with
  | zero =>
    have hzero : n = 0 := by simpa using h
    simp [toBeBytes, hzero]
  | succ width ih =>
    have hdiv : n / 256 < 256 ^ width := by
      rw [pow_succ] at h
      exact Nat.div_lt_of_lt_mul (by omega)
    rw [toBeBytes, fromBeBytes_concat, ih hdiv, BitVec.toNat_ofNat]
    omega

end Kira
