import Mathlib.Data.Nat.Basic
import Mathlib.Data.UInt

/-!
# 64-bit words as exact numbers

When a sum stays below `2^64` a word addition is the addition of the numbers,
and when the subtrahend is no larger a word subtraction is the subtraction.
-/

set_option autoImplicit false

namespace Words

theorem toNat_add_of_lt {a b : UInt64} (h : a.toNat + b.toNat < 2 ^ 64) :
    (a + b).toNat = a.toNat + b.toNat := by
  rw [UInt64.toNat_add]
  exact Nat.mod_eq_of_lt h

theorem toNat_sub_of_toNat_le {a b : UInt64} (h : b.toNat ≤ a.toNat) :
    (a - b).toNat = a.toNat - b.toNat :=
  UInt64.toNat_sub_of_le a b (UInt64.le_iff_toNat_le.mpr h)

theorem toNat_add_ofNat_of_lt {a : UInt64} {n : Nat} (h : a.toNat + n < 2 ^ 64) :
    (a + UInt64.ofNat n).toNat = a.toNat + n := by
  have hn : (UInt64.ofNat n).toNat = n := UInt64.toNat_ofNat_of_lt' (show n < 2 ^ 64 by omega)
  rw [toNat_add_of_lt (by rwa [hn]), hn]

theorem ite_toNat_add_one {p : Prop} [Decidable p] {a : UInt64} (h : p → a.toNat + 1 < 2 ^ 64) :
    (if p then (a + 1).toNat else 0) = (if p then a.toNat else 0) + if p then 1 else 0 := by
  by_cases hp : p
  · rw [if_pos hp, if_pos hp, if_pos hp]
    exact toNat_add_of_lt (h hp)
  · simp only [if_neg hp]

theorem toNat_ofNat_eq_iff {n : Nat} : (UInt64.ofNat n).toNat = n ↔ n < 2 ^ 64 := by
  constructor
  · intro h
    rw [← h]
    exact (UInt64.ofNat n).toNat_lt
  · exact UInt64.toNat_ofNat_of_lt'

theorem ofNat_add_ite (n : Nat) (p : Prop) [Decidable p] :
    UInt64.ofNat (n + if p then 1 else 0) = UInt64.ofNat n + if p then 1 else 0 := by
  rw [UInt64.ofNat_add]
  split <;> rfl

theorem add_ne_self {a b : UInt64} (h : b ≠ 0) : a + b ≠ a := by
  intro hab
  apply h
  have hsum : a + b = a + 0 := by rw [hab, UInt64.add_zero]
  exact (UInt64.add_right_inj a).mp hsum

theorem lt_add_one_iff_of_lt {a b c : UInt64} (h : b < c) : a < b + 1 ↔ a < b ∨ a = b := by
  have hc := c.toNat_lt
  rw [UInt64.lt_iff_toNat_lt] at h
  have hsum : (b + 1).toNat = b.toNat + 1 := toNat_add_of_lt (by simp; omega)
  rw [UInt64.lt_iff_toNat_lt, UInt64.lt_iff_toNat_lt, ← UInt64.toNat_inj, hsum]
  omega

theorem add_one_le_of_lt {a b : UInt64} (h : a < b) : a + 1 ≤ b := by
  rw [UInt64.lt_iff_toNat_lt] at h
  have hb := b.toNat_lt
  have hsucc : (a + 1).toNat = a.toNat + 1 := toNat_add_of_lt (show a.toNat + 1 < 2 ^ 64 by omega)
  rw [UInt64.le_iff_toNat_le, hsucc]
  exact h

/-- The conversion of a signed word keeps the order of a number and its successor. -/
theorem toUInt64_lt_of_succ {a b : Int64} (ha : 0 ≤ a.toInt) (hab : b.toInt = a.toInt + 1) :
    a.toUInt64 < b.toUInt64 := by
  rw [UInt64.lt_iff_toNat_lt]
  change a.toBitVec.toNat < b.toBitVec.toNat
  change 0 ≤ a.toBitVec.toInt at ha
  change b.toBitVec.toInt = a.toBitVec.toInt + 1 at hab
  rw [BitVec.toInt_eq_toNat_cond] at ha hab
  rw [BitVec.toInt_eq_toNat_cond] at hab
  have hlt := b.toBitVec.isLt
  split at ha <;> split at hab <;> omega

/-- A word read as a signed one. -/
theorem toInt_toInt64 (a : UInt64) :
    a.toInt64.toInt = if a.toNat < 2 ^ 63 then (a.toNat : Int) else a.toNat - 2 ^ 64 := by
  change a.toBitVec.toInt = if a.toBitVec.toNat < 2 ^ 63 then _ else _
  rw [BitVec.toInt_eq_toNat_cond]
  split <;> split <;> first | rfl | omega

/-- It is no larger, and below 2^63 it is the same number. -/
theorem toInt_toInt64_le (a : UInt64) : a.toInt64.toInt ≤ a.toNat := by
  rw [toInt_toInt64]
  split <;> omega

theorem toInt_toInt64_of_lt {a : UInt64} (h : a.toNat < 2 ^ 63) : a.toInt64.toInt = a.toNat := by
  rw [toInt_toInt64, if_pos h]

/-- A product of a word read as a signed one, up to a multiple of 2^64. -/
theorem toInt_toInt64_mul (a : UInt64) (b : Int64) :
    (a.toInt64 * b).toInt = ((a.toNat : Int) * b.toInt).bmod (2 ^ 64) := by
  have hread : a.toInt64.toInt = (a.toNat : Int).bmod (2 ^ 64) :=
    BitVec.toInt_eq_toNat_bmod a.toBitVec
  rw [Int64.toInt_mul, hread, Int.bmod_mul_bmod]

/-- A number that is not negative is read back exactly if it is below 2^63. -/
theorem bmod_eq_self_iff {x : Int} (h : 0 ≤ x) : x.bmod (2 ^ 64) = x ↔ x < 2 ^ 63 := by
  rw [Int.bmod_def]
  split <;> omega

end Words
