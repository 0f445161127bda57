import Mathlib

/-!
# 64-bit integers as integers

The value of a machine computation is the exact one reduced to the interval from `-2 ^ 63` to
`2 ^ 63`, which is what `Int.bmod` by `2 ^ 64` does.

* `toInt_toInt64_mul`, `toInt_sub_mul` — unsigned counts, converted and multiplied as signed
  integers: a single reduction at the end.
* `bmod_nonneg_iff`, `bmod_of_lt`, `bmod_eq_zero_iff` — when that reduction of a natural number is
  not negative, what it is then, and when it is zero.
* `toInt_div`, `toInt_div_mul` — a quotient by a positive number, and its product with that number,
  are always in range.
-/

namespace Lib.Machine

/-! ## Counts and products -/

lemma toInt_toInt64 (n : UInt64) : n.toInt64.toInt = (n.toNat : ℤ).bmod (2 ^ 64) :=
  BitVec.toInt_eq_toNat_bmod _

lemma bmod_nonneg_iff (n : ℕ) : 0 ≤ (n : ℤ).bmod (2 ^ 64) ↔ n % 2 ^ 64 < 2 ^ 63 := by
  rw [Int.bmod_def]
  split_ifs <;> omega

lemma bmod_of_lt {n : ℕ} (h : n % 2 ^ 64 < 2 ^ 63) :
    (n : ℤ).bmod (2 ^ 64) = ((n % 2 ^ 64 : ℕ) : ℤ) := by
  rw [Int.bmod_def, if_pos (by omega)]
  push_cast
  rfl

lemma bmod_eq_zero_iff (n : ℕ) : (n : ℤ).bmod (2 ^ 64) = 0 ↔ 2 ^ 64 ∣ n := by
  rw [Int.bmod_def]
  split_ifs <;> omega

section Products

variable {b : Int64} (hb : 0 ≤ b.toInt)
include hb

lemma toInt_toInt64_mul (n : UInt64) :
    (n.toInt64 * b).toInt = ((n.toNat * b.toInt.toNat : ℕ) : ℤ).bmod (2 ^ 64) := by
  rw [Int64.toInt_mul, toInt_toInt64, Int.bmod_mul_bmod, Nat.cast_mul, Int.toNat_of_nonneg hb]

lemma toInt_sub_mul {m n : UInt64} (h : m ≤ n) :
    ((n.toInt64 - m.toInt64) * b).toInt
      = (((n.toNat - m.toNat) * b.toInt.toNat : ℕ) : ℤ).bmod (2 ^ 64) := by
  rw [Int64.toInt_mul, Int64.toInt_sub, toInt_toInt64, toInt_toInt64, ← Int.sub_bmod,
    Int.bmod_mul_bmod, Nat.cast_mul, Int.toNat_of_nonneg hb,
    Nat.cast_sub (UInt64.le_iff_toNat_le.mp h)]

end Products

/-! ## Quotients -/

lemma tdiv_nonpos {u x : ℤ} (hu : 0 < u) (hx : x < 0) : x.tdiv u ≤ 0 := by
  have hneg := Int.tdiv_nonneg (a := -x) (by omega) hu.le
  rw [Int.neg_tdiv] at hneg
  omega

section Quotients

variable {u x : Int64} (hu : 0 < u.toInt)

/-- A number between zero and `x` is in range. -/
lemma bmod_of_natAbs_le {n : ℤ} (h : n.natAbs ≤ x.toInt.natAbs) (hn : n ≤ x.toInt ∨ n ≤ 0) :
    n.bmod (2 ^ 64) = n := by
  have hx := x.toInt_lt
  have hx' := x.le_toInt
  apply Int.bmod_eq_of_le <;> omega

include hu

lemma toInt_div : (x / u).toInt = x.toInt.tdiv u.toInt := by
  rw [Int64.toInt_div]
  have habs := Int.natAbs_tdiv_le_natAbs x.toInt u.toInt
  refine bmod_of_natAbs_le habs ?_
  rcases lt_or_ge x.toInt 0 with hx | hx
  · exact Or.inr (tdiv_nonpos hu hx)
  · omega

lemma toInt_div_mul : (x / u * u).toInt = (x / u).toInt * u.toInt := by
  rw [Int64.toInt_mul, toInt_div hu]
  have habs : (x.toInt.tdiv u.toInt * u.toInt).natAbs ≤ x.toInt.natAbs := by
    rw [Int.natAbs_mul, Int.natAbs_tdiv]
    exact Nat.div_mul_le_self _ _
  refine bmod_of_natAbs_le habs ?_
  rcases lt_or_ge x.toInt 0 with hx | hx
  · exact Or.inr (mul_nonpos_of_nonpos_of_nonneg (tdiv_nonpos hu hx) hu.le)
  · omega

end Quotients

end Lib.Machine
