import Mathlib

/-!
# Decimal numerals

Reading an unsigned number of bounded width from a string, as `strconv.ParseUint` does in base
ten: a non-empty string of digits whose value fits.  A number is read back from its own numeral
exactly if it fits (`parseUint_toString`).
-/

namespace Lib

namespace Strconv

def digit (c : Char) : Option ℕ :=
  if '0' ≤ c ∧ c ≤ '9' then some (c.toNat - '0'.toNat) else none

/-- The value of a digit string, continuing from `n`. -/
def digits (n : ℕ) : List Char → Option ℕ
  | [] => some n
  | c :: cs => (digit c).bind fun d => digits (10 * n + d) cs

def parseUint (bits : ℕ) (s : String) : Option ℕ :=
  if s = "" then none else (digits 0 s.toList).filter fun n => n < 2 ^ bits

/-! ## Reading back what was printed -/

lemma digits_append (n : ℕ) (cs : List Char) (c : Char) :
    digits n (cs ++ [c]) = (digits n cs).bind fun m => (digit c).map fun d => 10 * m + d := by
  induction cs generalizing n with
  | nil => cases h : digit c <;> simp [digits, h]
  | cons x cs ih =>
      rw [List.cons_append, digits, digits]
      cases digit x with
      | none => rfl
      | some d => exact ih _

lemma digit_digitChar {n : ℕ} (hn : n < 10) : digit (Nat.digitChar n) = some n := by
  interval_cases n <;> decide

/-- The digits of a number are read as that number. -/
lemma digits_toDigits (n : ℕ) : digits 0 (Nat.toDigits 10 n) = some n := by
  induction n using Nat.strong_induction_on with
  | _ n ih =>
      rw [Nat.toDigits_eq_if (by decide)]
      split_ifs with hn
      · simp [digits, digit_digitChar hn]
      · rw [digits_append, ih (n / 10) (by omega), digit_digitChar (Nat.mod_lt n (by decide))]
        simp only [Option.bind_some, Option.map_some, Option.some.injEq]
        omega

lemma toString_ne_empty (n : ℕ) : toString n ≠ "" := by
  intro he
  have hnil := congrArg String.toList he
  rw [Nat.toString_eq_repr, Nat.toList_repr] at hnil
  rw [Nat.toDigits_eq_if (by decide)] at hnil
  split_ifs at hnil <;> simp at hnil

lemma toString_injective : Function.Injective (toString : ℕ → String) := by
  intro a b hab
  have hread := congrArg (digits 0) (congrArg String.toList hab)
  simpa only [Nat.toString_eq_repr, Nat.toList_repr, digits_toDigits, Option.some.injEq] using hread

/-- A number that fits is read back. -/
lemma parseUint_toString (bits n : ℕ) :
    parseUint bits (toString n) = if n < 2 ^ bits then some n else none := by
  rw [parseUint, if_neg (toString_ne_empty n), Nat.toString_eq_repr, Nat.toList_repr,
    digits_toDigits]
  simp [Option.filter]

end Strconv

end Lib
