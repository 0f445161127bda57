import Hostpath.Lib.Machine

/-!
# Rounding down to readable units

An integer is rounded down to a multiple of the first unit of which there are at least `k`, and is
left alone if there is no such unit.  Division truncates towards zero, as that of machine integers
does, so a negative number is always left alone.

For any list of positive units and any positive `k`, the result is never above the argument
(`roundDown_le`), is monotone (`roundDown_mono`) and idempotent (`roundDown_idem`), and loses less
than a `k`th (`mul_sub_roundDown_lt`).

**Machine integers.**  `roundDown64` is the same computation on 64-bit integers.  The quotient by a
positive unit and its product with the unit are both in range, so nothing wraps around and the
result is that of the integers (`toInt_roundDown64`).
-/

namespace Lib.Rounding

open Machine

def roundDown (k : ℤ) : List ℤ → ℤ → ℤ
  | [], x => x
  | u :: us, x => if k ≤ x.tdiv u then x.tdiv u * u else roundDown k us x

section Integers

variable {k u x y : ℤ} {us : List ℤ}

/-- There are at least `k` units from `k * u` on. -/
lemma le_tdiv_iff (hk : 0 < k) (hu : 0 < u) : k ≤ x.tdiv u ↔ k * u ≤ x := by
  rcases lt_or_ge x 0 with hx | hx
  · have hq := tdiv_nonpos hu hx
    have hpos := mul_pos hk hu
    constructor <;> intro h <;> omega
  · rw [Int.tdiv_eq_ediv_of_nonneg hx, Int.le_ediv_iff_mul_le hu]

lemma roundDown_cons_of_le (hk : 0 < k) (hu : 0 < u) (h : k * u ≤ x) :
    roundDown k (u :: us) x = x / u * u := by
  have hx : 0 ≤ x := (mul_pos hk hu).le.trans h
  rw [roundDown, if_pos ((le_tdiv_iff hk hu).mpr h), Int.tdiv_eq_ediv_of_nonneg hx]

lemma roundDown_cons_of_lt (hk : 0 < k) (hu : 0 < u) (h : x < k * u) :
    roundDown k (u :: us) x = roundDown k us x := by
  rw [roundDown, if_neg fun hq => h.not_ge ((le_tdiv_iff hk hu).mp hq)]

lemma roundDown_le (hk : 0 < k) (hus : ∀ u ∈ us, 0 < u) : roundDown k us x ≤ x := by
  induction us with
  | nil => exact le_rfl
  | cons u us ih =>
      obtain ⟨hu, hus⟩ := List.forall_mem_cons.mp hus
      rcases lt_or_ge x (k * u) with h | h
      · rw [roundDown_cons_of_lt hk hu h]
        exact ih hus
      · rw [roundDown_cons_of_le hk hu h]
        exact Int.ediv_mul_le x hu.ne'

/-- A number with fewer than `k` of every unit is left alone. -/
lemma roundDown_of_lt (hk : 0 < k) (hus : ∀ u ∈ us, 0 < u) (h : ∀ u ∈ us, x < k * u) :
    roundDown k us x = x := by
  induction us with
  | nil => rfl
  | cons u us ih =>
      obtain ⟨hu, hus⟩ := List.forall_mem_cons.mp hus
      obtain ⟨hx, h⟩ := List.forall_mem_cons.mp h
      rw [roundDown_cons_of_lt hk hu hx, ih hus h]

lemma roundDown_mono (hk : 0 < k) (hus : ∀ u ∈ us, 0 < u) (hxy : x ≤ y) :
    roundDown k us x ≤ roundDown k us y := by
  induction us with
  | nil => exact hxy
  | cons u us ih =>
      obtain ⟨hu, hus⟩ := List.forall_mem_cons.mp hus
      rcases lt_or_ge y (k * u) with hy | hy
      · rw [roundDown_cons_of_lt hk hu hy, roundDown_cons_of_lt hk hu (hxy.trans_lt hy)]
        exact ih hus
      rw [roundDown_cons_of_le hk hu hy]
      rcases lt_or_ge x (k * u) with hx | hx
      · -- the smaller number keeps below `k` units, the larger one has at least as many
        rw [roundDown_cons_of_lt hk hu hx]
        calc roundDown k us x ≤ x := roundDown_le hk hus
          _ ≤ k * u := hx.le
          _ ≤ y / u * u := Int.mul_le_mul_of_nonneg_right ((Int.le_ediv_iff_mul_le hu).mpr hy) hu.le
      · rw [roundDown_cons_of_le hk hu hx]
        exact Int.mul_le_mul_of_nonneg_right (Int.ediv_le_ediv hu hxy) hu.le

lemma roundDown_idem (hk : 0 < k) (hus : ∀ u ∈ us, 0 < u) :
    roundDown k us (roundDown k us x) = roundDown k us x := by
  induction us with
  | nil => rfl
  | cons u us ih =>
      obtain ⟨hu, hus⟩ := List.forall_mem_cons.mp hus
      rcases lt_or_ge x (k * u) with hx | hx
      · rw [roundDown_cons_of_lt hk hu hx,
          roundDown_cons_of_lt hk hu ((roundDown_le hk hus).trans_lt hx), ih hus]
      · have hq : k * u ≤ x / u * u :=
          Int.mul_le_mul_of_nonneg_right ((Int.le_ediv_iff_mul_le hu).mpr hx) hu.le
        rw [roundDown_cons_of_le hk hu hx, roundDown_cons_of_le hk hu hq,
          Int.mul_ediv_cancel _ hu.ne']

/-- What is lost is less than one unit, and there are `k` of them. -/
lemma mul_sub_roundDown_lt (hk : 0 < k) (hus : ∀ u ∈ us, 0 < u) (hx : 0 < x) :
    k * (x - roundDown k us x) < x := by
  induction us with
  | nil => simpa [roundDown] using hx
  | cons u us ih =>
      obtain ⟨hu, hus⟩ := List.forall_mem_cons.mp hus
      rcases lt_or_ge x (k * u) with h | h
      · rw [roundDown_cons_of_lt hk hu h]
        exact ih hus
      · rw [roundDown_cons_of_le hk hu h]
        have hloss : x - x / u * u < u := by
          have := Int.lt_ediv_add_one_mul_self x hu
          linarith
        calc k * (x - x / u * u) < k * u := mul_lt_mul_of_pos_left hloss hk
          _ ≤ x := h

/-- If there are enough of some unit, the result is a multiple of what divides all of them. -/
lemma dvd_roundDown (hk : 0 < k) (hus : ∀ u ∈ us, 0 < u) {d : ℤ} (hd : ∀ u ∈ us, d ∣ u)
    (h : ∃ u ∈ us, k * u ≤ x) : d ∣ roundDown k us x := by
  induction us with
  | nil => simp at h
  | cons u us ih =>
      obtain ⟨hu, hus⟩ := List.forall_mem_cons.mp hus
      obtain ⟨hdu, hd⟩ := List.forall_mem_cons.mp hd
      rcases lt_or_ge x (k * u) with hx | hx
      · rw [roundDown_cons_of_lt hk hu hx]
        obtain ⟨v, hv, hvx⟩ := h
        rcases List.mem_cons.mp hv with rfl | hv
        · exact absurd hvx hx.not_ge
        · exact ih hus hd ⟨v, hv, hvx⟩
      · rw [roundDown_cons_of_le hk hu hx]
        exact Dvd.dvd.mul_left hdu _

end Integers

/-! ## Machine integers -/

/-- Rounding down in 64-bit arithmetic. -/
def roundDown64 (k : Int64) (us : List Int64) (x : Int64) : Int64 :=
  match us.find? fun u => k ≤ x / u with
  | some u => x / u * u
  | none => x

section Machine

variable {k u x : Int64} {us : List Int64}

/-- **Nothing wraps around.**  Rounding machine integers is rounding integers. -/
theorem toInt_roundDown64 (hus : ∀ u ∈ us, 0 < u.toInt) :
    (roundDown64 k us x).toInt = roundDown k.toInt (us.map Int64.toInt) x.toInt := by
  induction us with
  | nil => rfl
  | cons u us ih =>
      obtain ⟨hu, hus⟩ := List.forall_mem_cons.mp hus
      have hle : k ≤ x / u ↔ k.toInt ≤ x.toInt.tdiv u.toInt := by
        rw [Int64.le_iff_toInt_le, toInt_div hu]
      rw [List.map_cons, roundDown]
      by_cases h : k ≤ x / u
      · rw [if_pos (hle.mp h), roundDown64, List.find?_cons_of_pos (by simpa using h)]
        exact (toInt_div_mul hu).trans (by rw [toInt_div hu])
      · rw [if_neg (h ∘ hle.mpr), ← ih hus, roundDown64, List.find?_cons_of_neg (by simpa using h)]
        rfl

end Machine

end Lib.Rounding
