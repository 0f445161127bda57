import Mathlib

/-!
# Reading a list page by page

A client that reads page after page may be given another list each time, as long as they have one
length.  `pages_perm` and `slice_perm_of_pages` say when the pages put together do not depend on
which lists it was given: exactly if each page holds the same elements in all of them.
-/

namespace Lib

variable {α : Type*} {m k c : ℕ}

/-- Page number `k` of a list in pages of `m`. -/
def slice (m k : ℕ) (l : List α) : List α := (l.drop (k * m)).take m

/-- A page between two positions, the second cut off at the end of the list. -/
lemma drop_take_min (l : List α) (i m : ℕ) :
    (l.take (min (i + m) l.length)).drop i = (l.drop i).take m := by
  rw [List.drop_take, List.take_eq_take_iff, List.length_drop]
  omega

/-- Lists that are put together are one of them if all others are empty. -/
lemma flatMap_eq_of_unique {β : Type*} {l : List α} {f : α → List β} {x : α} (hnodup : l.Nodup)
    (hx : x ∈ l) (hother : ∀ y ∈ l, y ≠ x → f y = []) : l.flatMap f = f x := by
  induction l with
  | nil => cases hx
  | cons z l ih =>
      obtain ⟨hz, hl⟩ := List.nodup_cons.mp hnodup
      rw [List.flatMap_cons]
      rcases List.mem_cons.mp hx with rfl | hx
      · rw [List.flatMap_eq_nil_iff.mpr fun y hy => hother y (List.mem_cons_of_mem _ hy)
          fun hyx => hz (hyx ▸ hy), List.append_nil]
      · rw [hother z List.mem_cons_self fun hzx => hz (hzx ▸ hx), List.nil_append]
        exact ih hl hx fun y hy => hother y (List.mem_cons_of_mem _ hy)

/-- If one of the lists is a single element, the others have to be empty to get a single element. -/
lemma flatMap_eq_singleton_iff {β : Type*} {l : List α} {f : α → List β} {x : α} {y z : β}
    (hnodup : l.Nodup) (hx : x ∈ l) (hy : f x = [y]) :
    l.flatMap f = [z] ↔ y = z ∧ ∀ x' ∈ l, x' ≠ x → f x' = [] := by
  constructor
  · intro hflat
    obtain ⟨l₁, l₂, rfl⟩ := List.append_of_mem hx
    rw [List.flatMap_append, List.flatMap_cons, hy, List.singleton_append] at hflat
    obtain ⟨hl₁, hrest⟩ | ⟨t, _, hrest⟩ := List.append_eq_cons_iff.mp hflat
    · obtain ⟨hyz, hl₂⟩ := List.cons_eq_cons.mp hrest
      refine ⟨hyz, fun x' hx' hne => ?_⟩
      rcases List.mem_append.mp hx' with hx' | hx'
      · exact List.flatMap_eq_nil_iff.mp hl₁ x' hx'
      · exact List.flatMap_eq_nil_iff.mp hl₂ x' ((List.mem_cons.mp hx').resolve_left hne)
    · simp at hrest
  · rintro ⟨rfl, hother⟩
    rw [flatMap_eq_of_unique hnodup hx hother, hy]

/-- The `c` pages from number `k` on, page number `i` taken from the list `L i`. -/
def pages (m k c : ℕ) (L : ℕ → List α) : List (List α) :=
  (List.range' k c).map fun i => slice m i (L i)

lemma pages_succ (m k c : ℕ) (L : ℕ → List α) :
    pages m k (c + 1) L = slice m k (L k) :: pages m (k + 1) c L := by
  rw [pages, List.range'_succ, List.map_cons]
  rfl

lemma slice_eq_nil {l : List α} (hl : l.length ≤ k * m) : slice m k l = [] := by
  rw [slice, List.drop_of_length_le hl, List.take_nil]

/-- Pages of one list are a part of it. -/
lemma flatten_pages_const (m k c : ℕ) (l : List α) :
    (pages m k c fun _ => l).flatten = (l.drop (k * m)).take (c * m) := by
  induction c generalizing k with
  | zero => simp [pages]
  | succ c ih =>
      rw [pages_succ, List.flatten_cons, ih, Nat.succ_mul k, ← List.drop_drop, slice,
        Nat.succ_mul c, Nat.add_comm (c * m), List.take_add]

lemma length_flatten_pages_le (m k c : ℕ) (L : ℕ → List α) :
    (pages m k c L).flatten.length ≤ c * m := by
  induction c generalizing k with
  | zero => simp [pages]
  | succ c ih =>
      rw [pages_succ, List.flatten_cons, List.length_append, Nat.succ_mul, Nat.add_comm]
      exact Nat.add_le_add (ih (k + 1)) (List.length_take_le _ _)

/-- The elements of all pages, counted page by page. -/
lemma coe_flatten_pages (m k c : ℕ) (L : ℕ → List α) :
    ((pages m k c L).flatten : Multiset α)
      = ∑ i ∈ Finset.range c, (slice m (k + i) (L (k + i)) : Multiset α) := by
  induction c generalizing k with
  | zero => simp [pages]
  | succ c ih =>
      rw [pages_succ, List.flatten_cons, ← Multiset.coe_add, ih, Finset.sum_range_succ', add_comm]
      simp only [Nat.add_zero, Nat.add_assoc, Nat.add_comm 1]

lemma pages_perm {L L' : ℕ → List α} (hp : ∀ i, (slice m i (L i)).Perm (slice m i (L' i))) :
    (pages m k c L).flatten.Perm (pages m k c L').flatten := by
  rw [← Multiset.coe_eq_coe, coe_flatten_pages, coe_flatten_pages]
  exact Finset.sum_congr rfl fun i _ => Multiset.coe_eq_coe.mpr (hp _)

/-- If two sequences of lists differ in one list only and all pages together hold the same, that
page holds the same. -/
lemma slice_perm_of_pages {L L' : ℕ → List α} (hk : k < c) (hL : ∀ i, i ≠ k → L i = L' i)
    (hp : (pages m 0 c L).flatten.Perm (pages m 0 c L').flatten) :
    (slice m k (L k)).Perm (slice m k (L' k)) := by
  rw [← Multiset.coe_eq_coe, coe_flatten_pages, coe_flatten_pages] at hp
  simp only [Nat.zero_add] at hp
  have hmem : k ∈ Finset.range c := Finset.mem_range.mpr hk
  rw [← Finset.add_sum_erase _ _ hmem, ← Finset.add_sum_erase _ _ hmem] at hp
  have hrest : ∑ i ∈ (Finset.range c).erase k, (slice m i (L i) : Multiset α)
      = ∑ i ∈ (Finset.range c).erase k, (slice m i (L' i) : Multiset α) :=
    Finset.sum_congr rfl fun i hi => by rw [hL i (Finset.ne_of_mem_erase hi)]
  rw [hrest] at hp
  exact Multiset.coe_eq_coe.mp (add_right_cancel hp)

end Lib
