import Hostpath.Csi.CreateVolume
import Hostpath.Lib.Rounding

/-!
# Capacities in 64-bit arithmetic

What the driver computes from the kernel's counts of blocks and inodes.

**Rounding.**  `roundDownCapacityPretty` is `Rounding.roundDown64` for the units GiB and MiB, so all
that the library proves of rounding holds of it (`roundDownCapacityPretty_rounds`).

**Statistics.**  A number of bytes is a count of blocks, converted from unsigned to signed, times
the block size.  Both can wrap around; what comes out is the exact number of bytes reduced once
modulo `2 ^ 64` (`toInt_available`, `toInt_used`, `toInt_capacity`).
-/

namespace Hostpath

open Lib FilePath Prog Host

/-! ## Rounding -/

/-- What a sound rounding of capacities does. -/
structure SoundRounding (f : Int64 → Int64) : Prop where
  mono : ∀ a b, a ≤ b → f a ≤ f b
  idem : ∀ a, f (f a) = f a
  le : ∀ a, f a ≤ a
  small : ∀ a, a < 10 * mib → f a = a
  loss : ∀ a, 10 * mib ≤ a → 10 * (a.toInt - (f a).toInt) < a.toInt
  dvd_mib : ∀ a, 10 * mib ≤ a → mib.toInt ∣ (f a).toInt
  dvd_gib : ∀ a, 10 * gib ≤ a → gib.toInt ∣ (f a).toInt

/-- The quotient by a unit and its product with the unit are the exact ones. -/
def NoOverflow (a unit : Int64) : Prop :=
  (a / unit).toInt = a.toInt.tdiv unit.toInt ∧ (a / unit * unit).toInt = (a / unit).toInt * unit.toInt

@[simp] lemma toInt_gib : gib.toInt = 2 ^ 30 := rfl

@[simp] lemma toInt_mib : mib.toInt = 2 ^ 20 := rfl

lemma units_pos : ∀ unit ∈ [gib, mib], 0 < unit.toInt := by simp

lemma toInt_roundDownCapacityPretty (a : Int64) :
    (roundDownCapacityPretty a).toInt = Rounding.roundDown 10 [2 ^ 30, 2 ^ 20] a.toInt :=
  Rounding.toInt_roundDown64 units_pos

theorem roundDownCapacityPretty_rounds : SoundRounding roundDownCapacityPretty := by
  have hk : (0 : ℤ) < 10 := by norm_num
  have hus : ∀ u ∈ [(2 ^ 30 : ℤ), 2 ^ 20], 0 < u := by norm_num
  have hmib : (10 * mib).toInt = 10 * 2 ^ 20 := by decide
  have hgib : (10 * gib).toInt = 10 * 2 ^ 30 := by decide
  refine ⟨?_, ?_, ?_, ?_, ?_, ?_, ?_⟩
  · intro a b hab
    rw [Int64.le_iff_toInt_le, toInt_roundDownCapacityPretty, toInt_roundDownCapacityPretty]
    exact Rounding.roundDown_mono hk hus (Int64.le_iff_toInt_le.mp hab)
  · intro a
    rw [← Int64.toInt_inj, toInt_roundDownCapacityPretty, toInt_roundDownCapacityPretty]
    exact Rounding.roundDown_idem hk hus
  · intro a
    rw [Int64.le_iff_toInt_le, toInt_roundDownCapacityPretty]
    exact Rounding.roundDown_le hk hus
  · intro a ha
    rw [Int64.lt_iff_toInt_lt, hmib] at ha
    rw [← Int64.toInt_inj, toInt_roundDownCapacityPretty]
    refine Rounding.roundDown_of_lt hk hus ?_
    simp only [List.forall_mem_cons]
    exact ⟨by omega, by omega, by simp⟩
  · intro a ha
    rw [Int64.le_iff_toInt_le, hmib] at ha
    rw [toInt_roundDownCapacityPretty]
    exact Rounding.mul_sub_roundDown_lt hk hus (by omega)
  · intro a ha
    rw [Int64.le_iff_toInt_le, hmib] at ha
    rw [toInt_roundDownCapacityPretty]
    refine Rounding.dvd_roundDown hk hus ?_ ⟨2 ^ 20, by simp, ha⟩
    simp only [List.forall_mem_cons]
    exact ⟨by decide, by decide, by simp⟩
  · intro a ha
    rw [Int64.le_iff_toInt_le, hgib] at ha
    rw [toInt_roundDownCapacityPretty, Rounding.roundDown_cons_of_le hk (by norm_num) ha]
    exact dvd_mul_left _ _

/-! ## Statistics -/

/-- The exact number of bytes in so many blocks. -/
def Statfs.bytes (s : Statfs) (blocks : ℕ) : ℕ := blocks * s.bsize.toInt.toNat

/-- What the kernel may return. -/
structure Statfs.Regular (s : Statfs) : Prop where
  bsize : 0 < s.bsize
  bavail : s.bavail ≤ s.bfree
  bfree : s.bfree ≤ s.blocks
  ffree : s.ffree ≤ s.files

section Statistics

variable {s : Statfs} (hs : 0 < s.bsize)
include hs

lemma bsize_nonneg : 0 ≤ s.bsize.toInt := (Int64.lt_iff_toInt_lt.mp hs).le

lemma toInt_available :
    (fsInfo s).available.toInt = ((s.bytes s.bavail.toNat : ℕ) : ℤ).bmod (2 ^ 64) :=
  Machine.toInt_toInt64_mul (bsize_nonneg hs) _

lemma toInt_capacity :
    (fsInfo s).capacity.toInt = ((s.bytes s.blocks.toNat : ℕ) : ℤ).bmod (2 ^ 64) :=
  Machine.toInt_toInt64_mul (bsize_nonneg hs) _

lemma toInt_used (hle : s.bfree ≤ s.blocks) :
    (fsInfo s).used.toInt
      = ((s.bytes (s.blocks.toNat - s.bfree.toNat) : ℕ) : ℤ).bmod (2 ^ 64) :=
  Machine.toInt_sub_mul (bsize_nonneg hs) hle

end Statistics

/-! ## Where capacities come from -/

variable {h h' : Host} {p : String} {c : Int64}

lemma getVolumeDirCapacity_eq_ok : h.exec (getVolumeDirCapacity p) = (Except.ok c, h')
    ↔ ∃ s, h.step (Syscall.statfs p) = (Except.ok s, h')
      ∧ c = roundDownCapacityPretty (fsInfo s).capacity := by
  constructor
  · intro e
    obtain ⟨r, m, hs, hk⟩ := exec_bind_eq_ok.mp e
    obtain ⟨st, m', hs', hk'⟩ := exec_bind_eq_ok.mp hs
    cases hk'
    cases st with
    | error oe => cases hk
    | ok s =>
        cases hk
        exact ⟨s, exec_perform_eq.mp hs', rfl⟩
  · rintro ⟨s, hs, rfl⟩
    exact exec_bind_eq_ok.mpr ⟨_, h', exec_bind_eq_ok.mpr ⟨_, h', exec_perform_eq.mpr hs, rfl⟩, rfl⟩

/-- A request for a volume asks for the capacity of the pool first. -/
lemma HostPathController.createVolume_capacity {hpc : HostPathController}
    {req : CreateVolumeRequest} {v : Volume}
    (e : h.exec (hpc.createVolume (some req)) = (Except.ok v, h')) :
    ∃ m, h.exec (getVolumeDirCapacity (hpc.poolOf req).path) = (Except.ok v.capacityBytes, m) := by
  obtain ⟨req', m, hv, hk⟩ := exec_bind_eq_ok.mp e
  obtain ⟨hval, rfl⟩ := Prod.mk.inj ((exec_liftExcept h _).symm.trans hv)
  cases (validateCreateVolumeRequest_ok hval).1
  obtain ⟨u, m, ht, hk⟩ := exec_bind_eq_ok.mp hk
  obtain ⟨_, rfl⟩ := Prod.mk.inj ((exec_liftExcept h _).symm.trans ht)
  dsimp only at hk
  split_ifs at hk with hpool
  · cases hk
  obtain ⟨c, m, hc, hk⟩ := exec_bind_eq_ok.mp hk
  obtain ⟨u', m', hp, hk⟩ := exec_bind_eq_ok.mp hk
  cases hk
  exact ⟨m, hc⟩

namespace Sample

/-- A small file system, half full. -/
def statfs : Statfs := ⟨4096, 1000, 500, 400, 100, 50⟩

/-- The node, with file systems that all report the same. -/
def hostReporting (s : Statfs) : Host :=
  { host with outcomes := fun _ => { Outcome.fine with space := fun _ => s } }

end Sample

end Hostpath
