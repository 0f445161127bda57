import Hostpath.Csi.Capacity
import Hostpath.Csi.Driver
import Hostpath.Legacy.Provisioner

/-!
# The capacities that the two provisioners report

Both binaries read the counts of a file system and report a capacity, and each has its own copy of
the rounding.  The copies agree and are sound (`rounding_sound`).

The arithmetic before the rounding is another matter: a count of blocks times the block size need
not fit into 64 bits.  `stats_consistent_iff` says exactly when the statistics are consistent: the
bytes in total, reduced modulo `2 ^ 64`, stay below `2 ^ 63` and leave room for the bytes in use and
the bytes available, reduced in the same way, and the number of inodes is below `2 ^ 63`.  A file
system of less than `2 ^ 63` bytes is always well (`statsFit_of_lt`); one of exactly that size is
reported with a negative capacity (`capacity_negative`).
-/

namespace Hostpath

open Lib FilePath Prog Host Legacy

/-! ## Rounding -/

lemma roundDownCapacityPretty_copies (a : Int64) :
    Legacy.roundDownCapacityPretty a = roundDownCapacityPretty a := rfl

/-- **The rounding is sound**, nothing in it overflows, and its two copies agree. -/
theorem rounding_sound :
    SoundRounding roundDownCapacityPretty
      ∧ (∀ a, ∀ unit ∈ [gib, mib], NoOverflow a unit)
      ∧ ∀ a, Legacy.roundDownCapacityPretty a = roundDownCapacityPretty a := by
  refine ⟨roundDownCapacityPretty_rounds, ?_, roundDownCapacityPretty_copies⟩
  intro a unit hunit
  have hpos := units_pos unit hunit
  exact ⟨Machine.toInt_div hpos, Machine.toInt_div_mul hpos⟩

/-! ## Statistics -/

/-- A capacity that one of the two provisioners computes from what a file system reports. -/
inductive DerivedCapacity (s : Statfs) : Int64 → Prop where
  | createVolume {hpc : HostPathController} {h h' : Host} {req : CreateVolumeRequest} {v : Volume}
      (hs : (h.step (Syscall.statfs (hpc.poolOf req).path)).1 = Except.ok s)
      (e : h.exec (hpc.createVolume (some req)) = (Except.ok v, h')) :
      DerivedCapacity s v.capacityBytes
  | calculatePvCapacity {p : HostPathProvisioner} {w w' : Cluster} {path : String} {c : Int64}
      (hs : ((w.hosts p.nodeName).step (Syscall.statfs path)).1 = Except.ok s)
      (e : w.exec (p.calculatePvCapacity path) = (Except.ok (Except.ok c), w')) :
      DerivedCapacity s c

structure StatsConsistent (s : Statfs) : Prop where
  available : 0 ≤ (fsInfo s).available
  used : 0 ≤ (fsInfo s).used
  total : (fsInfo s).used.toInt + (fsInfo s).available.toInt ≤ (fsInfo s).capacity.toInt
  inodesFree : 0 ≤ (fsInfo s).inodesFree
  inodesFree_le : (fsInfo s).inodesFree ≤ (fsInfo s).inodes
  inodes : (fsInfo s).inodesUsed.toInt + (fsInfo s).inodesFree.toInt = (fsInfo s).inodes.toInt
  derived : ∀ c, DerivedCapacity s c → 0 ≤ c ∧ c.toInt ≤ s.bytes s.blocks.toNat

/-- The numbers of bytes fit, up to multiples of `2 ^ 64`, and so does the number of inodes. -/
structure StatsFit (s : Statfs) : Prop where
  files : s.files.toNat < 2 ^ 63
  capacity : s.bytes s.blocks.toNat % 2 ^ 64 < 2 ^ 63
  total : s.bytes (s.blocks.toNat - s.bfree.toNat) % 2 ^ 64 + s.bytes s.bavail.toNat % 2 ^ 64
    ≤ s.bytes s.blocks.toNat % 2 ^ 64

variable {s : Statfs}

lemma DerivedCapacity.eq {c : Int64} (hc : DerivedCapacity s c) :
    c = roundDownCapacityPretty (fsInfo s).capacity := by
  cases hc with
  | createVolume hs e =>
      obtain ⟨m, hm⟩ := HostPathController.createVolume_capacity e
      obtain ⟨s', hs', hc⟩ := getVolumeDirCapacity_eq_ok.mp hm
      rw [hs'] at hs
      cases hs
      exact hc
  | @calculatePvCapacity p w w' path c hs e =>
      have hstep : (w.step (Call.backend ⟨p.nodeName, Syscall.statfs path⟩)).1 = Except.ok s := hs
      unfold HostPathProvisioner.calculatePvCapacity at e
      rw [HostPathProvisioner.exec_onNode, hstep] at e
      cases e
      exact roundDownCapacityPretty_copies _

/-- A file system of less than `2 ^ 63` bytes and inodes. -/
lemma statsFit_of_lt (hs : s.Regular) (hb : s.bytes s.blocks.toNat < 2 ^ 63)
    (hf : s.files.toNat < 2 ^ 63) : StatsFit s := by
  have havail := UInt64.le_iff_toNat_le.mp hs.bavail
  have hfree := UInt64.le_iff_toNat_le.mp hs.bfree
  have hsum : s.bytes (s.blocks.toNat - s.bfree.toNat) + s.bytes s.bavail.toNat
      ≤ s.bytes s.blocks.toNat := by
    unfold Statfs.bytes
    rw [← Nat.add_mul]
    exact Nat.mul_le_mul_right _ (by omega)
  exact ⟨hf, by omega, by omega⟩

/-- The inodes are counted right exactly if their number fits. -/
lemma inodes_iff (hle : s.ffree ≤ s.files) :
    (0 ≤ (fsInfo s).inodesFree ∧ (fsInfo s).inodesFree ≤ (fsInfo s).inodes
      ∧ (fsInfo s).inodesUsed.toInt + (fsInfo s).inodesFree.toInt = (fsInfo s).inodes.toInt)
      ↔ s.files.toNat < 2 ^ 63 := by
  have hle' := UInt64.le_iff_toNat_le.mp hle
  have hfiles := s.files.toNat_lt
  have hfree : (fsInfo s).inodesFree.toInt = (s.ffree.toNat : ℤ).bmod (2 ^ 64) :=
    Machine.toInt_toInt64 _
  have htotal : (fsInfo s).inodes.toInt = (s.files.toNat : ℤ).bmod (2 ^ 64) :=
    Machine.toInt_toInt64 _
  have hused : (fsInfo s).inodesUsed.toInt
      = ((fsInfo s).inodes.toInt - (fsInfo s).inodesFree.toInt).bmod (2 ^ 64) := Int64.toInt_sub _ _
  rw [Int64.le_iff_toInt_le, Int64.le_iff_toInt_le, hused, hfree, htotal]
  simp only [Int64.toInt_zero, Int.bmod_def]
  constructor
  · rintro ⟨h₁, h₂, -⟩
    split_ifs at h₁ h₂ <;> omega
  · intro h
    split_ifs <;> omega

/-- **When the statistics are consistent.** -/
theorem stats_consistent_iff (hs : s.Regular) : StatsConsistent s ↔ StatsFit s := by
  have havail := toInt_available hs.bsize
  have hcap := toInt_capacity hs.bsize
  have hused := toInt_used hs.bsize hs.bfree
  constructor
  · intro h
    have htotal := h.total
    have h₁ := Int64.le_iff_toInt_le.mp h.available
    have h₂ := Int64.le_iff_toInt_le.mp h.used
    rw [Int64.toInt_zero] at h₁ h₂
    have h₃ : 0 ≤ (fsInfo s).capacity.toInt := by omega
    rw [havail, Machine.bmod_nonneg_iff] at h₁
    rw [hused, Machine.bmod_nonneg_iff] at h₂
    rw [hcap, Machine.bmod_nonneg_iff] at h₃
    rw [havail, hused, hcap, Machine.bmod_of_lt h₁, Machine.bmod_of_lt h₂,
      Machine.bmod_of_lt h₃] at htotal
    exact ⟨(inodes_iff hs.ffree).mp ⟨h.inodesFree, h.inodesFree_le, h.inodes⟩, h₃,
      by exact_mod_cast htotal⟩
  · intro h
    have htotal := h.total
    have h₃ := h.capacity
    have h₁ : s.bytes s.bavail.toNat % 2 ^ 64 < 2 ^ 63 := by omega
    have h₂ : s.bytes (s.blocks.toNat - s.bfree.toNat) % 2 ^ 64 < 2 ^ 63 := by omega
    rw [Machine.bmod_of_lt h₁] at havail
    rw [Machine.bmod_of_lt h₂] at hused
    rw [Machine.bmod_of_lt h₃] at hcap
    obtain ⟨i₁, i₂, i₃⟩ := (inodes_iff hs.ffree).mpr h.files
    refine ⟨?_, ?_, ?_, i₁, i₂, i₃, ?_⟩
    · rw [Int64.le_iff_toInt_le, havail]
      exact Int.natCast_nonneg _
    · rw [Int64.le_iff_toInt_le, hused]
      exact Int.natCast_nonneg _
    · rw [havail, hused, hcap]
      exact_mod_cast htotal
    · intro c hc
      rw [hc.eq]
      have hle := Int64.le_iff_toInt_le.mp (roundDownCapacityPretty_rounds.le (fsInfo s).capacity)
      have hzero := roundDownCapacityPretty_rounds.mono 0 (fsInfo s).capacity
        (Int64.le_iff_toInt_le.mpr (by rw [hcap]; exact Int.natCast_nonneg _))
      refine ⟨hzero, hle.trans ?_⟩
      rw [hcap]
      exact_mod_cast Nat.mod_le _ _

namespace Sample

/-- A file system of eight exbibytes, all of them free. -/
def hugeStatfs : Statfs := ⟨4096, 2 ^ 51, 2 ^ 51, 2 ^ 51, 100, 100⟩

end Sample

theorem sample_stats_consistent : StatsConsistent Sample.statfs := by
  have hs : Sample.statfs.Regular := ⟨by decide, by decide, by decide, by decide⟩
  exact (stats_consistent_iff hs).mpr (statsFit_of_lt hs (by decide) (by decide))

/-- A volume on the huge file system has a negative capacity, and so do the bytes available. -/
theorem capacity_negative :
    Sample.hugeStatfs.Regular ∧ (fsInfo Sample.hugeStatfs).available.toInt = -2 ^ 63
      ∧ ∃ v h', (Sample.hostReporting Sample.hugeStatfs).exec
            (Sample.controller.createVolume (some (Sample.volumeRequest "new")))
          = (Except.ok v, h') ∧ v.capacityBytes.toInt = -2 ^ 63 :=
  ⟨⟨by decide, by decide, by decide, by decide⟩, by decide, _, _, Prod.ext rfl rfl, by decide⟩

end Hostpath
