import Hostpath.Csi.Capacity
import Hostpath.Host.Mounts

/-!
# The health of a volume

Both health checks look whether the volume is there and then compare two numbers with zero: the
bytes available and the free inodes.  `healthy_iff` says what that amounts to in terms of what the
file system reports: there are free inodes, and the bytes available are not a multiple of
`2 ^ 64`.

A volume can take data if there is a block available and either there are free inodes or the file
system does not count inodes.  A volume that is reported healthy can take data, but not the other
way round, for three reasons (`health_accurate_iff`): a file system that does not count inodes has
no free ones; the product of the blocks and their size can wrap around to zero; and the check on
the node compares the path it was given, as a string, with the path of the mount.
-/

namespace Hostpath

open Lib FilePath Prog Host

variable {h h' : Host} {path : String} {l : Loc} {s : Statfs}

/-- At least one block is available, and an inode if the file system counts them. -/
def Statfs.CanTakeData (s : Statfs) : Prop := 0 < s.bavail ∧ (s.files = 0 ∨ 0 < s.ffree)

instance (s : Statfs) : Decidable s.CanTakeData :=
  inferInstanceAs (Decidable (0 < s.bavail ∧ (s.files = 0 ∨ 0 < s.ffree)))

/-- What is said of a volume with these statistics. -/
def PVStats.health (stats : PVStats) : Bool × String :=
  if stats.available = 0 then (false, "No space left on device")
  else if stats.inodesFree = 0 then (false, "No inodes remaining on device")
  else (true, "")

/-! ## The two numbers -/

lemma available_eq_zero_iff (hs : 0 < s.bsize) :
    (fsInfo s).available = 0 ↔ 2 ^ 64 ∣ s.bytes s.bavail.toNat := by
  rw [← Int64.toInt_inj, toInt_available hs, Int64.toInt_zero, Machine.bmod_eq_zero_iff]

lemma inodesFree_eq_zero_iff : (fsInfo s).inodesFree = 0 ↔ s.ffree = 0 := by
  have hlt := s.ffree.toNat_lt
  have hfree : (fsInfo s).inodesFree.toInt = (s.ffree.toNat : ℤ).bmod (2 ^ 64) :=
    Machine.toInt_toInt64 _
  rw [← Int64.toInt_inj, hfree, Int64.toInt_zero, Machine.bmod_eq_zero_iff, ← UInt64.toNat_inj,
    UInt64.toNat_zero]
  omega

lemma healthy_iff (hs : 0 < s.bsize) :
    (fsInfo s).health.1 = true ↔ ¬ 2 ^ 64 ∣ s.bytes s.bavail.toNat ∧ 0 < s.ffree := by
  rw [← available_eq_zero_iff hs, UInt64.pos_iff_ne_zero, ne_eq, ← inodesFree_eq_zero_iff]
  unfold PVStats.health
  by_cases ha : (fsInfo s).available = 0
  · simp [ha]
  · by_cases hi : (fsInfo s).inodesFree = 0 <;> simp [ha, hi]

/-- A volume that is reported healthy can take data. -/
lemma canTakeData_of_healthy (hs : 0 < s.bsize) (h : (fsInfo s).health.1 = true) :
    s.CanTakeData := by
  obtain ⟨hbytes, hfree⟩ := (healthy_iff hs).mp h
  refine ⟨UInt64.pos_iff_ne_zero.mpr fun hzero => hbytes ?_, Or.inr hfree⟩
  simp [Statfs.bytes, hzero]

/-! ## The two checks -/

lemma exec_checkIfSpaceAvailable (hf : (h.outcomes 0).fault = none) (hl : locate path = some l)
    (hn : h.fs.node l ≠ none) :
    h.exec (checkIfSpaceAvailable path)
      = (Except.ok (fsInfo ((h.outcomes 0).space l)).health, h.tick) := by
  have hstep : h.step (Syscall.statfs path) = (Except.ok ((h.outcomes 0).space l), h.tick) :=
    Prod.ext (statfs_of_noFault hf hl hn) rfl
  have hget : h.exec (getPVStats path)
      = (Except.ok (Except.ok (fsInfo ((h.outcomes 0).space l))), h.tick) :=
    exec_bind_of_ok step (exec_perform_eq.mpr hstep)
  refine (exec_bind_of_ok step hget).trans ?_
  unfold PVStats.health
  dsimp only
  split_ifs <;> rfl

lemma exec_healthCheck_controller (hf : h.NoFaults) (hl : locate path = some l)
    (hn : h.fs.node l ≠ none) :
    h.exec (doHealthCheckInControllerSide path)
      = (Except.ok (fsInfo ((h.outcomes 1).space l)).health, h.tick.tick) := by
  have hex := checkPathExist_of_node (hf 0) hl hn
  refine (exec_bind_of_ok step (exec_attempt_eq.mpr hex)).trans ?_
  exact exec_checkIfSpaceAvailable (h := h.tick) (hf 1) hl hn

/-- The command lists the mounts on a target under the absolute path of the target. -/
lemma findmnt_of_mounted (hf : (h.outcomes 0).fault = none) (hl : locate path = some l)
    (hm : h.top l ≠ none) :
    ∃ info infos, h.step (Syscall.findmnt path) = (Except.ok (info :: infos), h.tick)
      ∧ ∀ i ∈ info :: infos, i.target = absPath l := by
  obtain ⟨m, hm⟩ := Option.ne_none_iff_exists'.mp hm
  have hmem := List.mem_of_find?_eq_some hm
  have htarget : m.target = l := by simpa using List.find?_some hm
  set found := h.mounts.filter fun m => some m.target = locate path with hfound
  have hne : found ≠ [] :=
    List.ne_nil_of_mem (List.mem_filter.mpr ⟨hmem, by simp [htarget, hl]⟩)
  have hstep : h.step (Syscall.findmnt path)
      = (Except.ok (found.map fun m => ⟨absPath m.target⟩), h.tick) := by
    refine Prod.ext ?_ rfl
    show h.tick.findmnt (h.outcomes 0) path = _
    have hno : ¬ ((h.outcomes 0).fault.isSome = true ∨ found = []) := by
      simp only [hf, Option.isSome_none, Bool.false_eq_true, false_or]
      exact hne
    exact if_neg hno
  have htargets : ∀ i ∈ found.map fun m => (⟨absPath m.target⟩ : MountPointInfo),
      i.target = absPath l := by
    intro i hi
    obtain ⟨m', hm', rfl⟩ := List.mem_map.mp hi
    have hloc := (List.mem_filter.mp hm').2
    rw [hl] at hloc
    simp_all
  cases hlist : found.map fun m => (⟨absPath m.target⟩ : MountPointInfo) with
  | nil => exact absurd (List.map_eq_nil_iff.mp hlist) hne
  | cons info infos => exact ⟨info, infos, hlist ▸ hstep, hlist ▸ htargets⟩

lemma exec_checkMountPointExist (hf : (h.outcomes 0).fault = none) (hl : locate path = some l)
    (hm : h.top l ≠ none) :
    h.exec (checkMountPointExist path) = (Except.ok (decide (absPath l = path)), h.tick) := by
  obtain ⟨info, infos, hstep, htargets⟩ := findmnt_of_mounted hf hl hm
  have hget : h.exec (getMountInfos path) = (Except.ok (info :: infos), h.tick) :=
    exec_bind_of_ok step (exec_perform_eq.mpr hstep)
  refine (exec_bind_of_ok step hget).trans ?_
  have hany : ((info :: infos).any fun i => decide (i.target = path)) = decide (absPath l = path) := by
    rw [Bool.eq_iff_iff, List.any_eq_true, decide_eq_true_iff]
    constructor
    · rintro ⟨i, hi, hpath⟩
      rw [← htargets i hi]
      simpa using hpath
    · intro hpath
      exact ⟨info, List.mem_cons_self, by simp [htargets info List.mem_cons_self, hpath]⟩
  rw [hany]
  rfl

lemma exec_healthCheck_node (hf : h.NoFaults) (hl : locate path = some l)
    (hn : h.fs.node l ≠ none) (hm : h.top l ≠ none) :
    h.exec (doHealthCheckInNodeSide path)
      = if absPath l = path then
          (Except.ok (fsInfo ((h.outcomes 1).space l)).health, h.tick.tick)
        else (Except.ok (false, "The volume isn't mounted"), h.tick) := by
  have hex := exec_checkMountPointExist (hf 0) hl hm
  refine (exec_bind_of_ok step (exec_attempt_eq.mpr hex)).trans ?_
  by_cases hpath : absPath l = path
  · rw [decide_eq_true hpath, if_pos hpath]
    exact exec_checkIfSpaceAvailable (h := h.tick) (hf 1) hl hn
  · rw [decide_eq_false hpath, if_neg hpath]
    rfl

/-! ## When the checks are right -/

/-- The check returns, and says healthy exactly if the volume can take data. -/
def Accurate (s : Statfs) (h : Host) (check : Sys (Bool × String)) : Prop :=
  ∃ healthy msg m, h.exec check = (Except.ok (healthy, msg), m) ∧ (healthy = true ↔ s.CanTakeData)

lemma accurate_of_exec {check : Sys (Bool × String)} {r : Bool × String}
    (e : h.exec check = (Except.ok r, h')) :
    Accurate s h check ↔ (r.1 = true ↔ s.CanTakeData) := by
  constructor
  · rintro ⟨healthy, msg, m, e', hiff⟩
    rw [e] at e'
    cases e'
    exact hiff
  · exact fun hiff => ⟨r.1, r.2, h', e, hiff⟩

/-- **When both health checks are right** about a volume that is there and mounted: exactly if, in
case the volume can take data, its path is spelled as the mount's, the file system reports free
inodes, and the bytes available do not wrap around to zero. -/
theorem health_accurate_iff (hf : h.NoFaults) (hl : locate path = some l)
    (hn : h.fs.node l ≠ none) (hm : h.top l ≠ none) (hspace : (h.outcomes 1).space l = s)
    (hs : 0 < s.bsize) :
    Accurate s h (doHealthCheckInControllerSide path) ∧ Accurate s h (doHealthCheckInNodeSide path)
      ↔ (s.CanTakeData →
        absPath l = path ∧ 0 < s.ffree ∧ ¬ 2 ^ 64 ∣ s.bytes s.bavail.toNat) := by
  have hctrl := exec_healthCheck_controller hf hl hn
  have hnode := exec_healthCheck_node hf hl hn hm
  rw [hspace] at hctrl hnode
  rw [accurate_of_exec hctrl]
  by_cases hpath : absPath l = path
  · rw [if_pos hpath] at hnode
    rw [accurate_of_exec hnode, and_self]
    constructor
    · intro hiff hdata
      obtain ⟨hbytes, hfree⟩ := (healthy_iff hs).mp (hiff.mpr hdata)
      exact ⟨hpath, hfree, hbytes⟩
    · intro himp
      refine ⟨canTakeData_of_healthy hs, fun hdata => ?_⟩
      obtain ⟨_, hfree, hbytes⟩ := himp hdata
      exact (healthy_iff hs).mpr ⟨hbytes, hfree⟩
  · rw [if_neg hpath] at hnode
    rw [accurate_of_exec hnode]
    constructor
    · rintro ⟨_, hiff⟩ hdata
      exact absurd (hiff.mpr hdata) (by simp)
    · intro himp
      have hdata : ¬ s.CanTakeData := fun hdata => hpath (himp hdata).1
      exact ⟨⟨canTakeData_of_healthy hs, fun h => absurd h hdata⟩, by simp [hdata]⟩

namespace Sample

/-- The node, with the volume mounted where it is. -/
def boundHost (s : Statfs) : Host :=
  { hostReporting s with mounts := [⟨["pool", "vol"], ["pool", "vol"], ["bind"]⟩] }

/-- A file system that does not count inodes. -/
def uncountedStatfs : Statfs := ⟨4096, 1000, 500, 400, 0, 0⟩

/-- A file system with as many bytes available as there are 64-bit numbers. -/
def wrappingStatfs : Statfs := ⟨4096, 2 ^ 52, 2 ^ 52, 2 ^ 52, 100, 50⟩

/-- What the two checks say. -/
def controllerHealth (s : Statfs) (path : String) : Except Err (Bool × String) :=
  ((boundHost s).exec (doHealthCheckInControllerSide path)).1

def nodeHealth (s : Statfs) (path : String) : Except Err (Bool × String) :=
  ((boundHost s).exec (doHealthCheckInNodeSide path)).1

end Sample

theorem sample_health_accurate :
    Accurate Sample.statfs (Sample.boundHost Sample.statfs)
        (doHealthCheckInControllerSide "/pool/vol")
      ∧ Accurate Sample.statfs (Sample.boundHost Sample.statfs)
        (doHealthCheckInNodeSide "/pool/vol") :=
  (health_accurate_iff (l := ["pool", "vol"]) (fun _ => rfl) (by decide) (by decide) (by decide) rfl
    (by decide)).mpr fun _ => ⟨by decide, by decide, by decide⟩

/-- Volumes that can take data and are reported as abnormal: on a file system that does not count
inodes, on one whose bytes available wrap around, and for a path with a slash at the end. -/
theorem health_inaccurate :
    (Sample.uncountedStatfs.CanTakeData
        ∧ (Sample.controllerHealth Sample.uncountedStatfs "/pool/vol").toOption
            = some (false, "No inodes remaining on device")
        ∧ (Sample.nodeHealth Sample.uncountedStatfs "/pool/vol").toOption
            = some (false, "No inodes remaining on device"))
      ∧ (Sample.wrappingStatfs.CanTakeData
        ∧ (Sample.controllerHealth Sample.wrappingStatfs "/pool/vol").toOption
            = some (false, "No space left on device"))
      ∧ Sample.statfs.CanTakeData
        ∧ (Sample.nodeHealth Sample.statfs "/pool/vol/").toOption
            = some (false, "The volume isn't mounted") := by
  refine ⟨⟨by decide, by decide, by decide⟩, ⟨by decide, by decide⟩, by decide, by decide⟩

end Hostpath
