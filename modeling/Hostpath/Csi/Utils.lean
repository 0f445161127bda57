import Hostpath.Csi.Messages

/-!
# Configuration and helpers

The driver's configuration and the helpers its handlers share: capacity from a statfs record,
existence checks, making and removing a volume directory, the listing of all volume directories,
and the health check.
-/

namespace Hostpath

open Lib FilePath Prog

/-! ## Configuration -/

inductive SnapshotProviderType where
  | reflink
  | unsupported (name : String)
  deriving DecidableEq, Repr

/-- One entry of the storage pool list the driver is started with. -/
structure StoragePoolInfo where
  name : String
  path : String
  snapshotPath : Option String
  snapshotProvider : Option SnapshotProviderType
  shared : Bool
  deriving DecidableEq, Repr

/-- What a map lookup gives for a missing key. -/
instance : Inhabited StoragePoolInfo := ⟨⟨"", "", none, none, false⟩⟩

structure Config where
  driverName : String
  endpoint : String
  nodeID : String
  storagePoolInfo : GoMap StoragePoolInfo
  defaultStoragePoolName : String
  version : String

namespace Config

/-- `cfg.StoragePoolInfo[name]`. -/
def pool (cfg : Config) (name : String) : StoragePoolInfo :=
  (cfg.storagePoolInfo.lookup name).getD default

/-- The pools in the order the map is iterated over. -/
def pools (cfg : Config) : List StoragePoolInfo := cfg.storagePoolInfo.entries.map fun e => e.2

end Config

def storagePoolName : String := "storagePool"

def legacyStoragePoolName : String := "legacy"

def getStoragePoolNameFromMap (params : GoMap String) : String :=
  (params.lookup storagePoolName).getD legacyStoragePoolName

def topologyKeyNode : String := "topology.hostpath.csi/node"

def ephemeralContextKey : String := "csi.storage.k8s.io/ephemeral"

/-! ## Capacity -/

def kib : Int64 := 1024

def mib : Int64 := kib * 1024

def gib : Int64 := mib * 1024

/-- Round down to the largest unit of which there are at least ten. -/
def roundDownCapacityPretty (capacityBytes : Int64) : Int64 :=
  match [gib, mib].find? fun unit => 10 ≤ capacityBytes / unit with
  | some unit => capacityBytes / unit * unit
  | none => capacityBytes

structure PVStats where
  available : Int64
  capacity : Int64
  used : Int64
  inodes : Int64
  inodesFree : Int64
  inodesUsed : Int64

/-- The statistics computed from a statfs record, in 64-bit signed arithmetic. -/
def fsInfo (s : Statfs) : PVStats where
  available := s.bavail.toInt64 * s.bsize
  capacity := s.blocks.toInt64 * s.bsize
  used := (s.blocks.toInt64 - s.bfree.toInt64) * s.bsize
  inodes := s.files.toInt64
  inodesFree := s.ffree.toInt64
  inodesUsed := s.files.toInt64 - s.ffree.toInt64

def getPVStats (path : String) : Sys (Except OsError PVStats) := do
  return (← perform (Syscall.statfs path)).map fsInfo

def getVolumeDirCapacity (path : String) : Sys Int64 := do
  match ← getPVStats path with
  | Except.error e => throw (Err.status Code.internal
      ("Unable to determine capacity for volume " ++ base path ++ ": " ++ e.text))
  | Except.ok stats => return roundDownCapacityPretty stats.capacity

/-! ## Directories -/

def checkPathExist (path : String) : Sys Bool := do
  match ← perform (Syscall.stat path) with
  | Except.error e => if e.isNotExist then return false else throw (Err.plain e.text)
  | Except.ok _ => return true

def createVolumeDirectory (dir volID : String) : Sys Unit := do
  orReturn (← perform (Syscall.mkdirAll (join [dir, volID])))

/-- Remove the directory of a volume; that it does not exist is not an error. -/
def deleteVolume (dir volID : String) : Sys Unit := do
  match ← perform (Syscall.removeAll (join [dir, volID])) with
  | Except.error e => if e.isNotExist then return () else throw (Err.plain e.text)
  | Except.ok _ => return ()

def indexOfStartingToken (value : String) (list : List String) : Option ℕ :=
  list.findIdx? fun d => base d = value

/-- The directories in the pools, one pool after the other. -/
def poolDirectories : List StoragePoolInfo → Sys (List String)
  | [] => pure []
  | info :: infos => do
      let files ← orReturn (← perform (Syscall.readDir info.path))
      let rest ← poolDirectories infos
      return ((files.filter fun f => f.isDir).map fun f => join [info.path, f.name]) ++ rest

def getStoragePoolDataDirectories (infos : List StoragePoolInfo) : Sys (List String) := do
  return (← poolDirectories infos).insertionSort (· ≤ ·)

/-- The last directory with the given base name, or the empty string. -/
def volumePathOf (volumeDirs : List String) (volumeId : String) : String :=
  volumeDirs.foldl (fun found d => if base d = volumeId then d else found) ""

/-- Remove the last directory with the given base name, if there is one. -/
def removeVolumeNamed (infos : List StoragePoolInfo) (volumeId : String)
    (failed : String → String) : Sys Unit := do
  let volumePath := volumePathOf (← getStoragePoolDataDirectories infos) volumeId
  if volumePath = "" then return ()
  else match ← attempt (deleteVolume (dir volumePath) volumeId) with
    | Except.ok _ => return ()
    | Except.error e => throw (Err.plain (failed e.text))

/-- The capacity of each pool by its path. -/
def capacityMap : List StoragePoolInfo → GoMap Int64 → Sys (GoMap Int64)
  | [], m => pure m
  | info :: infos, m => do
      let capacity ← getVolumeDirCapacity info.path
      capacityMap infos (m.insert info.path capacity)

def getFileCreationTime (file : String) : Sys ℕ := do
  match ← perform (Syscall.stat file) with
  | Except.error e => throw (Err.plain e.bare.text)
  | Except.ok info => return info.ctime / 1000000000 * 1000000000

/-! ## Health -/

def checkIfSpaceAvailable (volumePath : String) : Sys (Bool × String) := do
  match ← getPVStats volumePath with
  | Except.error e => return (false, e.text)
  | Except.ok stats =>
      if stats.available = 0 then return (false, "No space left on device")
      else if stats.inodesFree = 0 then return (false, "No inodes remaining on device")
      else return (true, "")

def doHealthCheckInControllerSide (volumePath : String) : Sys (Bool × String) := do
  match ← attempt (checkPathExist volumePath) with
  | Except.error e => return (false, e.text)
  | Except.ok false => return (false, "The source path of the volume doesn't exist")
  | Except.ok true => checkIfSpaceAvailable volumePath

def getMountInfos (path : String) : Sys (List MountPointInfo) := do
  match ← perform (Syscall.findmnt path) with
  | Except.error e => throw (Err.plain e.text)
  | Except.ok [] => throw (Err.plain "failed to parse the mount infos: failed to get mount info")
  | Except.ok infos => return infos

def checkMountPointExist (volumePath : String) : Sys Bool := do
  return (← getMountInfos volumePath).any fun mountInfo => mountInfo.target = volumePath

def doHealthCheckInNodeSide (volumePath : String) : Sys (Bool × String) := do
  match ← attempt (checkMountPointExist volumePath) with
  | Except.error e => return (false, e.text)
  | Except.ok false => return (false, "The volume isn't mounted")
  | Except.ok true => checkIfSpaceAvailable volumePath

/-! ## What the helpers do -/

section Specs

open Host

variable {h h' : Host} {p d n : String}

lemma checkPathExist_ok {b : Bool} (e : h.exec (checkPathExist p) = (Except.ok b, h')) :
    h' = h.tick ∧ b = (h.at? p).isSome := by
  obtain ⟨r, m, hs, hk⟩ := exec_bind_eq_ok.mp e
  have hstep := exec_perform_eq.mp hs
  cases r with
  | ok info =>
      obtain ⟨rfl, l, x, hl, hx, _⟩ := stat_ok hstep
      cases hk
      exact ⟨rfl, by simp [at?, hl, hx]⟩
  | error err =>
      obtain ⟨rfl, hnone, _⟩ := stat_error hstep
      dsimp only at hk
      split_ifs at hk with hne
      · cases hk
        exact ⟨rfl, by simp [hnone hne]⟩
      · cases hk

lemma checkPathExist_error {err : Err}
    (e : h.exec (checkPathExist p) = (Except.error err, h')) : h' = h.tick := by
  rcases exec_bind_eq_error.mp e with hs | ⟨r, m, hs, hk⟩
  · exact absurd hs exec_perform_ne_error
  · have hstep := exec_perform_eq.mp hs
    cases r with
    | ok info => cases hk
    | error oe =>
        obtain ⟨rfl, _⟩ := stat_error hstep
        dsimp only at hk
        split_ifs at hk
        · cases hk
        · cases hk
          rfl

/-- Without a failure the check finds what is there. -/
lemma checkPathExist_of_noFault (hf : (h.outcomes 0).fault = none)
    (hb : h.at? p ≠ none ∨ h.lookup p = Except.error Errno.notExist) :
    h.exec (checkPathExist p) = (Except.ok (h.at? p).isSome, h.tick) := by
  rcases hx : h.exec (checkPathExist p) with ⟨r, m⟩
  cases r with
  | ok b =>
      obtain ⟨rfl, rfl⟩ := checkPathExist_ok hx
      rfl
  | error err =>
      exfalso
      rcases exec_bind_eq_error.mp hx with hs | ⟨r, m, hs, hk⟩
      · exact exec_perform_ne_error hs
      · have hstep := exec_perform_eq.mp hs
        cases r with
        | ok info => cases hk
        | error oe =>
            obtain ⟨rfl, _, hne⟩ := stat_error hstep
            dsimp only at hk
            split_ifs at hk with hoe
            · cases hk
            rcases hb with hb | hb
            · obtain ⟨hr, _⟩ := Prod.mk.inj hstep
              rcases ask_error hr with ⟨hf', _⟩ | ⟨k, hk', _⟩
              · exact hf' hf
              · unfold Host.stat at hk'
                cases hl : h.tick.lookup p with
                | ok x => simp [hl, Except.map] at hk'
                | error j => exact hb (lookup_eq_error hl).1
            · exact hoe (hne hf hb)

lemma checkPathExist_of_node {l : Loc} (hf : (h.outcomes 0).fault = none)
    (hl : locate p = some l) (hn : h.fs.node l ≠ none) :
    h.exec (checkPathExist p) = (Except.ok true, h.tick) := by
  have hat : h.at? p ≠ none := by simpa [at?, hl] using hn
  rw [checkPathExist_of_noFault hf (Or.inl hat), Option.isSome_iff_ne_none.mpr hat]

lemma checkPathExist_of_missing {l : Loc} (hf : (h.outcomes 0).fault = none)
    (hl : locate p = some l) (hn : h.fs.node l = none) (hb : h.fs.blocked l = false) :
    h.exec (checkPathExist p) = (Except.ok false, h.tick) := by
  rw [checkPathExist_of_noFault hf (Or.inr (lookup_error_of_none hl hn hb))]
  simp [at?, hl, hn]

lemma getVolumeDirCapacity_ok {c : Int64} (e : h.exec (getVolumeDirCapacity p) = (Except.ok c, h')) :
    h' = h.tick ∧ ∃ l, locate p = some l ∧ h.fs.node l ≠ none := by
  obtain ⟨r, m, hs, hk⟩ := exec_bind_eq_ok.mp e
  obtain ⟨s, m', hs', hk'⟩ := exec_bind_eq_ok.mp hs
  have hstep := exec_perform_eq.mp hs'
  cases hk'
  cases s with
  | error oe => cases hk
  | ok st =>
      cases hk
      exact ⟨(congrArg Prod.snd hstep).symm, (statfs_ok (congrArg Prod.fst hstep)).2⟩

lemma getVolumeDirCapacity_error {err : Err}
    (e : h.exec (getVolumeDirCapacity p) = (Except.error err, h')) : h' = h.tick := by
  rcases exec_bind_eq_error.mp e with hs | ⟨r, m, hs, hk⟩
  · rcases exec_bind_eq_error.mp hs with hs' | ⟨s, m', _, hk'⟩
    · exact absurd hs' exec_perform_ne_error
    · cases hk'
  · obtain ⟨s, m', hs', hk'⟩ := exec_bind_eq_ok.mp hs
    have hstep := exec_perform_eq.mp hs'
    cases hk'
    cases s with
    | error oe =>
        cases hk
        exact (congrArg Prod.snd hstep).symm
    | ok st => cases hk

lemma getVolumeDirCapacity_of_noFault (hf : (h.outcomes 0).fault = none) {l : Loc}
    (hl : locate p = some l) (hn : h.fs.node l ≠ none) :
    ∃ c, h.exec (getVolumeDirCapacity p) = (Except.ok c, h.tick) := by
  have hstep : h.step (Syscall.statfs p) = (Except.ok ((h.outcomes 0).space l), h.tick) :=
    Prod.ext (statfs_of_noFault hf hl hn) rfl
  refine ⟨_, exec_bind_eq_ok.mpr ⟨_, h.tick, exec_bind_eq_ok.mpr ⟨_, h.tick,
    exec_perform_eq.mpr hstep, rfl⟩, rfl⟩⟩

lemma createVolumeDirectory_ok {u : Unit}
    (e : h.exec (createVolumeDirectory d n) = (Except.ok u, h')) :
    ∃ l, locate (join [d, n]) = some l ∧ h.fs.blocked l = false
      ∧ h' = h.tick.made l fun _ => true := by
  obtain ⟨r, m, hs, hk⟩ := exec_bind_eq_ok.mp e
  obtain ⟨rfl, rfl⟩ := exec_orReturn_ok.mp hk
  exact mkdirAll_ok (exec_perform_eq.mp hs)

lemma createVolumeDirectory_error {err : Err}
    (e : h.exec (createVolumeDirectory d n) = (Except.error err, h')) :
    h' = h.tick ∨ ∃ l, ∃ reach : Loc → Bool, locate (join [d, n]) = some l ∧ h.fs.blocked l = false
      ∧ h' = h.tick.made l fun q => reach q && q ≠ l := by
  rcases exec_bind_eq_error.mp e with hs | ⟨r, m, hs, hk⟩
  · exact absurd hs exec_perform_ne_error
  · obtain ⟨⟨oe, rfl, _⟩, rfl⟩ := exec_orReturn_error hk
    rcases mkdirAll_error (exec_perform_eq.mp hs) with ⟨h₁, _⟩ | ⟨l, reach, hl, hb, _, rfl⟩
    · exact Or.inl h₁
    · exact Or.inr ⟨l, reach, hl, hb, rfl⟩

/-- A removal that succeeded took away the directory and everything in it. -/
lemma deleteVolume_ok {u : Unit} (e : h.exec (deleteVolume d n) = (Except.ok u, h')) :
    (locate (join [d, n]) = none ∧ h' = h.tick)
      ∨ ∃ l, locate (join [d, n]) = some l ∧ l ≠ [] ∧ ¬ h.MountedBelow l
        ∧ h' = h.tick.cleared l fun _ => true := by
  obtain ⟨r, m, hs, hk⟩ := exec_bind_eq_ok.mp e
  have hstep := exec_perform_eq.mp hs
  cases r with
  | error oe =>
      obtain ⟨hne, _⟩ := removeAll_error hstep
      dsimp only at hk
      rw [hne] at hk
      cases hk
  | ok v =>
      cases hk
      rcases removeAll_ok hstep with h₁ | ⟨l, hl, hne, hm, _, rfl⟩
      · exact Or.inl h₁
      · exact Or.inr ⟨l, hl, hne, hm, rfl⟩

lemma deleteVolume_error {err : Err} (e : h.exec (deleteVolume d n) = (Except.error err, h')) :
    h' = h.tick ∨ ∃ l gone, locate (join [d, n]) = some l ∧ h' = h.tick.cleared l gone := by
  rcases exec_bind_eq_error.mp e with hs | ⟨r, m, hs, hk⟩
  · exact absurd hs exec_perform_ne_error
  · have hstep := exec_perform_eq.mp hs
    cases r with
    | ok v => cases hk
    | error oe =>
        obtain ⟨hne, hh⟩ := removeAll_error hstep
        dsimp only at hk
        rw [hne] at hk
        cases hk
        exact hh

end Specs

end Hostpath
