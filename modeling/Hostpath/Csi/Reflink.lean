import Hostpath.Csi.Utils

/-!
# The reflink snapshot provider

A snapshot `id` of the volume `v` is a directory `id` in the provider's path with two entries: the
directory `data`, which holds a copy of the volume, and an empty directory whose name records `v`.
Nothing else is stored; that a snapshot exists, and that it is ready to use, is read off the
presence of these directories.
-/

namespace Hostpath

open Lib FilePath Prog

structure Reflink where
  nodeName : String
  path : String
  sourcePath : String
  deriving DecidableEq, Repr

def dataPath : String := "data"

def ensurePathExists (path : String) : Sys Unit := do
  orReturn (← perform (Syscall.mkdirAll path))

def reflinkCopy (src dst : String) : Sys Unit := do
  match ← perform (Syscall.copyReflink src dst) with
  | Except.error e =>
      throw (Err.plain ("failed to copy " ++ src ++ " to " ++ dst ++ ": " ++ e.text))
  | Except.ok _ => return ()

namespace Reflink

def init (r : Reflink) : Sys Unit := ensurePathExists r.path

def getSourceVolumeId (r : Reflink) (snapshotId : String) : Sys String := do
  let entries ← orReturn (← perform (Syscall.readDir (join [r.path, snapshotId])))
  match entries.find? fun e => e.isDir && e.name ≠ dataPath with
  | some e => return e.name
  | none => throw (Err.plain ("source volume not found for snapshot " ++ snapshotId))

def getSnapshotById (r : Reflink) (snapshotId : String) : Sys (Option Snapshot) := do
  match ← perform (Syscall.stat (join [r.path, snapshotId])) with
  | Except.error e => if e.isNotExist then return none else throw (Err.plain e.text)
  | Except.ok info =>
      if !info.isDir then
        throw (Err.plain ("file " ++ join [r.path, snapshotId] ++ " is not a directory"))
      else
        let sourceVolumeId ← r.getSourceVolumeId snapshotId
        return some ⟨snapshotId, sourceVolumeId, info.ctime, true⟩

/-- The snapshots among the entries of the provider's directory.  An entry that is gone by the
time it is looked up dereferences a nil pointer. -/
def snapshotsOf (r : Reflink) : List DirEntry → Sys (List Snapshot)
  | [] => pure []
  | e :: es =>
      if !e.isDir then r.snapshotsOf es
      else do
        match ← r.getSnapshotById e.name with
        | none => throw (Err.panic "invalid memory address or nil pointer dereference")
        | some snapshot => return snapshot :: (← r.snapshotsOf es)

def getAllSnapshots (r : Reflink) : Sys (List Snapshot) := do
  r.snapshotsOf (← orReturn (← perform (Syscall.readDir r.path)))

def getSnapshotsByVolumeSourceId (r : Reflink) (volumeSourceId : String) :
    Sys (List Snapshot) := do
  return (← r.getAllSnapshots).filter fun s => s.sourceVolumeId = volumeSourceId

def createSnapshotFromDir (snapshotId sourceVolumeId path : String) : Sys Snapshot := do
  return ⟨snapshotId, sourceVolumeId, ← getFileCreationTime path, true⟩

/-- Where the data of a snapshot is. -/
def dataDir (r : Reflink) (snapshotId : String) : String := join [r.path, snapshotId, dataPath]

/-- The directory that names the source of a snapshot. -/
def sourceDir (r : Reflink) (snapshotId sourceVolumeId : String) : String :=
  join [r.path, snapshotId, sourceVolumeId]

/-- Where the source volume of a snapshot is. -/
def sourcePoolDir (r : Reflink) (sourceVolumeId : String) : String :=
  join [r.sourcePath, sourceVolumeId]

/-- The part of `CreateSnapshot` that makes the two directories and copies. -/
def fillSnapshot (r : Reflink) (snapshotId sourceVolumeId : String) : Sys Snapshot := do
  orReturn (← perform (Syscall.mkdirAll (r.dataDir snapshotId)))
  orReturn (← perform (Syscall.mkdirAll (r.sourceDir snapshotId sourceVolumeId)))
  reflinkCopy (r.sourcePoolDir sourceVolumeId ++ "/.") (r.dataDir snapshotId)
  createSnapshotFromDir snapshotId sourceVolumeId (r.dataDir snapshotId)

def createSnapshot (r : Reflink) (snapshotId sourceVolumeId : String) : Sys Snapshot := do
  if ← checkPathExist (r.sourcePoolDir sourceVolumeId) then
    if ← checkPathExist (r.dataDir snapshotId) then
      createSnapshotFromDir snapshotId sourceVolumeId (r.dataDir snapshotId)
    else r.fillSnapshot snapshotId sourceVolumeId
  else
    throw (Err.plain ("source volume " ++ r.sourcePoolDir sourceVolumeId ++
      " not found, unable to create snapshot"))

def deleteSnapshot (r : Reflink) (snapshotId : String) : Sys Unit := do
  let snapPath := join [r.path, snapshotId]
  if ← checkPathExist snapPath then
    orReturn (← perform (Syscall.removeAll snapPath))

def restoreSnapshot (r : Reflink) (snapshotId targetPath : String) : Sys Unit := do
  if ← checkPathExist (r.dataDir snapshotId) then
    if ← checkPathExist targetPath then
      reflinkCopy (r.dataDir snapshotId ++ "/.") targetPath
    else throw (Err.plain ("target path " ++ targetPath ++ " does not exist"))
  else
    throw (Err.status Code.notFound
      ("snapshot " ++ snapshotId ++ " not found, unable to restore into volume"))

/-! ## What restoring does -/

open Host

variable {h h' : Host} {r : Reflink} {id target : String}

/-- A copy that can succeed: both sides are directories, the target is not inside the source, and
no directory meets a file. -/
def CanCopy (fs : FileTree FileData) (s d : Loc) : Prop :=
  fs.node s = some Node.dir ∧ fs.node d = some Node.dir ∧ ¬ s <+: d ∧ fs.fits s d = true

lemma reflinkCopy_ok {src dst : String} {u : Unit} (hat : h.at? dst ≠ none)
    (e : h.exec (reflinkCopy src dst) = (Except.ok u, h')) :
    ∃ s d, locate src = some s ∧ locate dst = some d ∧ CanCopy h.fs s d
      ∧ h' = h.tick.overlaid s d fun _ => true := by
  obtain ⟨rep, m, hs, hk⟩ := exec_bind_eq_ok.mp e
  have hstep := exec_perform_eq.mp hs
  cases rep with
  | error oe => cases hk
  | ok v =>
      cases hk
      obtain ⟨s, d, hsl, hdl, hsd, hdd, hnot, hfit, _, rfl⟩ := copyReflink_ok (h := h.tick) hat hstep
      exact ⟨s, d, hsl, hdl, ⟨hsd, hdd, hnot, hfit⟩, rfl⟩

lemma reflinkCopy_error {src dst : String} {err : Err} (hat : h.at? dst ≠ none)
    (e : h.exec (reflinkCopy src dst) = (Except.error err, h')) :
    h' = h.tick ∨ ∃ s d keep, locate src = some s ∧ locate dst = some d
      ∧ h.fs.node d = some Node.dir ∧ h' = h.tick.overlaid s d keep := by
  rcases exec_bind_eq_error.mp e with hs | ⟨rep, m, hs, hk⟩
  · exact absurd hs exec_perform_ne_error
  · have hstep := exec_perform_eq.mp hs
    cases rep with
    | ok v => cases hk
    | error oe =>
        cases hk
        exact copyReflink_error (h := h.tick) hat hstep

/-- A restore that succeeded copied the whole data directory of the snapshot over the target. -/
lemma restoreSnapshot_ok {u : Unit}
    (e : h.exec (r.restoreSnapshot id target) = (Except.ok u, h')) :
    ∃ s d m, locate (r.dataDir id) = some s ∧ locate target = some d
      ∧ CanCopy h.fs s d ∧ Quiet h m ∧ h' = m.overlaid s d fun _ => true := by
  obtain ⟨b, m, hb, hk⟩ := exec_bind_eq_ok.mp e
  obtain ⟨rfl, rfl⟩ := checkPathExist_ok hb
  split_ifs at hk with hex
  · obtain ⟨b, m, hb', hk⟩ := exec_bind_eq_ok.mp hk
    obtain ⟨rfl, rfl⟩ := checkPathExist_ok hb'
    split_ifs at hk with hext
    · obtain ⟨s, d, hs, hd, hc, rfl⟩ := reflinkCopy_ok (h := h.tick.tick)
        (Option.isSome_iff_ne_none.mp hext) hk
      obtain ⟨s', hs'⟩ : ∃ s', locate (r.dataDir id) = some s' := by
        rw [← Option.isSome_iff_exists]
        exact Option.isSome_of_isSome_bind hex
      rw [locate_dot hs'] at hs
      cases hs
      exact ⟨_, d, h.tick.tick.tick, hs', hd, hc, ⟨3, rfl⟩, rfl⟩
    · cases hk
  · cases hk

/-- Without failures a restore that can succeed does. -/
lemma restoreSnapshot_of_noFault {s d : Loc} (hf : ∀ n < 3, (h.outcomes n).fault = none)
    (hs : locate (r.dataDir id) = some s) (hd : locate target = some d)
    (hc : CanCopy h.fs s d) :
    h.exec (r.restoreSnapshot id target)
      = (Except.ok (), h.tick.tick.tick.overlaid s d fun _ => true) := by
  have hat : h.at? (r.dataDir id) ≠ none := by simp [at?, hs, hc.1]
  have hat' : h.tick.at? target ≠ none := by simp [at?, hd, hc.2.1]
  have hex := checkPathExist_of_noFault (hf 0 (by decide)) (Or.inl hat)
  have hex' := checkPathExist_of_noFault (h := h.tick) (hf 1 (by decide)) (Or.inl hat')
  rw [Option.isSome_iff_ne_none.mpr hat] at hex
  rw [Option.isSome_iff_ne_none.mpr hat'] at hex'
  have hcp : h.tick.tick.step (Syscall.copyReflink (r.dataDir id ++ "/.") target)
      = (Except.ok (), h.tick.tick.tick.overlaid s d fun _ => true) :=
    copyReflink_of_noFault (hf 2 (by decide)) (locate_dot hs) hd hc.1 hc.2.1 hc.2.2.1 hc.2.2.2
  refine exec_bind_eq_ok.mpr ⟨true, _, hex, ?_⟩
  refine exec_bind_eq_ok.mpr ⟨true, _, hex', ?_⟩
  exact exec_bind_eq_ok.mpr ⟨_, _, exec_perform_eq.mpr hcp, rfl⟩

/-- A restore that failed copied some of it at most. -/
lemma restoreSnapshot_error {err : Err}
    (e : h.exec (r.restoreSnapshot id target) = (Except.error err, h')) :
    Quiet h h' ∨ ∃ s d keep m, locate target = some d ∧ h.fs.node d = some Node.dir
      ∧ Quiet h m ∧ h' = m.overlaid s d keep := by
  rcases exec_bind_eq_error.mp e with hb | ⟨b, m, hb, hk⟩
  · exact Or.inl (checkPathExist_error hb ▸ Quiet.tick h)
  · obtain ⟨rfl, rfl⟩ := checkPathExist_ok hb
    split_ifs at hk with hex
    · rcases exec_bind_eq_error.mp hk with hb' | ⟨b, m, hb', hk⟩
      · exact Or.inl (checkPathExist_error hb' ▸ ⟨2, rfl⟩)
      · obtain ⟨rfl, rfl⟩ := checkPathExist_ok hb'
        split_ifs at hk with hext
        · rcases reflinkCopy_error (h := h.tick.tick)
            (Option.isSome_iff_ne_none.mp hext) hk with rfl | ⟨s, d, keep, _, hd, hdir, rfl⟩
          · exact Or.inl ⟨3, rfl⟩
          · exact Or.inr ⟨s, d, keep, h.tick.tick.tick, hd, hdir, ⟨3, rfl⟩, rfl⟩
        · cases hk
          exact Or.inl ⟨2, rfl⟩
    · cases hk
      exact Or.inl ⟨1, rfl⟩

/-! ## What looking does -/

lemma getSourceVolumeId_ok {v : String}
    (e : h.exec (r.getSourceVolumeId id) = (Except.ok v, h')) :
    h' = h.tick ∧ ∃ l, locate (join [r.path, id]) = some l ∧ h.fs.node l = some Node.dir
      ∧ v ≠ dataPath ∧ h.fs.node (l ++ [v]) = some Node.dir := by
  obtain ⟨rep, m, hs, hk₁⟩ := exec_bind_eq_ok.mp e
  obtain ⟨es, m', ho, hk₂⟩ := exec_bind_eq_ok.mp hk₁
  obtain ⟨rfl, rfl⟩ := exec_orReturn_ok.mp ho
  obtain ⟨rfl, l, hl, hdir, rfl⟩ := readDir_ok (exec_perform_eq.mp hs)
  split at hk₂
  · rename_i x hx
    cases hk₂
    have hmem := List.mem_of_find?_eq_some hx
    have hcond := List.find?_some hx
    simp only [Bool.and_eq_true, decide_eq_true_eq] at hcond
    obtain ⟨n, _, rfl⟩ := List.mem_map.mp hmem
    exact ⟨rfl, l, hl, hdir, hcond.2, by simpa using hcond.1⟩
  · cases hk₂

lemma getSourceVolumeId_error {err : Err}
    (e : h.exec (r.getSourceVolumeId id) = (Except.error err, h')) : h' = h.tick := by
  rcases exec_bind_eq_error.mp e with hs | ⟨rep, m, hs, hk₁⟩
  · exact absurd hs exec_perform_ne_error
  have hm : m = h.tick := (congrArg Prod.snd (exec_perform_eq.mp hs)).symm
  rcases exec_bind_eq_error.mp hk₁ with ho | ⟨es, m', ho, hk₂⟩
  · rw [(exec_orReturn_error ho).2, hm]
  · obtain ⟨_, rfl⟩ := exec_orReturn_ok.mp ho
    split at hk₂
    · cases hk₂
    · cases hk₂
      exact hm

/-- A snapshot is found if its directory is there, with a directory that names its source. -/
lemma getSnapshotById_ok {s : Option Snapshot}
    (e : h.exec (r.getSnapshotById id) = (Except.ok s, h')) :
    Quiet h h' ∧ ((s = none ∧ h.at? (join [r.path, id]) = none)
      ∨ ∃ l v, s = some ⟨id, v, h.ctime l, true⟩ ∧ locate (join [r.path, id]) = some l
        ∧ h.fs.node l = some Node.dir ∧ v ≠ dataPath ∧ h.fs.node (l ++ [v]) = some Node.dir) := by
  obtain ⟨rep, m, hs, hk⟩ := exec_bind_eq_ok.mp e
  have hstep := exec_perform_eq.mp hs
  cases rep with
  | error oe =>
      obtain ⟨rfl, hnone, _⟩ := stat_error hstep
      dsimp only at hk
      split_ifs at hk with hne
      · cases hk
        exact ⟨Quiet.tick h, Or.inl ⟨rfl, hnone hne⟩⟩
      · cases hk
  | ok info =>
      obtain ⟨rfl, l, x, hl, hx, hct, hisdir⟩ := stat_ok hstep
      dsimp only at hk
      split_ifs at hk with hd
      · cases hk
      · obtain ⟨v, m, hv, hk'⟩ := exec_bind_eq_ok.mp hk
        cases hk'
        obtain ⟨rfl, l', hl', hdir, hne, hvd⟩ := getSourceVolumeId_ok hv
        rw [hl] at hl'
        cases hl'
        exact ⟨⟨2, rfl⟩, Or.inr ⟨l, v, by rw [hct], hl, hdir, hne, hvd⟩⟩

lemma getSnapshotById_error {err : Err}
    (e : h.exec (r.getSnapshotById id) = (Except.error err, h')) : Quiet h h' := by
  rcases exec_bind_eq_error.mp e with hs | ⟨rep, m, hs, hk⟩
  · exact absurd hs exec_perform_ne_error
  have hm : m = h.tick := (congrArg Prod.snd (exec_perform_eq.mp hs)).symm
  cases rep with
  | error oe =>
      dsimp only at hk
      split_ifs at hk
      · cases hk
      · cases hk
        exact hm ▸ Quiet.tick h
  | ok info =>
      dsimp only at hk
      split_ifs at hk
      · cases hk
        exact hm ▸ Quiet.tick h
      · rcases exec_bind_eq_error.mp hk with hv | ⟨v, m', _, hk'⟩
        · rw [getSourceVolumeId_error hv, hm]
          exact ⟨2, rfl⟩
        · cases hk'

/-- The directory of the snapshot is there, with a directory that names its source. -/
def Found (fs : FileTree FileData) (r : Reflink) (s : Snapshot) : Prop :=
  ∃ l, locate (join [r.path, s.snapshotId]) = some l ∧ s.sourceVolumeId ≠ dataPath
    ∧ fs.node (l ++ [s.sourceVolumeId]) = some Node.dir

/-- The snapshots found among the entries of a directory were all there. -/
lemma snapshotsOf_ok {es : List DirEntry} {ss : List Snapshot}
    (e : h.exec (r.snapshotsOf es) = (Except.ok ss, h')) :
    Quiet h h' ∧ ∀ s ∈ ss, (∃ x ∈ es, s.snapshotId = x.name) ∧ Found h.fs r s := by
  induction es generalizing h h' ss with
  | nil =>
      cases e
      exact ⟨Quiet.refl h, by simp⟩
  | cons x es ih =>
      rw [snapshotsOf] at e
      split_ifs at e with hd
      · obtain ⟨hq, hss⟩ := ih e
        refine ⟨hq, fun s hs => ?_⟩
        obtain ⟨⟨y, hy, hid⟩, hfound⟩ := hss s hs
        exact ⟨⟨y, List.mem_cons_of_mem _ hy, hid⟩, hfound⟩
      · obtain ⟨o, m, ho, hk⟩ := exec_bind_eq_ok.mp e
        obtain ⟨hq, hcases⟩ := getSnapshotById_ok ho
        cases o with
        | none => cases hk
        | some s₀ =>
            obtain ⟨rest, m', hr, hk'⟩ := exec_bind_eq_ok.mp hk
            cases hk'
            obtain ⟨hq', hss⟩ := ih hr
            refine ⟨hq.trans hq', fun s hs => ?_⟩
            rcases List.mem_cons.mp hs with rfl | hs
            · rcases hcases with ⟨hcon, _⟩ | ⟨l, v, heq, hl, _, hne, hvd⟩
              · cases hcon
              · cases heq
                exact ⟨⟨x, List.mem_cons_self, rfl⟩, l, hl, hne, hvd⟩
            · obtain ⟨⟨y, hy, hid⟩, hfound⟩ := hss s hs
              rw [hq.fs] at hfound
              exact ⟨⟨y, List.mem_cons_of_mem _ hy, hid⟩, hfound⟩

lemma snapshotsOf_error {es : List DirEntry} {err : Err}
    (e : h.exec (r.snapshotsOf es) = (Except.error err, h')) : Quiet h h' := by
  induction es generalizing h h' with
  | nil => cases e
  | cons x es ih =>
      rw [snapshotsOf] at e
      split_ifs at e with hd
      · exact ih e
      · rcases exec_bind_eq_error.mp e with ho | ⟨o, m, ho, hk⟩
        · exact getSnapshotById_error ho
        · obtain ⟨hq, _⟩ := getSnapshotById_ok ho
          cases o with
          | none =>
              cases hk
              exact hq
          | some s₀ =>
              rcases exec_bind_eq_error.mp hk with hr | ⟨rest, m', _, hk'⟩
              · exact hq.trans (ih hr)
              · cases hk'

lemma getAllSnapshots_ok {ss : List Snapshot}
    (e : h.exec r.getAllSnapshots = (Except.ok ss, h')) :
    Quiet h h' ∧ ∀ s ∈ ss, ValidName s.snapshotId ∧ Found h.fs r s := by
  obtain ⟨rep, m, hs, hk₁⟩ := exec_bind_eq_ok.mp e
  obtain ⟨es, m', ho, hk₂⟩ := exec_bind_eq_ok.mp hk₁
  obtain ⟨rfl, rfl⟩ := exec_orReturn_ok.mp ho
  obtain ⟨rfl, l, hl, hdir, rfl⟩ := readDir_ok (exec_perform_eq.mp hs)
  obtain ⟨hq, hss⟩ := snapshotsOf_ok hk₂
  refine ⟨(Quiet.tick h).trans hq, fun s hs => ?_⟩
  obtain ⟨⟨x, hx, hid⟩, hfound⟩ := hss s hs
  obtain ⟨n, hn, rfl⟩ := List.mem_map.mp hx
  exact ⟨hid ▸ h.fs.valid (h.fs.mem_list.mp hn), hfound⟩

lemma getAllSnapshots_error {err : Err}
    (e : h.exec r.getAllSnapshots = (Except.error err, h')) : Quiet h h' := by
  rcases exec_bind_eq_error.mp e with hs | ⟨rep, m, hs, hk₁⟩
  · exact absurd hs exec_perform_ne_error
  have hm : m = h.tick := (congrArg Prod.snd (exec_perform_eq.mp hs)).symm
  rcases exec_bind_eq_error.mp hk₁ with ho | ⟨es, m', ho, hk₂⟩
  · rw [(exec_orReturn_error ho).2, hm]
    exact Quiet.tick h
  · obtain ⟨_, rfl⟩ := exec_orReturn_ok.mp ho
    exact (hm ▸ Quiet.tick h).trans (snapshotsOf_error hk₂)

end Reflink

end Hostpath
