import Hostpath.Csi.Utils

/-!
# Volumes as the pools hold them

A volume is a directory in a pool, and its contents are everything below that directory.  This is
the view of the file system that the properties of the driver are about.  The second half says
what the listing of all volume directories is (`getStoragePoolDataDirectories_ok`) and what the
removal of a volume by its name does (`removeVolumeNamed_ok`).
-/

namespace Hostpath

open Lib FilePath

/-- Where a pool is. -/
def StoragePoolInfo.loc (info : StoragePoolInfo) : Option Loc := locate info.path

/-- Where the snapshots of a pool are, if it has any. -/
def StoragePoolInfo.snapshotLoc (info : StoragePoolInfo) : Option Loc :=
  info.snapshotPath.bind locate

/-- The volume `n` of a pool: what its directory holds, if it has one. -/
def volumeContents (fs : FileTree FileData) (info : StoragePoolInfo) (n : String) :
    Option (Loc → Option (Node FileData)) :=
  info.loc.bind fun l =>
    if fs.node (l ++ [n]) = some Node.dir then some (fs.contents (l ++ [n])) else none

namespace Config

variable (cfg : Config)

/-- The same volumes with the same contents in every pool. -/
def SameVolumes (fs fs' : FileTree FileData) : Prop :=
  ∀ info ∈ cfg.pools, ∀ n, volumeContents fs' info n = volumeContents fs info n

/-- The same snapshots with the same contents in every pool that has them. -/
def SameSnapshots (fs fs' : FileTree FileData) : Prop :=
  ∀ info ∈ cfg.pools, ∀ l, info.snapshotLoc = some l → ∀ n r,
    fs'.node (l ++ n :: r) = fs.node (l ++ n :: r)

/-- The location is in a pool, below the pool's own directory. -/
def InPool (q : Loc) : Prop := ∃ info ∈ cfg.pools, ∃ l n r, info.loc = some l ∧ q = l ++ n :: r

/-- The location is the directory of a volume or below it. -/
def InVolume (fs : FileTree FileData) (q : Loc) : Prop :=
  ∃ info ∈ cfg.pools, ∃ l n r, info.loc = some l ∧ q = l ++ n :: r
    ∧ fs.node (l ++ [n]) = some Node.dir

variable {cfg} {fs fs' : FileTree FileData}

lemma sameVolumes_of_node (h : ∀ q, cfg.InPool q → fs'.node q = fs.node q) :
    cfg.SameVolumes fs fs' := by
  intro info hinfo n
  unfold volumeContents
  cases hl : info.loc with
  | none => rfl
  | some l =>
      have hdir : fs'.node (l ++ [n]) = fs.node (l ++ [n]) := h _ ⟨info, hinfo, l, n, [], hl, rfl⟩
      have hcont : fs'.contents (l ++ [n]) = fs.contents (l ++ [n]) := by
        funext r
        exact h _ ⟨info, hinfo, l, n, r, hl, by simp⟩
      simp only [Option.bind_some, hdir, hcont]

/-- Taking away what is in no volume changes no volume. -/
lemma sameVolumes_of_removed {S : Loc → Prop}
    (h : ∀ q, fs'.node q = fs.node q ∨ S q ∧ fs'.node q = none)
    (hS : ∀ q, S q → fs.node q ≠ none → ¬ cfg.InVolume fs q) : cfg.SameVolumes fs fs' := by
  intro info hinfo n
  unfold volumeContents
  cases hl : info.loc with
  | none => rfl
  | some l =>
      simp only [Option.bind_some]
      by_cases hd : fs.node (l ++ [n]) = some Node.dir
      · have hsame : ∀ r, fs'.node (l ++ [n] ++ r) = fs.node (l ++ [n] ++ r) := by
          intro r
          rcases h (l ++ [n] ++ r) with hq | ⟨hSq, hq⟩
          · exact hq
          · rw [hq]
            by_contra hne
            exact hS _ hSq (Ne.symm hne) ⟨info, hinfo, l, n, r, hl, by simp, hd⟩
        have hd' : fs'.node (l ++ [n]) = some Node.dir := by
          simpa [hd] using hsame []
        rw [if_pos hd, if_pos hd']
        exact congrArg some (funext hsame)
      · have hd' : fs'.node (l ++ [n]) ≠ some Node.dir := by
          rcases h (l ++ [n]) with hq | ⟨_, hq⟩
          · rwa [hq]
          · simp [hq]
        rw [if_neg hd, if_neg hd']

/-- A volume that is gone or whose contents differ somewhere is not the same. -/
lemma SameVolumes.node (h : cfg.SameVolumes fs fs') {q : Loc} (hq : cfg.InVolume fs q) :
    fs'.node q = fs.node q := by
  obtain ⟨info, hinfo, l, n, r, hl, rfl, hd⟩ := hq
  have hv := h info hinfo n
  simp only [volumeContents, hl, Option.bind_some, if_pos hd] at hv
  split_ifs at hv with hd'
  have hr := congrFun (Option.some.inj hv) r
  simpa [FileTree.contents] using hr

lemma SameVolumes.symm (h : cfg.SameVolumes fs fs') : cfg.SameVolumes fs' fs :=
  fun info hinfo n => (h info hinfo n).symm

end Config

/-! ## Listing and removing volumes -/

open Prog Host

variable {h h' : Host} {d : String}

/-- The directories of a pool, as paths. -/
def dirsOf (fs : FileTree FileData) (info : StoragePoolInfo) : List String :=
  match locate info.path with
  | none => []
  | some l =>
      ((fs.list l).filter fun n => fs.node (l ++ [n]) = some Node.dir).map fun n =>
        join [info.path, n]

lemma mem_dirsOf {fs : FileTree FileData} {info : StoragePoolInfo} :
    d ∈ dirsOf fs info ↔ ∃ l n, locate info.path = some l ∧ ValidName n
      ∧ fs.node (l ++ [n]) = some Node.dir ∧ d = join [info.path, n] := by
  unfold dirsOf
  cases hl : locate info.path with
  | none => simp
  | some l =>
      simp only [List.mem_map, List.mem_filter, decide_eq_true_eq, Option.some.injEq]
      constructor
      · rintro ⟨n, ⟨_, hn⟩, rfl⟩
        exact ⟨l, n, rfl, fs.valid (l := l) (by simp [hn]), hn, rfl⟩
      · rintro ⟨_, n, rfl, _, hn, rfl⟩
        exact ⟨n, ⟨fs.mem_list.mpr (by simp [hn]), hn⟩, rfl⟩

/-- Every pool is a directory that can be read. -/
def Readable (fs : FileTree FileData) (infos : List StoragePoolInfo) : Prop :=
  ∀ info ∈ infos, ∃ l, locate info.path = some l ∧ fs.node l = some Node.dir

lemma entries_dirs {info : StoragePoolInfo} {l : Loc} (hl : locate info.path = some l) :
    ((h.entries l).filter fun f => f.isDir).map (fun f => join [info.path, f.name])
      = dirsOf h.fs info := by
  rw [dirsOf, hl, entries, List.filter_map, List.map_map]
  rfl

lemma poolDirectories_ok {infos : List StoragePoolInfo} {ds : List String}
    (e : h.exec (poolDirectories infos) = (Except.ok ds, h')) :
    Quiet h h' ∧ Readable h.fs infos ∧ ds = infos.flatMap (dirsOf h.fs) := by
  induction infos generalizing h h' ds with
  | nil =>
      cases e
      exact ⟨Quiet.refl h, by simp [Readable], rfl⟩
  | cons info infos ih =>
      rw [poolDirectories] at e
      obtain ⟨r, m, hs, hk₁⟩ := exec_bind_eq_ok.mp e
      obtain ⟨es, m', ho, hk₂⟩ := exec_bind_eq_ok.mp hk₁
      obtain ⟨rfl, rfl⟩ := exec_orReturn_ok.mp ho
      obtain ⟨rfl, l, hl, hdir, rfl⟩ := readDir_ok (exec_perform_eq.mp hs)
      obtain ⟨rest, m, hr, hk₃⟩ := exec_bind_eq_ok.mp hk₂
      cases hk₃
      obtain ⟨hq, hread, rfl⟩ := ih hr
      refine ⟨(Quiet.tick h).trans hq, ?_, ?_⟩
      · rintro i hi
        rcases List.mem_cons.mp hi with rfl | hi
        · exact ⟨l, hl, hdir⟩
        · exact hread i hi
      · rw [List.flatMap_cons, entries_dirs hl, tick_fs]

lemma poolDirectories_error {infos : List StoragePoolInfo} {err : Err}
    (e : h.exec (poolDirectories infos) = (Except.error err, h')) : Quiet h h' := by
  induction infos generalizing h h' with
  | nil => cases e
  | cons info infos ih =>
      rw [poolDirectories] at e
      rcases exec_bind_eq_error.mp e with hs | ⟨r, m, hs, hk₁⟩
      · exact absurd hs exec_perform_ne_error
      have hm : m = h.tick := (congrArg Prod.snd (exec_perform_eq.mp hs)).symm
      rcases exec_bind_eq_error.mp hk₁ with ho | ⟨es, m', ho, hk₂⟩
      · rw [(exec_orReturn_error ho).2, hm]
        exact Quiet.tick h
      obtain ⟨_, rfl⟩ := exec_orReturn_ok.mp ho
      rcases exec_bind_eq_error.mp hk₂ with hr | ⟨rest, m'', _, hk₃⟩
      · exact (hm ▸ Quiet.tick h).trans (ih hr)
      · cases hk₃

lemma poolDirectories_of_noFaults {infos : List StoragePoolInfo} (hf : h.NoFaults)
    (hr : Readable h.fs infos) :
    ∃ m, Quiet h m ∧ h.exec (poolDirectories infos)
      = (Except.ok (infos.flatMap (dirsOf h.fs)), m) := by
  induction infos generalizing h with
  | nil => exact ⟨h, Quiet.refl h, rfl⟩
  | cons info infos ih =>
      obtain ⟨l, hl, hdir⟩ := hr info List.mem_cons_self
      have hs := readDir_of_noFault (hf 0) hl hdir
      obtain ⟨m, hq, hm⟩ := ih (h := h.tick) (fun n => hf (n + 1))
        fun i hi => hr i (List.mem_cons_of_mem _ hi)
      refine ⟨m, (Quiet.tick h).trans hq, ?_⟩
      refine exec_bind_eq_ok.mpr ⟨_, _, exec_perform_eq.mpr hs, ?_⟩
      refine exec_bind_eq_ok.mpr ⟨_, _, exec_orReturn_ok.mpr ⟨rfl, rfl⟩, ?_⟩
      refine exec_bind_eq_ok.mpr ⟨_, _, hm, ?_⟩
      rw [List.flatMap_cons, ← entries_dirs hl]
      rfl

/-- All volume directories in order of their paths. -/
def sortedDirs (fs : FileTree FileData) (infos : List StoragePoolInfo) : List String :=
  (infos.flatMap (dirsOf fs)).insertionSort (· ≤ ·)

lemma mem_sortedDirs {fs : FileTree FileData} {infos : List StoragePoolInfo} :
    d ∈ sortedDirs fs infos ↔ ∃ info ∈ infos, d ∈ dirsOf fs info := by
  rw [sortedDirs, List.mem_insertionSort, List.mem_flatMap]

lemma getStoragePoolDataDirectories_ok {infos : List StoragePoolInfo} {ds : List String}
    (e : h.exec (getStoragePoolDataDirectories infos) = (Except.ok ds, h')) :
    Quiet h h' ∧ Readable h.fs infos ∧ ds = sortedDirs h.fs infos := by
  obtain ⟨ds', m, hs, hk⟩ := exec_bind_eq_ok.mp e
  cases hk
  obtain ⟨hq, hr, rfl⟩ := poolDirectories_ok hs
  exact ⟨hq, hr, rfl⟩

lemma getStoragePoolDataDirectories_error {infos : List StoragePoolInfo} {err : Err}
    (e : h.exec (getStoragePoolDataDirectories infos) = (Except.error err, h')) : Quiet h h' := by
  rcases exec_bind_eq_error.mp e with hs | ⟨ds, m, _, hk⟩
  · exact poolDirectories_error hs
  · cases hk

lemma getStoragePoolDataDirectories_of_noFaults {infos : List StoragePoolInfo} (hf : h.NoFaults)
    (hr : Readable h.fs infos) :
    ∃ m, Quiet h m ∧ h.exec (getStoragePoolDataDirectories infos)
      = (Except.ok (sortedDirs h.fs infos), m) := by
  obtain ⟨m, hq, hm⟩ := poolDirectories_of_noFaults hf hr
  exact ⟨m, hq, exec_bind_eq_ok.mpr ⟨_, _, hm, rfl⟩⟩

/-- The search for a base name finds a directory with that base name, or nothing. -/
lemma volumePathOf_cases (ds : List String) (id : String) :
    (volumePathOf ds id = "" ∧ ∀ d ∈ ds, d ≠ "" → base d ≠ id)
      ∨ volumePathOf ds id ∈ ds ∧ base (volumePathOf ds id) = id := by
  have h : ∀ found, (ds.foldl (fun found d => if base d = id then d else found) found = found
        ∧ ∀ d ∈ ds, d ≠ found → base d ≠ id)
      ∨ ds.foldl (fun found d => if base d = id then d else found) found ∈ ds
        ∧ base (ds.foldl (fun found d => if base d = id then d else found) found) = id := by
    induction ds with
    | nil => exact fun found => Or.inl ⟨rfl, by simp⟩
    | cons d ds ih =>
        intro found
        rw [List.foldl_cons]
        by_cases hd : base d = id
        · rw [if_pos hd]
          rcases ih d with ⟨heq, _⟩ | ⟨hmem, hb⟩
          · rw [heq]
            exact Or.inr ⟨List.mem_cons_self, hd⟩
          · exact Or.inr ⟨List.mem_cons_of_mem _ hmem, hb⟩
        · rw [if_neg hd]
          rcases ih found with ⟨heq, hno⟩ | ⟨hmem, hb⟩
          · refine Or.inl ⟨heq, fun x hx hne => ?_⟩
            rcases List.mem_cons.mp hx with rfl | hx
            · exact hd
            · exact hno x hx hne
          · exact Or.inr ⟨List.mem_cons_of_mem _ hmem, hb⟩
  exact h ""

/-- The directory that a search found is a volume of one of the pools, and joining its parent with
the name leads back to it. -/
lemma volumePathOf_loc {fs : FileTree FileData} {infos : List StoragePoolInfo} {id : String}
    (hne : volumePathOf (sortedDirs fs infos) id ≠ "") :
    ∃ info ∈ infos, ∃ l, info.loc = some l ∧ ValidName id ∧ fs.node (l ++ [id]) = some Node.dir
      ∧ locate (join [dir (volumePathOf (sortedDirs fs infos) id), id]) = some (l ++ [id]) := by
  rcases volumePathOf_cases (sortedDirs fs infos) id with ⟨heq, _⟩ | ⟨hmem, hb⟩
  · exact absurd heq hne
  · obtain ⟨info, hinfo, hd⟩ := mem_sortedDirs.mp hmem
    obtain ⟨l, n, hl, hv, hn, heq⟩ := mem_dirsOf.mp hd
    rw [heq, base_join _ hv] at hb
    subst hb
    refine ⟨info, hinfo, l, hl, hv, hn, ?_⟩
    rw [heq]
    exact locate_join_valid (locate_dir_join hl hv) hv

/-- If the search found nothing, no pool has a volume of that name. -/
lemma no_volume_of_volumePathOf {fs : FileTree FileData} {infos : List StoragePoolInfo}
    {id : String} (he : volumePathOf (sortedDirs fs infos) id = "") {info : StoragePoolInfo}
    (hinfo : info ∈ infos) {l : Loc} (hl : info.loc = some l) :
    fs.node (l ++ [id]) ≠ some Node.dir := by
  intro hn
  have hv : ValidName id := fs.valid (l := l) (by simp [hn])
  have hmem : join [info.path, id] ∈ sortedDirs fs infos :=
    mem_sortedDirs.mpr ⟨info, hinfo, mem_dirsOf.mpr ⟨l, id, hl, hv, hn, rfl⟩⟩
  have hjoin : join [info.path, id] ≠ "" := (locate_eq_some.mp (locate_join_valid hl hv)).1
  rcases volumePathOf_cases (sortedDirs fs infos) id with ⟨_, hno⟩ | ⟨hin, _⟩
  · exact hno _ hmem hjoin (base_join _ hv)
  · rw [he] at hin
    obtain ⟨info', _, hd⟩ := mem_sortedDirs.mp hin
    obtain ⟨l', n, hl', hv', _, heq⟩ := mem_dirsOf.mp hd
    exact (locate_eq_some.mp (locate_join_valid hl' hv')).1 heq.symm

/-- What a successful removal by name did: it removed one volume of that name, or there was
none. -/
lemma removeVolumeNamed_ok {infos : List StoragePoolInfo} {id : String} {failed : String → String}
    {u : Unit} (e : h.exec (removeVolumeNamed infos id failed) = (Except.ok u, h')) :
    Readable h.fs infos ∧ ((Quiet h h' ∧ ∀ info ∈ infos, ∀ l, info.loc = some l →
        h.fs.node (l ++ [id]) ≠ some Node.dir)
      ∨ ∃ info ∈ infos, ∃ l m, info.loc = some l ∧ ValidName id
        ∧ h.fs.node (l ++ [id]) = some Node.dir ∧ ¬ h.MountedBelow (l ++ [id])
        ∧ Quiet h m ∧ h' = m.cleared (l ++ [id]) fun _ => true) := by
  obtain ⟨ds, m, hs, hk⟩ := exec_bind_eq_ok.mp e
  obtain ⟨hq, hr, rfl⟩ := getStoragePoolDataDirectories_ok hs
  refine ⟨hr, ?_⟩
  dsimp only at hk
  split_ifs at hk with hp
  · cases hk
    exact Or.inl ⟨hq, fun info hinfo l hl => no_volume_of_volumePathOf hp hinfo hl⟩
  · obtain ⟨res, m', ha, hk'⟩ := exec_bind_eq_ok.mp hk
    have hd := exec_attempt_eq.mp ha
    obtain ⟨info, hinfo, l, hl, hv, hn, hloc⟩ := volumePathOf_loc hp
    cases res with
    | error err => cases hk'
    | ok v =>
        cases hk'
        rcases deleteVolume_ok hd with ⟨hnone, _⟩ | ⟨l', hl', _, hm, rfl⟩
        · rw [hloc] at hnone
          cases hnone
        · rw [hloc] at hl'
          cases hl'
          refine Or.inr ⟨info, hinfo, l, m.tick, hl, hv, hn, ?_, hq.trans (Quiet.tick m), rfl⟩
          unfold MountedBelow at hm ⊢
          rwa [hq.mounts] at hm

lemma removeVolumeNamed_error {infos : List StoragePoolInfo} {id : String}
    {failed : String → String} {err : Err}
    (e : h.exec (removeVolumeNamed infos id failed) = (Except.error err, h')) :
    Quiet h h' ∨ ∃ info ∈ infos, ∃ l m gone, info.loc = some l ∧ ValidName id
      ∧ h.fs.node (l ++ [id]) = some Node.dir ∧ Quiet h m ∧ h' = m.cleared (l ++ [id]) gone := by
  rcases exec_bind_eq_error.mp e with hs | ⟨ds, m, hs, hk⟩
  · exact Or.inl (getStoragePoolDataDirectories_error hs)
  obtain ⟨hq, hr, rfl⟩ := getStoragePoolDataDirectories_ok hs
  dsimp only at hk
  split_ifs at hk with hp
  · cases hk
  · rcases exec_bind_eq_error.mp hk with ha | ⟨res, m', ha, hk'⟩
    · exact absurd ha exec_attempt_ne_error
    have hd := exec_attempt_eq.mp ha
    obtain ⟨info, hinfo, l, hl, hv, hn, hloc⟩ := volumePathOf_loc hp
    cases res with
    | ok v => cases hk'
    | error re =>
        cases hk'
        rcases deleteVolume_error hd with rfl | ⟨l', gone, hl', rfl⟩
        · exact Or.inl (hq.trans (Quiet.tick m))
        · rw [hloc] at hl'
          cases hl'
          exact Or.inr ⟨info, hinfo, l, m.tick, gone, hl, hv, hn, hq.trans (Quiet.tick m), rfl⟩

/-- Without failures, and with nothing mounted in the volumes of that name, the removal
succeeds. -/
lemma removeVolumeNamed_of_noFaults {infos : List StoragePoolInfo} (id : String)
    (failed : String → String) (hf : h.NoFaults) (hr : Readable h.fs infos)
    (hm : ∀ info ∈ infos, ∀ l, info.loc = some l → ¬ h.MountedBelow (l ++ [id])) :
    ∃ m, h.exec (removeVolumeNamed infos id failed) = (Except.ok (), m) := by
  obtain ⟨m, hq, hs⟩ := getStoragePoolDataDirectories_of_noFaults hf hr
  by_cases hp : volumePathOf (sortedDirs h.fs infos) id = ""
  · refine ⟨m, exec_bind_eq_ok.mpr ⟨_, _, hs, ?_⟩⟩
    dsimp only
    rw [if_pos hp]
    rfl
  · obtain ⟨info, hinfo, l, hl, hv, hn, hloc⟩ := volumePathOf_loc hp
    have hrm : m.step (Syscall.removeAll (join [dir (volumePathOf (sortedDirs h.fs infos) id), id]))
        = (Except.ok (), m.tick.cleared (l ++ [id]) fun _ => true) := by
      refine removeAll_of_noFault (hf.of_exec hs 0) hloc ?_ (by simp) ?_ (Or.inl ?_)
      · exact decide_eq_false (getLast_elems_join hloc (by simp))
      · unfold MountedBelow
        rw [tick_mounts, hq.mounts]
        exact hm info hinfo l hl
      · rw [tick_fs, hq.fs]
        simp [hn]
    refine ⟨m.tick.cleared (l ++ [id]) fun _ => true, exec_bind_eq_ok.mpr ⟨_, _, hs, ?_⟩⟩
    dsimp only
    rw [if_neg hp]
    exact exec_bind_eq_ok.mpr ⟨Except.ok (), _, exec_attempt_eq.mpr
      (exec_bind_eq_ok.mpr ⟨_, _, exec_perform_eq.mpr hrm, rfl⟩), rfl⟩

end Hostpath
