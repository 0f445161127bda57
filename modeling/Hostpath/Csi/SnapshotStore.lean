import Hostpath.Csi.Runs

/-!
# Snapshots as the provider's directory holds them

What the provider reads off its directory: an entry that is a directory is a snapshot, and its
source is the name of its first subdirectory other than `data` (`sourceOf`).  The provider can list
its snapshots only if every one of them has such a subdirectory (`Listable`); then the listing is
`snapshots`, each once.  All of this is about one state of the node, so it says what the functions
of the provider return as long as no call fails.
-/

namespace Hostpath

open Lib FilePath Prog Host

namespace Reflink

variable {h h' : Host} {r : Reflink} {id v : String} {l : Loc} {fs fs' : FileTree FileData}

/-! ## Decoding -/

/-- The source that the directory of a snapshot records. -/
def sourceOf (fs : FileTree FileData) (l : Loc) : Option String :=
  (fs.list l).find? fun n => fs.node (l ++ [n]) = some Node.dir && n ≠ dataPath

/-- The snapshot `id` of a provider whose directory is at `l`. -/
def entryOf (h : Host) (l : Loc) (id : String) : Option Snapshot :=
  (sourceOf h.fs (l ++ [id])).map fun v => ⟨id, v, h.ctime (l ++ [id]), true⟩

lemma sourceOf_eq_none : sourceOf fs l = none
    ↔ ∀ n, fs.node (l ++ [n]) = some Node.dir → n = dataPath := by
  rw [sourceOf, List.find?_eq_none]
  constructor
  · intro hall n hn
    by_contra hne
    exact hall n (fs.mem_list.mpr (by simp [hn])) (by simp [hn, hne])
  · intro hall n _ hn
    simp only [Bool.and_eq_true, decide_eq_true_eq] at hn
    exact hn.2 (hall n hn.1)

lemma dir_of_sourceOf (hs : sourceOf fs l = some v) :
    fs.node (l ++ [v]) = some Node.dir ∧ v ≠ dataPath := by
  have hv := List.find?_some hs
  simpa using hv

/-- If one subdirectory names a source, it is found. -/
lemma sourceOf_of_single (hv : fs.node (l ++ [v]) = some Node.dir) (hne : v ≠ dataPath)
    (hall : ∀ n, fs.node (l ++ [n]) = some Node.dir → n = v ∨ n = dataPath) :
    sourceOf fs l = some v := by
  cases hs : sourceOf fs l with
  | none => exact absurd (sourceOf_eq_none.mp hs v hv) hne
  | some w =>
      obtain ⟨hw, hwne⟩ := dir_of_sourceOf hs
      rw [(hall w hw).resolve_right hwne]

/-- Decoding looks at the entries of the directory only. -/
lemma sourceOf_congr {l' : Loc} (hn : ∀ n, fs.node (l ++ [n]) = fs'.node (l' ++ [n])) :
    sourceOf fs l = sourceOf fs' l' := by
  have hlist : fs.list l = fs'.list l' := FileTree.list_congr fun n => by rw [hn n]
  unfold sourceOf
  simp only [hlist, hn]

/-! ## Listing -/

/-- The directory is there, and every directory in it names a source. -/
def Listable (r : Reflink) (h : Host) : Prop :=
  ∃ l, locate r.path = some l ∧ h.fs.node l = some Node.dir
    ∧ ∀ n, h.fs.node (l ++ [n]) = some Node.dir → sourceOf h.fs (l ++ [n]) ≠ none

/-- The snapshots of a provider in the order of their ids. -/
def snapshots (r : Reflink) (h : Host) : List Snapshot :=
  match locate r.path with
  | none => []
  | some l =>
      ((h.fs.list l).filter fun n => h.fs.node (l ++ [n]) = some Node.dir).filterMap (entryOf h l)

lemma entryOf_quiet (hq : Quiet h h') (l : Loc) (id : String) : entryOf h' l id = entryOf h l id := by
  rw [entryOf, entryOf, hq.fs, hq.files.2.2]

lemma entryOf_id {s : Snapshot} (hs : entryOf h l id = some s) : s.snapshotId = id := by
  obtain ⟨v, _, rfl⟩ := Option.map_eq_some_iff.mp hs
  rfl

lemma entryOf_source {s : Snapshot} (hs : entryOf h l id = some s) :
    sourceOf h.fs (l ++ [id]) = some s.sourceVolumeId := by
  obtain ⟨v, hv, rfl⟩ := Option.map_eq_some_iff.mp hs
  exact hv

/-- **What is listed**: the snapshots that decode, each once. -/
lemma mem_snapshots (hl : locate r.path = some l) {s : Snapshot} :
    s ∈ r.snapshots h ↔ h.fs.node (l ++ [s.snapshotId]) = some Node.dir
      ∧ entryOf h l s.snapshotId = some s := by
  rw [snapshots, hl]
  simp only [List.mem_filterMap, List.mem_filter, decide_eq_true_eq]
  constructor
  · rintro ⟨n, ⟨_, hn⟩, hs⟩
    obtain rfl := entryOf_id hs
    exact ⟨hn, hs⟩
  · rintro ⟨hn, hs⟩
    exact ⟨_, ⟨h.fs.mem_list.mpr (by simp [hn]), hn⟩, hs⟩

lemma nodup_snapshots : ((r.snapshots h).map Snapshot.snapshotId).Nodup := by
  unfold snapshots
  split
  · simp
  · rename_i l _
    have hsub : ∀ ns : List String,
        ((ns.filterMap (entryOf h l)).map Snapshot.snapshotId).Sublist ns := by
      intro ns
      induction ns with
      | nil => simp
      | cons n ns ih =>
          cases hn : entryOf h l n with
          | none =>
              rw [List.filterMap_cons_none hn]
              exact ih.cons n
          | some s =>
              rw [List.filterMap_cons_some hn, List.map_cons, entryOf_id hn]
              exact ih.cons_cons n
    exact (h.fs.nodup_list l).sublist ((hsub _).trans List.filter_sublist)

lemma snapshots_quiet (r : Reflink) (hq : Quiet h h') : r.snapshots h' = r.snapshots h := by
  unfold snapshots
  rw [hq.fs]
  cases locate r.path with
  | none => rfl
  | some l => exact congrArg (List.filterMap · _) (funext (entryOf_quiet hq l))

lemma Listable.quiet (hr : r.Listable h) (hq : Quiet h h') : r.Listable h' := by
  unfold Listable at hr ⊢
  rwa [hq.fs]

lemma Listable.of_quiet (hr : r.Listable h') (hq : Quiet h h') : r.Listable h := by
  unfold Listable at hr ⊢
  rwa [hq.fs] at hr

/-! ## What the provider returns -/

lemma entries_find (h : Host) (l : Loc) :
    (h.entries l).find? (fun e => e.isDir && e.name ≠ dataPath)
      = (sourceOf h.fs l).map fun n => ⟨n, h.fs.node (l ++ [n]) = some Node.dir⟩ := by
  rw [entries, List.find?_map, sourceOf]
  rfl

lemma getSourceVolumeId_of_noFault (hf : (h.outcomes 0).fault = none)
    (hl : locate (join [r.path, id]) = some l) (hdir : h.fs.node l = some Node.dir) :
    h.exec (r.getSourceVolumeId id)
      = ((sourceOf h.fs l).elim
          (Except.error (Err.plain ("source volume not found for snapshot " ++ id))) Except.ok,
        h.tick) := by
  have hread := readDir_of_noFault hf hl hdir
  refine (exec_bind_of_ok step (exec_perform_eq.mpr hread)).trans ?_
  refine (exec_bind_of_ok step (exec_orReturn_ok.mpr ⟨rfl, rfl⟩)).trans ?_
  rw [entries_find]
  cases sourceOf h.fs l <;> rfl

/-- A snapshot whose directory is there is returned with its source, or the source is missing. -/
lemma getSnapshotById_of_dir (hf : h.NoFaults) (hl : locate (join [r.path, id]) = some l)
    (hdir : h.fs.node l = some Node.dir) :
    h.exec (r.getSnapshotById id)
      = ((sourceOf h.fs l).elim
          (Except.error (Err.plain ("source volume not found for snapshot " ++ id)))
          fun v => Except.ok (some ⟨id, v, h.ctime l, true⟩),
        h.tick.tick) := by
  have hstat := stat_of_dir (hf 0) hl hdir
  have hsrc := getSourceVolumeId_of_noFault (h := h.tick) (r := r) (hf 1) hl hdir
  refine (exec_bind_of_ok step (exec_perform_eq.mpr hstat)).trans ?_
  show Host.exec h.tick (r.getSourceVolumeId id >>= _) = _
  rw [tick_fs] at hsrc
  cases hs : sourceOf h.fs l with
  | none =>
      rw [hs] at hsrc
      exact exec_bind_of_error step hsrc
  | some v =>
      rw [hs] at hsrc
      exact exec_bind_of_ok step hsrc

/-- Nothing is there under that name, and nothing is in the way. -/
def Absent (r : Reflink) (h : Host) (id : String) : Prop :=
  h.lookup (join [r.path, id]) = Except.error Errno.notExist

lemma getSnapshotById_of_absent (hf : h.NoFaults) (ha : r.Absent h id) :
    h.exec (r.getSnapshotById id) = (Except.ok none, h.tick) := by
  have hstat : h.step (Syscall.stat (join [r.path, id]))
      = (Except.error (OsError.path "stat" (join [r.path, id]) Errno.notExist), h.tick) := by
    refine Prod.ext ((stat_of_noFault (hf 0)).trans ?_) rfl
    rw [stat, ha]
    rfl
  exact exec_bind_of_ok step (exec_perform_eq.mpr hstat)

lemma getSnapshotById_of_missing (hf : h.NoFaults) (hl : locate (join [r.path, id]) = some l)
    (hn : h.fs.node l = none) (hb : h.fs.blocked l = false) :
    h.exec (r.getSnapshotById id) = (Except.ok none, h.tick) :=
  getSnapshotById_of_absent hf (lookup_error_of_none hl hn hb)

/-- A snapshot that was looked up and not found. -/
lemma getSnapshotById_none (e : h.exec (r.getSnapshotById id) = (Except.ok none, h')) :
    h' = h.tick ∧ r.Absent h id := by
  obtain ⟨rep, m, hs, hk⟩ := exec_bind_eq_ok.mp e
  have hstep := exec_perform_eq.mp hs
  cases rep with
  | ok info =>
      dsimp only at hk
      split_ifs at hk
      · cases hk
      · obtain ⟨_, _, _, hk'⟩ := exec_bind_eq_ok.mp hk
        cases hk'
  | error oe =>
      dsimp only at hk
      split_ifs at hk with hne
      · cases hk
        exact ⟨(stat_error hstep).1, lookup_of_stat_notExist hstep hne⟩
      · cases hk

/-- The entry of a directory listing. -/
def dirEntry (h : Host) (l : Loc) (n : String) : DirEntry :=
  ⟨n, h.fs.node (l ++ [n]) = some Node.dir⟩

/-- One entry of the listing that is a directory. -/
lemma getSnapshotById_of_entry {m : Host} {n : String} (hq : Quiet h m) (hf : m.NoFaults)
    (hl : locate r.path = some l) (hv : ValidName n) (hd : h.fs.node (l ++ [n]) = some Node.dir) :
    ∃ m', Quiet m m' ∧ m.exec (r.getSnapshotById n)
      = (match entryOf h l n with
        | some s => Except.ok (some s)
        | none => Except.error (Err.plain ("source volume not found for snapshot " ++ n)), m') := by
  refine ⟨m.tick.tick, ⟨2, rfl⟩, ?_⟩
  rw [getSnapshotById_of_dir hf (locate_join_valid hl hv) (by rw [hq.fs]; exact hd), hq.fs,
    hq.files.2.2, entryOf]
  cases sourceOf h.fs (l ++ [n]) <;> rfl

/-- The listing of the entries `ns`, if every directory among them names a source. -/
lemma snapshotsOf_of_noFaults {m : Host} (hq : Quiet h m) (hf : m.NoFaults)
    (hl : locate r.path = some l) {ns : List String} (hv : ∀ n ∈ ns, ValidName n)
    (hall : ∀ n ∈ ns, h.fs.node (l ++ [n]) = some Node.dir → sourceOf h.fs (l ++ [n]) ≠ none) :
    ∃ m', Quiet m m' ∧ m.exec (r.snapshotsOf (ns.map (dirEntry h l)))
      = (Except.ok ((ns.filter fun n => h.fs.node (l ++ [n]) = some Node.dir).filterMap
          (entryOf h l)), m') := by
  induction ns generalizing m with
  | nil => exact ⟨m, Quiet.refl m, rfl⟩
  | cons n ns ih =>
      have hv' := fun x hx => hv x (List.mem_cons_of_mem _ hx)
      have hall' := fun x hx => hall x (List.mem_cons_of_mem _ hx)
      rw [List.map_cons, snapshotsOf]
      by_cases hd : h.fs.node (l ++ [n]) = some Node.dir
      · obtain ⟨m₁, hq₁, hone⟩ := getSnapshotById_of_entry hq hf hl (hv n List.mem_cons_self) hd
        obtain ⟨v, hsrc⟩ := Option.ne_none_iff_exists'.mp (hall n List.mem_cons_self hd)
        have hs : entryOf h l n = some ⟨n, v, h.ctime (l ++ [n]), true⟩ := by rw [entryOf, hsrc]; rfl
        rw [hs] at hone
        obtain ⟨m₂, hq₂, hrest⟩ := ih (hq.trans hq₁) (hf.of_exec hone) hv' hall'
        refine ⟨m₂, hq₁.trans hq₂, ?_⟩
        rw [if_neg (by simp [dirEntry, hd]), List.filter_cons_of_pos (by simpa using hd),
          List.filterMap_cons_some hs]
        exact exec_bind_eq_ok.mpr ⟨_, _, hone, exec_bind_eq_ok.mpr ⟨_, _, hrest, rfl⟩⟩
      · rw [if_pos (by simp [dirEntry, hd]), List.filter_cons_of_neg (by simpa using hd)]
        exact ih hq hf hv' hall'

/-- One directory without a source fails the whole listing. -/
lemma snapshotsOf_fails {m : Host} (hq : Quiet h m) (hf : m.NoFaults)
    (hl : locate r.path = some l) {ns : List String} (hv : ∀ n ∈ ns, ValidName n) {n : String}
    (hn : n ∈ ns) (hd : h.fs.node (l ++ [n]) = some Node.dir)
    (hs : sourceOf h.fs (l ++ [n]) = none) :
    ∃ err m', m.exec (r.snapshotsOf (ns.map (dirEntry h l))) = (Except.error err, m') := by
  induction ns generalizing m with
  | nil => cases hn
  | cons x ns ih =>
      have hv' := fun y hy => hv y (List.mem_cons_of_mem _ hy)
      rw [List.map_cons, snapshotsOf]
      by_cases hx : h.fs.node (l ++ [x]) = some Node.dir
      · obtain ⟨m₁, hq₁, hone⟩ := getSnapshotById_of_entry hq hf hl (hv x List.mem_cons_self) hx
        rw [if_neg (by simp [dirEntry, hx])]
        cases hsx : entryOf h l x with
        | none =>
            rw [hsx] at hone
            exact ⟨_, _, exec_bind_of_error step hone⟩
        | some s =>
            rw [hsx] at hone
            have hne : n ≠ x := by
              rintro rfl
              rw [entryOf, hs] at hsx
              cases hsx
            obtain ⟨err, m', hrest⟩ := ih (hq.trans hq₁) (hf.of_exec hone) hv'
              ((List.mem_cons.mp hn).resolve_left hne)
            refine ⟨err, m', (exec_bind_of_ok step hone).trans ?_⟩
            exact exec_bind_of_error step hrest
      · rw [if_pos (by simp [dirEntry, hx])]
        have hne : n ≠ x := fun heq => hx (heq ▸ hd)
        exact ih hq hf hv' ((List.mem_cons.mp hn).resolve_left hne)

/-- **Listing** returns the snapshots if every one of them can be read. -/
lemma getAllSnapshots_of_listable (hf : h.NoFaults) (hr : r.Listable h) :
    ∃ m, Quiet h m ∧ h.exec r.getAllSnapshots = (Except.ok (r.snapshots h), m) := by
  obtain ⟨l, hl, hdir, hall⟩ := hr
  have hvalid : ∀ n ∈ h.fs.list l, ValidName n := fun n hn => h.fs.valid (h.fs.mem_list.mp hn)
  obtain ⟨m, hq, hm⟩ := snapshotsOf_of_noFaults (Quiet.tick h) (fun n => hf (n + 1)) hl hvalid
    fun n _ => hall n
  refine ⟨m, (Quiet.tick h).trans hq, ?_⟩
  refine exec_bind_eq_ok.mpr ⟨_, _, exec_perform_eq.mpr (readDir_of_noFault (hf 0) hl hdir), ?_⟩
  refine exec_bind_eq_ok.mpr ⟨_, _, exec_orReturn_ok.mpr ⟨rfl, rfl⟩, ?_⟩
  rw [snapshots, hl]
  exact hm

/-- Listing fails if the directory is not there or one of the snapshots cannot be read. -/
lemma getAllSnapshots_of_not_listable (hf : h.NoFaults) (hr : ¬ r.Listable h) :
    ∃ err m, h.exec r.getAllSnapshots = (Except.error err, m) := by
  rcases hread : h.step (Syscall.readDir r.path) with ⟨rep, m⟩
  have hgo := exec_bind_of_ok (f := fun rep => orReturn rep >>= r.snapshotsOf) step
    (exec_perform_eq.mpr hread)
  cases rep with
  | error oe => exact ⟨_, _, hgo.trans rfl⟩
  | ok es =>
      obtain ⟨rfl, l, hl, hdir, rfl⟩ := readDir_ok hread
      have hbad : ∃ n, h.fs.node (l ++ [n]) = some Node.dir ∧ sourceOf h.fs (l ++ [n]) = none := by
        by_contra hno
        exact hr ⟨l, hl, hdir, fun n hn hs => hno ⟨n, hn, hs⟩⟩
      obtain ⟨n, hn, hs⟩ := hbad
      have hvalid : ∀ n ∈ h.fs.list l, ValidName n := fun n hn => h.fs.valid (h.fs.mem_list.mp hn)
      obtain ⟨err, m', hfail⟩ := snapshotsOf_fails (Quiet.tick h) (fun n => hf (n + 1)) hl hvalid
        (h.fs.mem_list.mpr (by simp [hn])) hn hs
      exact ⟨err, m', hgo.trans hfail⟩

end Reflink

/-! ## What a listing over several providers returns -/

namespace HostPathController

variable {h : Host} {v : String} {r : Reflink}

/-- The snapshots of a provider that a listing asks for: those of the volume `v`, or all of them if
`v` is empty. -/
def matching (h : Host) (v : String) (r : Reflink) : List Snapshot :=
  if v = "" then r.snapshots h else (r.snapshots h).filter fun s => s.sourceVolumeId = v

lemma providerSnapshots_of_listable (m : Int32) (token : String) (hf : h.NoFaults)
    (hr : r.Listable h) :
    ∃ h', Quiet h h'
      ∧ h.exec (providerSnapshots ⟨m, token, v, ""⟩ r) = (Except.ok (matching h v r), h') := by
  obtain ⟨h', hq, hall⟩ := Reflink.getAllSnapshots_of_listable hf hr
  refine ⟨h', hq, ?_⟩
  unfold matching
  split_ifs with hv
  · subst hv
    exact hall
  · rw [providerSnapshots, if_neg (by simp), if_pos hv]
    exact exec_bind_eq_ok.mpr ⟨_, _, hall, rfl⟩

lemma providerSnapshots_of_not_listable (m : Int32) (token : String) (hf : h.NoFaults)
    (hr : ¬ r.Listable h) :
    ∃ err h', h.exec (providerSnapshots ⟨m, token, v, ""⟩ r) = (Except.error err, h') := by
  obtain ⟨err, h', hall⟩ := Reflink.getAllSnapshots_of_not_listable hf hr
  refine ⟨err, h', ?_⟩
  by_cases hv : v = ""
  · subst hv
    exact hall
  · rw [providerSnapshots, if_neg (by simp), if_pos hv]
    exact exec_bind_of_error step hall

lemma matching_quiet {h' : Host} (hq : Quiet h h') (v : String) (r : Reflink) :
    matching h' v r = matching h v r := by
  rw [matching, matching, r.snapshots_quiet hq]

lemma collectSnapshots_of_listable (m : Int32) (token : String) {ps : List Reflink}
    (hf : h.NoFaults) (hr : ∀ r ∈ ps, r.Listable h) :
    ∃ h', Quiet h h' ∧ h.exec (collectSnapshots ⟨m, token, v, ""⟩ ps)
      = (Except.ok (ps.flatMap (matching h v)), h') := by
  induction ps generalizing h with
  | nil => exact ⟨h, Quiet.refl h, rfl⟩
  | cons r ps ih =>
      obtain ⟨h₁, hq₁, hone⟩ := providerSnapshots_of_listable (v := v) m token hf
        (hr r List.mem_cons_self)
      obtain ⟨h₂, hq₂, hrest⟩ := ih (hf.of_exec hone) fun r' hr' =>
        (hr r' (List.mem_cons_of_mem _ hr')).quiet hq₁
      refine ⟨h₂, hq₁.trans hq₂, ?_⟩
      rw [funext (matching_quiet hq₁ v)] at hrest
      exact exec_bind_eq_ok.mpr ⟨_, _, hone, exec_bind_eq_ok.mpr ⟨_, _, hrest, rfl⟩⟩

/-- One provider that cannot list its snapshots fails the whole listing. -/
lemma collectSnapshots_of_not_listable (m : Int32) (token : String) {ps : List Reflink}
    (hf : h.NoFaults) (hp : r ∈ ps) (hr : ¬ r.Listable h) :
    ∃ err h', h.exec (collectSnapshots ⟨m, token, v, ""⟩ ps) = (Except.error err, h') := by
  induction ps generalizing h with
  | nil => cases hp
  | cons r' ps ih =>
      by_cases hr' : r'.Listable h
      · obtain ⟨h₁, hq₁, hone⟩ := providerSnapshots_of_listable (v := v) m token hf hr'
        have hmem : r ∈ ps := (List.mem_cons.mp hp).resolve_left fun heq => hr (heq ▸ hr')
        obtain ⟨err, h₂, hrest⟩ := ih (hf.of_exec hone) hmem fun hl => hr (hl.of_quiet hq₁)
        exact ⟨err, h₂, (exec_bind_of_ok step hone).trans (exec_bind_of_error step hrest)⟩
      · obtain ⟨err, h₁, hone⟩ := providerSnapshots_of_not_listable (v := v) m token hf hr'
        exact ⟨err, h₁, exec_bind_of_error step hone⟩

/-- **A listing** without failures pages through what all providers have, if they can all list. -/
lemma listSnapshots_of_listable {hpc : HostPathController} (m : Int32) (token v : String)
    (hf : h.NoFaults) (hr : ∀ r ∈ hpc.providers, r.Listable h) :
    ∃ h', h.exec (hpc.listSnapshots (some ⟨m, token, v, ""⟩))
      = (snapshotsPage (hpc.providers.flatMap (matching h v)) ⟨m, token, v, ""⟩, h') := by
  obtain ⟨h', _, hall⟩ := collectSnapshots_of_listable (v := v) m token hf hr
  exact ⟨h', (exec_bind_of_ok step hall).trans (exec_liftExcept _ _)⟩

lemma listable_of_listSnapshots {hpc : HostPathController} {m : Int32} {token v : String}
    {res : ListSnapshotsResponse} {h' : Host} (hf : h.NoFaults)
    (e : h.exec (hpc.listSnapshots (some ⟨m, token, v, ""⟩)) = (Except.ok res, h')) :
    ∀ r ∈ hpc.providers, r.Listable h := by
  intro r hr
  by_contra hno
  obtain ⟨err, h'', hfail⟩ := collectSnapshots_of_not_listable (v := v) m token hf hr hno
  cases (exec_bind_of_error step hfail).symm.trans e

end HostPathController

end Hostpath
