import Hostpath.Csi.SnapshotStore

/-!
# The snapshots of a pool as a finite map

Abstractly the snapshots of a pool are a finite map from ids to source volumes.  `Reflink.Encodes`
relates the map to the provider's directory: an id that is mapped has a directory whose only other
entry beside `data` is named after its source, and an id that is not mapped has no entry at all.
The file says what each snapshot request returns, in terms of the map, and how the map changes, as
long as no call fails (`createSnapshot_answered`, `deleteFromProviders_of_noFaults`).
-/

namespace Hostpath

open Lib FilePath Prog Host

namespace Reflink

variable {h h' m m₂ : Host} {r : Reflink} {id v : String} {S L d w s : Loc}

/-! ## Taking a snapshot without failures -/

/-- The time that `getFileCreationTime` makes of a time: its fraction of a second is dropped. -/
def wholeSeconds (t : ℕ) : ℕ := t / 1000000000 * 1000000000

/-- A snapshot whose directories can be made and whose source can be copied is taken.  Its time is
that of the copy. -/
lemma fillSnapshot_of_noFaults (hf : m.NoFaults) (hprep : Prepared r id v m m₂ d w)
    (hs : locate (r.sourcePoolDir v) = some s) (hc : CanCopy m₂.fs s d) :
    m.exec (r.fillSnapshot id v)
      = (Except.ok ⟨id, v, wholeSeconds m₂.tick.now, true⟩,
        (m₂.tick.overlaid s d fun _ => true).tick) := by
  obtain ⟨hd, hb, hw, hbw, rfl⟩ := hprep
  have hmk : m.step (Syscall.mkdirAll (r.dataDir id))
      = (Except.ok (), m.tick.made d fun _ => true) := mkdirAll_of_noFault (hf 0) hd hb
  have hmk' : (m.tick.made d fun _ => true).step (Syscall.mkdirAll (r.sourceDir id v))
      = (Except.ok (), (m.tick.made d fun _ => true).tick.made w fun _ => true) :=
    mkdirAll_of_noFault (hf 1) hw hbw
  set m₂ := (m.tick.made d fun _ => true).tick.made w fun _ => true
  have hcp : m₂.step (Syscall.copyReflink (r.sourcePoolDir v ++ "/.") (r.dataDir id))
      = (Except.ok (), m₂.tick.overlaid s d fun _ => true) :=
    copyReflink_of_noFault (hf 2) (locate_dot hs) hd hc.1 hc.2.1 hc.2.2.1 hc.2.2.2
  have hdir : (m₂.tick.overlaid s d fun _ => true).fs.node d = some Node.dir :=
    FileTree.overlay_node_self _ hc.2.1 _
  have hst := stat_of_dir (h := m₂.tick.overlaid s d fun _ => true) (hf 3) hd hdir
  rw [overlaid_ctime_self] at hst
  refine exec_bind_eq_ok.mpr ⟨_, _, exec_perform_eq.mpr hmk, exec_bind_eq_ok.mpr ⟨(), _, rfl, ?_⟩⟩
  refine exec_bind_eq_ok.mpr ⟨_, _, exec_perform_eq.mpr hmk', exec_bind_eq_ok.mpr ⟨(), _, rfl, ?_⟩⟩
  refine exec_bind_eq_ok.mpr ⟨(), _, exec_bind_eq_ok.mpr ⟨_, _, exec_perform_eq.mpr hcp, rfl⟩, ?_⟩
  refine exec_bind_eq_ok.mpr ⟨_, _, exec_bind_eq_ok.mpr ⟨_, _, exec_perform_eq.mpr hst, rfl⟩, rfl⟩

/-- The directories of a new snapshot can be made in a provider's directory that is there. -/
lemma prepared_of_absent (hS : locate r.path = some S) (hid : ValidName id) (hv : ValidName v)
    (hdir : m.fs.node S = some Node.dir) (habs : m.fs.node (S ++ [id]) = none) :
    Prepared r id v m ((m.tick.made (S ++ [id, dataPath]) fun _ => true).tick.made (S ++ [id, v])
      fun _ => true) (S ++ [id, dataPath]) (S ++ [id, v]) := by
  have hb : m.fs.blocked (S ++ [id, dataPath]) = false := by
    have hway := m.fs.blocked_append [dataPath] habs (m.fs.blocked_concat hdir (Or.inl habs))
    rwa [List.append_assoc] at hway
  exact ⟨locate_dataDir hS hid, hb, locate_sourceDir hS hid hv,
    source_not_blocked hS hid habs hb, rfl⟩

lemma Prepared.source_dir (hprep : Prepared r id v m m₂ d w) : m₂.fs.node w = some Node.dir := by
  obtain ⟨_, _, hw, hbw, rfl⟩ := hprep
  exact FileTree.create_node_on_way _ hbw (locate_valid hw) (List.prefix_refl w)

/-- A volume can be copied into the directories of a new snapshot. -/
lemma Prepared.canCopy (hS : locate r.path = some S) (hid : ValidName id) (hv : ValidName v)
    (hprep : Prepared r id v m m₂ d w) (habs : m.fs.node (S ++ [id]) = none) (hs : Apart s S)
    (hvol : m.fs.node s = some Node.dir) : CanCopy m₂.fs s d := by
  have hsrc : m₂.fs.node s = some Node.dir := (hprep.source_node hS hid hv hs).trans hvol
  have hd := hprep.locData
  rw [locate_dataDir hS hid] at hd
  cases hd
  have hdir := hprep.data_dir
  refine ⟨hsrc, hdir, fun hp => hs.not_below hp (List.prefix_append S _), ?_⟩
  exact m₂.fs.fits_of_empty hsrc hdir fun q hq => hprep.node_below_data hS hid hv habs hq

/-- What a request that found no snapshot `id` leaves if it took one of `v`. -/
structure New (S : Loc) (id v : String) (h h' : Host) : Prop where
  frame : Frame (Area S id) h h'
  dir : h'.fs.node (S ++ [id]) = some Node.dir
  source : h'.fs.node (S ++ [id] ++ [v]) = some Node.dir
  only : ∀ x, x ≠ dataPath → h'.fs.node (S ++ [id] ++ [x]) ≠ none → x = v

/-- Where there is no snapshot, taking one makes the directories and fills them. -/
lemma createSnapshot_of_prepared (hf : h.NoFaults) (hprep : Prepared r id v h.tick.tick m₂ d w)
    (hs : locate (r.sourcePoolDir v) = some s) (hnone : h.fs.node d = none)
    (hvol : h.fs.node s ≠ none) (hc : CanCopy m₂.fs s d) :
    h.exec (r.createSnapshot id v) = (Except.ok ⟨id, v, wholeSeconds m₂.tick.now, true⟩,
      (m₂.tick.overlaid s d fun _ => true).tick) := by
  have hfill := fillSnapshot_of_noFaults (fun n => hf (n + 2)) hprep hs hc
  have hsource : h.exec (checkPathExist (r.sourcePoolDir v)) = (Except.ok true, h.tick) :=
    checkPathExist_of_node (hf 0) hs hvol
  have hdata : h.tick.exec (checkPathExist (r.dataDir id)) = (Except.ok false, h.tick.tick) :=
    checkPathExist_of_missing (hf 1) hprep.locData hnone hprep.data
  exact (exec_bind_of_ok step hsource).trans ((exec_bind_of_ok step hdata).trans hfill)

/-- **Taking a snapshot succeeds** if nothing fails and the volume is there. -/
lemma createSnapshot_of_noFaults (hS : locate r.path = some S) (hL : locate r.sourcePath = some L)
    (hid : ValidName id) (hv : ValidName v) (hvd : v ≠ dataPath) (hap : Apart L S)
    (hf : h.NoFaults) (hdir : h.fs.node S = some Node.dir) (habs : h.fs.node (S ++ [id]) = none)
    (hvol : h.fs.node (L ++ [v]) = some Node.dir) :
    ∃ t h', h.exec (r.createSnapshot id v) = (Except.ok ⟨id, v, t, true⟩, h')
      ∧ New S id v h h' := by
  have hsrc : locate (r.sourcePoolDir v) = some (L ++ [v]) := locate_join_valid hL hv
  have hapv : Apart (L ++ [v]) S := hap.below (List.prefix_append L _) (List.prefix_refl S)
  have hprep := prepared_of_absent (m := h.tick.tick) hS hid hv hdir habs
  have hc := hprep.canCopy hS hid hv habs hapv hvol
  have hnone : h.fs.node (S ++ [id, dataPath]) = none :=
    FileTree.node_none_of_below ⟨[dataPath], by simp⟩ habs
  refine ⟨_, _, createSnapshot_of_prepared hf hprep hsrc hnone (by simp [hvol]) hc, ?_⟩
  set m₂ := (h.tick.tick.tick.made (S ++ [id, dataPath]) fun _ => true).tick.made (S ++ [id, v])
    fun _ => true
  have ht := hprep.taken hS hid hv habs hapv hc
  have hw : (m₂.fs.overlay (L ++ [v]) (S ++ [id, dataPath]) fun _ => true).node (S ++ [id, v])
      = some Node.dir :=
    (FileTree.overlay_node_outside _ _ (not_prefix_sibling hvd.symm)).trans hprep.source_dir
  have hfill' : Filled (fun _ _ => True) r id v h.tick.tick
      (Except.ok ⟨id, v, wholeSeconds m₂.tick.now, true⟩)
      (m₂.tick.overlaid (L ++ [v]) (S ++ [id, dataPath]) fun _ => true).tick :=
    Filled.complete hprep (locate_dot hsrc) hc fun snap hsnap => by
      cases hsnap
      exact ⟨rfl, rfl⟩
  refine ⟨?_, ?_, ?_, fun x hx hn => ht.marker x hx ?_⟩
  · exact (Frame.of_quiet ⟨2, rfl⟩).trans (hfill'.frame hS hid hv)
  · exact FileTree.node_of_below (q := S ++ [id, v]) ⟨[v], by simp⟩ (by simp) (by
      rw [tick_fs, overlaid_fs, tick_fs, hw]
      simp)
  · rw [List.append_assoc]
    exact hw
  · rwa [List.append_assoc] at hn

/-! ## Encoding -/

/-- The directory `S` holds the snapshots of the map: an entry for each id, and nothing else. -/
structure Encodes (S : Loc) (fs : FileTree FileData) (M : GoMap String) : Prop where
  unmapped : ∀ ⦃n⦄, M.lookup n = none → fs.node (S ++ [n]) = none
  mapped : ∀ ⦃n v⦄, M.lookup n = some v →
    fs.node (S ++ [n]) = some Node.dir ∧ sourceOf fs (S ++ [n]) = some v

namespace Encodes

variable {M : GoMap String} {fs fs' : FileTree FileData}

lemma of_empty (hn : ∀ n, fs.node (S ++ [n]) = none) : Encodes S fs ∅ :=
  ⟨fun n _ => hn n, fun n v h => by simp at h⟩

/-- What is mapped is a directory, and the other way round. -/
lemma lookup_eq_none (he : Encodes S fs M) {n : String} :
    M.lookup n = none ↔ fs.node (S ++ [n]) = none := by
  refine ⟨fun h => he.unmapped h, fun h => ?_⟩
  cases hn : M.lookup n with
  | none => rfl
  | some v =>
      rw [(he.mapped hn).1] at h
      cases h

lemma node (he : Encodes S fs M) {n : String} :
    fs.node (S ++ [n]) = none ∨ fs.node (S ++ [n]) = some Node.dir := by
  cases hn : M.lookup n with
  | none => exact Or.inl (he.unmapped hn)
  | some v => exact Or.inr (he.mapped hn).1

lemma source (he : Encodes S fs M) {n : String} (hn : fs.node (S ++ [n]) ≠ none) :
    sourceOf fs (S ++ [n]) = M.lookup n := by
  cases hl : M.lookup n with
  | none => exact absurd (he.unmapped hl) hn
  | some v => exact (he.mapped hl).2

/-- Nothing but the entries of the snapshots themselves matters. -/
lemma congr (he : Encodes S h.fs M) (hu : ∀ n, Untouched (S ++ [n]) h h') :
    Encodes S h'.fs M := by
  refine ⟨fun n hn => ?_, fun n v hn => ⟨?_, ?_⟩⟩
  · rw [hu n _ (List.prefix_refl _)]
    exact he.unmapped hn
  · rw [hu n _ (List.prefix_refl _)]
    exact (he.mapped hn).1
  · rw [← (he.mapped hn).2]
    exact sourceOf_congr fun x => hu n _ (List.prefix_append _ _)

/-- The map and the directory change at one id. -/
lemma change {M' : GoMap String} (he : Encodes S h.fs M)
    (hu : ∀ n, n ≠ id → Untouched (S ++ [n]) h h') (hM : ∀ n, n ≠ id → M'.lookup n = M.lookup n)
    (hnone : M'.lookup id = none → h'.fs.node (S ++ [id]) = none)
    (hsome : ∀ v, M'.lookup id = some v →
      h'.fs.node (S ++ [id]) = some Node.dir ∧ sourceOf h'.fs (S ++ [id]) = some v) :
    Encodes S h'.fs M' := by
  refine ⟨fun n hn => ?_, fun n v hn => ?_⟩
  · by_cases hne : n = id
    · subst hne
      exact hnone hn
    · rw [hu n hne _ (List.prefix_refl _)]
      exact he.unmapped ((hM n hne).symm.trans hn)
  · by_cases hne : n = id
    · subst hne
      exact hsome v hn
    · obtain ⟨hdir, hsrc⟩ := he.mapped ((hM n hne).symm.trans hn)
      refine ⟨(hu n hne _ (List.prefix_refl _)).trans hdir, ?_⟩
      rw [← hsrc]
      exact sourceOf_congr fun x => hu n hne _ (List.prefix_append _ _)

/-- A snapshot that was taken is put into the map. -/
lemma insert (he : Encodes S h.fs M) (hvd : v ≠ dataPath) (hnew : New S id v h h') :
    Encodes S h'.fs (M.insert id v) := by
  refine he.change (fun n (hne : n ≠ id) => Untouched.of_frame hnew.frame fun q hq => ?_)
    (fun n hne => AList.lookup_insert_ne hne) (fun hn => ?_) fun w hn => ?_
  · rintro (h₁ | h₁)
    · exact not_prefix_of_below hq h₁
    · exact (apart_of_ne hne).not_below hq h₁
  · rw [AList.lookup_insert] at hn
    cases hn
  · rw [AList.lookup_insert] at hn
    cases hn
    refine ⟨hnew.dir, sourceOf_of_single hnew.source hvd fun x hx => ?_⟩
    by_cases hxd : x = dataPath
    · exact Or.inr hxd
    · exact Or.inl (hnew.only x hxd (by rw [hx]; simp))

/-- A snapshot whose entry is gone is taken out of the map. -/
lemma erase (he : Encodes S h.fs M) (hgone : h'.fs.node (S ++ [id]) = none)
    (hu : ∀ n, n ≠ id → Untouched (S ++ [n]) h h') : Encodes S h'.fs (M.erase id) := by
  refine he.change hu (fun n hne => AList.lookup_erase_ne hne) (fun _ => hgone) fun w hn => ?_
  rw [AList.lookup_erase] at hn
  cases hn

/-! ## Looking -/

lemma listable (he : Encodes S h.fs M) (hS : locate r.path = some S)
    (hdir : h.fs.node S = some Node.dir) : r.Listable h := by
  refine ⟨S, hS, hdir, fun n hn hnone => ?_⟩
  rw [he.source (by simp [hn]), he.lookup_eq_none, hn] at hnone
  cases hnone

/-- The snapshots of the provider are those of the map, each once. -/
lemma snapshots (he : Encodes S h.fs M) (hS : locate r.path = some S) :
    ((r.snapshots h).map Snapshot.snapshotId).Nodup ∧ ∀ n v, M.lookup n = some v
      ↔ ∃ s ∈ r.snapshots h, s.snapshotId = n ∧ s.sourceVolumeId = v := by
  refine ⟨nodup_snapshots, fun n v => ⟨fun hn => ?_, ?_⟩⟩
  · obtain ⟨hdir, hsrc⟩ := he.mapped hn
    refine ⟨⟨n, v, h.ctime (S ++ [n]), true⟩, (mem_snapshots hS).mpr ⟨hdir, ?_⟩, rfl, rfl⟩
    rw [entryOf, hsrc]
    rfl
  · rintro ⟨s, hs, rfl, rfl⟩
    obtain ⟨hdir, hent⟩ := (mem_snapshots hS).mp hs
    rw [← he.source (by simp [hdir])]
    exact entryOf_source hent

/-- **A lookup by id** finds what the map says. -/
lemma getSnapshotById (he : Encodes S h.fs M) (hS : locate r.path = some S)
    (hb : h.fs.blocked (S ++ [id]) = false) (hid : ValidName id) (hf : h.NoFaults) :
    ∃ t h', Quiet h h' ∧ h.exec (r.getSnapshotById id)
      = (Except.ok ((M.lookup id).map fun v => ⟨id, v, t, true⟩), h') := by
  have hloc := locate_join_valid hS hid
  cases hn : M.lookup id with
  | none =>
      exact ⟨0, h.tick, Quiet.tick h, getSnapshotById_of_missing hf hloc (he.unmapped hn) hb⟩
  | some v =>
      obtain ⟨hd, hsrc⟩ := he.mapped hn
      refine ⟨h.ctime (S ++ [id]), h.tick.tick, ⟨2, rfl⟩, ?_⟩
      rw [getSnapshotById_of_dir hf hloc hd, hsrc]
      rfl

end Encodes

end Reflink

namespace HostPathController

variable {hpc : HostPathController} {h h' : Host} {a b : String} {p p' : Reflink}
  {S S' L L' : Loc} {M : GoMap String} {req : CreateSnapshotRequest}

/-- The error of a request for a snapshot of another volume under a name that is taken. -/
def sameName (name : String) : Err :=
  Err.status Code.alreadyExists ("snapshot with the same name: " ++ name ++
    " but with different SourceVolumeId already exist")

/-- What a request for a snapshot returns and leaves, if no call fails and the snapshot directory
`S` of its pool encodes the map `M`. -/
inductive Answered (S L : Loc) (M : GoMap String) (id v : String) (h : Host) :
    Except Err Snapshot → Host → Prop where
  | found {t : ℕ} {h' : Host} (hM : M.lookup id = some v) (hq : Quiet h h') :
      Answered S L M id v h (Except.ok ⟨id, v, t, true⟩) h'
  | taken {t : ℕ} {h' : Host} (hM : M.lookup id = none)
      (hvol : h.fs.node (L ++ [v]) = some Node.dir) (hnew : Reflink.New S id v h h') :
      Answered S L M id v h (Except.ok ⟨id, v, t, true⟩) h'
  | noVolume {err : Err} {h' : Host} (hM : M.lookup id = none)
      (hvol : h.fs.node (L ++ [v]) = none) (hq : Quiet h h') :
      Answered S L M id v h (Except.error err) h'
  | otherSource {w : String} {h' : Host} (hM : M.lookup id = some w) (hw : w ≠ v)
      (hq : Quiet h h') : Answered S L M id v h (Except.error (sameName id)) h'

/-- A request for a snapshot in a snapshot directory that is there. -/
lemma findOrCreate_answered (he : Reflink.Encodes S h.fs M) (hS : locate p.path = some S)
    (hL : locate p.sourcePath = some L) (hap : Apart L S) (hdir : h.fs.node S = some Node.dir)
    (hvols : ∀ n, h.fs.node (L ++ [n]) = none ∨ h.fs.node (L ++ [n]) = some Node.dir)
    (hid : ValidName req.name) (hv : ValidName req.sourceVolumeId)
    (hvd : req.sourceVolumeId ≠ dataPath) (hf : h.NoFaults) {res : Except Err Snapshot}
    (e : h.exec (findOrCreate p req) = (res, h')) :
    Answered S L M req.name req.sourceVolumeId h res h' := by
  obtain ⟨t, m, hq, hget⟩ := he.getSnapshotById hS (h.fs.blocked_concat hdir he.node) hid hf
  replace e := (exec_bind_of_ok step (exec_attempt_eq.mpr hget)).symm.trans e
  have hfm := hf.of_exec hget
  cases hM : M.lookup req.name with
  | some w =>
      rw [hM] at e
      dsimp only [Option.map_some] at e
      split_ifs at e with hsame
      · cases e
        subst hsame
        exact Answered.found hM hq
      · cases e
        exact Answered.otherSource hM hsame hq
  | none =>
      rw [hM] at e
      dsimp only [Option.map_none] at e
      rcases hvols req.sourceVolumeId with hnone | hvol
      · have habs : m.at? (p.dataDir req.name) = none := by
          rw [at?, Reflink.locate_dataDir hS hid, Option.bind_some, hq.fs]
          exact FileTree.node_none_of_below ⟨[dataPath], by simp⟩ (he.unmapped hM)
        have hsrc : m.at? (p.sourcePoolDir req.sourceVolumeId) = none := by
          rw [at?, show locate (p.sourcePoolDir req.sourceVolumeId) = _ from
            locate_join_valid hL hv, Option.bind_some, hq.fs]
          exact hnone
        rcases Reflink.createSnapshot_new (P := fun _ _ => True) e (along_true _ _) habs with
          ⟨hq', hno⟩ | ⟨_, _, hthere, _⟩
        · cases res with
          | ok snap => exact absurd rfl (hno snap)
          | error err => exact Answered.noVolume hM hnone (hq.trans hq')
        · exact absurd hsrc hthere
      · obtain ⟨t, m', he', hnew⟩ := Reflink.createSnapshot_of_noFaults hS hL hid hv hvd hap hfm
          (by rw [hq.fs]; exact hdir) (by rw [hq.fs]; exact he.unmapped hM)
          (by rw [hq.fs]; exact hvol)
        cases he'.symm.trans e
        exact Answered.taken hM hvol ⟨(Frame.of_quiet hq).trans hnew.frame, hnew.dir, hnew.source,
          hnew.only⟩

/-- Where a file is in the place of the snapshot directory, a request fails and does nothing. -/
lemma findOrCreate_of_file {c : FileData} (hS : locate p.path = some S)
    (hfile : h.fs.node S = some (Node.file c)) (hid : ValidName req.name)
    (hf : (h.outcomes 0).fault = none) :
    ∃ err, h.exec (findOrCreate p req) = (Except.error err, h.tick) := by
  have hstat : h.step (Syscall.stat (join [p.path, req.name]))
      = (Except.error (OsError.path "stat" (join [p.path, req.name]) Errno.notDir), h.tick) := by
    refine Prod.ext ((stat_of_noFault hf).trans ?_) rfl
    rw [stat, lookup_error_of_blocked (locate_join_valid hS hid) ⟨[req.name], rfl⟩ (by simp) hfile]
    rfl
  have hget : h.exec (p.getSnapshotById req.name) = (Except.error _, h.tick) :=
    exec_bind_of_ok step (exec_perform_eq.mpr hstat)
  exact ⟨_, exec_bind_of_ok step (exec_attempt_eq.mpr hget)⟩

/-- Where the snapshot directory is not there, making sure of it is a check and a `MkdirAll`. -/
lemma ensureInitialized_of_missing {path : String} (hS : locate p.path = some S)
    (hpath : locate path = some S) (hf : h.NoFaults) (hn : h.fs.node S = none)
    (hb : h.fs.blocked S = false) :
    h.exec (ensureInitialized p path) = (Except.ok (), h.tick.tick.made S fun _ => true) := by
  have hcheck := checkPathExist_of_missing (hf 0) hpath hn hb
  have hmk : h.tick.step (Syscall.mkdirAll p.path)
      = (Except.ok (), h.tick.tick.made S fun _ => true) := mkdirAll_of_noFault (hf 1) hS hb
  have hinit : h.tick.exec p.init = (Except.ok (), h.tick.tick.made S fun _ => true) :=
    exec_bind_eq_ok.mpr ⟨_, _, exec_perform_eq.mpr hmk, rfl⟩
  exact (exec_bind_of_ok step hcheck).trans (exec_bind_of_ok step (exec_attempt_eq.mpr hinit))

/-- Making sure that there is a snapshot directory only fails if a file is on the way to it. -/
lemma ensureInitialized_of_noFaults {path : String} (hS : locate p.path = some S)
    (hpath : locate path = some S) (hf : h.NoFaults) :
    (∃ m, h.exec (ensureInitialized p path) = (Except.ok (), m) ∧ Frame (fun q => q <+: S) h m
        ∧ (h.fs.node S ≠ none ∧ Quiet h m
          ∨ h.fs.node S = none ∧ m.fs.node S = some Node.dir))
      ∨ h.fs.node S = none ∧ ∃ err m, h.exec (ensureInitialized p path) = (Except.error err, m)
        ∧ Quiet h m := by
  by_cases hn : h.fs.node S = none
  · by_cases hb : h.fs.blocked S = false
    · refine Or.inl ⟨_, ensureInitialized_of_missing hS hpath hf hn hb, ?_, Or.inr ⟨hn, ?_⟩⟩
      · exact (Frame.of_quiet ⟨2, rfl⟩).trans (Frame.made _ fun q hq _ => hq)
      · exact h.fs.create_node_on_way hb (locate_valid hS) (List.prefix_refl S)
    · refine Or.inr ⟨hn, ?_⟩
      rcases he : h.exec (ensureInitialized p path) with ⟨res, m⟩
      cases res with
      | ok u =>
          rcases ensureInitialized_ok he with ⟨_, hat⟩ | ⟨_, l, _, _, hl, hb', _⟩
          · exact absurd (by simp [at?, hpath, hn]) hat
          · cases hS.symm.trans hl
            exact absurd hb' hb
      | error err =>
          refine ⟨err, m, rfl, ?_⟩
          rcases ensureInitialized_error he with hq | ⟨m₀, hq, hcut⟩
          · exact hq
          · rw [hcut.eq_tick (hf.quiet hq 0)]
            exact hq.trans (Quiet.tick _)
  · have hcheck := checkPathExist_of_node (hf 0) hpath hn
    exact Or.inl ⟨h.tick, exec_bind_of_ok step hcheck, Frame.of_quiet (Quiet.tick h),
      Or.inl ⟨hn, Quiet.tick h⟩⟩

/-- A valid request for a pool with a provider makes sure of the snapshot directory and goes on. -/
lemma createSnapshot_at_site (site : hpc.Site (getStoragePoolNameFromMap req.parameters) p S L)
    (hid : req.name ≠ "") (hv : req.sourceVolumeId ≠ "") :
    ∃ path, locate path = some S ∧ hpc.createSnapshot (some req) = (do
        ensureInitialized p path
        findOrCreate p req) := by
  obtain ⟨info, hi, _, hS⟩ := site.pool
  cases hpath : info.snapshotPath with
  | none =>
      rw [StoragePoolInfo.snapshotLoc, hpath] at hS
      cases hS
  | some path =>
      rw [StoragePoolInfo.snapshotLoc, hpath] at hS
      refine ⟨path, hS, ?_⟩
      have hval : validateCreateSnapshotRequest (some req) = Except.ok req := by
        rw [validateCreateSnapshotRequest, if_neg hid, if_neg hv]
      have hpure : ∀ f : CreateSnapshotRequest → Sys Snapshot,
          liftExcept (validateCreateSnapshotRequest (some req)) >>= f = f req := by
        intro f
        rw [hval]
        rfl
      unfold createSnapshot
      rw [hpure]
      simp only [hi, hpath, site.provider]

/-- **Every way a valid request for a snapshot can end** if no call fails: the snapshot directory
is there, made now if need be, and the map decides; or it cannot be had and nothing happens. -/
lemma createSnapshot_answered (he : Reflink.Encodes S h.fs M)
    (site : hpc.Site (getStoragePoolNameFromMap req.parameters) p S L) (hap : Apart L S)
    (hvols : ∀ n, h.fs.node (L ++ [n]) = none ∨ h.fs.node (L ++ [n]) = some Node.dir)
    (hid : ValidName req.name) (hv : ValidName req.sourceVolumeId)
    (hvd : req.sourceVolumeId ≠ dataPath) (hf : h.NoFaults) {res : Except Err Snapshot}
    (e : h.exec (hpc.createSnapshot (some req)) = (res, h')) :
    (∃ m, Frame (fun q => q <+: S) h m ∧ m.fs.node S = some Node.dir
        ∧ (h.fs.node S = some Node.dir → Quiet h m)
        ∧ Answered S L M req.name req.sourceVolumeId m res h')
      ∨ h.fs.node S ≠ some Node.dir ∧ (∃ err, res = Except.error err) ∧ Quiet h h' := by
  obtain ⟨path, hpath, hrun⟩ := createSnapshot_at_site site hid.1 hv.1
  rw [hrun] at e
  rcases ensureInitialized_of_noFaults site.snapshots hpath hf with
    ⟨m, hini, hframe, hor⟩ | ⟨hn, err, m, hini, hq⟩
  swap
  · cases (exec_bind_of_error step hini).symm.trans e
    exact Or.inr ⟨by simp [hn], ⟨err, rfl⟩, hq⟩
  replace e := (exec_bind_of_ok step hini).symm.trans e
  have hfm := hf.of_exec hini
  cases hnode : m.fs.node S with
  | none =>
      rcases hor with ⟨hn, hq⟩ | ⟨_, hdir⟩
      · rw [hq.fs] at hnode
        exact absurd hnode hn
      · rw [hnode] at hdir
        cases hdir
  | some x =>
  cases x with
  | file c =>
      rcases hor with ⟨_, hq⟩ | ⟨_, hdir⟩
      · obtain ⟨err, herr⟩ := findOrCreate_of_file site.snapshots hnode hid (hfm 0)
        cases herr.symm.trans e
        rw [hq.fs] at hnode
        exact Or.inr ⟨by simp [hnode], ⟨err, rfl⟩, hq.trans (Quiet.tick m)⟩
      · rw [hnode] at hdir
        cases hdir
  | dir =>
      have hem : Reflink.Encodes S m.fs M := he.congr fun n =>
        Untouched.of_frame hframe fun q hq => not_prefix_of_below hq
      have hvm : ∀ n, m.fs.node (L ++ [n]) = none ∨ m.fs.node (L ++ [n]) = some Node.dir := by
        intro n
        rw [hframe.node _ fun hq => hap.1 ((List.prefix_append L _).trans hq)]
        exact hvols n
      refine Or.inl ⟨m, hframe, hnode, fun hdir => ?_, findOrCreate_answered hem site.snapshots
        site.volumes hap hnode hvm hid hv hvd hfm e⟩
      rcases hor with ⟨_, hq⟩ | ⟨hn, _⟩
      · exact hq
      · rw [hdir] at hn
        cases hn

end HostPathController

/-! ## Deleting a snapshot without failures -/

/-- Deleting removes the entry of the snapshot, if there is one. -/
lemma Reflink.deleteSnapshot_of_noFaults {h : Host} {r : Reflink} {id : String} {S : Loc}
    (hS : locate r.path = some S) (hid : ValidName id)
    (hb : h.fs.blocked (S ++ [id]) = false) (hm : ¬ h.MountedBelow (S ++ [id]))
    (hf : h.NoFaults) :
    ∃ m, h.exec (r.deleteSnapshot id) = (Except.ok (), m) ∧ m.mounts = h.mounts
      ∧ ∀ q, m.fs.node q = if S ++ [id] <+: q then none else h.fs.node q := by
  have hloc := locate_join_valid hS hid
  by_cases hn : h.fs.node (S ++ [id]) = none
  · have hcheck := checkPathExist_of_missing (hf 0) hloc hn hb
    refine ⟨h.tick, exec_bind_of_ok step hcheck, rfl, fun q => ?_⟩
    split_ifs with hq
    · exact FileTree.node_none_of_below hq hn
    · rfl
  · have hcheck := checkPathExist_of_node (hf 0) hloc hn
    have hrm : h.tick.step (Syscall.removeAll (join [r.path, id]))
        = (Except.ok (), h.tick.tick.cleared (S ++ [id]) fun _ => true) :=
      removeAll_of_noFault (hf 1) hloc (decide_eq_false (getLast_elems_join hloc (by simp)))
        (by simp) hm (Or.inl hn)
    refine ⟨h.tick.tick.cleared (S ++ [id]) fun _ => true, (exec_bind_of_ok step hcheck).trans
      (exec_bind_eq_ok.mpr ⟨_, _, exec_perform_eq.mpr hrm, rfl⟩), rfl, fun q => ?_⟩
    rw [cleared_fs, removed_node (h := h.tick.tick) (by simp) hm]
    rfl

namespace HostPathController

/-- Deleting goes through all providers and succeeds, as long as no file is in the way. -/
lemma deleteFromProviders_of_noFaults {h : Host} {id : String} {ps : List Reflink}
    (hps : ∀ p ∈ ps, ∃ S, locate p.path = some S ∧ h.fs.blocked (S ++ [id]) = false
      ∧ ¬ h.MountedBelow (S ++ [id])) (hid : ValidName id) (hf : h.NoFaults) :
    ∃ m, h.exec (deleteFromProviders id ps) = (Except.ok (), m) ∧ m.mounts = h.mounts
      ∧ ∀ q, m.fs.node q = if ∃ p ∈ ps, ∃ S, locate p.path = some S ∧ S ++ [id] <+: q then none
        else h.fs.node q := by
  classical
  induction ps generalizing h with
  | nil => exact ⟨h, rfl, rfl, fun q => by simp⟩
  | cons p ps ih =>
      obtain ⟨S, hS, hb, hm⟩ := hps p List.mem_cons_self
      obtain ⟨m₁, hone, hms, hnode⟩ := Reflink.deleteSnapshot_of_noFaults hS hid hb hm hf
      have hno : ∀ q, NoNewFile q h m₁ := by
        intro q c hc
        rw [hnode q] at hc
        split_ifs at hc
        exact hc
      obtain ⟨m₂, hrest, hms', hnode'⟩ := ih (h := m₁) (fun p' hp' => by
        obtain ⟨S', hS', hb', hm'⟩ := hps p' (List.mem_cons_of_mem _ hp')
        refine ⟨S', hS', FileTree.blocked_of_no_file (fun q _ => hno q) hb', ?_⟩
        unfold MountedBelow at hm' ⊢
        rwa [hms]) (hf.of_exec hone)
      refine ⟨m₂, (exec_bind_of_ok step hone).trans hrest, hms'.trans hms, fun q => ?_⟩
      rw [hnode' q, hnode q]
      by_cases hrest' : ∃ p' ∈ ps, ∃ S', locate p'.path = some S' ∧ S' ++ [id] <+: q
      · obtain ⟨p', hp', hq⟩ := hrest'
        rw [if_pos ⟨p', hp', hq⟩, if_pos ⟨p', List.mem_cons_of_mem _ hp', hq⟩]
      · rw [if_neg hrest']
        by_cases hq : S ++ [id] <+: q
        · rw [if_pos hq, if_pos ⟨p, List.mem_cons_self, S, hS, hq⟩]
        · rw [if_neg hq, if_neg]
          rintro ⟨p', hp', S', hS', hq'⟩
          rcases List.mem_cons.mp hp' with rfl | hp'
          · cases hS.symm.trans hS'
            exact hq hq'
          · exact hrest' ⟨p', hp', S', hS', hq'⟩

end HostPathController

end Hostpath
