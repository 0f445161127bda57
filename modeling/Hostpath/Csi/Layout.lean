import Hostpath.Host.Frame
import Hostpath.Csi.Snapshots

/-!
# Where the driver's effects can be

A configuration whose pool and snapshot directories do not overlap, and the frames of the
handlers: outside the directory a request is about, nothing changes.  With single path components
as names and ids, the directory of a volume is one entry of a pool and the directory of a snapshot
one entry of a snapshot directory, so the frames of different requests are disjoint.
-/

namespace Hostpath

open Lib FilePath Prog Host

namespace Frame

variable {S : Loc → Prop} {h h' : Host}

lemma mkdirCut {path : String} {l : Loc} (hl : locate path = some l)
    (hc : Reflink.MkdirCut h path h') (hS : ∀ q, q <+: l → h.fs.node q = none → S q) :
    Frame S h h' := by
  rcases hc with ⟨rfl, _⟩ | ⟨l', reach, hl', _, rfl⟩
  · exact of_quiet (Quiet.tick _)
  · rw [hl] at hl'
    cases hl'
    exact (of_quiet (Quiet.tick _)).trans (made _ hS)

end Frame

/-! ## Configurations -/

lemma Config.mem_pools {cfg : Config} {info : StoragePoolInfo} :
    info ∈ cfg.pools ↔ ∃ a, cfg.storagePoolInfo.lookup a = some info := by
  constructor
  · intro h
    obtain ⟨⟨a, i⟩, he, rfl⟩ := List.mem_map.mp h
    exact ⟨a, AList.mem_lookup_iff.mpr he⟩
  · rintro ⟨a, ha⟩
    exact List.mem_map.mpr ⟨⟨a, info⟩, AList.mem_lookup_iff.mp ha, rfl⟩

/-- The pool directories do not overlap. -/
def Config.PoolsApart (cfg : Config) : Prop :=
  ∀ ⦃a b i j l k⦄, cfg.storagePoolInfo.lookup a = some i → cfg.storagePoolInfo.lookup b = some j →
    a ≠ b → i.loc = some l → j.loc = some k → Apart l k

/-- The pool and snapshot directories have paths and do not overlap. -/
structure Config.Layout (cfg : Config) : Prop where
  pool_loc : ∀ {a info}, cfg.storagePoolInfo.lookup a = some info → ∃ l, info.loc = some l
  snapshot_loc : ∀ {a info p}, cfg.storagePoolInfo.lookup a = some info →
    info.snapshotPath = some p → ∃ l, locate p = some l
  pools : cfg.PoolsApart
  snapshots : ∀ {a b i j l k}, cfg.storagePoolInfo.lookup a = some i →
    cfg.storagePoolInfo.lookup b = some j → a ≠ b → i.snapshotLoc = some l →
    j.snapshotLoc = some k → Apart l k
  across : ∀ {a b i j l k}, cfg.storagePoolInfo.lookup a = some i →
    cfg.storagePoolInfo.lookup b = some j → i.loc = some l → j.snapshotLoc = some k → Apart l k

namespace Config.PoolsApart

variable {cfg : Config} {a b : String} {i j : StoragePoolInfo} {l k : Loc}

/-- No pool is in a volume. -/
lemma pool_not_below (hap : cfg.PoolsApart) (ha : cfg.storagePoolInfo.lookup a = some i)
    (hl : i.loc = some l) (hb : cfg.storagePoolInfo.lookup b = some j) (hk : j.loc = some k)
    (n : String) : ¬ l ++ [n] <+: k := by
  intro hp
  by_cases hab : a = b
  · subst hab
    cases ha.symm.trans hb
    cases hl.symm.trans hk
    exact not_prefix_of_below hp (List.prefix_refl _)
  · exact (hap ha hb hab hl hk).1 ((List.prefix_append l _).trans hp)

/-- No volume is in another. -/
lemma volume_not_below (hap : cfg.PoolsApart) (ha : cfg.storagePoolInfo.lookup a = some i)
    (hl : i.loc = some l) (hb : cfg.storagePoolInfo.lookup b = some j) (hk : j.loc = some k)
    {m n : String} (hne : ¬ (a = b ∧ m = n)) : ¬ l ++ [m] <+: k ++ [n] := by
  intro hp
  rcases List.prefix_concat_iff.mp hp with heq | hp
  · obtain ⟨rfl, hmn⟩ := List.append_inj' heq rfl
    have hmn : m = n := by simpa using hmn
    by_cases hab : a = b
    · exact hne ⟨hab, hmn⟩
    · exact (hap ha hb hab hl hk).1 (List.prefix_refl l)
  · exact hap.pool_not_below ha hl hb hk m hp

lemma volumes_apart (hap : cfg.PoolsApart) (ha : cfg.storagePoolInfo.lookup a = some i)
    (hl : i.loc = some l) (hb : cfg.storagePoolInfo.lookup b = some j) (hk : j.loc = some k)
    {m n : String} (hne : ¬ (a = b ∧ m = n)) : Apart (l ++ [m]) (k ++ [n]) :=
  ⟨hap.volume_not_below ha hl hb hk hne,
    hap.volume_not_below hb hk ha hl fun h => hne ⟨h.1.symm, h.2.symm⟩⟩

end Config.PoolsApart

/-- Each snapshot provider works on the directories of its pool. -/
def HostPathController.WellFormed (hpc : HostPathController) : Prop :=
  ∀ a r, hpc.snapshotproviders.lookup a = some r →
    ∃ info, hpc.cfg.storagePoolInfo.lookup a = some info ∧ info.snapshotPath = some r.path
      ∧ info.path = r.sourcePath

/-- Nothing is mounted in a pool. -/
def Config.PoolsUnmounted (cfg : Config) (h : Host) : Prop :=
  ∀ ⦃a info l⦄, cfg.storagePoolInfo.lookup a = some info → info.loc = some l → ¬ h.MountedBelow l

/-- Nothing is mounted in a pool or in a snapshot directory. -/
structure Config.Unmounted (cfg : Config) (h : Host) : Prop where
  pool : cfg.PoolsUnmounted h
  snapshot : ∀ {a info l}, cfg.storagePoolInfo.lookup a = some info → info.snapshotLoc = some l →
    ¬ h.MountedBelow l

lemma Config.PoolsUnmounted.of_mounts {cfg : Config} {h h' : Host} (hu : cfg.PoolsUnmounted h)
    (hm : h'.mounts = h.mounts) : cfg.PoolsUnmounted h' := by
  unfold PoolsUnmounted MountedBelow at hu ⊢
  rwa [hm]

lemma Config.Unmounted.of_mounts {cfg : Config} {h h' : Host} (hu : cfg.Unmounted h)
    (hm : h'.mounts = h.mounts) : cfg.Unmounted h' := by
  refine ⟨hu.pool.of_mounts hm, ?_⟩
  unfold MountedBelow
  rw [hm]
  exact hu.snapshot

namespace Sample

lemma eq_of_lookup {a : String} {info : StoragePoolInfo}
    (h : cfg.storagePoolInfo.lookup a = some info) : a = "local" ∧ info = pool := by
  have hmem := AList.mem_lookup_iff.mp h
  rw [cfg, AList.singleton_entries, List.mem_singleton] at hmem
  cases hmem
  exact ⟨rfl, rfl⟩

lemma layout : cfg.Layout where
  pool_loc h := by
    obtain ⟨rfl, rfl⟩ := eq_of_lookup h
    exact ⟨["pool"], by decide⟩
  snapshot_loc h hp := by
    obtain ⟨rfl, rfl⟩ := eq_of_lookup h
    cases hp
    exact ⟨["snapshots"], by decide⟩
  pools _ _ _ _ _ _ h h' hne := absurd ((eq_of_lookup h).1.trans (eq_of_lookup h').1.symm) hne
  snapshots h h' hne := absurd ((eq_of_lookup h).1.trans (eq_of_lookup h').1.symm) hne
  across h h' hl hk := by
    obtain ⟨rfl, rfl⟩ := eq_of_lookup h
    obtain ⟨rfl, rfl⟩ := eq_of_lookup h'
    cases (show pool.loc = some ["pool"] by decide).symm.trans hl
    cases (show pool.snapshotLoc = some ["snapshots"] by decide).symm.trans hk
    exact ⟨by decide, by decide⟩

end Sample

lemma Config.Unmounted.of_nil {cfg : Config} {h : Host} (hm : h.mounts = []) :
    cfg.Unmounted h := by
  constructor <;>
  · rintro a info l _ _ ⟨m, hmem, _⟩
    rw [hm] at hmem
    cases hmem

/-! ## Frames of the volume requests -/

namespace HostPathController

variable {hpc : HostPathController} {h h' : Host}

/-- The directory of the volume a request is about, and what is below it. -/
def VolumeArea (hpc : HostPathController) (req : CreateVolumeRequest) (q : Loc) : Prop :=
  ∃ l, (hpc.poolOf req).loc = some l ∧ l ++ [req.name] <+: q

lemma lookup_poolOf {req : CreateVolumeRequest} (hadm : hpc.Admits req) :
    hpc.cfg.storagePoolInfo.lookup (getStoragePoolNameFromMap req.parameters)
      = some (hpc.poolOf req) := by
  obtain ⟨info, hi⟩ := Option.isSome_iff_exists.mp hadm.2.2
  rw [hi, poolOf, Config.pool, hi]
  rfl

lemma locate_volumePath {req : CreateVolumeRequest} {l : Loc} (hl : (hpc.poolOf req).loc = some l)
    (hname : ValidName req.name) : locate (hpc.volumePath req) = some (l ++ [req.name]) :=
  locate_join_valid hl hname

lemma exists_loc_of_at {info : StoragePoolInfo} (hat : h.at? info.path ≠ none) :
    ∃ l, info.loc = some l ∧ h.fs.node l ≠ none := by
  unfold at? at hat
  unfold StoragePoolInfo.loc
  cases hl : locate info.path with
  | none => simp [hl] at hat
  | some l => exact ⟨l, rfl, by simpa [hl] using hat⟩

/-- Making the directory of a volume in a pool that is there makes that directory only. -/
lemma made_frame {l : Loc} {n : String} (hl : h.fs.node l ≠ none) (keep : Loc → Bool) :
    Frame (fun q => l ++ [n] <+: q) h (h.made (l ++ [n]) keep) := by
  refine Frame.made keep fun q hq hnone => ?_
  rcases List.prefix_concat_iff.mp hq with rfl | hq'
  · exact List.prefix_refl _
  · exact absurd (FileTree.node_none_of_below hq' hnone) hl

lemma createVolume_frame {req : CreateVolumeRequest} {res : Except Err Volume}
    (hu : hpc.cfg.PoolsUnmounted h) (hname : ValidName req.name)
    (e : h.exec (hpc.createVolume (some req)) = (res, h')) :
    Frame (hpc.VolumeArea req) h h' := by
  -- what `Ensured` does, in every exit that gets that far
  have hens : ∀ {m : Host}, h.at? (hpc.poolOf req).path ≠ none →
      Ensured h (hpc.volumePath req) m → Frame (hpc.VolumeArea req) h m := by
    rintro m hat ⟨m₀, hq, ⟨_, rfl⟩ | ⟨_, l', hl', _, rfl⟩⟩
    · exact Frame.of_quiet hq
    · obtain ⟨l, hl, hn⟩ := exists_loc_of_at hat
      rw [locate_volumePath hl hname] at hl'
      cases hl'
      rw [← hq.fs] at hn
      exact (Frame.of_quiet hq).trans ((made_frame hn _).mono fun q hq' => ⟨l, hl, hq'⟩)
  cases res with
  | ok v =>
      obtain ⟨req', c, m, hreq, _, _, hat, hen, hfill⟩ := createVolume_ok e
      cases hreq
      refine (hens hat hen).trans ?_
      rcases hfill with ⟨_, rfl⟩ | ⟨id, r, s, d, m', _, _, _, hd, _, hq, rfl⟩
      · exact Frame.of_quiet (Quiet.refl _)
      · refine (Frame.of_quiet hq).trans (Frame.overlaid _ fun q hdq => ?_)
        obtain ⟨l, hl, _⟩ := exists_loc_of_at hat
        rw [locate_volumePath hl hname] at hd
        cases hd
        exact ⟨l, hl, hdq⟩
  | error err =>
      have htrue : Along step (fun _ _ => True) (hpc.createVolume (some req)).run h :=
        along_true _ _
      rcases createVolume_error e htrue with hq | ⟨req', hreq, hadm, hat, hcut | hrest⟩
      · exact Frame.of_quiet hq
      all_goals
        cases hreq
        obtain ⟨l, hl, hn⟩ := exists_loc_of_at hat
      · obtain ⟨_, m, l', reach, hq, hl', _, rfl⟩ := hcut
        rw [locate_volumePath hl hname] at hl'
        cases hl'
        rw [← hq.fs] at hn
        exact (Frame.of_quiet hq).trans ((made_frame hn _).mono fun q hq' => ⟨l, hl, hq'⟩)
      · obtain ⟨id, m₁, m₂, res, _, hen, hpart, hdel, _⟩ := hrest
        have hloc := locate_volumePath hl hname
        have hf₁ := hens hat hen
        have hf₂ : Frame (hpc.VolumeArea req) m₁ m₂ := by
          rcases hpart with hq | ⟨s, d, keep, m, hd, _, hq, rfl⟩
          · exact Frame.of_quiet hq
          · rw [hloc] at hd
            cases hd
            exact (Frame.of_quiet hq).trans (Frame.overlaid _ fun q hdq => ⟨l, hl, hdq⟩)
        have hf := hf₁.trans hf₂
        refine hf.trans ?_
        have hm : ¬ m₂.MountedBelow (l ++ [req.name]) := hf.not_mountedBelow
          (not_mountedBelow_of_below (List.prefix_append l _) (hu (lookup_poolOf hadm) hl))
        cases res with
        | ok u =>
            rcases deleteVolume_ok hdel with ⟨_, rfl⟩ | ⟨l', hl', _, _, rfl⟩
            · exact Frame.of_quiet (Quiet.tick _)
            · rw [show locate (join [(hpc.poolOf req).path, req.name]) = _ from hloc] at hl'
              cases hl'
              exact (Frame.of_quiet (Quiet.tick _)).trans
                (Frame.cleared _ hm fun q hq => ⟨l, hl, hq⟩)
        | error re =>
            rcases deleteVolume_error hdel with rfl | ⟨l', gone, hl', rfl⟩
            · exact Frame.of_quiet (Quiet.tick _)
            · rw [show locate (join [(hpc.poolOf req).path, req.name]) = _ from hloc] at hl'
              cases hl'
              exact (Frame.of_quiet (Quiet.tick _)).trans
                (Frame.cleared _ hm fun q hq => ⟨l, hl, hq⟩)

/-- The directories of the volumes of one name, in every pool. -/
def NamedArea (cfg : Config) (id : String) (q : Loc) : Prop :=
  ∃ a info l, cfg.storagePoolInfo.lookup a = some info ∧ info.loc = some l ∧ l ++ [id] <+: q

lemma removeVolumeNamed_frame {cfg : Config} {id : String} {failed : String → String}
    {res : Except Err Unit} (hu : cfg.PoolsUnmounted h)
    (e : h.exec (removeVolumeNamed cfg.pools id failed) = (res, h')) :
    Frame (NamedArea cfg id) h h' := by
  have hclear : ∀ {info : StoragePoolInfo} {l : Loc} {m : Host} (gone : Loc → Bool),
      info ∈ cfg.pools → info.loc = some l → Quiet h m →
      Frame (NamedArea cfg id) h (m.cleared (l ++ [id]) gone) := by
    intro info l m gone hinfo hl hq
    obtain ⟨a, ha⟩ := Config.mem_pools.mp hinfo
    have hm : ¬ m.MountedBelow (l ++ [id]) := (Frame.of_quiet (S := fun _ => False) hq).not_mountedBelow
      (not_mountedBelow_of_below (List.prefix_append l _) (hu ha hl))
    exact (Frame.of_quiet hq).trans (Frame.cleared _ hm fun q hq' => ⟨a, info, l, ha, hl, hq'⟩)
  cases res with
  | ok u =>
      rcases (removeVolumeNamed_ok e).2 with ⟨hq, _⟩ | ⟨info, hinfo, l, m, hl, _, _, _, hq, rfl⟩
      · exact Frame.of_quiet hq
      · exact hclear _ hinfo hl hq
  | error err =>
      rcases removeVolumeNamed_error e with hq | ⟨info, hinfo, l, m, gone, hl, _, _, hq, rfl⟩
      · exact Frame.of_quiet hq
      · exact hclear _ hinfo hl hq

end HostPathController

/-! ## Frames of the snapshot requests -/

namespace Reflink

variable {h h' m m₂ : Host} {r : Reflink} {id v : String} {l d w s : Loc}
  {P : Host → Syscall → Prop}

lemma validName_dataPath : ValidName dataPath := by decide

/-- The directory of a snapshot, what is below it, and what is on the way to it. -/
def Area (l : Loc) (id : String) (q : Loc) : Prop := q <+: l ∨ l ++ [id] <+: q

lemma locate_dataDir (hl : locate r.path = some l) (hid : ValidName id) :
    locate (r.dataDir id) = some (l ++ [id, dataPath]) :=
  locate_join_valid₂ hl hid validName_dataPath

lemma locate_sourceDir (hl : locate r.path = some l) (hid : ValidName id) (hv : ValidName v) :
    locate (r.sourceDir id v) = some (l ++ [id, v]) :=
  locate_join_valid₂ hl hid hv

lemma area_of_way {x : String} {q : Loc} (h : q <+: l ++ [id, x]) : Area l id q :=
  prefix_cases h

lemma Prepared.frame (hl : locate r.path = some l) (hid : ValidName id) (hv : ValidName v)
    (hp : Prepared r id v m m₂ d w) : Frame (Area l id) m m₂ := by
  obtain ⟨hd, _, hw, _, rfl⟩ := hp
  rw [locate_dataDir hl hid] at hd
  rw [locate_sourceDir hl hid hv] at hw
  cases hd
  cases hw
  refine (Frame.of_quiet (Quiet.tick m)).trans ((Frame.made _ fun q hq _ => area_of_way hq).trans
    ((Frame.of_quiet (Quiet.tick _)).trans (Frame.made _ fun q hq _ => area_of_way hq)))

lemma Filled.frame {res : Except Err Snapshot} (hl : locate r.path = some l) (hid : ValidName id)
    (hv : ValidName v) (hf : Filled P r id v m res h') : Frame (Area l id) m h' := by
  have hdata : ∀ q, l ++ [id, dataPath] <+: q → Area l id q := fun q hq =>
    Or.inr (List.IsPrefix.trans ⟨[dataPath], by simp⟩ hq)
  cases hf with
  | dataCut hcut _ =>
      exact Frame.mkdirCut (locate_dataDir hl hid) hcut fun q hq _ => area_of_way hq
  | sourceCut hd hb hcut _ =>
      rw [locate_dataDir hl hid] at hd
      cases hd
      exact (Frame.of_quiet (Quiet.tick m)).trans
        ((Frame.made _ fun q hq _ => area_of_way hq).trans
          (Frame.mkdirCut (locate_sourceDir hl hid hv) hcut fun q hq _ => area_of_way hq))
  | copyCut hprep hcopy hP =>
      refine (hprep.frame hl hid hv).trans ((Frame.of_quiet (Quiet.tick _)).trans ?_)
      rw [← show _ = h' from congrArg Prod.snd hcopy]
      refine Frame.copyReflink fun d' q hd' hq => hdata q ?_
      rw [locate_dataDir hl hid] at hd'
      cases hd'
      exact hq
  | complete hprep hs hc hres =>
      have hd := hprep.1
      rw [locate_dataDir hl hid] at hd
      cases hd
      exact (hprep.frame hl hid hv).trans ((Frame.of_quiet (Quiet.tick _)).trans
        ((Frame.overlaid _ hdata).trans (Frame.of_quiet (Quiet.tick _))))

lemma not_prefix_sibling {x y : String} (h : x ≠ y) : ¬ l ++ [id, x] <+: l ++ [id, y] := by
  intro hp
  have heq := hp.eq_of_length (by simp)
  exact h (by simpa using heq)

/-- Nothing but the data directory and the directory of the source is in a new snapshot. -/
lemma Prepared.node_below (hl : locate r.path = some l) (hid : ValidName id) (hv : ValidName v)
    (hp : Prepared r id v m m₂ d w) (habs : m.fs.node (l ++ [id]) = none) {q : Loc}
    (hq : l ++ [id] <+: q) (hqd : ¬ q <+: l ++ [id, dataPath]) (hqv : ¬ q <+: l ++ [id, v]) :
    m₂.fs.node q = none := by
  obtain ⟨hd, _, hw, _, rfl⟩ := hp
  rw [locate_dataDir hl hid] at hd
  rw [locate_sourceDir hl hid hv] at hw
  cases hd
  cases hw
  have hnone : m.fs.node q = none := FileTree.node_none_of_below hq habs
  refine FileTree.create_node_of_none _ ?_ fun hc => absurd hc hqv
  exact FileTree.create_node_of_none _ hnone fun hc => absurd hc hqd

lemma Prepared.node_below_data (hl : locate r.path = some l) (hid : ValidName id)
    (hv : ValidName v) (hp : Prepared r id v m m₂ d w) (habs : m.fs.node (l ++ [id]) = none)
    {q : Loc} (hq : q ≠ []) : m₂.fs.node (l ++ [id, dataPath] ++ q) = none := by
  have hlen : ∀ x : String, ¬ l ++ [id, dataPath] ++ q <+: l ++ [id, x] := by
    intro x hx
    have hle := hx.length_le
    have hpos := List.length_pos_iff.mpr hq
    simp only [List.length_append, List.length_cons, List.length_nil] at hle
    omega
  exact hp.node_below hl hid hv habs ⟨dataPath :: q, by simp⟩ (hlen _) (hlen _)

/-- Nothing is in the way of the directory that names the source. -/
lemma source_not_blocked (hl : locate r.path = some l) (hid : ValidName id)
    (habs : m.fs.node (l ++ [id]) = none) (hb : m.fs.blocked (l ++ [id, dataPath]) = false) :
    (m.fs.create (l ++ [id, dataPath]) fun _ => true).blocked (l ++ [id, v]) = false := by
  have hmade : ∀ q, q <+: l ++ [id, dataPath] →
      (m.fs.create (l ++ [id, dataPath]) fun _ => true).node q = some Node.dir := fun q hq =>
    FileTree.create_node_on_way _ hb (locate_valid (locate_dataDir hl hid)) hq
  have hsplit : l ++ [id, v] = l ++ [id] ++ [v] := by simp
  rw [hsplit]
  refine FileTree.blocked_concat _ (hmade _ ⟨[dataPath], by simp⟩) ?_
  rw [← hsplit]
  by_cases hvd : v = dataPath
  · exact Or.inr (hmade _ (by rw [hvd]))
  · exact Or.inl (FileTree.create_node_of_none _
      (FileTree.node_none_of_below ⟨[v], by simp⟩ habs) fun hc =>
        absurd hc (not_prefix_sibling hvd))

/-- **A new snapshot is a copy of its source.** -/
lemma Prepared.contents (hl : locate r.path = some l) (hid : ValidName id) (hv : ValidName v)
    (hp : Prepared r id v m m₂ d w) (habs : m.fs.node (l ++ [id]) = none) (hs : Apart s l)
    (hc : CanCopy m₂.fs s d) :
    (m₂.fs.overlay s d fun _ => true).contents (l ++ [id, dataPath]) = m.fs.contents s := by
  have hd := hp.1
  rw [locate_dataDir hl hid] at hd
  cases hd
  have hsrc : ∀ q, m₂.fs.node (s ++ q) = m.fs.node (s ++ q) := by
    refine fun q => (hp.frame hl hid hv).node _ ?_
    rintro (h₁ | h₁)
    · exact hs.1 ((List.prefix_append s q).trans h₁)
    · exact hs.not_below (List.prefix_append s q) ((List.prefix_append l _).trans h₁)
  rw [m₂.fs.overlay_contents_of_empty hc.1 hc.2.1 fun q hq => hp.node_below_data hl hid hv habs hq]
  exact funext hsrc

/-- A complete new snapshot: a copy of what the source `s` holds in `m`, and beside the data no
directory but the one that names the source. -/
structure Taken (l : Loc) (id v : String) (s : Loc) (m h' : Host) : Prop where
  source : m.fs.node s = some Node.dir
  contents : h'.fs.contents (l ++ [id, dataPath]) = m.fs.contents s
  marker : ∀ x, x ≠ dataPath → h'.fs.node (l ++ [id, x]) ≠ none → x = v

lemma Prepared.source_node (hl : locate r.path = some l) (hid : ValidName id) (hv : ValidName v)
    (hp : Prepared r id v m m₂ d w) (hs : Apart s l) : m₂.fs.node s = m.fs.node s := by
  refine (hp.frame hl hid hv).node s ?_
  rintro (h₁ | h₁)
  · exact hs.1 h₁
  · exact hs.2 ((List.prefix_append l _).trans h₁)

/-- The copy into the directories of a new snapshot completes it. -/
lemma Prepared.taken (hl : locate r.path = some l) (hid : ValidName id) (hv : ValidName v)
    (hp : Prepared r id v m m₂ d w) (habs : m.fs.node (l ++ [id]) = none) (hs : Apart s l)
    (hc : CanCopy m₂.fs s d) : Taken l id v s m (m₂.tick.overlaid s d fun _ => true).tick := by
  have hcont := hp.contents hl hid hv habs hs hc
  have hd := hp.locData
  rw [locate_dataDir hl hid] at hd
  cases hd
  refine ⟨?_, hcont, fun x hx hn => ?_⟩
  · rw [← hp.source_node hl hid hv hs]
    exact hc.1
  · by_contra hne
    refine hn ?_
    have hover : (m₂.fs.overlay s (l ++ [id, dataPath]) fun _ => true).node (l ++ [id, x])
        = m₂.fs.node (l ++ [id, x]) :=
      FileTree.overlay_node_outside _ _ (not_prefix_sibling (Ne.symm hx))
    exact hover.trans (hp.node_below hl hid hv habs ⟨[x], by simp⟩ (not_prefix_sibling hx)
      (not_prefix_sibling hne))

/-- **Filling a new snapshot takes it, makes no directory that names a source, or stops in the
copy.** -/
lemma Filled.fresh {res : Except Err Snapshot} (hl : locate r.path = some l) (hid : ValidName id)
    (hv : ValidName v) (hs : locate (r.sourcePoolDir v) = some s) (hsl : Apart s l)
    (habs : m.fs.node (l ++ [id]) = none) (hf : Filled P r id v m res h') :
    (Taken l id v s m h'
        ∧ ∀ snap, res = Except.ok snap → snap.snapshotId = id ∧ snap.sourceVolumeId = v)
      ∨ (∀ snap, res ≠ Except.ok snap)
        ∧ ((∀ x, x ≠ dataPath → h'.fs.node (l ++ [id, x]) = none)
          ∨ ∃ m₂ oe, m₂.step (Syscall.copyReflink (r.sourcePoolDir v ++ "/.") (r.dataDir id))
              = (Except.error oe, h')
            ∧ P m₂ (Syscall.copyReflink (r.sourcePoolDir v ++ "/.") (r.dataDir id))) := by
  have hnone : ∀ x : String, m.fs.node (l ++ [id, x]) = none := fun x =>
    FileTree.node_none_of_below ⟨[x], by simp⟩ habs
  have hmade : ∀ x, x ≠ dataPath → ∀ keep,
      (m.fs.create (l ++ [id, dataPath]) keep).node (l ++ [id, x]) = none := fun x hx keep =>
    FileTree.create_node_of_none _ (hnone x) fun hc => absurd hc (not_prefix_sibling hx)
  cases hf with
  | dataCut hcut _ =>
      refine Or.inr ⟨by simp, Or.inl fun x hx => ?_⟩
      rcases hcut with ⟨rfl, _⟩ | ⟨d, reach, hd, _, rfl⟩
      · exact hnone x
      · rw [locate_dataDir hl hid] at hd
        cases hd
        exact hmade x hx _
  | sourceCut hd hb hcut _ =>
      refine Or.inr ⟨by simp, Or.inl fun x hx => ?_⟩
      rw [locate_dataDir hl hid] at hd
      cases hd
      rcases hcut with ⟨rfl, _⟩ | ⟨w, reach, hw, _, rfl⟩
      · exact hmade x hx _
      · rw [locate_sourceDir hl hid hv] at hw
        cases hw
        refine FileTree.create_node_of_none _ (hmade x hx _) fun hc => ?_
        have hxw := hc.eq_of_length (by simp)
        simp [hxw]
  | copyCut hprep hcopy hP => exact Or.inr ⟨by simp, Or.inr ⟨_, _, hcopy, hP⟩⟩
  | complete hprep hs' hc hres =>
      rw [locate_dot hs] at hs'
      cases hs'
      exact Or.inl ⟨hprep.taken hl hid hv habs hsl hc, hres⟩

/-- If no call fails, a new snapshot is taken or nothing is made. -/
lemma Filled.of_succeeds {res : Except Err Snapshot} (hl : locate r.path = some l)
    (hid : ValidName id) (hv : ValidName v) (hs : locate (r.sourcePoolDir v) = some s)
    (hsl : Apart s l) (habs : m.fs.node (l ++ [id]) = none)
    (hfault : ∀ m c, P m c → (m.outcomes 0).fault = none)
    (hcopy : ∀ m src dst, P m (Syscall.copyReflink src dst) →
      (m.step (Syscall.copyReflink src dst)).1.isOk = true)
    (hf : Filled P r id v m res h') : Taken l id v s m h' ∨ h'.fs.node (l ++ [id]) = none := by
  cases hf with
  | dataCut hcut hP =>
      right
      rw [hcut.eq_tick (hfault _ _ hP)]
      exact habs
  | sourceCut hd hb hcut hP =>
      exfalso
      rw [locate_dataDir hl hid] at hd
      cases hd
      rcases hcut with ⟨_, hblocked⟩ | ⟨_, reach, _, hreach, _⟩
      · have hb' := hblocked _ (locate_sourceDir hl hid hv)
        rw [made_fs, tick_fs, source_not_blocked hl hid habs hb] at hb'
        cases hb'
      · rw [hfault _ _ hP] at hreach
        cases hreach
  | copyCut hprep hfail hP =>
      have hok := hcopy _ _ _ hP
      rw [hfail] at hok
      cases hok
  | complete hprep hs' hc hres =>
      rw [locate_dot hs] at hs'
      cases hs'
      exact Or.inl (hprep.taken hl hid hv habs hsl hc)

end Reflink

end Hostpath
