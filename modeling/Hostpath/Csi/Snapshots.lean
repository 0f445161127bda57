import Hostpath.Csi.CreateVolume

/-!
# Taking and deleting snapshots

What `CreateSnapshot`, `DeleteSnapshot` and `ListSnapshots` do to the host, exit by exit.  Taking a
snapshot makes the data directory, then the directory that names the source, then copies; each of
the three can be cut short, and nothing is cleaned up.
-/

namespace Hostpath

open Lib FilePath Prog Host

namespace Reflink

variable {h h' : Host} {r : Reflink} {id v : String}

lemma createSnapshotFromDir_ok {path : String} {s : Snapshot}
    (e : h.exec (createSnapshotFromDir id v path) = (Except.ok s, h')) :
    h' = h.tick ∧ s.snapshotId = id ∧ s.sourceVolumeId = v := by
  obtain ⟨c, m, hc, hk⟩ := exec_bind_eq_ok.mp e
  cases hk
  obtain ⟨rep, m', hs, hk'⟩ := exec_bind_eq_ok.mp hc
  have hm : m' = h.tick := (congrArg Prod.snd (exec_perform_eq.mp hs)).symm
  cases rep <;> cases hk'
  exact ⟨hm, rfl, rfl⟩

lemma createSnapshotFromDir_error {path : String} {err : Err}
    (e : h.exec (createSnapshotFromDir id v path) = (Except.error err, h')) : h' = h.tick := by
  rcases exec_bind_eq_error.mp e with hc | ⟨c, m, _, hk⟩
  · rcases exec_bind_eq_error.mp hc with hs | ⟨rep, m', hs, hk'⟩
    · exact absurd hs exec_perform_ne_error
    · have hm : m' = h.tick := (congrArg Prod.snd (exec_perform_eq.mp hs)).symm
      cases rep <;> cases hk'
      exact hm
  · cases hk

/-- Making the directories of `path` failed: at once, because a file is in the way, or by a fault
before the last one was made. -/
def MkdirCut (h : Host) (path : String) (h' : Host) : Prop :=
  (h' = h.tick ∧ ∀ l, locate path = some l → h.fs.blocked l = true)
    ∨ ∃ l reach, locate path = some l ∧ (h.outcomes 0).fault = some reach
      ∧ h' = h.tick.made l fun q => reach q && q ≠ l

lemma mkdirCut_of_error {path : String} {oe : OsError}
    (e : h.step (Syscall.mkdirAll path) = (Except.error oe, h')) : MkdirCut h path h' := by
  rcases mkdirAll_error e with h₁ | ⟨l, reach, hl, _, hf, rfl⟩
  · exact Or.inl h₁
  · exact Or.inr ⟨l, reach, hl, hf, rfl⟩

/-- Without a fault, a failure to make directories has made none. -/
lemma MkdirCut.eq_tick {path : String} (hc : MkdirCut h path h')
    (hf : (h.outcomes 0).fault = none) : h' = h.tick := by
  rcases hc with ⟨rfl, _⟩ | ⟨l, reach, _, hf', _⟩
  · rfl
  · rw [hf] at hf'
    cases hf'

/-- The two directories of a new snapshot are made: `m₂` is the host after that. -/
structure Prepared (r : Reflink) (id v : String) (m m₂ : Host) (d w : Loc) : Prop where
  locData : locate (r.dataDir id) = some d
  data : m.fs.blocked d = false
  locSource : locate (r.sourceDir id v) = some w
  source : (m.fs.create d fun _ => true).blocked w = false
  after : m₂ = (m.tick.made d fun _ => true).tick.made w fun _ => true

lemma Prepared.data_dir {m m₂ : Host} {d w : Loc} (hprep : Prepared r id v m m₂ d w) :
    m₂.fs.node d = some Node.dir := by
  obtain ⟨hd, hb, _, _, rfl⟩ := hprep
  exact FileTree.create_node_of_some _ _
    (m.fs.create_node_on_way hb (locate_valid hd) (List.prefix_refl d))

lemma Prepared.at_data {m m₂ : Host} {d w : Loc} (hprep : Prepared r id v m m₂ d w) :
    m₂.at? (r.dataDir id) ≠ none := by
  simp [at?, hprep.locData, hprep.data_dir]

/-- How far filling a new snapshot got.  `P` is known of the call that failed. -/
inductive Filled (P : Host → Syscall → Prop) (r : Reflink) (id v : String) (m : Host) :
    Except Err Snapshot → Host → Prop where
  | dataCut {err : Err} {h' : Host} (hcut : MkdirCut m (r.dataDir id) h')
      (hP : P m (Syscall.mkdirAll (r.dataDir id))) : Filled P r id v m (Except.error err) h'
  | sourceCut {err : Err} {h' : Host} {d : Loc} (hd : locate (r.dataDir id) = some d)
      (hb : m.fs.blocked d = false)
      (hcut : MkdirCut (m.tick.made d fun _ => true) (r.sourceDir id v) h')
      (hP : P (m.tick.made d fun _ => true) (Syscall.mkdirAll (r.sourceDir id v))) :
      Filled P r id v m (Except.error err) h'
  | copyCut {err : Err} {oe : OsError} {m₂ h' : Host} {d w : Loc}
      (hprep : Prepared r id v m m₂ d w)
      (hcopy : m₂.step (Syscall.copyReflink (r.sourcePoolDir v ++ "/.") (r.dataDir id))
        = (Except.error oe, h'))
      (hP : P m₂ (Syscall.copyReflink (r.sourcePoolDir v ++ "/.") (r.dataDir id))) :
      Filled P r id v m (Except.error err) h'
  | complete {res : Except Err Snapshot} {m₂ : Host} {d w s : Loc}
      (hprep : Prepared r id v m m₂ d w) (hs : locate (r.sourcePoolDir v ++ "/.") = some s)
      (hc : CanCopy m₂.fs s d)
      (hres : ∀ snap, res = Except.ok snap → snap.snapshotId = id ∧ snap.sourceVolumeId = v) :
      Filled P r id v m res (m₂.tick.overlaid s d fun _ => true).tick

/-- **Every way filling a new snapshot can end.** -/
lemma fillSnapshot_filled {P : Host → Syscall → Prop} {res : Except Err Snapshot}
    (e : h.exec (r.fillSnapshot id v) = (res, h'))
    (hP : Along step P (r.fillSnapshot id v).run h) : Filled P r id v h res h' := by
  unfold fillSnapshot at e hP
  rcases hr₁ : h.step (Syscall.mkdirAll (r.dataDir id)) with ⟨rep₁, m₁⟩
  replace e := (exec_bind_of_ok step (exec_perform_eq.mpr hr₁)).symm.trans e
  have hP₁ := along_perform.mp (along_bind_run.mp hP).1
  replace hP := (along_bind_run.mp hP).2 _ _ (exec_perform_eq.mpr hr₁)
  cases rep₁ with
  | error oe =>
      cases (exec_bind_of_error step rfl).symm.trans e
      exact Filled.dataCut (mkdirCut_of_error hr₁) hP₁
  | ok u =>
  obtain ⟨d, hd, hb, rfl⟩ := mkdirAll_ok hr₁
  replace e := (exec_bind_of_ok step rfl).symm.trans e
  replace hP := (along_bind_run.mp hP).2 _ _ rfl
  rcases hr₂ : (h.tick.made d fun _ => true).step (Syscall.mkdirAll (r.sourceDir id v))
    with ⟨rep₂, m₂⟩
  replace e := (exec_bind_of_ok step (exec_perform_eq.mpr hr₂)).symm.trans e
  have hP₂ := along_perform.mp (along_bind_run.mp hP).1
  replace hP := (along_bind_run.mp hP).2 _ _ (exec_perform_eq.mpr hr₂)
  cases rep₂ with
  | error oe =>
      cases (exec_bind_of_error step rfl).symm.trans e
      exact Filled.sourceCut hd hb (mkdirCut_of_error hr₂) hP₂
  | ok u =>
  obtain ⟨w, hw, hbw, rfl⟩ := mkdirAll_ok hr₂
  replace e := (exec_bind_of_ok step rfl).symm.trans e
  replace hP := (along_bind_run.mp hP).2 _ _ rfl
  have hprep : Prepared r id v h ((h.tick.made d fun _ => true).tick.made w fun _ => true) d w :=
    ⟨hd, hb, hw, hbw, rfl⟩
  set m₂ := (h.tick.made d fun _ => true).tick.made w fun _ => true
  rcases hr₃ : m₂.step (Syscall.copyReflink (r.sourcePoolDir v ++ "/.") (r.dataDir id))
    with ⟨rep₃, m₃⟩
  cases rep₃ with
  | error oe =>
      have hcp : m₂.exec (reflinkCopy (r.sourcePoolDir v ++ "/.") (r.dataDir id))
          = (Except.error _, m₃) := (exec_bind_of_ok step (exec_perform_eq.mpr hr₃)).trans rfl
      cases (exec_bind_of_error step hcp).symm.trans e
      have hPc := (along_bind_run.mp (along_bind_run.mp hP).1).1
      exact Filled.copyCut hprep hr₃ (along_perform.mp hPc)
  | ok u =>
      have hcp : m₂.exec (reflinkCopy (r.sourcePoolDir v ++ "/.") (r.dataDir id))
          = (Except.ok (), m₃) := (exec_bind_of_ok step (exec_perform_eq.mpr hr₃)).trans rfl
      replace e := (exec_bind_of_ok step hcp).symm.trans e
      obtain ⟨s, d', hs, hd', hsd, hdd, hnot, hfit, _, rfl⟩ := copyReflink_ok (h := m₂.tick) hprep.at_data hr₃
      rw [hd] at hd'
      cases hd'
      cases res with
      | ok snap =>
          obtain ⟨rfl, hid, hsrc⟩ := createSnapshotFromDir_ok e
          refine Filled.complete hprep hs ⟨hsd, hdd, hnot, hfit⟩ fun s' hs' => ?_
          cases hs'
          exact ⟨hid, hsrc⟩
      | error err =>
          rw [createSnapshotFromDir_error e]
          exact Filled.complete hprep hs ⟨hsd, hdd, hnot, hfit⟩ fun s' hs' => by cases hs'

/-- A request for a snapshot whose data directory is not there: it fails before anything is made,
or fills it. -/
lemma createSnapshot_new {P : Host → Syscall → Prop} {res : Except Err Snapshot}
    (e : h.exec (r.createSnapshot id v) = (res, h'))
    (hP : Along step P (r.createSnapshot id v).run h) (hnew : h.at? (r.dataDir id) = none) :
    (Quiet h h' ∧ ∀ snap, res ≠ Except.ok snap)
      ∨ ∃ m, Quiet h m ∧ h.at? (r.sourcePoolDir v) ≠ none ∧ Filled P r id v m res h' := by
  unfold createSnapshot at e hP
  rcases hex : h.exec (checkPathExist (r.sourcePoolDir v)) with ⟨b, m⟩
  cases b with
  | error err =>
      cases (exec_bind_of_error step hex).symm.trans e
      exact Or.inl ⟨checkPathExist_error hex ▸ Quiet.tick h, by simp⟩
  | ok b =>
  replace e := (exec_bind_of_ok step hex).symm.trans e
  replace hP := (along_bind_run.mp hP).2 _ _ hex
  obtain ⟨rfl, rfl⟩ := checkPathExist_ok hex
  split_ifs at e hP with hvol
  swap
  · cases e
    exact Or.inl ⟨Quiet.tick h, by simp⟩
  rcases hex' : h.tick.exec (checkPathExist (r.dataDir id)) with ⟨b, m⟩
  cases b with
  | error err =>
      cases (exec_bind_of_error step hex').symm.trans e
      exact Or.inl ⟨checkPathExist_error hex' ▸ ⟨2, rfl⟩, by simp⟩
  | ok b =>
  replace e := (exec_bind_of_ok step hex').symm.trans e
  replace hP := (along_bind_run.mp hP).2 _ _ hex'
  obtain ⟨rfl, rfl⟩ := checkPathExist_ok hex'
  have hfalse : (h.tick.at? (r.dataDir id)).isSome = false := by
    rw [Option.isSome_eq_false_iff, Option.isNone_iff_eq_none]
    exact hnew
  rw [hfalse] at e hP
  exact Or.inr ⟨h.tick.tick, ⟨2, rfl⟩, Option.isSome_iff_ne_none.mp hvol,
    fillSnapshot_filled e hP⟩

/-- Deleting a snapshot changes nothing or removes its directory. -/
lemma deleteSnapshot_cases {P : Host → Syscall → Prop} {res : Except Err Unit}
    (e : h.exec (r.deleteSnapshot id) = (res, h'))
    (hP : Along step P (r.deleteSnapshot id).run h) :
    Quiet h h' ∨ ∃ l m gone, Quiet h m ∧ locate (join [r.path, id]) = some l
      ∧ h' = m.tick.cleared l gone ∧ P m (Syscall.removeAll (join [r.path, id]))
      ∧ ((m.outcomes 0).fault = none → gone = fun _ => true) := by
  unfold deleteSnapshot at e hP
  rcases hex : h.exec (checkPathExist (join [r.path, id])) with ⟨b, m⟩
  cases b with
  | error err =>
      cases (exec_bind_of_error step hex).symm.trans e
      exact Or.inl (checkPathExist_error hex ▸ Quiet.tick h)
  | ok b =>
  replace e := (exec_bind_of_ok step hex).symm.trans e
  replace hP := (along_bind_run.mp hP).2 _ _ hex
  obtain ⟨rfl, rfl⟩ := checkPathExist_ok hex
  split_ifs at e hP with hthere
  swap
  · cases e
    exact Or.inl (Quiet.tick h)
  rcases hr : h.tick.step (Syscall.removeAll (join [r.path, id])) with ⟨rep, m⟩
  replace e := (exec_bind_of_ok step (exec_perform_eq.mpr hr)).symm.trans e
  replace hP := along_perform.mp (along_bind_run.mp hP).1
  have hm : h' = m := by
    cases rep <;> cases e <;> rfl
  rcases removeAll_cases hr with h₁ | ⟨l, gone, hl, h₁, hgone⟩
  · exact Or.inl (hm.trans h₁ ▸ ⟨2, rfl⟩)
  · exact Or.inr ⟨l, h.tick, gone, Quiet.tick h, hl, hm.trans h₁, hP, hgone⟩

end Reflink

namespace HostPathController

variable {hpc : HostPathController} {h h' : Host}

/-- The snapshot directory of a pool is there, made now if it was not. -/
def Initialized (h : Host) (provider : Reflink) (path : String) (m : Host) : Prop :=
  (Quiet h m ∧ h.at? path ≠ none)
    ∨ h.at? path = none ∧ ∃ l m₀, Quiet h m₀ ∧ locate provider.path = some l
      ∧ h.fs.blocked l = false ∧ m = m₀.made l fun _ => true

/-- The outcome of looking for a snapshot and taking it if there is none. -/
inductive Sought (P : Host → Syscall → Prop) (provider : Reflink) (id v : String) (m : Host) :
    Except Err Snapshot → Host → Prop where
  | failed {err : Err} {h' : Host} (hq : Quiet m h') : Sought P provider id v m (Except.error err) h'
  | found {snap : Snapshot} {h' : Host} (hq : Quiet m h') (hf : provider.Found m.fs snap)
      (hid : snap.snapshotId = id) (hsrc : snap.sourceVolumeId = v) :
      Sought P provider id v m (Except.ok snap) h'
  | new {res : Except Err Snapshot} {m' h' : Host} (hq : Quiet m m')
      (habs : m.at? (join [provider.path, id]) = none)
      (he : m'.exec (provider.createSnapshot id v) = (res, h'))
      (hP : Along step P (provider.createSnapshot id v).run m') : Sought P provider id v m res h'

lemma findOrCreate_sought {P : Host → Syscall → Prop} {provider : Reflink}
    {req : CreateSnapshotRequest} {res : Except Err Snapshot}
    (e : h.exec (findOrCreate provider req) = (res, h'))
    (hP : Along step P (findOrCreate provider req).run h) :
    Sought P provider req.name req.sourceVolumeId h res h' := by
  unfold findOrCreate at e hP
  rcases hg : h.exec (provider.getSnapshotById req.name) with ⟨g, m⟩
  replace e := (exec_bind_of_ok step (exec_attempt_eq.mpr hg)).symm.trans e
  replace hP := (along_bind_run.mp hP).2 _ _ (exec_attempt_eq.mpr hg)
  cases g with
  | error err =>
      cases e
      exact Sought.failed (Reflink.getSnapshotById_error hg)
  | ok o =>
  obtain ⟨hq, hcases⟩ := Reflink.getSnapshotById_ok hg
  cases o with
  | none =>
      rcases hcases with ⟨_, habs⟩ | ⟨l, v, heq, _⟩
      · exact Sought.new hq habs e hP
      · cases heq
  | some snap =>
      rcases hcases with ⟨heq, _⟩ | ⟨l, v, heq, hl, hdir, hne, hvd⟩
      · cases heq
      · cases heq
        dsimp only at e
        split_ifs at e with hsrc
        · cases e
          exact Sought.found hq ⟨l, hl, hne, hvd⟩ rfl hsrc
        · cases e
          exact Sought.failed hq

lemma ensureInitialized_ok {provider : Reflink} {path : String} {u : Unit}
    (e : h.exec (ensureInitialized provider path) = (Except.ok u, h')) :
    Initialized h provider path h' := by
  obtain ⟨b, m, hb, hk⟩ := exec_bind_eq_ok.mp e
  obtain ⟨rfl, rfl⟩ := checkPathExist_ok hb
  split_ifs at hk with hex
  · cases hk
    exact Or.inl ⟨Quiet.tick h, Option.isSome_iff_ne_none.mp hex⟩
  · obtain ⟨res, m, ha, hk'⟩ := exec_bind_eq_ok.mp hk
    obtain ⟨rep, m', hs, hk''⟩ : ∃ rep m', h.tick.step (Syscall.mkdirAll provider.path) = (rep, m')
        ∧ m'.exec (orReturn rep) = (res, m) :=
      ⟨_, _, rfl, (exec_bind_of_ok step (exec_perform_eq.mpr rfl)).symm.trans
        (exec_attempt_eq.mp ha)⟩
    cases res with
    | error err => cases hk'
    | ok v =>
        cases hk'
        obtain ⟨rfl, rfl⟩ := exec_orReturn_ok.mp hk''
        obtain ⟨l, hl, hbl, rfl⟩ := mkdirAll_ok hs
        exact Or.inr ⟨by simpa using hex, l, h.tick.tick, ⟨2, rfl⟩, hl, hbl, rfl⟩

lemma ensureInitialized_error {provider : Reflink} {path : String} {err : Err}
    (e : h.exec (ensureInitialized provider path) = (Except.error err, h')) :
    Quiet h h' ∨ ∃ m, Quiet h m ∧ Reflink.MkdirCut m provider.path h' := by
  rcases exec_bind_eq_error.mp e with hb | ⟨b, m, hb, hk⟩
  · exact Or.inl (checkPathExist_error hb ▸ Quiet.tick h)
  obtain ⟨rfl, rfl⟩ := checkPathExist_ok hb
  split_ifs at hk with hex
  · cases hk
  · rcases exec_bind_eq_error.mp hk with ha | ⟨res, m, ha, hk'⟩
    · exact absurd ha exec_attempt_ne_error
    obtain ⟨rep, m', hs, hk''⟩ : ∃ rep m', h.tick.step (Syscall.mkdirAll provider.path) = (rep, m')
        ∧ m'.exec (orReturn rep) = (res, m) :=
      ⟨_, _, rfl, (exec_bind_of_ok step (exec_perform_eq.mpr rfl)).symm.trans
        (exec_attempt_eq.mp ha)⟩
    cases res with
    | ok v => cases hk'
    | error oe =>
        cases hk'
        obtain ⟨⟨oe', rfl, _⟩, rfl⟩ := exec_orReturn_error hk''
        exact Or.inr ⟨h.tick, Quiet.tick h, Reflink.mkdirCut_of_error hs⟩

/-- **Every way a request for a snapshot can end.** -/
lemma createSnapshot_cases {P : Host → Syscall → Prop} {r : Option CreateSnapshotRequest}
    {res : Except Err Snapshot} (e : h.exec (hpc.createSnapshot r) = (res, h'))
    (hP : Along step P (hpc.createSnapshot r).run h) :
    (Quiet h h' ∧ ∀ snap, res ≠ Except.ok snap)
      ∨ ∃ req info path provider, r = some req
        ∧ hpc.cfg.storagePoolInfo.lookup (getStoragePoolNameFromMap req.parameters) = some info
        ∧ info.snapshotPath = some path
        ∧ hpc.snapshotproviders.lookup (getStoragePoolNameFromMap req.parameters) = some provider
        ∧ (((∀ snap, res ≠ Except.ok snap)
              ∧ ∃ m, Quiet h m ∧ Reflink.MkdirCut m provider.path h')
          ∨ ∃ m, Initialized h provider path m
            ∧ Sought P provider req.name req.sourceVolumeId m res h') := by
  unfold createSnapshot at e hP
  cases hv : validateCreateSnapshotRequest r with
  | error err =>
      rw [hv] at e
      cases e
      exact Or.inl ⟨Quiet.refl _, by simp⟩
  | ok req =>
  obtain ⟨rfl, _⟩ := validateCreateSnapshotRequest_ok hv
  have hl : h.exec (liftExcept (validateCreateSnapshotRequest (some req))) = (Except.ok req, h) := by
    rw [exec_liftExcept, hv]
  replace e := (exec_bind_of_ok step hl).symm.trans e
  replace hP := (along_bind_run.mp hP).2 _ _ hl
  dsimp only at e hP
  cases hi : hpc.cfg.storagePoolInfo.lookup (getStoragePoolNameFromMap req.parameters) with
  | none =>
      rw [hi] at e
      cases e
      exact Or.inl ⟨Quiet.refl _, by simp⟩
  | some info =>
  rw [hi] at e hP
  cases hpath : info.snapshotPath with
  | none =>
      simp only [hpath] at e
      cases e
      exact Or.inl ⟨Quiet.refl _, by simp⟩
  | some path =>
  cases hprov : hpc.snapshotproviders.lookup (getStoragePoolNameFromMap req.parameters) with
  | none =>
      simp only [hpath, hprov] at e
      cases e
      exact Or.inl ⟨Quiet.refl _, by simp⟩
  | some provider =>
  simp only [hpath, hprov] at e hP
  rcases hini : h.exec (ensureInitialized provider path) with ⟨u, m⟩
  cases u with
  | error err =>
      cases (exec_bind_of_error step hini).symm.trans e
      rcases ensureInitialized_error hini with hq | hcut
      · exact Or.inl ⟨hq, by simp⟩
      · exact Or.inr ⟨req, info, path, provider, rfl, hi, hpath, hprov, Or.inl ⟨by simp, hcut⟩⟩
  | ok u =>
      replace e := (exec_bind_of_ok step hini).symm.trans e
      replace hP := (along_bind_run.mp hP).2 _ _ hini
      exact Or.inr ⟨req, info, path, provider, rfl, hi, hpath, hprov,
        Or.inr ⟨m, ensureInitialized_ok hini, findOrCreate_sought e hP⟩⟩

/-! ## Listing -/

lemma providerSnapshots_ok {req : ListSnapshotsRequest} {provider : Reflink} {ss : List Snapshot}
    (e : h.exec (providerSnapshots req provider) = (Except.ok ss, h')) :
    Quiet h h' ∧ ∀ s ∈ ss, (ValidName s.snapshotId
        ∨ req.snapshotId ≠ "" ∧ s.snapshotId = req.snapshotId) ∧ provider.Found h.fs s := by
  unfold providerSnapshots at e
  split_ifs at e with hid hsrc
  · obtain ⟨o, m, ho, hk⟩ := exec_bind_eq_ok.mp e
    cases hk
    obtain ⟨hq, ⟨rfl, _⟩ | ⟨l, v, rfl, hl, _, hne, hvd⟩⟩ := Reflink.getSnapshotById_ok ho
    · exact ⟨hq, by simp⟩
    · refine ⟨hq, fun s hs => ?_⟩
      rw [Option.toList_some, List.mem_singleton] at hs
      subst hs
      exact ⟨Or.inr ⟨hid, rfl⟩, l, hl, hne, hvd⟩
  · obtain ⟨all, m, ha, hk⟩ := exec_bind_eq_ok.mp e
    cases hk
    obtain ⟨hq, hall⟩ := Reflink.getAllSnapshots_ok ha
    refine ⟨hq, fun s hs => ?_⟩
    obtain ⟨hv, hf⟩ := hall s (List.mem_filter.mp hs).1
    exact ⟨Or.inl hv, hf⟩
  · obtain ⟨hq, hall⟩ := Reflink.getAllSnapshots_ok e
    exact ⟨hq, fun s hs => ⟨Or.inl (hall s hs).1, (hall s hs).2⟩⟩

lemma providerSnapshots_error {req : ListSnapshotsRequest} {provider : Reflink} {err : Err}
    (e : h.exec (providerSnapshots req provider) = (Except.error err, h')) : Quiet h h' := by
  unfold providerSnapshots at e
  split_ifs at e with hid hsrc
  · rcases exec_bind_eq_error.mp e with ho | ⟨o, m, _, hk⟩
    · exact Reflink.getSnapshotById_error ho
    · cases hk
  · rcases exec_bind_eq_error.mp e with ha | ⟨all, m, _, hk⟩
    · exact Reflink.getAllSnapshots_error ha
    · cases hk
  · exact Reflink.getAllSnapshots_error e

/-- Each snapshot of a listing was returned by one of the providers. -/
lemma collectSnapshots_ok {req : ListSnapshotsRequest} {ps : List Reflink} {ss : List Snapshot}
    (e : h.exec (collectSnapshots req ps) = (Except.ok ss, h')) :
    Quiet h h' ∧ ∀ s ∈ ss, ∃ r ∈ ps, ∃ m m' ss', Quiet h m
      ∧ m.exec (providerSnapshots req r) = (Except.ok ss', m') ∧ s ∈ ss' := by
  induction ps generalizing h ss with
  | nil =>
      cases e
      exact ⟨Quiet.refl _, by simp⟩
  | cons r ps ih =>
      obtain ⟨first, m, hfirst, hk⟩ := exec_bind_eq_ok.mp e
      obtain ⟨rest, m', hrest, hk'⟩ := exec_bind_eq_ok.mp hk
      cases hk'
      have hq := (providerSnapshots_ok hfirst).1
      obtain ⟨hq', hall⟩ := ih hrest
      refine ⟨hq.trans hq', fun s hs => ?_⟩
      rcases List.mem_append.mp hs with hs | hs
      · exact ⟨r, List.mem_cons_self, h, m, first, Quiet.refl _, hfirst, hs⟩
      · obtain ⟨r', hr', m₁, m₂, ss', hqm, he, hmem⟩ := hall s hs
        exact ⟨r', List.mem_cons_of_mem _ hr', m₁, m₂, ss', hq.trans hqm, he, hmem⟩

lemma collectSnapshots_error {req : ListSnapshotsRequest} {ps : List Reflink} {err : Err}
    (e : h.exec (collectSnapshots req ps) = (Except.error err, h')) : Quiet h h' := by
  induction ps generalizing h with
  | nil => cases e
  | cons r ps ih =>
      rcases exec_bind_eq_error.mp e with hfirst | ⟨first, m, hfirst, hk⟩
      · exact providerSnapshots_error hfirst
      · refine (providerSnapshots_ok hfirst).1.trans ?_
        rcases exec_bind_eq_error.mp hk with hrest | ⟨rest, m', _, hk'⟩
        · exact ih hrest
        · cases hk'

/-- A page is a part of the list. -/
lemma snapshotsPage_sublist {ss : List Snapshot} {req : ListSnapshotsRequest}
    {page : ListSnapshotsResponse} (hp : snapshotsPage ss req = Except.ok page) :
    page.entries.Sublist ss := by
  unfold snapshotsPage at hp
  by_cases hne : ss = []
  · rw [if_pos hne] at hp
    split_ifs at hp
    cases hp
    simp
  · rw [if_neg hne] at hp
    dsimp only at hp
    split at hp
    · cases hp
    · split_ifs at hp
      all_goals
        cases hp
        exact (List.drop_sublist _ _).trans (List.take_sublist _ _)

lemma listSnapshots_ok {r : Option ListSnapshotsRequest} {page : ListSnapshotsResponse}
    (e : h.exec (hpc.listSnapshots r) = (Except.ok page, h')) :
    Quiet h h' ∧ ∃ req, r = some req ∧ ∀ s ∈ page.entries, ∃ p ∈ hpc.providers, ∃ m m' ss,
      Quiet h m ∧ m.exec (providerSnapshots req p) = (Except.ok ss, m') ∧ s ∈ ss := by
  cases r with
  | none => cases e
  | some req =>
      obtain ⟨ss, m, hss, hk⟩ := exec_bind_eq_ok.mp e
      obtain ⟨hq, hall⟩ := collectSnapshots_ok hss
      obtain ⟨hpage, rfl⟩ := Prod.mk.inj ((exec_liftExcept _ _).symm.trans hk)
      exact ⟨hq, req, rfl, fun s hs => hall s ((snapshotsPage_sublist hpage).subset hs)⟩

lemma listSnapshots_quiet {r : Option ListSnapshotsRequest}
    {res : Except Err ListSnapshotsResponse} (e : h.exec (hpc.listSnapshots r) = (res, h')) :
    Quiet h h' := by
  cases res with
  | ok page => exact (listSnapshots_ok e).1
  | error err =>
      cases r with
      | none =>
          cases e
          exact Quiet.refl _
      | some req =>
          rcases exec_bind_eq_error.mp e with hss | ⟨ss, m, hss, hk⟩
          · exact collectSnapshots_error hss
          · obtain ⟨_, rfl⟩ := Prod.mk.inj ((exec_liftExcept _ _).symm.trans hk)
            exact (collectSnapshots_ok hss).1

end HostPathController

end Hostpath
