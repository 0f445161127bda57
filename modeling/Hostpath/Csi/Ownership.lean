import Hostpath.Csi.ConcurrentListing

/-!
# Requests keep to their own objects

A volume is a directory in a pool and a snapshot is a directory in a snapshot directory.  A request
of the controller service names one of them, and changes nothing else: not while it runs at the same
time as others, not when its calls fail half-way, and not while it cleans up after a failed restore.
So an object that no request names stays as it is, with everything in it (`others_untouched`).
-/

namespace Hostpath

open Lib FilePath Prog Host

/-! ## Objects -/

namespace Config

variable {cfg cfg' : Config} {l k d d' : Loc} {h : Host}

/-- The location of a pool or of a snapshot directory. -/
def Root (cfg : Config) (l : Loc) : Prop :=
  ∃ a info, cfg.storagePoolInfo.lookup a = some info ∧ (info.loc = some l ∨ info.snapshotLoc = some l)

/-- The location of a volume or of a snapshot. -/
def Object (cfg : Config) (d : Loc) : Prop := ∃ l n, cfg.Root l ∧ d = l ++ [n]

/-- Two directories of the storage are the same or do not overlap. -/
lemma Root.apart (hlay : cfg.Layout) (hl : cfg.Root l) (hk : cfg.Root k) : l = k ∨ Apart l k := by
  obtain ⟨a, i, ha, hl⟩ := hl
  obtain ⟨b, j, hb, hk⟩ := hk
  by_cases hab : a = b
  · subst hab
    cases ha.symm.trans hb
    rcases hl with hl | hl <;> rcases hk with hk | hk
    · exact Or.inl (Option.some.inj (hl.symm.trans hk))
    · exact Or.inr (hlay.across ha ha hl hk)
    · exact Or.inr (hlay.across ha ha hk hl).symm
    · exact Or.inl (Option.some.inj (hl.symm.trans hk))
  · rcases hl with hl | hl <;> rcases hk with hk | hk
    · exact Or.inr (hlay.pools ha hb hab hl hk)
    · exact Or.inr (hlay.across ha hb hl hk)
    · exact Or.inr (hlay.across hb ha hk hl).symm
    · exact Or.inr (hlay.snapshots ha hb hab hl hk)

/-- Two objects are the same or do not overlap. -/
lemma Object.apart (hlay : cfg.Layout) (hd : cfg.Object d) (hd' : cfg.Object d') :
    d = d' ∨ Apart d d' := by
  obtain ⟨l, m, hl, rfl⟩ := hd
  obtain ⟨k, n, hk, rfl⟩ := hd'
  rcases hl.apart hlay hk with rfl | hap
  · by_cases hmn : m = n
    · exact Or.inl (by rw [hmn])
    · exact Or.inr (apart_of_ne hmn)
  · exact Or.inr (hap.below (List.prefix_append l _) (List.prefix_append k _))

lemma Object.not_mountedBelow (hu : cfg.Unmounted h) (hd : cfg.Object d) : ¬ h.MountedBelow d := by
  obtain ⟨l, n, ⟨a, info, ha, hl⟩, rfl⟩ := hd
  refine not_mountedBelow_of_below (List.prefix_append l _) ?_
  rcases hl with hl | hl
  · exact hu.pool ha hl
  · exact hu.snapshot ha hl

end Config

/-! ## What calls can change -/

/-- The path leads into an object of `own`. -/
def InOwn (own : Loc → Prop) (p : String) : Prop := ∃ d z, own d ∧ locate p = some z ∧ d <+: z

/-- The path is on the way to an object of `own`. -/
def OnWayToOwn (own : Loc → Prop) (p : String) : Prop :=
  ∃ d z, own d ∧ locate p = some z ∧ z <+: d

/-- The location is in an object of `own`, or on the way to one and missing. -/
def OwnArea (own : Loc → Prop) (h : Host) (q : Loc) : Prop :=
  ∃ d, own d ∧ (d <+: q ∨ q <+: d ∧ h.fs.node q = none)

/-- The call keeps to the objects of `own`, and mounts nothing. -/
def Syscall.Keeps (own : Loc → Prop) : Syscall → Prop :=
  Syscall.Confined (InOwn own) (fun _ => False) (OnWayToOwn own)

lemma Syscall.Looks.keeps {own : Loc → Prop} {c : Syscall} (hc : c.Looks) : c.Keeps own := by
  cases c with
  | statfs | stat | readDir | isNotMountPoint | findmnt => trivial
  | _ => exact hc.elim

/-- **A call that keeps to its objects changes nothing else**, however far it gets. -/
lemma frame_of_keeps {cfg : Config} {own : Loc → Prop} {h : Host} {c : Syscall}
    (hu : cfg.Unmounted h) (hown : ∀ d, own d → cfg.Object d) (hc : c.Keeps own) :
    Frame (OwnArea own h) h (h.step c).2 := by
  have htick : Frame (OwnArea own h) h h.tick := Frame.of_quiet (Quiet.tick h)
  cases c with
  | statfs | stat | readDir | isNotMountPoint | findmnt => exact htick
  | mkdir p => exact hc.elim
  | mount s t f o => exact hc.2.elim
  | unmount t => exact hc.elim
  | mkdirAll p =>
      -- what is made is missing, and in the object or on the way to it
      have harea : ∀ {z q}, locate p = some z → q <+: z → h.tick.fs.node q = none →
          OwnArea own h q := by
        intro z q hz hq hnone
        rcases hc with ⟨d, z', hd, hz', hdz⟩ | ⟨d, z', hd, hz', hzd⟩
        · cases hz.symm.trans hz'
          refine ⟨d, hd, ?_⟩
          rcases List.prefix_or_prefix_of_prefix hdz hq with hdq | hqd
          · exact Or.inl hdq
          · exact Or.inr ⟨hqd, hnone⟩
        · cases hz.symm.trans hz'
          exact ⟨d, hd, Or.inr ⟨hq.trans hzd, hnone⟩⟩
      rcases he : h.step (Syscall.mkdirAll p) with ⟨rep, m⟩
      cases rep with
      | ok u =>
          obtain ⟨z, hz, _, rfl⟩ := mkdirAll_ok he
          exact htick.trans (Frame.made _ fun q => harea hz)
      | error e =>
          rcases mkdirAll_error he with ⟨rfl, _⟩ | ⟨z, reach, hz, _, _, rfl⟩
          · exact htick
          · exact htick.trans (Frame.made _ fun q => harea hz)
  | removeAll p =>
      obtain ⟨d, z, hd, hz, hdz⟩ : InOwn own p := hc.elim id False.elim
      rcases he : h.step (Syscall.removeAll p) with ⟨rep, m⟩
      rcases removeAll_cases he with rfl | ⟨z', gone, hz', rfl, _⟩
      · exact htick
      · cases hz.symm.trans hz'
        have hmb := not_mountedBelow_of_below hdz ((hown d hd).not_mountedBelow hu)
        exact htick.trans (Frame.cleared gone hmb fun q hq => ⟨d, hd, Or.inl (hdz.trans hq)⟩)
  | copyReflink s t =>
      obtain ⟨d, z, hd, hz, hdz⟩ : InOwn own t := hc
      refine htick.trans (Frame.copyReflink fun z' q hz' hq => ?_)
      cases hz.symm.trans hz'
      exact ⟨d, hd, Or.inl (hdz.trans hq)⟩

/-- **A call leaves an object alone that it does not own**, with everything in it and with its change
time. -/
lemma asItWas_of_keeps {cfg : Config} {own : Loc → Prop} {h : Host} {c : Syscall} {d : Loc}
    (hlay : cfg.Layout) (hu : cfg.Unmounted h) (hown : ∀ d, own d → cfg.Object d)
    (hc : c.Keeps own) (hd : cfg.Object d) (hnot : ¬ own d) : AsItWas d h (h.step c).2 := by
  have hapart : ∀ {d'}, own d' → Apart d' d := fun {d'} hd' =>
    ((hown d' hd').apart hlay hd).resolve_left fun heq => hnot (heq ▸ hd')
  have huntouched : Untouched d h (h.step c).2 := by
    intro q hq
    refine (frame_of_keeps hu hown hc).node q ?_
    -- what is below `d` is neither in another object nor on the way to one
    rintro ⟨d', hd', hd'q | ⟨hqd', _⟩⟩
    · exact (hapart hd').symm.not_below hq hd'q
    · exact (hapart hd').2 (hq.trans hqd')
  have htick : AsItWas d h h.tick := AsItWas.of_quiet (Quiet.tick h)
  cases c with
  | statfs | stat | readDir | isNotMountPoint | findmnt => exact htick
  | mkdir p => exact hc.elim
  | mount s t f o => exact hc.2.elim
  | unmount t => exact hc.elim
  | mkdirAll p => exact htick.trans (AsItWas.mkdirAll huntouched)
  | removeAll p => exact htick.trans (AsItWas.removeAll huntouched)
  | copyReflink s t =>
      obtain ⟨d', z, hd', hz, hdz⟩ : InOwn own t := hc
      refine htick.trans (AsItWas.copyReflink fun z' hz' => ?_)
      cases hz.symm.trans hz'
      exact (hapart hd').below hdz (List.prefix_refl d)

/-! ## What requests own -/

/-- The objects that a request names: a volume or a snapshot of the pool of its parameters, or of
any pool if it is found by its name. -/
def HostPathController.Owns (hpc : HostPathController) : Request → Loc → Prop
  | Request.createVolume r, d => ∃ req info l, r = some req
      ∧ hpc.cfg.storagePoolInfo.lookup (getStoragePoolNameFromMap req.parameters) = some info
      ∧ info.loc = some l ∧ d = l ++ [req.name]
  | Request.deleteVolume r, d => ∃ req a info l, r = some req
      ∧ hpc.cfg.storagePoolInfo.lookup a = some info ∧ info.loc = some l ∧ d = l ++ [req.volumeId]
  | Request.createSnapshot r, d => ∃ req info k, r = some req
      ∧ hpc.cfg.storagePoolInfo.lookup (getStoragePoolNameFromMap req.parameters) = some info
      ∧ info.snapshotLoc = some k ∧ d = k ++ [req.name]
  | Request.deleteSnapshot r, d => ∃ req a info k, r = some req
      ∧ hpc.cfg.storagePoolInfo.lookup a = some info ∧ info.snapshotLoc = some k
      ∧ d = k ++ [req.snapshotId]
  | _, _ => False

/-- A request of the controller service.  Names that are joined to a directory are single path
components. -/
def Request.Proper : Request → Prop
  | createVolume r => ∀ req, r = some req → ValidName req.name
  | createSnapshot r => ∀ req, r = some req → ValidName req.name ∧ ValidName req.sourceVolumeId
  | deleteSnapshot r => ∀ req, r = some req → ValidName req.snapshotId
  | nodePublishVolume _ => False
  | nodeUnpublishVolume _ => False
  | _ => True

namespace HostPathController

variable {hpc : HostPathController} {q : Request} {d : Loc}

lemma Owns.object (hd : hpc.Owns q d) : hpc.cfg.Object d := by
  cases q with
  | createVolume r =>
      obtain ⟨req, info, l, _, ha, hl, rfl⟩ := hd
      exact ⟨l, _, ⟨_, info, ha, Or.inl hl⟩, rfl⟩
  | deleteVolume r =>
      obtain ⟨req, a, info, l, _, ha, hl, rfl⟩ := hd
      exact ⟨l, _, ⟨a, info, ha, Or.inl hl⟩, rfl⟩
  | createSnapshot r =>
      obtain ⟨req, info, k, _, ha, hk, rfl⟩ := hd
      exact ⟨k, _, ⟨_, info, ha, Or.inr hk⟩, rfl⟩
  | deleteSnapshot r =>
      obtain ⟨req, a, info, k, _, ha, hk, rfl⟩ := hd
      exact ⟨k, _, ⟨a, info, ha, Or.inr hk⟩, rfl⟩
  | _ => exact hd.elim

lemma owns_reorders {hp hp' : HostPath} (hre : hp.Reorders hp') :
    hp'.controller.Owns q d ↔ hp.controller.Owns q d := by
  cases q <;> simp only [Owns, hre.controller.lookup]

end HostPathController

/-! ## The handlers -/

/-- **Every request keeps to its own objects.** -/
lemma HostPath.keeps_serve {hp : HostPath} {q : Request} (hlay : hp.controller.cfg.Layout)
    (hwf : hp.controller.WellFormed) (hq : q.Proper) :
    Ensures (Syscall.Keeps (hp.controller.Owns q)) Admissible (fun _ => True) (hp.serve q) := by
  have hlooks : ∀ {α : Type} {x : Sys α} (f : α → Response), Only Syscall.Looks x →
      Ensures (Syscall.Keeps (hp.controller.Owns q)) Admissible (fun _ => True)
        (x >>= fun a => pure (f a)) := fun f hx =>
    Ensures.bind (ensures_of_looks hx fun c hc => hc.keeps) fun _ _ => Ensures.ret trivial
  have hsnap : ∀ {a info p}, hp.controller.cfg.storagePoolInfo.lookup a = some info →
      info.snapshotPath = some p → ∃ k, info.snapshotLoc = some k ∧ locate p = some k := by
    intro a info p ha hp
    obtain ⟨k, hk⟩ := hlay.snapshot_loc ha hp
    exact ⟨k, by rw [StoragePoolInfo.snapshotLoc, hp]; exact hk, hk⟩
  cases q with
  | createVolume r =>
      refine Ensures.bind (Staged.createVolume fun req hreq hadm => ?_).within fun _ _ =>
        Ensures.ret trivial
      have ha := HostPathController.lookup_poolOf hadm
      obtain ⟨l, hl⟩ := hlay.pool_loc ha
      exact ⟨_, _, ⟨req, _, l, hreq, ha, hl, rfl⟩,
        HostPathController.locate_volumePath hl (hq req hreq), List.prefix_refl _⟩
  | deleteVolume r =>
      refine Ensures.bind (Altering.deleteVolumeRequest fun req hreq info hinfo hid => ?_).within
        fun _ _ => Ensures.ret trivial
      obtain ⟨a, ha⟩ := Config.mem_pools.mp hinfo
      obtain ⟨l, hl⟩ := hlay.pool_loc ha
      exact ⟨_, _, ⟨req, a, info, l, hreq, ha, hl, rfl⟩,
        locate_join_valid (locate_dir_join hl hid) hid, List.prefix_refl _⟩
  | createSnapshot r =>
      refine Ensures.bind (Staged.createSnapshotRequest ?_).within fun _ _ => Ensures.ret trivial
      intro req _ _ provider hreq _ _ _ _ hprov
      obtain ⟨info, ha, hpath, _⟩ := hwf _ _ hprov
      obtain ⟨k, hk, hloc⟩ := hsnap ha hpath
      obtain ⟨hname, hsrc⟩ := hq req hreq
      have hown : hp.controller.Owns (Request.createSnapshot r) (k ++ [req.name]) :=
        ⟨req, info, k, hreq, ha, hk, rfl⟩
      exact ⟨⟨_, k, hown, hloc, List.prefix_append k _⟩,
        ⟨_, _, hown, Reflink.locate_dataDir hloc hname, ⟨[dataPath], by simp⟩⟩,
        ⟨_, _, hown, Reflink.locate_sourceDir hloc hname hsrc, ⟨[req.sourceVolumeId], by simp⟩⟩⟩
  | deleteSnapshot r =>
      refine Ensures.bind (Altering.deleteSnapshotRequest ?_).within fun _ _ => Ensures.ret trivial
      intro req hreq _ provider hprov
      obtain ⟨⟨a, _⟩, hmem, rfl⟩ := List.mem_map.mp hprov
      obtain ⟨info, ha, hpath, _⟩ := hwf _ _ (AList.mem_lookup_iff.mpr hmem)
      obtain ⟨k, hk, hloc⟩ := hsnap ha hpath
      exact ⟨_, _, ⟨req, a, info, k, hreq, ha, hk, rfl⟩,
        locate_join_valid hloc (hq req hreq), List.prefix_refl _⟩
  | validateVolumeCapabilities r => exact hlooks _ (only_validateVolumeCapabilities r)
  | getCapacity r => exact hlooks _ (only_getCapacity r)
  | listVolumes r => exact hlooks _ (HostPathController.only_listVolumes _ r)
  | controllerGetVolume r => exact hlooks _ (HostPathController.only_controllerGetVolume _ r)
  | listSnapshots r => exact hlooks _ (only_listSnapshots r)
  | nodePublishVolume r => exact hq.elim
  | nodeUnpublishVolume r => exact hq.elim

/-- A request that is served leaves the objects alone that it does not name. -/
lemma HostPath.asItWas_of_serve {hp : HostPath} {q : Request} {h h' : Host} {d : Loc}
    {res : Except Err Response} (hlay : hp.controller.cfg.Layout) (hwf : hp.controller.WellFormed)
    (hu : hp.controller.cfg.Unmounted h) (hq : q.Proper) (hd : hp.controller.cfg.Object d)
    (hnot : ¬ hp.controller.Owns q d) (e : h.exec (hp.serve q) = (res, h')) :
    hp.controller.cfg.Unmounted h' ∧ AsItWas d h h' := by
  have hexec := exec_of_ensures
    (I := fun m => hp.controller.cfg.Unmounted m ∧ AsItWas d h m)
    (fun m c ⟨hum, hm⟩ hc => ⟨admissible_step m c,
      hum.of_mounts (frame_of_keeps hum (fun d hd => hd.object) hc).mounts,
      hm.trans (asItWas_of_keeps hlay hum (fun d hd => hd.object) hc hd hnot)⟩)
    (HostPath.keeps_serve hlay hwf hq) ⟨hu, AsItWas.of_quiet (Quiet.refl h)⟩
  rwa [show exec step (hp.serve q) h = (res, h') from e] at hexec

/-! ## Runs -/

/-- **An object that no request names stays as it is.**  Any number of requests of the controller
service run at the same time, with the maps in any order and any of their calls failing half-way.
What is in a volume or a snapshot that none of them names, and whether it is there, is the same
before and after.  The names are single path components (`Request.Proper`), the pools and snapshot
directories do not overlap, and nothing is mounted in them: a name that climbs out of its directory,
or goes down into another one, reaches objects that no request names. -/
theorem others_untouched {hp : HostPath} {h₀ : Host} {w : Serving}
    {tr : List (Serving × Move (HostPath × Request) Syscall Reply)} {d : Loc}
    (hlay : hp.controller.cfg.Layout) (hwf : hp.controller.WellFormed)
    (hu : hp.controller.cfg.Unmounted h₀)
    (hr : Run (Pool.Step step (fun a => (a.1.serve a.2).run)
      fun _ a => hp.Reorders a.1 ∧ a.2.Proper) (Pool.idle h₀) tr w)
    (hd : hp.controller.cfg.Object d)
    (hno : ∀ x ∈ tr, ∀ i a, x.2 = Move.start i a → ¬ hp.controller.Owns a.2 d) :
    ∀ q, d <+: q → w.shared.fs.node q = h₀.fs.node q := by
  have hbound : ∀ (w : Serving) (a : HostPath × Request),
      (hp.Reorders a.1 ∧ a.2.Proper) ∧ ¬ hp.controller.Owns a.2 d →
        ¬ hp.controller.Owns a.2 d ∧ Uses (fun c => c.Keeps (hp.controller.Owns a.2)) Admissible
          (fun _ => True) (a.1.serve a.2).run := by
    rintro _ a ⟨⟨hre, hproper⟩, hnot⟩
    have hkeeps := HostPath.keeps_serve (hre.controller.layout hlay) (hre.wellFormed hwf) hproper
    have howns : hp.controller.Owns a.2 = a.1.controller.Owns a.2 :=
      funext fun _ => propext (HostPathController.owns_reorders hre).symm
    rw [howns]
    exact ⟨howns ▸ hnot, Uses.mono hkeeps fun _ _ => trivial⟩
  -- every call keeps to what its request owns, and nothing gets mounted
  have hcalls := Pool.calls_of_uses (I := hp.controller.cfg.Unmounted)
    (fun a s c _ hs hc => ⟨admissible_step s c,
      hs.of_mounts (frame_of_keeps hs (fun d hd => hd.object) hc).mounts⟩)
    hbound (Pool.run_restrict hr hno) hu
  refine hr.preserves_along (I := fun m => ∀ q, d <+: q → m.shared.fs.node q = h₀.fs.node q)
    (fun q _ => rfl) fun x hx m' hs hsame q hq => ?_
  obtain ⟨m, mv⟩ := x
  obtain ⟨hum, hcall⟩ := hcalls _ hx
  refine Eq.trans ?_ (hsame q hq)
  dsimp only at hs hum hcall ⊢
  cases hs with
  | start => rfl
  | finish => rfl
  | @call i a c k hi =>
      obtain ⟨hnot, hkeeps⟩ := hcall i a c _ rfl
      exact (asItWas_of_keeps hlay hum (fun d hd => hd.object) hkeeps hd hnot).untouched q hq

namespace Sample

/-- A snapshot of the volume is taken while another volume of the pool is deleted. -/
def besides : List (Pool.Choice (HostPath × Request)) :=
  [Pool.Choice.start 0 (driver, Request.createSnapshot (some ⟨"snap", "vol", parameters⟩)),
    Pool.Choice.start 1 (deleteVol "other"), Pool.Choice.go 0, Pool.Choice.go 1, Pool.Choice.go 0,
    Pool.Choice.go 0, Pool.Choice.go 1, Pool.Choice.go 0, Pool.Choice.go 0, Pool.Choice.go 0,
    Pool.Choice.go 0, Pool.Choice.go 0, Pool.Choice.go 0]

lemma host_unmounted {l : Loc} : ¬ host.MountedBelow l := by
  rintro ⟨m, hm, _⟩
  cases hm

lemma besides_spares {i : ℕ} {a : HostPath × Request} (h : Pool.Choice.start i a ∈ besides) :
    a.1 = driver ∧ a.2.Proper ∧ ¬ driver.controller.Owns a.2 ["pool", "vol"] := by
  simp only [besides, List.mem_cons, Pool.Choice.start.injEq, reduceCtorEq, List.not_mem_nil,
    or_false] at h
  rcases h with ⟨_, rfl⟩ | ⟨_, rfl⟩
  · refine ⟨rfl, ?_, ?_⟩
    · rintro _ ⟨⟩
      exact ⟨by decide, by decide⟩
    · rintro ⟨_, info, k, ⟨⟩, ha, hk, hd⟩
      obtain ⟨_, rfl⟩ := eq_of_lookup ha
      cases (show pool.snapshotLoc = some ["snapshots"] by decide).symm.trans hk
      exact absurd hd (by decide)
  · refine ⟨rfl, trivial, ?_⟩
    rintro ⟨_, b, info, l, ⟨⟩, ha, hl, hd⟩
    obtain ⟨_, rfl⟩ := eq_of_lookup ha
    cases (show pool.loc = some ["pool"] by decide).symm.trans hl
    exact absurd hd (by decide)

end Sample

/-- The file of the volume is the same after a snapshot of the volume and a deletion of another
volume ran at the same time. -/
theorem sample_untouched :
    ∃ tr, ∃ w : Serving, Run (Pool.Step step (fun a => (a.1.serve a.2).run)
        fun _ a => Sample.driver.Reorders a.1 ∧ a.2.Proper) (Pool.idle Sample.host) tr w
      ∧ w.shared.fs.node ["snapshots", "snap", "data", "f"] = some (Node.file "old")
      ∧ ∀ q, ["pool", "vol"] <+: q → w.shared.fs.node q = Sample.host.fs.node q := by
  have hplay : ((Pool.play step (fun a => (a.1.serve a.2).run) Sample.besides
      (Pool.idle Sample.host)).map fun r => decide (r.2.shared.fs.node
        ["snapshots", "snap", "data", "f"] = some (Node.file "old"))) = some true := by
    decide +kernel
  obtain ⟨⟨tr, w⟩, hrun, hcopied⟩ := Option.map_eq_some_iff.mp hplay
  have hr : Run (Pool.Step step (fun a => (a.1.serve a.2).run)
      fun _ a => Sample.driver.Reorders a.1 ∧ a.2.Proper) (Pool.idle Sample.host) tr w := by
    refine Pool.run_of_play (fun i a ha _ => ?_) hrun
    obtain ⟨hdriver, hproper, _⟩ := Sample.besides_spares ha
    exact ⟨hdriver ▸ HostPath.Reorders.refl _, hproper⟩
  have hu : Sample.driver.controller.cfg.Unmounted Sample.host :=
    ⟨fun _ _ _ _ _ => Sample.host_unmounted, fun _ _ => Sample.host_unmounted⟩
  refine ⟨tr, w, hr, of_decide_eq_true hcopied, others_untouched Sample.layout Sample.wellFormed hu hr
    ⟨["pool"], "vol", ⟨"local", Sample.pool, rfl, Or.inl (by decide)⟩, rfl⟩ fun x hx i a hmv => ?_⟩
  exact (Sample.besides_spares (Pool.start_of_play hrun x hx i a hmv)).2.2

end Hostpath
