import Hostpath.Csi.Runs

/-!
# The volume service as a finite map

Abstractly the volumes of a node are a finite map from names to pools: creating a volume puts its
name in, deleting it takes the name out.  `Config.Holds` relates the map to the directories of the
pools, and `Config.Holds.run` says that every run of creations and deletions without I/O failures
keeps them related.
-/

namespace Hostpath

open Lib FilePath Prog Host

/-! ## The map -/

/-- What a step does to the map. -/
def liveAfter (live : GoMap String) : Event → GoMap String
  | Event.request (Request.createVolume (some req)) (Except.ok _) =>
      live.insert req.name (getStoragePoolNameFromMap req.parameters)
  | Event.request (Request.deleteVolume (some req)) (Except.ok _) => live.erase req.volumeId
  | _ => live

/-- The volumes that were created and not yet deleted, each with its pool. -/
def live (tr : List (Host × Event)) : GoMap String :=
  tr.foldl (fun m x => liveAfter m x.2) ∅

lemma live_snoc (tr : List (Host × Event)) (x : Host × Event) :
    live (tr ++ [x]) = liveAfter (live tr) x.2 := by
  simp [live]

/-! ## The map and the directories -/

/-- The pools are directories and hold a directory for each volume of the map in the volume's
pool, and nothing else. -/
structure Config.Holds (cfg : Config) (pool : String → String) (live : GoMap String) (h : Host) :
    Prop where
  pools : ∀ ⦃a info⦄, cfg.storagePoolInfo.lookup a = some info →
    ∃ l, info.loc = some l ∧ h.fs.node l = some Node.dir
  volumes : ∀ ⦃a info l⦄ n, cfg.storagePoolInfo.lookup a = some info → info.loc = some l →
    h.fs.node (l ++ [n]) = if live.lookup n = some a then some Node.dir else none
  names : ∀ ⦃n a⦄, live.lookup n = some a → a = pool n ∧ ∃ info,
    cfg.storagePoolInfo.lookup a = some info
  unmounted : cfg.PoolsUnmounted h

/-- Every pool is an empty directory in which nothing is mounted. -/
def Config.EmptyPools (cfg : Config) (h : Host) : Prop :=
  ∀ ⦃a info⦄, cfg.storagePoolInfo.lookup a = some info → ∃ l, info.loc = some l
    ∧ h.fs.node l = some Node.dir ∧ (∀ n, h.fs.node (l ++ [n]) = none) ∧ ¬ h.MountedBelow l

namespace Config.Holds

variable {cfg cfg' : Config} {pool : String → String} {live : GoMap String} {h h' : Host}
  {a b n id : String} {info : StoragePoolInfo} {l : Loc}

lemma of_emptyPools (pool : String → String) (he : cfg.EmptyPools h) : cfg.Holds pool ∅ h where
  pools a info ha := by
    obtain ⟨l, hl, hd, _⟩ := he ha
    exact ⟨l, hl, hd⟩
  volumes a info l n ha hl := by
    obtain ⟨l', hl', _, hn, _⟩ := he ha
    cases hl.symm.trans hl'
    simpa using hn n
  names n a hn := by simp at hn
  unmounted a info l ha hl := by
    obtain ⟨l', hl', _, _, hm⟩ := he ha
    cases hl.symm.trans hl'
    exact hm

lemma reorders (hre : cfg.Reorders cfg') (hold : cfg.Holds pool live h) :
    cfg'.Holds pool live h := by
  obtain ⟨h₁, h₂, h₃, h₄⟩ := hold
  refine ⟨?_, ?_, ?_, hre.poolsUnmounted h₄⟩ <;> simp only [hre.lookup] <;> assumption

/-- Only files, mounts and time that matter. -/
lemma of_host (hold : cfg.Holds pool live h) (hfs : h'.fs = h.fs) (hm : h'.mounts = h.mounts) :
    cfg.Holds pool live h' := by
  obtain ⟨h₁, h₂, h₃, h₄⟩ := hold
  refine ⟨?_, ?_, h₃, h₄.of_mounts hm⟩ <;> rw [hfs] <;> assumption

/-- A volume of the map has its directory. -/
lemma dir_of_live (hold : cfg.Holds pool live h) (hn : live.lookup n = some a)
    (ha : cfg.storagePoolInfo.lookup a = some info) (hl : info.loc = some l) :
    h.fs.node (l ++ [n]) = some Node.dir := by
  rw [hold.volumes n ha hl, if_pos hn]

/-- A directory in a pool is a volume of the map. -/
lemma live_of_node (hold : cfg.Holds pool live h)
    (ha : cfg.storagePoolInfo.lookup a = some info) (hl : info.loc = some l)
    (hn : h.fs.node (l ++ [n]) ≠ none) : live.lookup n = some a := by
  rw [hold.volumes n ha hl] at hn
  by_contra hne
  exact hn (if_neg hne)

lemma readable (hold : cfg.Holds pool live h) : Readable h.fs cfg.pools := by
  intro info hinfo
  obtain ⟨a, ha⟩ := Config.mem_pools.mp hinfo
  exact hold.pools ha

end Config.Holds

/-! ## Creating -/

namespace HostPathController

variable {hpc : HostPathController} {h h' : Host} {req : CreateVolumeRequest}
  {pool : String → String} {live : GoMap String} {l : Loc}

/-- Without I/O failures, a request for a volume in a pool that is there succeeds, unless
something else is in the place of the volume. -/
lemma createVolume_of_noFaults (hadm : hpc.Admits req) (hsrc : req.snapshotSource = none)
    (hname : ValidName req.name) (hf : h.NoFaults) (hl : (hpc.poolOf req).loc = some l)
    (hd : h.fs.node l = some Node.dir)
    (hn : h.fs.node (l ++ [req.name]) = none ∨ h.fs.node (l ++ [req.name]) = some Node.dir) :
    ∃ c m, h.exec (hpc.createVolume (some req)) = (Except.ok (hpc.response req c), m) := by
  have hloc := locate_volumePath hl hname
  have hb : h.fs.blocked (l ++ [req.name]) = false := h.fs.blocked_concat hd hn
  have hcheck : h.tick.exec (checkPathExist (hpc.volumePath req))
      = (Except.ok (h.at? (hpc.volumePath req)).isSome, h.tick.tick) := by
    refine checkPathExist_of_noFault (hf 1) ?_
    rcases hn with hn | hn
    · exact Or.inr (lookup_error_of_none hloc hn hb)
    · exact Or.inl (by simp [at?, hloc, hn])
  have hens : ∃ m, h.tick.exec (hpc.ensureVolumeDirectory req.name
      (getStoragePoolNameFromMap req.parameters)) = (Except.ok (), m) := by
    cases hat : (h.at? (hpc.volumePath req)).isSome with
    | true => exact ⟨_, (exec_bind_of_ok step (hcheck.trans (by rw [hat]))).trans rfl⟩
    | false =>
        have hmk : h.tick.tick.step (Syscall.mkdirAll (hpc.volumePath req))
            = (Except.ok (), h.tick.tick.tick.made (l ++ [req.name]) fun _ => true) :=
          mkdirAll_of_noFault (hf 2) hloc hb
        have hdir : h.tick.tick.exec (createVolumeDirectory (hpc.poolOf req).path req.name)
            = (Except.ok (), h.tick.tick.tick.made (l ++ [req.name]) fun _ => true) :=
          exec_bind_eq_ok.mpr ⟨_, _, exec_perform_eq.mpr hmk, rfl⟩
        refine ⟨h.tick.tick.tick.made (l ++ [req.name]) fun _ => true,
          (exec_bind_of_ok step (hcheck.trans (by rw [hat]))).trans ?_⟩
        exact (exec_bind_of_ok step (exec_attempt_eq.mpr hdir)).trans rfl
  obtain ⟨m, hm⟩ := hens
  have hprov : h.tick.exec (hpc.provideVolume req (getStoragePoolNameFromMap req.parameters))
      = (Except.ok (), m) := by
    refine exec_bind_eq_ok.mpr ⟨(), m, hm, ?_⟩
    rw [restoreContent_none hsrc]
    rfl
  have hat : h.at? (hpc.poolOf req).path ≠ none := by
    rw [at?, show locate (hpc.poolOf req).path = some l from hl]
    simp [hd]
  obtain ⟨⟨c, he⟩, _⟩ := createVolume_of_provide (P := fun _ _ => True) hadm hat (hf 0) trivial
    hprov (along_true _ _)
  exact ⟨c, m, he⟩

/-- A volume that was created is in the map afterwards, and nothing else changes. -/
lemma createVolume_holds {v : Volume} (hap : hpc.cfg.PoolsApart)
    (hold : hpc.cfg.Holds pool live h) (hname : ValidName req.name)
    (hsrc : req.snapshotSource = none)
    (hpool : getStoragePoolNameFromMap req.parameters = pool req.name)
    (e : h.exec (hpc.createVolume (some req)) = (Except.ok v, h')) :
    hpc.cfg.Holds pool (live.insert req.name (getStoragePoolNameFromMap req.parameters)) h' := by
  have hf := createVolume_frame hold.unmounted hname e
  obtain ⟨_, c, m, hreq, hadm, _, _, hens, hfill⟩ := createVolume_ok e
  cases hreq
  have ha := lookup_poolOf hadm
  obtain ⟨l, hl, hd⟩ := hold.pools ha
  have hloc := locate_volumePath hl hname
  -- its directory is there: it was before, or it was made
  have hdir : h'.fs.node (l ++ [req.name]) = some Node.dir := by
    rcases hfill with ⟨_, rfl⟩ | ⟨id, _, _, _, _, hid, _⟩
    · obtain ⟨m₀, hq, ⟨hat, rfl⟩ | ⟨_, l', hl', hb, rfl⟩⟩ := hens
      · rw [at?, hloc] at hat
        rw [hq.fs]
        exact hold.dir_of_live (hold.live_of_node ha hl hat) ha hl
      · cases hloc.symm.trans hl'
        rw [made_fs, hq.fs]
        exact h.fs.create_node_on_way hb (locate_valid hloc) (List.prefix_refl _)
    · rw [hsrc] at hid
      cases hid
  have harea : ∀ {q : Loc}, ¬ l ++ [req.name] <+: q → ¬ hpc.VolumeArea req q := by
    rintro q hq ⟨l', hl', hlq⟩
    cases hl.symm.trans hl'
    exact hq hlq
  constructor
  · intro b info hb
    obtain ⟨k, hk, hkd⟩ := hold.pools hb
    exact ⟨k, hk, (hf.node k (harea (hap.pool_not_below ha hl hb hk _))).trans hkd⟩
  · intro b info k n hb hk
    by_cases hbn : getStoragePoolNameFromMap req.parameters = b ∧ req.name = n
    · obtain ⟨rfl, rfl⟩ := hbn
      cases ha.symm.trans hb
      cases hl.symm.trans hk
      rw [hdir, AList.lookup_insert, if_pos rfl]
    · rw [hf.node _ (harea (hap.volume_not_below ha hl hb hk hbn)), hold.volumes n hb hk]
      by_cases hn : n = req.name
      · subst hn
        have hne : getStoragePoolNameFromMap req.parameters ≠ b := fun hab => hbn ⟨hab, rfl⟩
        rw [AList.lookup_insert, if_neg fun hs => hne (Option.some.inj hs), if_neg fun hs => ?_]
        exact hne (hpool.trans (hold.names hs).1.symm)
      · rw [AList.lookup_insert_ne hn]
  · intro n b hn
    by_cases hnn : n = req.name
    · subst hnn
      rw [AList.lookup_insert] at hn
      cases hn
      exact ⟨hpool, _, ha⟩
    · rw [AList.lookup_insert_ne hnn] at hn
      exact hold.names hn
  · exact hold.unmounted.of_mounts hf.mounts

/-! ## Deleting -/

variable {del : DeleteVolumeRequest}

lemma deleteVolume_of_noFaults (hold : hpc.cfg.Holds pool live h) (hid : del.volumeId ≠ "")
    (hf : h.NoFaults) : ∃ m, h.exec (hpc.deleteVolume (some del)) = (Except.ok (), m) := by
  have hv : h.exec (liftExcept (validateDeleteVolumeRequest (some del)))
      = (Except.ok del, h) := by
    rw [exec_liftExcept, validateDeleteVolumeRequest, if_neg hid]
  obtain ⟨m, hm⟩ := removeVolumeNamed_of_noFaults del.volumeId
    (fun e => "failed to delete volume " ++ del.volumeId ++ ": " ++ e) hf hold.readable
    fun info hinfo l hl => by
      obtain ⟨a, ha⟩ := Config.mem_pools.mp hinfo
      exact not_mountedBelow_of_below (List.prefix_append l _) (hold.unmounted ha hl)
  exact ⟨m, (exec_bind_of_ok step hv).trans hm⟩

/-- A deletion removes the directory of the volume if the volume is in the map, and does nothing
otherwise. -/
lemma deleteVolume_removes {u : Unit} (hold : hpc.cfg.Holds pool live h)
    (e : h.exec (hpc.deleteVolume (some del)) = (Except.ok u, h')) :
    (live.lookup del.volumeId = none ∧ Quiet h h') ∨ ∃ a info l m,
      live.lookup del.volumeId = some a ∧ hpc.cfg.storagePoolInfo.lookup a = some info
        ∧ info.loc = some l ∧ Quiet h m
        ∧ h' = m.cleared (l ++ [del.volumeId]) fun _ => true := by
  obtain ⟨_, m, hv, hk⟩ := exec_bind_eq_ok.mp e
  obtain ⟨hval, rfl⟩ := Prod.mk.inj ((exec_liftExcept h _).symm.trans hv)
  simp only [validateDeleteVolumeRequest] at hval
  split_ifs at hval with hid
  cases hval
  rcases (removeVolumeNamed_ok hk).2 with ⟨hq, hno⟩ | ⟨info, hinfo, l, m, hl, _, hn, _, hq, rfl⟩
  · refine Or.inl ⟨?_, hq⟩
    cases hlive : live.lookup del.volumeId with
    | none => rfl
    | some a =>
        obtain ⟨_, info, ha⟩ := hold.names hlive
        obtain ⟨l, hl, _⟩ := hold.pools ha
        exact absurd (hold.dir_of_live hlive ha hl) (hno info (Config.mem_pools.mpr ⟨a, ha⟩) l hl)
  · obtain ⟨a, ha⟩ := Config.mem_pools.mp hinfo
    exact Or.inr ⟨a, info, l, m, hold.live_of_node ha hl (by simp [hn]), ha, hl, hq, rfl⟩

/-- What is left of the files after the directory of a volume was removed. -/
lemma cleared_volume_node {m : Host} {a : String} {info : StoragePoolInfo}
    (hu : hpc.cfg.PoolsUnmounted h) (ha : hpc.cfg.storagePoolInfo.lookup a = some info)
    (hl : info.loc = some l) (hq : Quiet h m) (n : String) (q : Loc) :
    (m.cleared (l ++ [n]) fun _ => true).fs.node q
      = if l ++ [n] <+: q then none else h.fs.node q := by
  have hm : ¬ m.MountedBelow (l ++ [n]) :=
    not_mountedBelow_of_below (List.prefix_append l _) (hu.of_mounts hq.mounts ha hl)
  rw [cleared_fs, removed_node (by simp) hm, hq.fs]

lemma deleteVolume_holds {u : Unit} (hap : hpc.cfg.PoolsApart)
    (hold : hpc.cfg.Holds pool live h)
    (e : h.exec (hpc.deleteVolume (some del)) = (Except.ok u, h')) :
    hpc.cfg.Holds pool (live.erase del.volumeId) h' := by
  have hnames : ∀ ⦃n a⦄, (live.erase del.volumeId).lookup n = some a → live.lookup n = some a := by
    intro n a hn
    by_cases hne : n = del.volumeId
    · subst hne
      rw [AList.lookup_erase] at hn
      cases hn
    · rwa [AList.lookup_erase_ne hne] at hn
  rcases deleteVolume_removes hold e with ⟨hnone, hq⟩ | ⟨a, info, l, m, hlive, ha, hl, hq, rfl⟩
  · obtain ⟨h₁, h₂, h₃, h₄⟩ := hold.of_host hq.fs hq.mounts
    refine ⟨h₁, fun a info l n ha hl => (h₂ n ha hl).trans ?_, fun n a hn => h₃ (hnames hn), h₄⟩
    by_cases hne : n = del.volumeId
    · rw [hne, hnone, AList.lookup_erase]
    · rw [AList.lookup_erase_ne hne]
  · have hnode := cleared_volume_node hold.unmounted ha hl hq del.volumeId
    refine ⟨fun b info' hb => ?_, fun b info' k n hb hk => ?_, fun n b hn => hold.names (hnames hn),
      hold.unmounted.of_mounts hq.mounts⟩
    · obtain ⟨k, hk, hkd⟩ := hold.pools hb
      exact ⟨k, hk, (hnode k).trans (by rw [if_neg (hap.pool_not_below ha hl hb hk _), hkd])⟩
    · rw [hnode]
      by_cases hbn : a = b ∧ del.volumeId = n
      · obtain ⟨rfl, rfl⟩ := hbn
        cases ha.symm.trans hb
        cases hl.symm.trans hk
        rw [if_pos (List.prefix_refl _), AList.lookup_erase]
        rfl
      · rw [if_neg (hap.volume_not_below ha hl hb hk hbn), hold.volumes n hb hk]
        by_cases hne : n = del.volumeId
        · subst hne
          rw [AList.lookup_erase, hlive, if_neg fun hs => hbn ⟨Option.some.inj hs, rfl⟩]
          rfl
        · rw [AList.lookup_erase_ne hne]

end HostPathController

/-! ## Runs -/

/-- Users write in the volumes only, so the map stays. -/
lemma Config.Holds.writes {cfg : Config} {pool : String → String} {live : GoMap String}
    {h h' : Host} (hap : cfg.PoolsApart) (hold : cfg.Holds pool live h)
    (hw : cfg.UserWrites h h') : cfg.Holds pool live h' := by
  refine ⟨fun b info hb => ?_, fun b info k n hb hk => ?_, hold.names,
    hold.unmounted.of_mounts hw.mounts⟩
  · obtain ⟨k, hk, hkd⟩ := hold.pools hb
    refine ⟨k, hk, ?_⟩
    by_contra hne
    obtain ⟨a, i, l, n, ha, hl, _, hlq, _⟩ := hw.node k (by rwa [hkd])
    exact hap.pool_not_below ha hl hb hk n hlq
  · rw [hw.volume_node hap hb hk, hold.volumes n hb hk]

/-- Creations of volumes without a content source and deletions, none of whose calls fail.  The
names of volumes are single path components and each is used with one pool. -/
def VolumeRequest (pool : String → String) (hp : HostPath) (h : Host) : Request → Prop
  | Request.createVolume (some req) => h.NoFaults ∧ hp.controller.Admits req
      ∧ ValidName req.name ∧ req.volumeContentSource = none
      ∧ getStoragePoolNameFromMap req.parameters = pool req.name
  | Request.deleteVolume (some del) => h.NoFaults ∧ del.volumeId ≠ ""
  | _ => False

namespace Config.Holds

variable {hp : HostPath} {pool : String → String} {h₀ h h' : Host} {ev : Event}

lemma step {live : GoMap String} (hap : hp.controller.cfg.PoolsApart)
    (hold : hp.controller.cfg.Holds pool live h) (hs : hp.Step (VolumeRequest pool) h ev h') :
    hp.controller.cfg.Holds pool (liveAfter live ev) h' := by
  cases hs with
  | write hw => exact hold.writes hap hw
  | @request _ hp' outcomes q res hre hC he =>
      have hap' := hre.controller.poolsApart hap
      have hold' : hp'.controller.cfg.Holds pool live { h with outcomes } :=
        (hold.reorders hre.controller).of_host rfl rfl
      refine Config.Holds.reorders hre.controller.symm ?_
      cases q with
      | createVolume r =>
          cases r with
          | none => exact absurd hC id
          | some req =>
              obtain ⟨hf, hadm, hname, hsrc, hpool⟩ := hC
              have hsrc' : req.snapshotSource = none := by simp [CreateVolumeRequest.snapshotSource, hsrc]
              obtain ⟨l, hl, hd⟩ := hold'.pools (HostPathController.lookup_poolOf hadm)
              have hn := hold'.volumes req.name (HostPathController.lookup_poolOf hadm) hl
              obtain ⟨c, m, hm⟩ := HostPathController.createVolume_of_noFaults hadm hsrc' hname hf
                hl hd (by rw [hn]; split_ifs <;> simp)
              obtain ⟨r, hr, rfl⟩ := exec_respond he
              cases hm.symm.trans hr
              exact HostPathController.createVolume_holds hap' hold' hname hsrc' hpool hm
      | deleteVolume r =>
          cases r with
          | none => exact absurd hC id
          | some del =>
              obtain ⟨m, hm⟩ := HostPathController.deleteVolume_of_noFaults hold' hC.2 hC.1
              obtain ⟨r, hr, rfl⟩ := exec_respond he
              cases hm.symm.trans hr
              exact HostPathController.deleteVolume_holds hap' hold' hm
      | _ => exact absurd hC id

/-- **The pools hold the map.**  In every state that a run from empty pools reaches, the pools
hold exactly the volumes that were created and not yet deleted. -/
theorem run {tr : List (Host × Event)} (hap : hp.controller.cfg.PoolsApart)
    (he : hp.controller.cfg.EmptyPools h₀) (hr : Run (hp.Step (VolumeRequest pool)) h₀ tr h) :
    hp.controller.cfg.Holds pool (live tr) h := by
  refine hr.invariant (I := fun tr m => hp.controller.cfg.Holds pool (live tr) m)
    (of_emptyPools pool he) ?_
  intro tr m e m' hold hs
  rw [live_snoc]
  exact step hap hold hs

end Config.Holds

end Hostpath
