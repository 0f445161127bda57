import Hostpath.Csi.Listing
import Hostpath.Csi.VolumeMap

/-!
# What a deletion leaves behind

A deletion has no pool: it scans all pools for directories of the volume's name and removes the last
one it finds.  So it removes everything that was created under the name **as long as no two pools
have a directory of one name** (`delete_leaves_nothing`), which holds if no volume is created in one
pool while another has its name.  Otherwise one of the directories stays
(`namesake_survives_deletion`).
-/

namespace Hostpath

open Lib FilePath Prog Host

/-- No two pools have a directory of one name, and nothing is mounted in a pool. -/
structure Config.NamesUnique (cfg : Config) (h : Host) : Prop where
  unique : ∀ ⦃a b i j l k⦄ n, cfg.storagePoolInfo.lookup a = some i →
    cfg.storagePoolInfo.lookup b = some j → i.loc = some l → j.loc = some k →
    h.fs.node (l ++ [n]) = some Node.dir → h.fs.node (k ++ [n]) = some Node.dir → a = b
  unmounted : cfg.PoolsUnmounted h

/-- Requests for volumes whose names are single path components, none of them made in one pool while
another has a directory of the name, and deletions. -/
def SingleVolumeRequest (hp : HostPath) (h : Host) : Request → Prop
  | Request.createVolume r => ∀ req, r = some req → ValidName req.name
      ∧ ∀ ⦃b j k⦄, hp.controller.cfg.storagePoolInfo.lookup b = some j → j.loc = some k →
        b ≠ getStoragePoolNameFromMap req.parameters →
        h.fs.node (k ++ [req.name]) ≠ some Node.dir
  | Request.deleteVolume _ => True
  | _ => False

/-! ## Names stay unique -/

namespace Config.NamesUnique

variable {cfg cfg' : Config} {hpc : HostPathController} {hp : HostPath} {h h' h₀ : Host} {ev : Event}

lemma reorders (hre : cfg.Reorders cfg') (hu : cfg.NamesUnique h) : cfg'.NamesUnique h := by
  obtain ⟨h₁, h₂⟩ := hu
  refine ⟨?_, hre.poolsUnmounted h₂⟩
  simp only [hre.lookup]
  exact h₁

lemma of_host (hu : cfg.NamesUnique h) (hfs : h'.fs = h.fs) (hm : h'.mounts = h.mounts) :
    cfg.NamesUnique h' := by
  obtain ⟨h₁, h₂⟩ := hu
  refine ⟨?_, h₂.of_mounts hm⟩
  rw [hfs]
  exact h₁

/-- Taking directories away keeps the names unique. -/
lemma of_node_or (hu : cfg.NamesUnique h) (hm : h'.mounts = h.mounts)
    (hor : ∀ q, h'.fs.node q = h.fs.node q ∨ h'.fs.node q = none) : cfg.NamesUnique h' := by
  have hkeep : ∀ {q : Loc}, h'.fs.node q = some Node.dir → h.fs.node q = some Node.dir := by
    intro q hq
    rcases hor q with heq | hnone
    · rwa [heq] at hq
    · cases hnone.symm.trans hq
  exact ⟨fun a b i j l k n ha hb hl hk h₁ h₂ => hu.unique n ha hb hl hk (hkeep h₁) (hkeep h₂),
    hu.unmounted.of_mounts hm⟩

lemma createVolume {req : CreateVolumeRequest} {res : Except Err Volume}
    (hap : hpc.cfg.PoolsApart) (hu : hpc.cfg.NamesUnique h) (hname : ValidName req.name)
    (hother : ∀ ⦃b j k⦄, hpc.cfg.storagePoolInfo.lookup b = some j → j.loc = some k →
      b ≠ getStoragePoolNameFromMap req.parameters → h.fs.node (k ++ [req.name]) ≠ some Node.dir)
    (e : h.exec (hpc.createVolume (some req)) = (res, h')) : hpc.cfg.NamesUnique h' := by
  have hf := HostPathController.createVolume_frame hu.unmounted hname e
  -- only the volume of the request changes
  have hsame : ∀ {b j k n}, hpc.cfg.storagePoolInfo.lookup b = some j → j.loc = some k →
      ¬ (getStoragePoolNameFromMap req.parameters = b ∧ req.name = n) →
      h'.fs.node (k ++ [n]) = h.fs.node (k ++ [n]) := by
    intro b j k n hb hk hne
    refine hf.node _ ?_
    rintro ⟨l, hl, hlq⟩
    exact hap.volume_not_below (HostPathController.lookup_of_pool_loc hl) hl hb hk hne hlq
  -- a directory of the requested name is in the requested pool
  have hpool : ∀ {b j k}, hpc.cfg.storagePoolInfo.lookup b = some j → j.loc = some k →
      h'.fs.node (k ++ [req.name]) = some Node.dir →
      b = getStoragePoolNameFromMap req.parameters := by
    intro b j k hb hk hdir
    by_contra hne
    rw [hsame hb hk fun hbn => hne hbn.1.symm] at hdir
    exact hother hb hk hne hdir
  refine ⟨fun a b i j l k n ha hb hl hk h₁ h₂ => ?_, hu.unmounted.of_mounts hf.mounts⟩
  by_cases hn : req.name = n
  · subst hn
    exact (hpool ha hl h₁).trans (hpool hb hk h₂).symm
  · rw [hsame ha hl fun hbn => hn hbn.2] at h₁
    rw [hsame hb hk fun hbn => hn hbn.2] at h₂
    exact hu.unique n ha hb hl hk h₁ h₂

lemma step (hap : hp.controller.cfg.PoolsApart) (hu : hp.controller.cfg.NamesUnique h)
    (hs : hp.Step SingleVolumeRequest h ev h') : hp.controller.cfg.NamesUnique h' := by
  cases hs with
  | write hw =>
      refine ⟨fun a b i j l k n ha hb hl hk h₁ h₂ => ?_, hu.unmounted.of_mounts hw.mounts⟩
      rw [hw.volume_node hap ha hl] at h₁
      rw [hw.volume_node hap hb hk] at h₂
      exact hu.unique n ha hb hl hk h₁ h₂
  | @request _ hp' outcomes q res hre hC he =>
      have hu' : hp'.controller.cfg.NamesUnique { h with outcomes } :=
        (hu.reorders hre.controller).of_host rfl rfl
      refine NamesUnique.reorders hre.controller.symm ?_
      cases q with
      | createVolume r =>
          obtain ⟨r', e', _⟩ := exec_respond he
          cases r with
          | none =>
              cases e'
              exact hu'
          | some req =>
              obtain ⟨hname, hother⟩ := hC req rfl
              exact hu'.createVolume (hre.controller.poolsApart hap) hname hother e'
      | deleteVolume r =>
          obtain ⟨r', e', _⟩ := exec_respond he
          refine hu'.of_node_or ?_ (HostPathController.deleteVolume_node_or e')
          rcases HostPathController.deleteVolume_cases e' with ⟨rfl, _⟩ | ⟨req, failed, rfl, he'⟩
          · rfl
          · exact (HostPathController.removeVolumeNamed_frame hu'.unmounted he').mounts
      | _ => exact absurd hC id

/-- **In every state of a run** names are unique. -/
lemma run {tr : List (Host × Event)} (hap : hp.controller.cfg.PoolsApart)
    (hu : hp.controller.cfg.NamesUnique h₀) (hr : Run (hp.Step SingleVolumeRequest) h₀ tr h) :
    hp.controller.cfg.NamesUnique h :=
  hr.preserves hu fun _ _ _ hm hs => hm.step hap hs

end Config.NamesUnique

/-! ## Deleting -/

section Delete

variable {hpc : HostPathController} {h h' : Host} {del : DeleteVolumeRequest} {u : Unit}

/-- A deletion that succeeds leaves no directory of the name in any pool, and leaves the pools. -/
lemma deleteVolume_empties (hap : hpc.cfg.PoolsApart) (hu : hpc.cfg.NamesUnique h)
    (e : h.exec (hpc.deleteVolume (some del)) = (Except.ok u, h')) :
    (∀ ⦃a i l⦄, hpc.cfg.storagePoolInfo.lookup a = some i → i.loc = some l →
        h'.fs.node (l ++ [del.volumeId]) ≠ some Node.dir)
      ∧ Readable h'.fs hpc.cfg.pools := by
  rcases HostPathController.deleteVolume_cases e with ⟨_, hno⟩ | ⟨_, failed, hdel, he⟩
  · cases hno
  cases hdel
  obtain ⟨hread, ⟨hq, hno⟩ | ⟨info, hinfo, l, m, hl, _, hdir, _, hq, rfl⟩⟩ := removeVolumeNamed_ok he
  · rw [hq.fs]
    exact ⟨fun a i l ha hl => hno i (Config.mem_pools.mpr ⟨a, ha⟩) l hl, hread⟩
  · obtain ⟨a, ha⟩ := Config.mem_pools.mp hinfo
    have hnode := HostPathController.cleared_volume_node hu.unmounted ha hl hq del.volumeId
    refine ⟨fun b j k hb hk hkd => ?_, fun info' hinfo' => ?_⟩
    · rw [hnode] at hkd
      split_ifs at hkd with hbelow
      -- another pool with the name would have had it before
      obtain rfl := hu.unique del.volumeId ha hb hl hk hdir hkd
      cases ha.symm.trans hb
      cases hl.symm.trans hk
      exact hbelow (List.prefix_refl _)
    · obtain ⟨k, hk, hkd⟩ := hread info' hinfo'
      obtain ⟨b, hb⟩ := Config.mem_pools.mp hinfo'
      refine ⟨k, hk, ?_⟩
      rw [hnode, if_neg (hap.pool_not_below ha hl hb hk _)]
      exact hkd

/-- What a creation returned: the id is the name, and the pool is one that has a location. -/
lemma created_location {req : CreateVolumeRequest} {v : Volume}
    (e : h.exec (hpc.createVolume (some req)) = (Except.ok v, h')) :
    v.volumeId = req.name ∧ ∃ l,
      hpc.cfg.storagePoolInfo.lookup (getStoragePoolNameFromMap req.parameters)
        = some (hpc.poolOf req) ∧ (hpc.poolOf req).loc = some l := by
  obtain ⟨_, c, _, hreq, hadm, rfl, hat, _⟩ := HostPathController.createVolume_ok e
  cases hreq
  obtain ⟨l, hl, _⟩ := HostPathController.exists_loc_of_at hat
  exact ⟨rfl, l, HostPathController.lookup_poolOf hadm, hl⟩

/-- A volume that no pool has is not found. -/
lemma controllerGetVolume_notFound {id : String} (hid : id ≠ "") (hf : h.NoFaults)
    (hread : Readable h.fs hpc.cfg.pools)
    (hno : ∀ ⦃a i l⦄, hpc.cfg.storagePoolInfo.lookup a = some i → i.loc = some l →
      h.fs.node (l ++ [id]) ≠ some Node.dir) :
    ∃ h', h.exec (hpc.controllerGetVolume (some ⟨id⟩))
      = (Except.error (Err.status Code.notFound ("volume " ++ id ++ " not found")), h') := by
  obtain ⟨m, hm⟩ := hpc.controllerGetVolume_of_noFaults hid hf hread
  rw [if_pos] at hm
  · exact ⟨m, hm⟩
  by_contra hpath
  obtain ⟨info, hinfo, l, hl, _, hdir, _⟩ := volumePathOf_loc hpath
  obtain ⟨a, ha⟩ := Config.mem_pools.mp hinfo
  exact hno ha hl hdir

end Delete

/-- **A deletion that succeeds leaves nothing behind**, after every run in which the names are single
path components and no volume is created in one pool while another has a directory of its name:
no directory that a creation returned under the id is left, and the volume is not found. -/
theorem delete_leaves_nothing {hp hp' : HostPath} {h₀ h h' : Host} {tr : List (Host × Event)}
    {outcomes : ℕ → Outcome} {del : DeleteVolumeRequest} {u : Unit}
    (hap : hp.controller.cfg.PoolsApart) (hu : hp.controller.cfg.NamesUnique h₀)
    (hr : Run (hp.Step SingleVolumeRequest) h₀ tr h) (hre : hp.Reorders hp')
    (e : Host.exec { h with outcomes } (hp'.controller.deleteVolume (some del))
      = (Except.ok u, h')) :
    (∀ m req v, (m, Event.request (Request.createVolume (some req)) (Except.ok (Response.volume v)))
        ∈ tr → v.volumeId = del.volumeId →
        h'.at? (hp.controller.volumePath req) ≠ some Node.dir)
      ∧ ∀ hp'' outcomes', hp.Reorders hp'' → (∀ n, (outcomes' n : Outcome).fault = none) →
        ∃ h'', Host.exec { h' with outcomes := outcomes' }
            (hp''.controller.controllerGetVolume (some ⟨del.volumeId⟩))
          = (Except.error (Err.status Code.notFound
            ("volume " ++ del.volumeId ++ " not found")), h'') := by
  have hu' : hp'.controller.cfg.NamesUnique { h with outcomes } :=
    ((hu.run hap hr).reorders hre.controller).of_host rfl rfl
  obtain ⟨hno, hread⟩ := deleteVolume_empties (hre.controller.poolsApart hap) hu' e
  have hid : del.volumeId ≠ "" := by
    rintro hempty
    rw [HostPathController.deleteVolume, validateDeleteVolumeRequest, if_pos hempty] at e
    cases e
  constructor
  · intro m req v hmem hvid
    obtain ⟨m', hs⟩ := hr.steps _ hmem
    cases hs with
    | request hreq hC he =>
        obtain ⟨r, hex, hres⟩ := exec_respond he
        cases r with
        | error err => cases hres
        | ok v' =>
            cases hres
            have hname := (hC req rfl).1
            obtain ⟨hid', l, ha, hl⟩ := created_location hex
            have hloc : locate (hp.controller.volumePath req) = some (l ++ [req.name]) := by
              rw [HostPathController.poolOf, hreq.controller.pool] at hl
              exact HostPathController.locate_volumePath hl hname
            rw [hreq.controller.lookup, ← hre.controller.lookup] at ha
            rw [at?, hloc, Option.bind_some, ← hid', hvid]
            exact hno ha hl
  · intro hp'' outcomes' hre' hf
    refine controllerGetVolume_notFound hid hf ?_ ?_
    · intro info hinfo
      obtain ⟨a, ha⟩ := Config.mem_pools.mp hinfo
      rw [hre'.controller.lookup, ← hre.controller.lookup] at ha
      exact hread info (Config.mem_pools.mpr ⟨a, ha⟩)
    · intro a i l ha hl
      rw [hre'.controller.lookup, ← hre.controller.lookup] at ha
      exact hno ha hl

namespace Sample

lemma namesUnique : cfg.NamesUnique emptyHost where
  unique _ _ _ _ _ _ _ ha hb _ _ _ _ := (eq_of_lookup ha).1.trans (eq_of_lookup hb).1.symm
  unmounted := (Config.Unmounted.of_nil rfl).pool

def newVolumeHost : Host := after emptyHost (Request.createVolume (some (volumeRequest "vol")))

def afterDeletionHost : Host :=
  (Host.exec { newVolumeHost with outcomes := fun _ => Outcome.fine }
    (controller.deleteVolume (some ⟨"vol"⟩))).2

end Sample

/-- A volume of the sample node that was created and deleted is not found. -/
theorem sample_delete_leaves_nothing :
    (Sample.result Sample.emptyHost
        (Request.createVolume (some (Sample.volumeRequest "vol")))).isOk = true
      ∧ ∃ h'', Host.exec { Sample.afterDeletionHost with outcomes := fun _ => Outcome.fine }
          (Sample.controller.controllerGetVolume (some ⟨"vol"⟩))
        = (Except.error (Err.status Code.notFound "volume vol not found"), h'') := by
  have hcreate : SingleVolumeRequest Sample.driver
      { Sample.emptyHost with outcomes := fun _ => Outcome.fine }
      (Request.createVolume (some (Sample.volumeRequest "vol"))) := by
    rintro req ⟨rfl⟩
    exact ⟨by decide, fun b j k hb _ hne => absurd (Sample.eq_of_lookup hb).1 hne⟩
  have hdelete : (Host.exec { Sample.newVolumeHost with outcomes := fun _ => Outcome.fine }
      (Sample.controller.deleteVolume (some ⟨"vol"⟩))).1.toOption = some () := by
    decide +kernel
  refine ⟨by decide +kernel, ?_⟩
  exact (delete_leaves_nothing Sample.layout.pools Sample.namesUnique
    (Run.snoc Run.nil (Sample.step_after hcreate)) (HostPath.Reorders.refl Sample.driver)
    (exec_eq_ok hdelete)).2 Sample.driver (fun _ => Outcome.fine) (HostPath.Reorders.refl _)
    fun _ => rfl

namespace TwoPools

def volumeRequest (parameters : GoMap String) : Request :=
  Request.createVolume (some ⟨"new", some [⟨AccessType.mount "" []⟩], parameters, none, none⟩)

def oneHost : Host := after host (volumeRequest Sample.parameters)

def bothHost : Host := after oneHost (volumeRequest parameters)

def leftHost : Host := after bothHost (Request.deleteVolume (some ⟨"new"⟩))

end TwoPools

/-- A volume is created under one name in two pools and deleted: all three requests succeed, without
failures, the directory in the first pool is left, and the volume is still found. -/
theorem namesake_survives_deletion :
    TwoPools.driver.Step (fun _ h _ => h.NoFaults) TwoPools.host
        (Event.request (TwoPools.volumeRequest Sample.parameters)
          (TwoPools.result TwoPools.host (TwoPools.volumeRequest Sample.parameters)))
        TwoPools.oneHost
      ∧ TwoPools.driver.Step (fun _ h _ => h.NoFaults) TwoPools.oneHost
        (Event.request (TwoPools.volumeRequest TwoPools.parameters)
          (TwoPools.result TwoPools.oneHost (TwoPools.volumeRequest TwoPools.parameters)))
        TwoPools.bothHost
      ∧ TwoPools.driver.Step (fun _ h _ => h.NoFaults) TwoPools.bothHost
        (Event.request (Request.deleteVolume (some ⟨"new"⟩))
          (TwoPools.result TwoPools.bothHost (Request.deleteVolume (some ⟨"new"⟩))))
        TwoPools.leftHost
      ∧ (TwoPools.result TwoPools.host (TwoPools.volumeRequest Sample.parameters)).isOk = true
      ∧ (TwoPools.result TwoPools.oneHost
        (TwoPools.volumeRequest TwoPools.parameters)).isOk = true
      ∧ (TwoPools.result TwoPools.bothHost (Request.deleteVolume (some ⟨"new"⟩))).isOk = true
      ∧ TwoPools.leftHost.fs.node ["pool", "new"] = some Node.dir
      ∧ (TwoPools.result TwoPools.leftHost
        (Request.controllerGetVolume (some ⟨"new"⟩))).isOk = true :=
  ⟨TwoPools.step_after fun _ => rfl, TwoPools.step_after fun _ => rfl,
    TwoPools.step_after fun _ => rfl, by decide +kernel, by decide +kernel, by decide +kernel,
    by decide +kernel, by decide +kernel⟩

end Hostpath
