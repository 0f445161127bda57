import Hostpath.Csi.Listing
import Hostpath.Csi.Publish
import Hostpath.Csi.VolumeMap

/-!
# The volume service refines a finite map

Every query of the driver agrees with the map of live volumes, in every state that creations and
deletions reach: listings, lookups by id, lookups by parameters, publishing with what the creation
returned, and deletion.  The three ways in which the handlers find a volume — the pool of the
parameters, the pool of the volume context, and a scan of all pools by base name — therefore agree
with each other.  The main result is `volumes_refine_map`.
-/

namespace Hostpath

open Lib FilePath Prog Host

/-! ## The directories of the map -/

/-- The full path of a volume of the map. -/
def fullPath (cfg : Config) (live : GoMap String) (n : String) : String :=
  join [(cfg.pool ((live.lookup n).getD "")).path, n]

lemma pool_of_lookup {cfg : Config} {a : String} {info : StoragePoolInfo}
    (ha : cfg.storagePoolInfo.lookup a = some info) : cfg.pool a = info := by
  rw [Config.pool, ha]
  rfl

/-- No directory is listed twice if the pools do not overlap. -/
lemma nodup_sortedDirs {cfg : Config} {fs : FileTree FileData} (hap : cfg.PoolsApart) :
    (sortedDirs fs cfg.pools).Nodup := by
  have hone : ∀ info, (dirsOf fs info).Nodup := by
    intro info
    unfold dirsOf
    split
    · exact List.nodup_nil
    · rename_i l hl
      refine List.Nodup.map_on ?_ ((fs.nodup_list l).filter _)
      intro m hm n hn heq
      have hvm : ValidName m := fs.valid (fs.mem_list.mp (List.mem_of_mem_filter hm))
      have hvn : ValidName n := fs.valid (fs.mem_list.mp (List.mem_of_mem_filter hn))
      rw [← base_join info.path hvm, heq, base_join info.path hvn]
  refine (List.perm_insertionSort _ _).nodup_iff.mpr (List.nodup_flatMap.mpr ⟨fun i _ => hone i, ?_⟩)
  -- two pools list different directories, since these are at different locations
  refine List.pairwise_map.mpr (cfg.storagePoolInfo.nodupKeys.pairwise_ne.imp_of_mem ?_)
  intro x y hx hy hne d hdx hdy
  obtain ⟨l, m, hl, hm, _, rfl⟩ := mem_dirsOf.mp hdx
  obtain ⟨k, n, hk, hn, _, heq⟩ := mem_dirsOf.mp hdy
  have hloc : l ++ [m] = k ++ [n] := by
    have h₁ := locate_join_valid hl hm
    rw [heq, locate_join_valid hk hn] at h₁
    exact (Option.some.inj h₁).symm
  obtain ⟨rfl, _⟩ := List.append_inj' hloc rfl
  exact (hap (AList.mem_lookup_iff.mpr hx) (AList.mem_lookup_iff.mpr hy) hne hl hk).1
    (List.prefix_refl l)

namespace Config.Holds

variable {cfg : Config} {pool : String → String} {live : GoMap String} {h : Host} {n d : String}

lemma validName (hold : cfg.Holds pool live h) (hn : live.lookup n ≠ none) : ValidName n := by
  obtain ⟨a, ha⟩ := Option.ne_none_iff_exists'.mp hn
  obtain ⟨_, info, hinfo⟩ := hold.names ha
  obtain ⟨l, hl, _⟩ := hold.pools hinfo
  exact h.fs.valid (l := l) (by simp [hold.dir_of_live ha hinfo hl])

/-- The listed directories are those of the volumes of the map. -/
lemma mem_sortedDirs (hold : cfg.Holds pool live h) :
    d ∈ sortedDirs h.fs cfg.pools ↔ ∃ n, live.lookup n ≠ none ∧ d = fullPath cfg live n := by
  constructor
  · intro hd
    obtain ⟨info, hinfo, hd⟩ := Hostpath.mem_sortedDirs.mp hd
    obtain ⟨a, ha⟩ := Config.mem_pools.mp hinfo
    obtain ⟨l, n, hl, _, hn, rfl⟩ := mem_dirsOf.mp hd
    have hlive : live.lookup n = some a := hold.live_of_node ha hl (by simp [hn])
    refine ⟨n, by simp [hlive], ?_⟩
    rw [fullPath, hlive, Option.getD_some, pool_of_lookup ha]
  · rintro ⟨n, hn, rfl⟩
    obtain ⟨a, ha⟩ := Option.ne_none_iff_exists'.mp hn
    obtain ⟨_, info, hinfo⟩ := hold.names ha
    obtain ⟨l, hl, _⟩ := hold.pools hinfo
    refine Hostpath.mem_sortedDirs.mpr ⟨info, Config.mem_pools.mpr ⟨a, hinfo⟩, mem_dirsOf.mpr
      ⟨l, n, hl, hold.validName hn, hold.dir_of_live ha hinfo hl, ?_⟩⟩
    rw [fullPath, ha, Option.getD_some, pool_of_lookup hinfo]

/-- The base names of the listed directories are the names of the volumes, and their full paths
are the directories again. -/
lemma base_sortedDirs (hold : cfg.Holds pool live h) :
    ((sortedDirs h.fs cfg.pools).map base).map (fullPath cfg live) = sortedDirs h.fs cfg.pools := by
  rw [List.map_map]
  refine (List.map_congr_left fun d hd => ?_).trans (List.map_id _)
  obtain ⟨n, hn, rfl⟩ := hold.mem_sortedDirs.mp hd
  rw [Function.comp_apply, show base (fullPath cfg live n) = n from base_join _ (hold.validName hn)]
  rfl

lemma mem_base_sortedDirs (hold : cfg.Holds pool live h) :
    n ∈ (sortedDirs h.fs cfg.pools).map base ↔ live.lookup n ≠ none := by
  simp only [List.mem_map, hold.mem_sortedDirs]
  constructor
  · rintro ⟨_, ⟨m, hm, rfl⟩, rfl⟩
    rwa [show base (fullPath cfg live m) = m from base_join _ (hold.validName hm)]
  · exact fun hn => ⟨_, ⟨n, hn, rfl⟩, base_join _ (hold.validName hn)⟩

/-- The scan by base name finds the volumes of the map. -/
lemma volumePathOf_eq_empty (hold : cfg.Holds pool live h) :
    volumePathOf (sortedDirs h.fs cfg.pools) n = "" ↔ live.lookup n = none := by
  constructor
  · intro hp
    cases hn : live.lookup n with
    | none => rfl
    | some a =>
        obtain ⟨_, info, hinfo⟩ := hold.names hn
        obtain ⟨l, hl, _⟩ := hold.pools hinfo
        exact absurd (hold.dir_of_live hn hinfo hl)
          (no_volume_of_volumePathOf hp (Config.mem_pools.mpr ⟨a, hinfo⟩) hl)
  · intro hn
    by_contra hp
    obtain ⟨info, hinfo, l, hl, _, hd, _⟩ := volumePathOf_loc hp
    obtain ⟨a, ha⟩ := Config.mem_pools.mp hinfo
    rw [hold.live_of_node ha hl (by simp [hd])] at hn
    cases hn

end Config.Holds

/-! ## Looking a volume up -/

namespace HostPathController

variable {hpc : HostPathController} {pool : String → String} {live : GoMap String} {h : Host}

/-- A listing of everything returns the names of the map in order of their full paths. -/
lemma listVolumes_of_holds (hap : hpc.cfg.PoolsApart) (hold : hpc.cfg.Holds pool live h)
    (hf : h.NoFaults) :
    ∃ entries m, h.exec (hpc.listVolumes (some ⟨0, ""⟩)) = (Except.ok ⟨entries, ""⟩, m)
      ∧ (entries.map VolumeEntry.volumeId).Nodup
      ∧ (∀ n, n ∈ entries.map VolumeEntry.volumeId ↔ live.lookup n ≠ none)
      ∧ ((entries.map VolumeEntry.volumeId).map (fullPath hpc.cfg live)).Pairwise (· < ·) := by
  obtain ⟨entries, m, hent, he⟩ := hpc.listVolumes_of_noFaults hf hold.readable (by decide)
    (volumesPage_all (sortedDirs h.fs hpc.cfg.pools))
  refine ⟨entries, m, he, ?_, fun n => ?_, ?_⟩ <;> rw [hent.ids]
  · refine List.Nodup.of_map (fullPath hpc.cfg live) ?_
    rw [hold.base_sortedDirs]
    exact nodup_sortedDirs hap
  · exact hold.mem_base_sortedDirs
  · rw [hold.base_sortedDirs]
    refine ((List.pairwise_insertionSort (· ≤ ·) _).and (nodup_sortedDirs hap)).imp ?_
    exact fun hab => lt_of_le_of_ne hab.1 hab.2

/-- A lookup by parameters finds what is at the path of the volume. -/
lemma validateVolumeCapabilities_of_holds {req : ValidateVolumeCapabilitiesRequest}
    {info : StoragePoolInfo} (hold : hpc.cfg.Holds pool live h) (hf : h.NoFaults)
    (hid : ValidName req.volumeId) (hcaps : req.volumeCapabilities ≠ [])
    (hmount : ∀ c ∈ req.volumeCapabilities, c.hasMount = true)
    (hpool : getStoragePoolNameFromMap req.parameters = pool req.volumeId)
    (ha : hpc.cfg.storagePoolInfo.lookup (pool req.volumeId) = some info) :
    ∃ m, h.exec (hpc.validateVolumeCapabilities (some req))
      = (if live.lookup req.volumeId ≠ none then
          Except.ok ⟨req.volumeContext, req.volumeCapabilities, req.parameters⟩
        else Except.error
          (Err.status Code.notFound ("volume " ++ req.volumeId ++ " not found")), m) := by
  obtain ⟨l, hl, hd⟩ := hold.pools ha
  have hpath : hpc.cfg.pool (getStoragePoolNameFromMap req.parameters) = info := by
    rw [hpool, pool_of_lookup ha]
  have hloc : locate (join [info.path, req.volumeId]) = some (l ++ [req.volumeId]) :=
    locate_join_valid hl hid
  have hnode := hold.volumes req.volumeId ha hl
  have hlive : live.lookup req.volumeId = some (pool req.volumeId)
      ↔ live.lookup req.volumeId ≠ none := by
    constructor
    · intro hs
      simp [hs]
    · intro hs
      obtain ⟨a, hs⟩ := Option.ne_none_iff_exists'.mp hs
      rw [hs, (hold.names hs).1]
  have hb : h.fs.blocked (l ++ [req.volumeId]) = false :=
    h.fs.blocked_concat hd (by rw [hnode]; split_ifs <;> simp)
  have hat : (h.at? (join [info.path, req.volumeId])).isSome
      = decide (live.lookup req.volumeId ≠ none) := by
    rw [at?, hloc, Option.bind_some, hnode]
    by_cases hs : live.lookup req.volumeId ≠ none
    · rw [if_pos (hlive.mpr hs), decide_eq_true hs]
      rfl
    · rw [if_neg (mt hlive.mp hs), decide_eq_false hs]
      rfl
  have hcheck : h.exec (checkPathExist (join [info.path, req.volumeId]))
      = (Except.ok (decide (live.lookup req.volumeId ≠ none)), h.tick) := by
    rw [← hat]
    refine checkPathExist_of_noFault (hf 0) ?_
    cases hn : h.fs.node (l ++ [req.volumeId]) with
    | none => exact Or.inr (lookup_error_of_none hloc hn hb)
    | some x => exact Or.inl (by simp [at?, hloc, hn])
  have hne : req.volumeId ≠ "" := hid.1
  have hany : ¬ (req.volumeCapabilities.any fun c => !c.hasMount) = true := by
    simpa using hmount
  refine ⟨h.tick, ?_⟩
  unfold validateVolumeCapabilities
  dsimp only
  rw [if_neg hne, if_neg hcaps, if_neg hany, hpath]
  refine (exec_bind_of_ok step hcheck).trans ?_
  by_cases hs : live.lookup req.volumeId ≠ none
  · rw [decide_eq_true hs, if_pos hs]
    rfl
  · rw [decide_eq_false hs, if_neg hs]
    rfl

end HostPathController

/-! ## Publishing what was created -/

/-- What a creation of the history returned. -/
def Created (tr : List (Host × Event)) (req : CreateVolumeRequest) (v : Volume) : Prop :=
  ∃ m, (m, Event.request (Request.createVolume (some req)) (Except.ok (Response.volume v))) ∈ tr

lemma created_volume {hp : HostPath} {pool : String → String} {h₀ h : Host}
    {tr : List (Host × Event)} {req : CreateVolumeRequest} {v : Volume}
    (hr : Run (hp.Step (VolumeRequest pool)) h₀ tr h) (hc : Created tr req v) :
    v.volumeId = req.name ∧ v.volumeContext = req.parameters
      ∧ getStoragePoolNameFromMap req.parameters = pool req.name := by
  obtain ⟨m, hmem⟩ := hc
  obtain ⟨m', hs⟩ := hr.steps _ hmem
  cases hs with
  | @request _ hp' outcomes _ _ hre hC he =>
      obtain ⟨r, hr, hres⟩ := exec_respond he
      cases r with
      | error err => cases hres
      | ok v' =>
          cases hres
          obtain ⟨_, c, _, hreq, _, rfl, _⟩ := HostPathController.createVolume_ok hr
          cases hreq
          exact ⟨rfl, rfl, hC.2.2.2.2⟩

namespace HostPathNode

variable {hpn : HostPathNode} {pool : String → String} {live : GoMap String} {h h' : Host}
  {pub : NodePublishVolumeRequest} {info : StoragePoolInfo} {l : Loc}

/-- The source of a publish is the directory of the volume in the pool of the context. -/
lemma locate_source (heph : isEphemeralVolumeRequest pub = false)
    (ha : hpn.cfg.storagePoolInfo.lookup (getStoragePoolNameFromMap pub.volumeContext) = some info)
    (hl : info.loc = some l) (hid : ValidName pub.volumeId) :
    locate (hpn.source pub) = some (l ++ [pub.volumeId]) := by
  rw [source, heph, if_neg (by simp), pool_of_lookup ha]
  exact locate_join_valid hl hid

/-- A publish mounts the source of the request or nothing. -/
lemma nodePublishVolume_mounts {res : Except Err Unit} {d : Loc}
    (heph : isEphemeralVolumeRequest pub = false) (hd : locate (hpn.source pub) = some d)
    (e : h.exec (hpn.nodePublishVolume (some pub)) = (res, h')) :
    h'.mounts = h.mounts ∨ ∃ t, locate pub.targetPath = some t
      ∧ h'.mounts = ⟨t, d, bindOptions (mountOptions pub) res.isOk⟩ :: h.mounts := by
  rcases nodePublishVolume_cases e with ⟨hq, _⟩ | ⟨_, t, m, hreq, ht, hready, hM⟩
  · exact Or.inl hq.mounts
  · cases hreq
    have hno : EphemeralApart hpn pub m t := fun he => absurd he (by simp [heph])
    rcases (hM.effect ht hno).2 with hms | ⟨s, hs, _, hms⟩
    · exact Or.inl (hms.trans hready.frame.mounts)
    · cases hd.symm.trans hs
      exact Or.inr ⟨t, ht, hms.trans (by rw [hready.frame.mounts])⟩

end HostPathNode

/-! ## All together -/

/-- The target can take a mount: nothing is mounted there, and it is a directory or can be made
one. -/
def Mountable (h : Host) (t : Loc) : Prop :=
  (h.fs.node t = some Node.dir ∧ h.top t = none)
    ∨ h.fs.node t = none ∧ h.fs.blocked t = false ∧ h.fs.node t.dropLast ≠ none

/-- The driver answers as the map `live` of the history says, whatever the order of its maps and
as long as no call fails. -/
structure ActsAsMap (hp : HostPath) (pool : String → String) (tr : List (Host × Event))
    (h : Host) : Prop where
  /-- A valid creation succeeds. -/
  create : ∀ {hp' : HostPath} {outcomes : ℕ → Outcome} {req : CreateVolumeRequest},
    hp.Reorders hp' → VolumeRequest pool hp' { h with outcomes } (Request.createVolume (some req)) →
    ∃ v m, Host.exec { h with outcomes } (hp'.controller.createVolume (some req))
      = (Except.ok v, m)
  /-- A listing of everything has each live name once, in order of the full paths. -/
  list : ∀ {hp' : HostPath} {outcomes : ℕ → Outcome}, hp.Reorders hp' →
    NoFaults { h with outcomes } →
    ∃ entries m, Host.exec { h with outcomes } (hp'.controller.listVolumes (some ⟨0, ""⟩))
        = (Except.ok ⟨entries, ""⟩, m)
      ∧ (entries.map VolumeEntry.volumeId).Nodup
      ∧ (∀ n, n ∈ entries.map VolumeEntry.volumeId ↔ (live tr).lookup n ≠ none)
      ∧ ((entries.map VolumeEntry.volumeId).map
          (fullPath hp.controller.cfg (live tr))).Pairwise (· < ·)
  /-- A lookup by id finds the live volumes. -/
  get : ∀ {hp' : HostPath} {outcomes : ℕ → Outcome} {id : String}, hp.Reorders hp' →
    NoFaults { h with outcomes } → id ≠ "" →
    ∃ m, if (live tr).lookup id = none then
        Host.exec { h with outcomes } (hp'.controller.controllerGetVolume (some ⟨id⟩))
          = (Except.error (Err.status Code.notFound ("volume " ++ id ++ " not found")), m)
      else ∃ entry, entry.volumeId = id ∧
        Host.exec { h with outcomes } (hp'.controller.controllerGetVolume (some ⟨id⟩))
          = (Except.ok entry, m)
  /-- A lookup with the parameters of the creation finds the live volumes. -/
  validate : ∀ {hp' : HostPath} {outcomes : ℕ → Outcome}
    {req : ValidateVolumeCapabilitiesRequest}, hp.Reorders hp' →
    NoFaults { h with outcomes } → ValidName req.volumeId → req.volumeCapabilities ≠ [] →
    (∀ c ∈ req.volumeCapabilities, c.hasMount = true) →
    getStoragePoolNameFromMap req.parameters = pool req.volumeId →
    (hp.controller.cfg.storagePoolInfo.lookup (pool req.volumeId)).isSome = true →
    ∃ m, Host.exec { h with outcomes } (hp'.controller.validateVolumeCapabilities (some req))
      = (if (live tr).lookup req.volumeId ≠ none then
          Except.ok ⟨req.volumeContext, req.volumeCapabilities, req.parameters⟩
        else Except.error
          (Err.status Code.notFound ("volume " ++ req.volumeId ++ " not found")), m)
  /-- A publish with what the creation returned binds the directory that the creation made. -/
  publish : ∀ {req : CreateVolumeRequest} {v : Volume}, Created tr req v →
    (live tr).lookup v.volumeId ≠ none →
    ∃ d, locate (hp.controller.volumePath req) = some d ∧ h.fs.node d = some Node.dir ∧
      ∀ {hp' : HostPath} {outcomes : ℕ → Outcome} {pub : NodePublishVolumeRequest},
      hp.Reorders hp' → pub.volumeId = v.volumeId → pub.volumeContext = v.volumeContext →
      isEphemeralVolumeRequest pub = false →
      (∀ {res m}, Host.exec { h with outcomes } (hp'.node.nodePublishVolume (some pub)) = (res, m) →
        m.mounts = h.mounts ∨ ∃ t, locate pub.targetPath = some t
          ∧ m.mounts = ⟨t, d, bindOptions (HostPathNode.mountOptions pub) res.isOk⟩ :: h.mounts)
      ∧ ∀ {c t}, NoFaults { h with outcomes } →
        validateNodePublishRequest (some pub) = Except.ok (pub, c) →
        locate pub.targetPath = some t → Mountable h t →
        ∃ m, Host.exec { h with outcomes } (hp'.node.nodePublishVolume (some pub))
            = (Except.ok (), m)
          ∧ m.mounts = ⟨t, d, HostPathNode.mountOptions pub⟩ :: h.mounts
  /-- A deletion removes the directory of a live volume and nothing else, and does nothing for
  other ids. -/
  delete : ∀ {hp' : HostPath} {outcomes : ℕ → Outcome} {del : DeleteVolumeRequest},
    hp.Reorders hp' → NoFaults { h with outcomes } → del.volumeId ≠ "" →
    ∃ m, Host.exec { h with outcomes } (hp'.controller.deleteVolume (some del)) = (Except.ok (), m)
      ∧ m.mounts = h.mounts ∧ ((live tr).lookup del.volumeId = none → m.fs = h.fs)
      ∧ ∀ {a info l}, (live tr).lookup del.volumeId = some a →
        hp.controller.cfg.storagePoolInfo.lookup a = some info → info.loc = some l →
        ∀ q, m.fs.node q = if l ++ [del.volumeId] <+: q then none else h.fs.node q

section Main

variable {hp : HostPath} {pool : String → String} {tr : List (Host × Event)} {h : Host}

/-- Any order of the maps and any outcomes still hold the map. -/
lemma Config.Holds.serving {hp' : HostPath} {live : GoMap String}
    (hold : hp.controller.cfg.Holds pool live h) (hre : hp.Reorders hp')
    (outcomes : ℕ → Outcome) : hp'.controller.cfg.Holds pool live { h with outcomes } :=
  (hold.reorders hre.controller).of_host rfl rfl

lemma fullPath_reorders {cfg cfg' : Config} (hre : cfg.Reorders cfg') (live : GoMap String) :
    fullPath cfg' live = fullPath cfg live := by
  funext n
  rw [fullPath, fullPath, hre.pool]

lemma publish_of_holds (hnode : hp.node.cfg = hp.controller.cfg)
    (hold : hp.controller.cfg.Holds pool (live tr) h) {req : CreateVolumeRequest} {v : Volume}
    (hv : v.volumeId = req.name ∧ v.volumeContext = req.parameters
      ∧ getStoragePoolNameFromMap req.parameters = pool req.name)
    (hlive : (live tr).lookup v.volumeId ≠ none) :
    ∃ d, locate (hp.controller.volumePath req) = some d ∧ h.fs.node d = some Node.dir ∧
      ∀ {hp' : HostPath} {pub : NodePublishVolumeRequest}, hp.Reorders hp' →
      pub.volumeId = v.volumeId → pub.volumeContext = v.volumeContext →
      isEphemeralVolumeRequest pub = false → locate (hp'.node.source pub) = some d := by
  obtain ⟨hid, hctx, hpool⟩ := hv
  obtain ⟨a, ha⟩ := Option.ne_none_iff_exists'.mp hlive
  have hname := hold.validName hlive
  obtain ⟨hap, info, hinfo⟩ := hold.names ha
  have hapool : a = getStoragePoolNameFromMap req.parameters := by rw [hap, hid, hpool]
  obtain ⟨l, hl, _⟩ := hold.pools hinfo
  refine ⟨l ++ [v.volumeId], ?_, hold.dir_of_live ha hinfo hl, fun {hp' pub} hre h₁ h₂ heph => ?_⟩
  · rw [hid] at hname ⊢
    refine HostPathController.locate_volumePath ?_ hname
    rw [HostPathController.poolOf, ← hapool, pool_of_lookup hinfo]
    exact hl
  · rw [← h₁] at hname ⊢
    refine HostPathNode.locate_source heph ?_ hl hname
    rw [h₂, hctx, ← hapool, hre.node.lookup, hnode]
    exact hinfo

lemma actsAsMap_of_holds (hnode : hp.node.cfg = hp.controller.cfg)
    (hap : hp.controller.cfg.PoolsApart) (hold : hp.controller.cfg.Holds pool (live tr) h)
    (hcreated : ∀ {req v}, Created tr req v → v.volumeId = req.name
      ∧ v.volumeContext = req.parameters
      ∧ getStoragePoolNameFromMap req.parameters = pool req.name) :
    ActsAsMap hp pool tr h where
  create {hp' outcomes req} hre hC := by
    obtain ⟨hf, hadm, hname, hsrc, _⟩ := hC
    have hold' := hold.serving hre outcomes
    have ha := HostPathController.lookup_poolOf hadm
    obtain ⟨l, hl, hd⟩ := hold'.pools ha
    have hn := hold'.volumes req.name ha hl
    obtain ⟨c, m, hm⟩ := HostPathController.createVolume_of_noFaults hadm
      (by simp [CreateVolumeRequest.snapshotSource, hsrc]) hname hf hl hd
      (by rw [hn]; split_ifs <;> simp)
    exact ⟨_, m, hm⟩
  list {hp' outcomes} hre hf := by
    rw [← fullPath_reorders hre.controller]
    exact HostPathController.listVolumes_of_holds (hre.controller.poolsApart hap)
      (hold.serving hre outcomes) hf
  get {hp' outcomes id} hre hf hid := by
    have hold' := hold.serving hre outcomes
    obtain ⟨m, hm⟩ := hp'.controller.controllerGetVolume_of_noFaults hid hf hold'.readable
    refine ⟨m, ?_⟩
    by_cases hlive : (live tr).lookup id = none
    · rw [if_pos hlive]
      rwa [if_pos (hold'.volumePathOf_eq_empty.mpr hlive)] at hm
    · rw [if_neg hlive]
      rwa [if_neg (mt hold'.volumePathOf_eq_empty.mp hlive)] at hm
  validate {hp' outcomes req} hre hf hid hcaps hmount hpool ha := by
    obtain ⟨info, ha⟩ := Option.isSome_iff_exists.mp ha
    rw [← hre.controller.lookup] at ha
    exact HostPathController.validateVolumeCapabilities_of_holds (hold.serving hre outcomes) hf hid
      hcaps hmount hpool ha
  publish {req v} hc hlive := by
    obtain ⟨d, hd, hdir, hsrc⟩ := publish_of_holds hnode hold (hcreated hc) hlive
    refine ⟨d, hd, hdir, fun {hp' outcomes pub} hre h₁ h₂ heph => ⟨fun e => ?_, ?_⟩⟩
    · exact HostPathNode.nodePublishVolume_mounts (h := { h with outcomes }) heph
        (hsrc hre h₁ h₂ heph) e
    · intro c t hf hv ht hready
      exact HostPathNode.nodePublishVolume_of_noFaults hv heph hf (hsrc hre h₁ h₂ heph) hdir ht
        hready
  delete {hp' outcomes del} hre hf hid := by
    have hold' := hold.serving hre outcomes
    obtain ⟨m, hm⟩ := HostPathController.deleteVolume_of_noFaults hold' hid hf
    refine ⟨m, hm, ?_⟩
    rcases HostPathController.deleteVolume_removes hold' hm with
      ⟨hnone, hq⟩ | ⟨b, info, l, m', hlive, hb, hl, hq, rfl⟩
    · refine ⟨hq.mounts, fun _ => hq.fs, fun hs => ?_⟩
      rw [hnone] at hs
      cases hs
    · refine ⟨hq.mounts, fun hnone => ?_, fun {a info' k} hs ha hk q => ?_⟩
      · rw [hnone] at hlive
        cases hlive
      · cases hlive.symm.trans hs
        rw [← hre.controller.lookup, hb] at ha
        cases ha
        cases hl.symm.trans hk
        exact HostPathController.cleared_volume_node hold'.unmounted hb hl hq del.volumeId q

/-- **The volume service refines a finite map.**  The pools do not overlap and start empty.  After
any run of creations and deletions none of whose calls fail, the driver answers as the map of the
volumes that were created and not yet deleted says. -/
theorem volumes_refine_map {cfg : Config} {hpc : HostPathController} {h₀ : Host}
    (hnew : newHostPathController cfg = Except.ok hpc) (hap : cfg.PoolsApart)
    (hempty : cfg.EmptyPools h₀)
    (hr : Run (HostPath.Step ⟨⟨cfg⟩, hpc⟩ (VolumeRequest pool)) h₀ tr h) :
    ActsAsMap ⟨⟨cfg⟩, hpc⟩ pool tr h := by
  obtain ⟨rfl, _⟩ := newHostPathController_ok hnew
  exact actsAsMap_of_holds rfl hap (Config.Holds.run hap hempty hr)
    fun hc => created_volume hr hc

end Main

namespace Sample

lemma emptyPools : cfg.EmptyPools emptyHost := by
  intro a info ha
  obtain ⟨rfl, rfl⟩ := eq_of_lookup ha
  exact ⟨["pool"], by decide, by decide +kernel, emptyHost_volume, by decide⟩

end Sample

/-- One creation, after which the map has one volume. -/
theorem sample_refines_map :
    ∃ v h', Sample.driver.Step (VolumeRequest fun _ => "local") Sample.emptyHost (Event.request
        (Request.createVolume (some (Sample.volumeRequest "vol"))) (Except.ok (Response.volume v))) h'
      ∧ ActsAsMap Sample.driver (fun _ => "local") [(Sample.emptyHost, Event.request
        (Request.createVolume (some (Sample.volumeRequest "vol"))) (Except.ok (Response.volume v)))] h' := by
  have hok : (Host.exec { Sample.emptyHost with outcomes := fun _ => Outcome.fine }
      (Sample.controller.createVolume (some (Sample.volumeRequest "vol")))).1.toOption.isSome = true := by
    decide +kernel
  obtain ⟨v, hv⟩ := Option.isSome_iff_exists.mp hok
  have hC : VolumeRequest (fun _ => "local") Sample.driver
      { Sample.emptyHost with outcomes := fun _ => Outcome.fine }
      (Request.createVolume (some (Sample.volumeRequest "vol"))) :=
    ⟨fun _ => rfl, ⟨rfl, rfl, rfl⟩, by decide, rfl, by decide⟩
  have hs := HostPath.Step.request (HostPath.Reorders.refl Sample.driver) hC
    (exec_bind_of_ok step (exec_eq_ok hv))
  exact ⟨v, _, hs, volumes_refine_map rfl Sample.layout.pools Sample.emptyPools
    (Run.snoc Run.nil hs)⟩

end Hostpath
