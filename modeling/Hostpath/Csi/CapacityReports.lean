import Hostpath.Csi.Capacity
import Hostpath.Csi.Driver
import Hostpath.Csi.Layout
import Hostpath.Csi.Listing

/-!
# The capacity of a volume, as the handlers report it

`CreateVolume` returns the capacity of the pool.  `ListVolumes` and `ControllerGetVolume` read the
capacities of all pools into a table, under the paths as they are configured, and look a volume up
under the parent of its directory, which `Dir` makes from a joined path.  A joined path is clean, so
the lookup succeeds for pools whose configured path is clean, and otherwise the capacity is reported
as zero.

`capacity_agrees_iff` says so: the three agree exactly if the configured path of the pool is clean,
or the capacity is zero anyway.  It is about every file system state in which the volume is there
and in no other pool, and about every later behaviour of the calls that reports the same space.
-/

namespace Hostpath

open Lib FilePath Prog Host

variable {h h' : Host} {space : Loc → Statfs}

/-! ## The table -/

/-- The capacity at a path, in the form it is reported. -/
def capacityAt (space : Loc → Statfs) (path : String) : Option Int64 :=
  (locate path).map fun l => roundDownCapacityPretty (fsInfo (space l)).capacity

/-- The file systems report the same space at every call. -/
def Host.Reports (h : Host) (space : Loc → Statfs) : Prop := ∀ k, (h.outcomes k).space = space

lemma getVolumeDirCapacity_value {path : String} {c : Int64} (hsp : h.Reports space)
    (e : h.exec (getVolumeDirCapacity path) = (Except.ok c, h')) :
    h' = h.tick ∧ capacityAt space path = some c := by
  obtain ⟨rfl, l, hl, hn⟩ := getVolumeDirCapacity_ok e
  obtain ⟨s, hs, rfl⟩ := getVolumeDirCapacity_eq_ok.mp e
  have hreply := congrArg Prod.fst hs
  rw [statfs_of_noFault (statfs_ok hreply).1 hl hn, hsp 0] at hreply
  cases hreply
  exact ⟨rfl, by rw [capacityAt, hl, Option.map_some]⟩

/-- Every path of a pool is in the table, with its capacity. -/
lemma capacityMap_lookup {infos : List StoragePoolInfo} {caps caps' : GoMap Int64}
    (hsp : h.Reports space) (e : h.exec (capacityMap infos caps) = (Except.ok caps', h')) (a : String) :
    caps'.lookup a = if a ∈ infos.map (·.path) then capacityAt space a else caps.lookup a := by
  induction infos generalizing h caps with
  | nil =>
      cases e
      simp
  | cons info infos ih =>
      obtain ⟨c, m, hc, hk⟩ := exec_bind_eq_ok.mp e
      obtain ⟨rfl, hval⟩ := getVolumeDirCapacity_value hsp hc
      rw [ih (fun k => hsp (k + 1)) hk, List.map_cons]
      exact lookup_insert_filled hval _ a

/-! ## The entries -/

namespace HostPathController

variable {hpc : HostPathController}

lemma volumeEntry_capacity {caps : GoMap Int64} {id path : String} {entry : VolumeEntry}
    (e : h.exec (hpc.volumeEntry caps id path) = (Except.ok entry, h')) :
    entry.capacityBytes = (caps.lookup (dir path)).getD 0 ∧ entry.volumeId = id := by
  obtain ⟨b, m, _, hk⟩ := exec_bind_eq_ok.mp e
  cases hk
  exact ⟨rfl, rfl⟩

/-- Every entry is that of a directory of the page. -/
lemma volumeEntries_capacity {caps : GoMap Int64} {page : List String} {entries : List VolumeEntry}
    (e : h.exec (hpc.volumeEntries caps page) = (Except.ok entries, h')) {entry : VolumeEntry}
    (hentry : entry ∈ entries) :
    ∃ d ∈ page, entry.volumeId = base d ∧ entry.capacityBytes = (caps.lookup (dir d)).getD 0 := by
  induction page generalizing h entries with
  | nil =>
      cases e
      exact absurd hentry List.not_mem_nil
  | cons d page ih =>
      obtain ⟨x, m, hx, hk⟩ := exec_bind_eq_ok.mp e
      obtain ⟨xs, m', hxs, hk⟩ := exec_bind_eq_ok.mp hk
      cases hk
      rcases List.mem_cons.mp hentry with rfl | hin
      · obtain ⟨hcap, hid⟩ := volumeEntry_capacity hx
        exact ⟨d, List.mem_cons_self, hid, hcap⟩
      · obtain ⟨d', hd', hrest⟩ := ih hxs hin
        exact ⟨d', List.mem_cons_of_mem _ hd', hrest⟩

/-- The volume `n` is in the pool `a`, at `l`, and no other pool has a directory of that name. -/
structure Holds (hpc : HostPathController) (fs : FileTree FileData) (a : String) (l : Loc)
    (n : String) : Prop where
  pool : hpc.cfg.storagePoolInfo.lookup a = some (hpc.cfg.pool a)
  loc : (hpc.cfg.pool a).loc = some l
  dir : fs.node (l ++ [n]) = some Node.dir
  alone : ∀ b info k, hpc.cfg.storagePoolInfo.lookup b = some info → b ≠ a → info.loc = some k →
    fs.node (k ++ [n]) ≠ some Node.dir

namespace Holds

variable {fs : FileTree FileData} {a n : String} {l : Loc}

/-- The directories of that name that are listed are all the directory of the volume. -/
lemma listed (hv : hpc.Holds fs a l n) {d : String} (hd : d ∈ sortedDirs fs hpc.cfg.pools)
    (hb : base d = n) : d = join [(hpc.cfg.pool a).path, n] := by
  obtain ⟨info, hinfo, hd⟩ := mem_sortedDirs.mp hd
  obtain ⟨k, m, hk, hm, hdir, rfl⟩ := mem_dirsOf.mp hd
  rw [base_join _ hm] at hb
  subst hb
  obtain ⟨b, hlook⟩ := Config.mem_pools.mp hinfo
  by_cases hba : b = a
  · subst hba
    cases hlook.symm.trans hv.pool
    rfl
  · exact absurd hdir (hv.alone b info k hlook hba hk)

/-- What the table says of the directory of the volume: a path that is not clean is missing, since
a pool with the clean one would have the volume too. -/
lemma table (hv : hpc.Holds fs a l n) {c : Int64} {caps : GoMap Int64}
    (hc : capacityAt space (hpc.cfg.pool a).path = some c)
    (hcaps : ∀ p, caps.lookup p
      = if p ∈ hpc.cfg.pools.map (·.path) then capacityAt space p else none) :
    (caps.lookup (FilePath.dir (join [(hpc.cfg.pool a).path, n]))).getD 0
      = if clean (hpc.cfg.pool a).path = (hpc.cfg.pool a).path then c else 0 := by
  have hn : ValidName n := fs.valid (l := l) (by simp [hv.dir])
  have hne : (hpc.cfg.pool a).path ≠ "" := (locate_eq_some.mp hv.loc).1
  have hclean : locate (clean (hpc.cfg.pool a).path) = some l := by
    rw [← dir_join hne hn]
    exact locate_dir_join hv.loc hn
  rw [dir_join hne hn, hcaps]
  split_ifs with hin heq heq
  · rw [heq, hc, Option.getD_some]
  · obtain ⟨info, hinfo, hpath⟩ := List.mem_map.mp hin
    obtain ⟨b, hb⟩ := Config.mem_pools.mp hinfo
    by_cases hba : b = a
    · subst hba
      cases hb.symm.trans hv.pool
      exact absurd hpath.symm heq
    · refine absurd hv.dir (hv.alone b info l hb hba ?_)
      rw [StoragePoolInfo.loc, hpath, hclean]
  · refine absurd (List.mem_map.mpr ⟨_, Config.mem_pools.mpr ⟨a, hv.pool⟩, ?_⟩) hin
    exact heq.symm
  · rfl

end Holds

/-! ## The reports -/

/-- The capacity that is reported for the volume `n`, in a listing and when it is looked up, is `c`,
whatever the calls do as long as the file systems report `space`. -/
structure CapacityAgrees (hpc : HostPathController) (g : Host) (space : Loc → Statfs) (n : String)
    (c : Int64) : Prop where
  listed : ∀ outcomes, Host.Reports { g with outcomes } space → ∀ r resp g',
    Host.exec { g with outcomes } (hpc.listVolumes r) = (Except.ok resp, g') →
      ∀ entry ∈ resp.entries, entry.volumeId = n → entry.capacityBytes = c
  found : ∀ outcomes, Host.Reports { g with outcomes } space → ∀ entry g',
    Host.exec { g with outcomes } (hpc.controllerGetVolume (some ⟨n⟩)) = (Except.ok entry, g') →
      entry.capacityBytes = c

section Reports

variable {a n : String} {l : Loc} {c : Int64} {g g' : Host}

lemma listed_capacity (hv : hpc.Holds g.fs a l n) (hsp : g.Reports space)
    (hc : capacityAt space (hpc.cfg.pool a).path = some c) {r : Option ListVolumesRequest}
    {resp : ListVolumesResponse} (e : g.exec (hpc.listVolumes r) = (Except.ok resp, g'))
    {entry : VolumeEntry} (hentry : entry ∈ resp.entries) (hid : entry.volumeId = n) :
    entry.capacityBytes
      = if clean (hpc.cfg.pool a).path = (hpc.cfg.pool a).path then c else 0 := by
  obtain ⟨_, req, page, caps, m₁, m₂, _, _, hpage, hcaps, _, hes⟩ := listVolumes_steps e
  obtain ⟨d, hd, hbase, hcap⟩ := volumeEntries_capacity hes hentry
  have hlisted : d ∈ sortedDirs g.fs hpc.cfg.pools := mem_of_volumesPage hpage hd
  rw [hcap, hv.listed hlisted (hbase.symm.trans hid)]
  exact hv.table hc fun p => capacityMap_lookup hsp hcaps p

lemma found_capacity (hv : hpc.Holds g.fs a l n) (hsp : g.Reports space)
    (hc : capacityAt space (hpc.cfg.pool a).path = some c) {entry : VolumeEntry}
    (e : g.exec (hpc.controllerGetVolume (some ⟨n⟩)) = (Except.ok entry, g')) :
    entry.capacityBytes
      = if clean (hpc.cfg.pool a).path = (hpc.cfg.pool a).path then c else 0 := by
  obtain ⟨_, hp, caps, m₁, m₂, hcaps, _, hex⟩ := controllerGetVolume_steps e
  rcases volumePathOf_cases (sortedDirs g.fs hpc.cfg.pools) n with ⟨hempty, _⟩ | ⟨hmem, hbase⟩
  · exact absurd hempty hp
  · rw [(volumeEntry_capacity hex).1, hv.listed hmem hbase]
    exact hv.table hc fun p => capacityMap_lookup hsp hcaps p

/-- Without failures the volume is found, if the pools can be read. -/
lemma found_of_readable (hv : hpc.Holds g.fs a l n) (hf : g.NoFaults)
    (hr : Readable g.fs hpc.cfg.pools) :
    ∃ entry m, g.exec (hpc.controllerGetVolume (some ⟨n⟩)) = (Except.ok entry, m) := by
  have hn : ValidName n := g.fs.valid (l := l) (by simp [hv.dir])
  obtain ⟨m, hm⟩ := hpc.controllerGetVolume_of_noFaults hn.1 hf hr
  split_ifs at hm with hp
  · exact absurd hv.dir (no_volume_of_volumePathOf hp (Config.mem_pools.mpr ⟨a, hv.pool⟩) hv.loc)
  · obtain ⟨entry, _, he⟩ := hm
    exact ⟨entry, m, he⟩

end Reports

/-- **When all handlers report the capacity that was returned**: if the path of the pool is clean,
or the capacity of its file system rounds down to zero. -/
theorem capacity_agrees_iff {hpc : HostPathController} {h h' g : Host} {space : Loc → Statfs}
    {req : CreateVolumeRequest} {vol : Volume} {l : Loc} (hsp : h.Reports space)
    (e : h.exec (hpc.createVolume (some req)) = (Except.ok vol, h'))
    (hv : hpc.Holds g.fs (getStoragePoolNameFromMap req.parameters) l req.name) :
    vol.capacityBytes = roundDownCapacityPretty (fsInfo (space l)).capacity
      ∧ (hpc.CapacityAgrees g space req.name vol.capacityBytes
        ↔ (Readable g.fs hpc.cfg.pools →
          clean (hpc.poolOf req).path = (hpc.poolOf req).path
            ∨ roundDownCapacityPretty (fsInfo (space l)).capacity = 0)) := by
  obtain ⟨m, hcreate⟩ := createVolume_capacity e
  have hc : capacityAt space (hpc.poolOf req).path = some vol.capacityBytes :=
    (getVolumeDirCapacity_value hsp hcreate).2
  have hvalue : capacityAt space (hpc.poolOf req).path
      = some (roundDownCapacityPretty (fsInfo (space l)).capacity) := by
    rw [capacityAt, show locate (hpc.poolOf req).path = some l from hv.loc, Option.map_some]
  have heq : vol.capacityBytes = roundDownCapacityPretty (fsInfo (space l)).capacity :=
    Option.some.inj (hc.symm.trans hvalue)
  refine ⟨heq, ?_⟩
  rw [← heq]
  constructor
  · intro hagree hr
    let outcomes : ℕ → Outcome := fun _ => { Outcome.fine with space }
    obtain ⟨entry, m, he⟩ := found_of_readable (g := { g with outcomes }) hv (fun _ => rfl) hr
    have hrep : Host.Reports { g with outcomes } space := fun _ => rfl
    have hfound := found_capacity (g := { g with outcomes }) hv hrep hc he
    rw [hagree.found outcomes hrep entry m he] at hfound
    by_cases hclean : clean (hpc.poolOf req).path = (hpc.poolOf req).path
    · exact Or.inl hclean
    · exact Or.inr (hfound.trans (if_neg hclean))
  · intro hcond
    have hsame : Readable g.fs hpc.cfg.pools →
        (if clean (hpc.poolOf req).path = (hpc.poolOf req).path then vol.capacityBytes else 0)
          = vol.capacityBytes := by
      intro hr
      split_ifs with hclean
      · rfl
      · exact ((hcond hr).resolve_left hclean).symm
    constructor
    · intro outcomes hrep r resp g' hex entry hentry hid
      rw [listed_capacity (g := { g with outcomes }) hv hrep hc hex hentry hid]
      exact hsame (listVolumes_steps hex).1
    · intro outcomes hrep entry g' hex
      rw [found_capacity (g := { g with outcomes }) hv hrep hc hex]
      exact hsame (controllerGetVolume_steps hex).1

end HostPathController

namespace Sample

/-- An empty node on which every file system reports the same small size. -/
def smallHost : Host :=
  { emptyHost with outcomes := fun _ => { Outcome.fine with space := fun _ => statfs } }

/-- The host after the volume `vol` was created. -/
def smallHostWith (hpc : HostPathController) : Host :=
  (smallHost.exec (hpc.createVolume (some (volumeRequest "vol")))).2

lemma createVolume_small : ∃ vol, smallHost.exec (controller.createVolume
    (some (volumeRequest "vol"))) = (Except.ok vol, smallHostWith controller) := by
  have hsome : (smallHost.exec (controller.createVolume
      (some (volumeRequest "vol")))).1.toOption.isSome = true := by decide +kernel
  obtain ⟨vol, hvol⟩ := Option.isSome_iff_exists.mp hsome
  exact ⟨vol, exec_eq_ok hvol⟩

lemma holds_small : controller.Holds (smallHostWith controller).fs "local" ["pool"] "vol" where
  pool := rfl
  loc := by decide
  dir := by decide +kernel
  alone b info k hb hne := absurd (eq_of_lookup hb).1 hne

/-- The pool with its path spelled with a slash at the end. -/
def slashPool : StoragePoolInfo := { pool with path := "/pool/" }

def slashCfg : Config := { cfg with storagePoolInfo := AList.singleton "local" slashPool }

def slashController : HostPathController :=
  ⟨slashCfg, AList.singleton "local" ⟨"node", "/snapshots", "/pool/"⟩⟩

end Sample

/-- A volume in a pool with a clean path. -/
theorem sample_capacity_agrees : ∃ vol,
    Sample.smallHost.exec (Sample.controller.createVolume (some (Sample.volumeRequest "vol")))
        = (Except.ok vol, Sample.smallHostWith Sample.controller)
      ∧ Sample.controller.CapacityAgrees (Sample.smallHostWith Sample.controller)
        (fun _ => Sample.statfs) "vol" vol.capacityBytes := by
  obtain ⟨vol, hvol⟩ := Sample.createVolume_small
  refine ⟨vol, hvol, ?_⟩
  refine (HostPathController.capacity_agrees_iff (fun _ => rfl) hvol Sample.holds_small).2.mpr ?_
  exact fun _ => Or.inl (by decide +kernel)

/-- A pool with the path `/pool/` is accepted.  A volume is created in it with four megabytes, and
reported with nothing. -/
theorem capacity_reported_zero :
    (∃ h', Sample.smallHost.exec (newHostPathDriver Sample.bareCfg (some [Sample.slashPool]))
        = (Except.ok ⟨⟨Sample.slashCfg⟩, Sample.slashController⟩, h'))
      ∧ (∃ vol, Sample.smallHost.exec
          (Sample.slashController.createVolume (some (Sample.volumeRequest "vol")))
            = (Except.ok vol, Sample.smallHostWith Sample.slashController)
          ∧ vol.capacityBytes = 4096000)
      ∧ (∃ resp h', (Sample.smallHostWith Sample.slashController).exec
          (Sample.slashController.listVolumes (some ⟨0, ""⟩)) = (Except.ok resp, h')
          ∧ resp.entries.map (fun entry => (entry.volumeId, entry.capacityBytes)) = [("vol", 0)])
      ∧ ∃ entry h', (Sample.smallHostWith Sample.slashController).exec
          (Sample.slashController.controllerGetVolume (some ⟨"vol"⟩)) = (Except.ok entry, h')
          ∧ entry.capacityBytes = 0 := by
  have hsome : ((Sample.smallHost.exec (Sample.slashController.createVolume
      (some (Sample.volumeRequest "vol")))).1.toOption.map Volume.capacityBytes)
        = some 4096000 := by decide +kernel
  obtain ⟨vol, hvol, hcap⟩ := Option.map_eq_some_iff.mp hsome
  let entry : VolumeEntry := ⟨"vol", 0, ["node"], ⟨false, ""⟩⟩
  exact ⟨⟨_, rfl⟩, ⟨vol, exec_eq_ok hvol, hcap⟩,
    ⟨⟨[entry], ""⟩, _, exec_eq_ok (by decide +kernel), rfl⟩,
    entry, _, exec_eq_ok (by decide +kernel), rfl⟩

end Hostpath
