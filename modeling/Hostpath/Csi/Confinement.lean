import Hostpath.Csi.Ephemeral
import Hostpath.Csi.MapOrder

/-!
# Where the driver's effects stay

Names from requests are joined into paths in many places, with different checks.  This file bounds
what the calls of a request make, remove, copy into and mount, for every handler at once and
whatever the node replies.  Names that are joined directly must not lead out of the directory they
are joined to; ids that are looked for in a listing may be anything.

A handler that makes a path also makes the directories on the way that are missing, so what it
makes is below a configured directory only as long as that directory is there
(`effects_stay_inside`).  A removal can take a configured directory away that lies inside another
one, but every handler has made what it makes before it removes something: handlers work in two
phases (`Staged`), and the configured directories are needed in the first.
-/

namespace Hostpath

open Lib FilePath Prog Host

/-! ## Bounds on calls -/

namespace Syscall

/-- The call looks, or makes a target that is `own` or the directories on the way to a path in
`made`. -/
def Makes (own made : String → Prop) : Syscall → Prop
  | mkdir p => own p
  | mkdirAll p => made p
  | c => c.Looks

/-- The call looks, or removes, copies into or mounts a path in `inner`, with targets that are
`own`. -/
def Alters (inner own : String → Prop) : Syscall → Prop
  | removeAll p => inner p ∨ own p
  | copyReflink _ d => inner d
  | mount s t _ _ => inner s ∧ own t
  | unmount t => own t
  | c => c.Looks

/-- The arguments of a call are bounded: directories are made on the way to a path in `inner` or
`made`, and everything else is done to a path in `inner`, with targets that are `own`. -/
def Confined (inner own made : String → Prop) : Syscall → Prop
  | mkdir p => own p
  | mkdirAll p => inner p ∨ made p
  | removeAll p => inner p ∨ own p
  | copyReflink _ d => inner d
  | mount s t _ _ => inner s ∧ own t
  | unmount t => own t
  | _ => True

variable {inner own made : String → Prop} {c : Syscall}

lemma Looks.makes (hc : c.Looks) : c.Makes own made := by
  cases c with
  | statfs | stat | readDir | isNotMountPoint | findmnt => trivial
  | _ => exact hc.elim

lemma Looks.alters (hc : c.Looks) : c.Alters inner own := by
  cases c with
  | statfs | stat | readDir | isNotMountPoint | findmnt => trivial
  | _ => exact hc.elim

lemma Makes.confined (hc : c.Makes own fun p => inner p ∨ made p) :
    c.Confined inner own made := by
  cases c with
  | statfs | stat | readDir | isNotMountPoint | findmnt => trivial
  | mkdir p => exact hc
  | mkdirAll p => exact hc
  | _ => exact hc.elim

lemma Alters.confined (hc : c.Alters inner own) : c.Confined inner own made := by
  cases c with
  | statfs | stat | readDir | isNotMountPoint | findmnt => trivial
  | removeAll p => exact hc
  | copyReflink s d => exact hc
  | mount s t f o => exact hc
  | unmount t => exact hc
  | _ => exact hc.elim

end Syscall

/-- A listing has the names of entries. -/
def Admissible : (c : Syscall) → Reply c → Prop
  | Syscall.readDir _, r => ∀ es, r = Except.ok es → ∀ e ∈ es, ValidName e.name
  | _, _ => True

lemma admissible_step (h : Host) (c : Syscall) : Admissible c (h.step c).1 := by
  cases c with
  | readDir p =>
      intro es hes e he
      obtain ⟨_, l, _, _, rfl⟩ := readDir_ok (Prod.ext hes rfl)
      obtain ⟨n, hn, rfl⟩ := List.mem_map.mp he
      exact h.fs.valid (h.fs.mem_list.mp hn)
  | _ => trivial

section Bounds

variable (inner own made : String → Prop) {α : Type} (Q : α → Prop) (x : Sys α)

/-- Every call of the program makes or looks, and what it returns satisfies `Q`. -/
def Making : Prop := Ensures (Syscall.Makes own made) Admissible Q x

/-- Every call of the program alters or looks, and what it returns satisfies `Q`. -/
def Altering : Prop := Ensures (Syscall.Alters inner own) Admissible Q x

/-- The program makes directories first, and then removes, copies and mounts. -/
def Staged : Prop :=
  InTurn (Syscall.Makes own fun p => inner p ∨ made p) (Syscall.Alters inner own) Admissible Q x

/-- Every call of the program is confined, and what it returns satisfies `Q`. -/
def Within : Prop := Ensures (Syscall.Confined inner own made) Admissible Q x

end Bounds

section Programs

variable {P : Syscall → Prop} {α : Type} {Q : α → Prop}

lemma ensures_of_looks {x : Sys α} (hx : Only Syscall.Looks x) (hP : ∀ c : Syscall, c.Looks → P c) :
    Ensures P Admissible (fun _ => True) x :=
  Ensures.imp hx hP fun _ _ _ => trivial

lemma ensures_orReturn {r : Except OsError α} (hr : ∀ a, r = Except.ok a → Q a) :
    Ensures P Admissible Q (orReturn r) := by
  cases r with
  | ok a => exact Ensures.ret (hr a rfl)
  | error e => exact Ensures.fail _

lemma ensures_liftExcept {r : Except Err α} (hr : ∀ a, r = Except.ok a → Q a) :
    Ensures P Admissible Q (liftExcept r) := by
  cases r with
  | ok a => exact Ensures.ret (hr a rfl)
  | error e => exact Ensures.fail _

end Programs

/-! ## The first phase -/

namespace Making

variable {own made : String → Prop} {α : Type}

lemma of_looks {x : Sys α} (hx : Only Syscall.Looks x) : Making own made (fun _ => True) x :=
  ensures_of_looks hx fun _ hc => hc.makes

lemma mkdirAll {p : String} (hp : made p) :
    Making own made (fun _ => True) (perform (Syscall.mkdirAll p) >>= fun r => orReturn r) :=
  Ensures.bind (Ensures.perform hp) fun _ _ => ensures_orReturn fun _ _ => trivial

lemma createVolumeDirectory {d n : String} (hd : made (join [d, n])) :
    Making own made (fun _ => True) (createVolumeDirectory d n) := mkdirAll hd

lemma ensureVolumeDirectory {hpc : HostPathController} {name pool : String}
    (hd : made (join [(hpc.cfg.pool pool).path, name])) :
    Making own made (fun _ => True) (hpc.ensureVolumeDirectory name pool) := by
  refine Ensures.bind (of_looks (only_checkPathExist _)) fun b _ => ?_
  split_ifs
  · exact Ensures.ret trivial
  · refine Ensures.bind (Ensures.attempt (createVolumeDirectory hd)) fun r _ => ?_
    cases r with
    | ok u => exact Ensures.ret trivial
    | error e => exact Ensures.fail _

lemma ensureInitialized {provider : Reflink} {p : String} (hp : made provider.path) :
    Making own made (fun _ => True) (HostPathController.ensureInitialized provider p) := by
  refine Ensures.bind (of_looks (only_checkPathExist _)) fun b _ => ?_
  split_ifs
  · exact Ensures.ret trivial
  · refine Ensures.bind (Ensures.attempt (Q := fun _ => True) (mkdirAll hp)) fun r _ => ?_
    cases r with
    | ok u => exact Ensures.ret trivial
    | error e => exact Ensures.fail _

lemma canMountVolume {t : String} (ht : own t) :
    Making own made (fun _ => True) (HostPathNode.canMountVolume t) := by
  refine Ensures.bind (Ensures.perform trivial) fun rep _ => ?_
  cases rep with
  | ok b => exact Ensures.ret trivial
  | error e =>
      dsimp only
      split_ifs
      · refine Ensures.bind (Ensures.perform ht) fun rep _ => ?_
        cases rep with
        | ok u => exact Ensures.ret trivial
        | error e => exact Ensures.fail _
      · exact Ensures.fail _

lemma volumeSource {hpn : HostPathNode} {req : NodePublishVolumeRequest}
    (hd : isEphemeralVolumeRequest req = true → made (hpn.ephemeralDir req)) :
    Making own made (fun p => p = hpn.source req) (hpn.volumeSource req) := by
  unfold HostPathNode.volumeSource
  dsimp only
  by_cases he : isEphemeralVolumeRequest req = true
  · have hs : hpn.source req = hpn.getEphemeralVolumePath
        (getStoragePoolNameFromMap req.volumeContext) req.volumeId := if_pos he
    rw [if_pos he, ← hs]
    refine Ensures.bind (Ensures.attempt (createVolumeDirectory (hd he))) fun r _ => ?_
    cases r with
    | ok u => exact Ensures.ret rfl
    | error e => exact Ensures.fail _
  · rw [if_neg he]
    exact Ensures.ret (if_neg he).symm

end Making

/-! ## The second phase -/

lemma validateDeleteVolumeRequest_ok {r : Option DeleteVolumeRequest}
    {del : DeleteVolumeRequest} (hv : validateDeleteVolumeRequest r = Except.ok del) : r = some del := by
  cases r with
  | none => cases hv
  | some req =>
      simp only [validateDeleteVolumeRequest] at hv
      split_ifs at hv
      cases hv
      rfl

/-- The listed directories are pools joined with names. -/
def Listed (infos : List StoragePoolInfo) (ds : List String) : Prop :=
  ∀ d ∈ ds, ∃ info ∈ infos, ∃ n, ValidName n ∧ d = join [info.path, n]

namespace Altering

variable {inner own made : String → Prop} {α : Type}

lemma of_looks {x : Sys α} (hx : Only Syscall.Looks x) : Altering inner own (fun _ => True) x :=
  ensures_of_looks hx fun _ hc => hc.alters

lemma staged {Q : α → Prop} {x : Sys α} (hx : Altering inner own Q x) :
    Staged inner own made Q x := InTurn.last hx

lemma within {Q : α → Prop} {x : Sys α} (hx : Altering inner own Q x) :
    Within inner own made Q x := Ensures.imp hx (fun _ hc => hc.confined) fun _ _ hV => hV

lemma deleteVolume {d n : String} (hd : inner (join [d, n])) :
    Altering inner own (fun _ => True) (deleteVolume d n) := by
  refine Ensures.bind (Ensures.perform (Or.inl hd)) fun r _ => ?_
  cases r with
  | ok u => exact Ensures.ret trivial
  | error e =>
      dsimp only
      split_ifs
      · exact Ensures.ret trivial
      · exact Ensures.fail _

lemma poolDirectories (infos : List StoragePoolInfo) :
    Altering inner own (Listed infos) (poolDirectories infos) := by
  induction infos with
  | nil => exact Ensures.ret nofun
  | cons info infos ih =>
      refine Ensures.bind (Ensures.perform trivial) fun r hr => ?_
      refine Ensures.bind (ensures_orReturn hr) fun files hfiles => ?_
      refine Ensures.bind ih fun rest hrest => Ensures.ret ?_
      intro d hd
      rcases List.mem_append.mp hd with hd | hd
      · obtain ⟨f, hf, rfl⟩ := List.mem_map.mp hd
        exact ⟨info, List.mem_cons_self, f.name, hfiles f (List.mem_of_mem_filter hf), rfl⟩
      · obtain ⟨i, hi, hn⟩ := hrest d hd
        exact ⟨i, List.mem_cons_of_mem _ hi, hn⟩

lemma getStoragePoolDataDirectories (infos : List StoragePoolInfo) :
    Altering inner own (Listed infos) (getStoragePoolDataDirectories infos) := by
  refine Ensures.bind (poolDirectories infos) fun ds hds => Ensures.ret fun d hd => ?_
  exact hds d ((List.mem_insertionSort _).mp hd)

/-- The directory that is removed by name is an entry of a pool and has that name. -/
lemma removeVolumeNamed {infos : List StoragePoolInfo} (id : String) (failed : String → String)
    (hin : ∀ info ∈ infos, ValidName id → inner (join [dir (join [info.path, id]), id])) :
    Altering inner own (fun _ => True) (removeVolumeNamed infos id failed) := by
  refine Ensures.bind (getStoragePoolDataDirectories infos) fun ds hds => ?_
  dsimp only
  split_ifs with hp
  · exact Ensures.ret trivial
  · have hrm : inner (join [dir (volumePathOf ds id), id]) := by
      rcases volumePathOf_cases ds id with ⟨he, _⟩ | ⟨hmem, hb⟩
      · exact absurd he hp
      · obtain ⟨info, hinfo, n, hn, heq⟩ := hds _ hmem
        rw [heq, base_join _ hn] at hb
        subst hb
        rw [heq]
        exact hin info hinfo hn
    refine Ensures.bind (Ensures.attempt (deleteVolume hrm)) fun r _ => ?_
    cases r with
    | ok u => exact Ensures.ret trivial
    | error e => exact Ensures.fail _

/-! ### Snapshots -/

lemma reflinkCopy {src dst : String} (hd : inner dst) :
    Altering inner own (fun _ => True) (reflinkCopy src dst) := by
  refine Ensures.bind (Ensures.perform hd) fun rep _ => ?_
  cases rep with
  | ok u => exact Ensures.ret trivial
  | error e => exact Ensures.fail _

lemma deleteSnapshot {r : Reflink} {id : String} (hin : inner (join [r.path, id])) :
    Altering inner own (fun _ => True) (r.deleteSnapshot id) := by
  refine Ensures.bind (of_looks (only_checkPathExist _)) fun b _ => ?_
  split_ifs
  · exact Ensures.bind (Ensures.perform (Or.inl hin)) fun _ _ => ensures_orReturn fun _ _ => trivial
  · exact Ensures.ret trivial

lemma restoreSnapshot {r : Reflink} {id target : String} (hin : inner target) :
    Altering inner own (fun _ => True) (r.restoreSnapshot id target) := by
  refine Ensures.bind (of_looks (only_checkPathExist _)) fun b _ => ?_
  split_ifs
  · refine Ensures.bind (of_looks (only_checkPathExist _)) fun b' _ => ?_
    split_ifs
    · exact reflinkCopy hin
    · exact Ensures.fail _
  · exact Ensures.fail _

/-! ### Handlers -/

lemma restoreContent {hpc : HostPathController} {req : CreateVolumeRequest} {pool : String}
    (hin : inner (join [(hpc.cfg.pool pool).path, req.name])) :
    Altering inner own (fun _ => True) (hpc.restoreContent req pool) := by
  unfold HostPathController.restoreContent
  split
  · refine Ensures.bind (Ensures.attempt (Q := fun _ => True) ?_) fun r _ => ?_
    · unfold HostPathController.restoreFromSnapshot
      split
      · exact Ensures.fail _
      · exact restoreSnapshot hin
    · cases r with
      | ok u => exact Ensures.ret trivial
      | error e =>
          refine Ensures.bind (Ensures.attempt (deleteVolume hin)) fun r _ => ?_
          cases r with
          | ok u => exact Ensures.fail _
          | error e => exact Ensures.fail _
  · exact Ensures.ret trivial

lemma deleteSnapshotRequest {hpc : HostPathController} {r : Option DeleteSnapshotRequest}
    (hin : ∀ req, r = some req → req.snapshotId ≠ "" → ∀ provider ∈ hpc.providers,
      inner (join [provider.path, req.snapshotId])) :
    Altering inner own (fun _ => True) (hpc.deleteSnapshot r) := by
  have hall : ∀ (id : String) (ps : List Reflink), (∀ p ∈ ps, inner (join [p.path, id])) →
      Altering inner own (fun _ => True) (HostPathController.deleteFromProviders id ps) := by
    intro id ps
    induction ps with
    | nil => exact fun _ => Ensures.ret trivial
    | cons p ps ih =>
        intro hps
        refine Ensures.bind (deleteSnapshot (hps p List.mem_cons_self)) fun _ _ => ?_
        exact ih fun q hq => hps q (List.mem_cons_of_mem _ hq)
  cases r with
  | none => exact Ensures.fail _
  | some req =>
      unfold HostPathController.deleteSnapshot
      dsimp only
      split_ifs with hid
      · exact Ensures.fail _
      · exact hall _ _ (hin req rfl hid)

lemma deleteVolumeRequest {hpc : HostPathController} {r : Option DeleteVolumeRequest}
    (hin : ∀ req, r = some req → ∀ info ∈ hpc.cfg.pools, ValidName req.volumeId →
      inner (join [dir (join [info.path, req.volumeId]), req.volumeId])) :
    Altering inner own (fun _ => True) (hpc.deleteVolume r) := by
  refine Ensures.bind (ensures_liftExcept fun _ hv => hv) fun req hv => ?_
  exact removeVolumeNamed _ _ (hin req (validateDeleteVolumeRequest_ok hv))

lemma mountFailed {req : NodePublishVolumeRequest} {p : String} {e : OsError} (hp : inner p) :
    Altering inner own (fun _ => True) (HostPathNode.mountFailed req p e) := by
  refine Ensures.bind (Ensures.perform trivial) fun rep _ => ?_
  cases rep with
  | error e => exact Ensures.fail _
  | ok info =>
      dsimp only
      split_ifs
      · refine Ensures.bind (Ensures.perform (Or.inl hp)) fun rep _ => ?_
        cases rep with
        | ok u => exact Ensures.fail _
        | error e => exact Ensures.fail _
      · exact Ensures.fail _

lemma nodeUnpublishVolume {hpn : HostPathNode} {r : Option NodeUnpublishVolumeRequest}
    (hown : ∀ req, r = some req → own req.targetPath)
    (hin : ∀ req, r = some req → ∀ info ∈ hpn.cfg.pools, ValidName req.volumeId →
      inner (join [dir (join [info.path, req.volumeId]), req.volumeId])) :
    Altering inner own (fun _ => True) (hpn.nodeUnpublishVolume r) := by
  refine Ensures.bind (ensures_liftExcept fun _ hv => hv) fun req hv => ?_
  obtain ⟨rfl, _⟩ := validateNodeUnpublishRequest_ok hv
  refine Ensures.bind (Q := fun _ => True) ?_ fun _ _ => ?_
  · refine Ensures.bind (Ensures.perform trivial) fun rep _ => ?_
    cases rep with
    | error e =>
        dsimp only
        split_ifs
        · exact Ensures.ret trivial
        · exact Ensures.fail _
    | ok b =>
        cases b with
        | true => exact Ensures.ret trivial
        | false =>
            refine Ensures.bind (Ensures.perform (hown req rfl)) fun rep _ => ?_
            cases rep with
            | ok u => exact Ensures.ret trivial
            | error e => exact Ensures.fail _
  refine Ensures.bind (Q := fun _ => True) ?_ fun _ _ => ?_
  · refine Ensures.bind (Ensures.perform (Or.inr (hown req rfl))) fun rep _ => ?_
    cases rep with
    | ok u => exact Ensures.ret trivial
    | error e => exact Ensures.fail _
  · split_ifs
    · refine Ensures.bind (Ensures.attempt (removeVolumeNamed _ _ (hin req rfl))) fun r _ => ?_
      cases r with
      | ok u => exact Ensures.ret trivial
      | error e => exact Ensures.fail _
    · exact Ensures.ret trivial

end Altering

/-! ## Handlers with both phases -/

namespace Staged

variable {inner own made : String → Prop} {α : Type}

lemma within {Q : α → Prop} {x : Sys α} (hx : Staged inner own made Q x) :
    Within inner own made Q x := InTurn.ensures (fun _ hc => hc.confined) (fun _ hc => hc.confined) hx

lemma fail {Q : α → Prop} (e : Err) : Staged inner own made Q (throw e) := InTurn.last (Ensures.fail e)

lemma ret {Q : α → Prop} {a : α} (ha : Q a) : Staged inner own made Q (pure a) :=
  InTurn.last (Ensures.ret ha)

lemma createVolume {hpc : HostPathController} {r : Option CreateVolumeRequest}
    (hin : ∀ req, r = some req → hpc.Admits req → inner (hpc.volumePath req)) :
    Staged inner own made (fun _ => True) (hpc.createVolume r) := by
  refine InTurn.bind (ensures_liftExcept fun _ hv => hv) fun req hv => ?_
  refine InTurn.bind (ensures_liftExcept fun _ ht => ht) fun _ ht => ?_
  dsimp only
  split_ifs with hpool
  · exact fail _
  have hin' : inner (hpc.volumePath req) := by
    obtain ⟨rfl, _⟩ := HostPathController.validateCreateVolumeRequest_ok hv
    exact hin req rfl ⟨hv, ht, by simpa [Option.isSome_iff_ne_none] using hpool⟩
  refine InTurn.bind (Making.of_looks (only_getVolumeDirCapacity _)) fun _ _ => ?_
  refine InTurn.bind_last (Q := fun _ => True) ?_ fun _ _ => Ensures.ret trivial
  refine InTurn.bind (Making.ensureVolumeDirectory (Or.inl hin')) fun _ _ => ?_
  exact (Altering.restoreContent hin').staged

lemma fillSnapshot {r : Reflink} {id v : String} (hdata : inner (r.dataDir id))
    (hsource : inner (r.sourceDir id v)) :
    Staged inner own made (fun _ => True) (r.fillSnapshot id v) := by
  refine InTurn.bind (Ensures.perform (Or.inl hdata)) fun _ _ => ?_
  refine InTurn.bind (ensures_orReturn (Q := fun _ => True) fun _ _ => trivial) fun _ _ => ?_
  refine InTurn.bind (Ensures.perform (Or.inl hsource)) fun _ _ => ?_
  refine InTurn.bind (ensures_orReturn (Q := fun _ => True) fun _ _ => trivial) fun _ _ => ?_
  refine InTurn.last (Ensures.bind (Altering.reflinkCopy hdata) fun _ _ => ?_)
  exact Altering.of_looks (only_createSnapshotFromDir _ _ _)

lemma createSnapshot {r : Reflink} {id v : String} (hdata : inner (r.dataDir id))
    (hsource : inner (r.sourceDir id v)) :
    Staged inner own made (fun _ => True) (r.createSnapshot id v) := by
  refine InTurn.bind (Making.of_looks (only_checkPathExist _)) fun b _ => ?_
  split_ifs
  · refine InTurn.bind (Making.of_looks (only_checkPathExist _)) fun b' _ => ?_
    split_ifs
    · exact (Altering.of_looks (only_createSnapshotFromDir _ _ _)).staged
    · exact fillSnapshot hdata hsource
  · exact fail _

lemma createSnapshotRequest {hpc : HostPathController} {r : Option CreateSnapshotRequest}
    (hin : ∀ req info p provider, r = some req → req.name ≠ "" → req.sourceVolumeId ≠ "" →
      hpc.cfg.storagePoolInfo.lookup (getStoragePoolNameFromMap req.parameters) = some info →
      info.snapshotPath = some p →
      hpc.snapshotproviders.lookup (getStoragePoolNameFromMap req.parameters) = some provider →
      made provider.path ∧ inner (provider.dataDir req.name)
        ∧ inner (provider.sourceDir req.name req.sourceVolumeId)) :
    Staged inner own made (fun _ => True) (hpc.createSnapshot r) := by
  refine InTurn.bind (ensures_liftExcept fun _ hv => hv) fun req hv => ?_
  obtain ⟨rfl, hname, hsrc⟩ := validateCreateSnapshotRequest_ok hv
  dsimp only
  split
  · exact fail _
  · rename_i info hinfo
    split
    · exact fail _
    · exact fail _
    · rename_i p provider hp hprov
      obtain ⟨hmade, hdata, hsource⟩ := hin req info p provider rfl hname hsrc hinfo hp hprov
      refine InTurn.bind (Making.ensureInitialized (Or.inr hmade)) fun _ _ => ?_
      refine InTurn.bind (Ensures.attempt (Making.of_looks (only_getSnapshotById provider req.name)))
        fun r _ => ?_
      cases r with
      | error e => exact fail _
      | ok found =>
          cases found with
          | none => exact createSnapshot hdata hsource
          | some snapshot =>
              dsimp only
              split_ifs
              · exact ret trivial
              · exact fail _

lemma nodePublishVolume {hpn : HostPathNode} {r : Option NodePublishVolumeRequest}
    (hin : ∀ req, r = some req → req.volumeId ≠ "" → own req.targetPath
      ∧ inner (hpn.source req)
      ∧ (isEphemeralVolumeRequest req = true → inner (hpn.ephemeralDir req))) :
    Staged inner own made (fun _ => True) (hpn.nodePublishVolume r) := by
  refine InTurn.bind (ensures_liftExcept fun _ hv => hv) fun x hv => ?_
  obtain ⟨req, c⟩ := x
  obtain ⟨rfl, hid, _⟩ := validateNodePublishRequest_ok hv
  obtain ⟨hown, hsrc, heph⟩ := hin req rfl hid
  refine InTurn.bind (Making.canMountVolume hown) fun b _ => ?_
  split_ifs
  · refine InTurn.bind (Making.volumeSource fun he => Or.inl (heph he)) fun p hp => ?_
    subst hp
    refine InTurn.last (Ensures.bind (Ensures.perform ⟨hsrc, hown⟩) fun rep _ => ?_)
    cases rep with
    | ok u => exact Ensures.ret trivial
    | error e => exact Altering.mountFailed hsrc
  · exact ret trivial

end Staged

/-! ## The configured storage -/

/-- A configured pool or snapshot directory, its path cleaned. -/
def Config.Storage (cfg : Config) (l : Loc) : Prop :=
  ∃ a info, cfg.storagePoolInfo.lookup a = some info
    ∧ (l = resolve [] (elems info.path)
      ∨ ∃ p, info.snapshotPath = some p ∧ l = resolve [] (elems p))

/-- The location is strictly below a configured directory. -/
def Config.Inside (cfg : Config) (z : Loc) : Prop := ∃ l r, cfg.Storage l ∧ r ≠ [] ∧ z = l ++ r

/-- The path leads strictly below a configured directory. -/
def Config.Inner (cfg : Config) (path : String) : Prop := ∃ z, locate path = some z ∧ cfg.Inside z

/-- The path of a configured snapshot directory. -/
def Config.SnapshotRoot (cfg : Config) (path : String) : Prop :=
  ∃ a info, cfg.storagePoolInfo.lookup a = some info ∧ info.snapshotPath = some path

/-- The configured directories are there. -/
def Config.Ready (cfg : Config) (h : Host) : Prop :=
  ∀ l, cfg.Storage l → h.fs.node l = some Node.dir

/-- After cleaning, the path `p` is strictly below the directory `d`. -/
def Below (d p : String) : Prop := ∃ r, r ≠ [] ∧ locate p = some (resolve [] (elems d) ++ r)

/-- The target that a request is about, if it is one of the node service. -/
def Request.OwnTarget : Request → String → Prop
  | Request.nodePublishVolume r, p => ∃ req, r = some req ∧ p = req.targetPath
  | Request.nodeUnpublishVolume r, p => ∃ req, r = some req ∧ p = req.targetPath
  | _, _ => False

/-- The paths that a request has a name joined into stay below the directory it is joined to, and
a publish is for a configured pool.  Nothing is asked of ids that are looked for in a listing. -/
def HostPath.StaysBelow (hp : HostPath) : Request → Prop
  | Request.createVolume r => ∀ req info, r = some req →
      hp.controller.cfg.storagePoolInfo.lookup (getStoragePoolNameFromMap req.parameters)
        = some info →
      Below info.path (join [info.path, req.name])
  | Request.createSnapshot r => ∀ req info p, r = some req →
      hp.controller.cfg.storagePoolInfo.lookup (getStoragePoolNameFromMap req.parameters)
        = some info →
      info.snapshotPath = some p → Below p (join [p, req.name, dataPath])
        ∧ Below p (join [p, req.name, req.sourceVolumeId])
  | Request.deleteSnapshot r => ∀ req a info p, r = some req → req.snapshotId ≠ "" →
      hp.controller.cfg.storagePoolInfo.lookup a = some info → info.snapshotPath = some p →
      Below p (join [p, req.snapshotId])
  | Request.nodePublishVolume r => ∀ req, r = some req → req.volumeId ≠ "" →
      ∃ info, hp.node.cfg.storagePoolInfo.lookup
          (if isEphemeralVolumeRequest req then hp.node.ephemeralPool req
            else getStoragePoolNameFromMap req.volumeContext) = some info
        ∧ Below info.path (join [info.path, req.volumeId])
        -- the id of an ephemeral volume is joined twice, the second time to the parent
        ∧ (isEphemeralVolumeRequest req = true →
          Below info.path (join [dir (join [info.path, req.volumeId]), req.volumeId]))
  | Request.deleteVolume _ => True
  | Request.nodeUnpublishVolume _ => True
  | _ => False

namespace Config

variable {cfg cfg' : Config} {a p d : String} {info : StoragePoolInfo}

lemma storage_pool (ha : cfg.storagePoolInfo.lookup a = some info) :
    cfg.Storage (resolve [] (elems info.path)) := ⟨a, info, ha, Or.inl rfl⟩

lemma storage_snapshot (ha : cfg.storagePoolInfo.lookup a = some info)
    (hp : info.snapshotPath = some p) : cfg.Storage (resolve [] (elems p)) :=
  ⟨a, info, ha, Or.inr ⟨p, hp, rfl⟩⟩

lemma Storage.inner (hs : cfg.Storage (resolve [] (elems d))) (hb : Below d p) : cfg.Inner p := by
  obtain ⟨r, hr, hp⟩ := hb
  exact ⟨_, hp, _, r, hs, hr, rfl⟩

lemma Reorders.inner (hre : cfg.Reorders cfg') (hi : cfg'.Inner p) : cfg.Inner p := by
  obtain ⟨z, hz, l, r, ⟨a, info, ha, hl⟩, hr⟩ := hi
  exact ⟨z, hz, l, r, ⟨a, info, (hre.lookup a).symm.trans ha, hl⟩, hr⟩

/-- The directory that a removal by name goes through is the pool. -/
lemma Storage.inner_dir {n : String} (hn : ValidName n) (hs : cfg.Storage (resolve [] (elems p))) :
    cfg.Inner (join [dir (join [p, n]), n]) := by
  obtain ⟨pre, hpre⟩ := elems_join_valid p hn
  have hloc : locate (join [p, n]) = some (resolve [] (elems p) ++ [n]) := by
    refine locate_join_of_descend p (by simp) ?_
    rw [List.flatMap_singleton, elems_valid hn, descend, if_neg (by simp [hn.1, hn.2.1]),
      if_neg hn.2.2.1]
    rfl
  rw [locate_eq_some, hpre, resolve_append, resolve_cons, resolve_nil, walk_valid _ hn] at hloc
  have hdir : locate (dir (join [p, n])) = some (resolve [] (elems p)) := by
    rw [locate_dir hpre, (List.append_left_inj [n]).mp hloc.2]
  exact ⟨_, locate_join_valid hdir hn, _, [n], hs, by simp, rfl⟩

/-- The way to a configured directory is there, so what is missing on the way to something below
it is strictly below it. -/
lemma Ready.inside_of_missing {h : Host} {l q z : Loc} (hr : cfg.Ready h) (hl : cfg.Storage l)
    (hlz : l <+: z) (hq : q <+: z) (hnone : h.fs.node q = none) : cfg.Inside q := by
  rcases List.prefix_or_prefix_of_prefix hq hlz with hql | ⟨r, rfl⟩
  · have hdir := FileTree.node_none_of_below hql hnone
    rw [hr l hl] at hdir
    cases hdir
  · refine ⟨l, r, hl, ?_, rfl⟩
    rintro rfl
    rw [List.append_nil, hr l hl] at hnone
    cases hnone

end Config

/-! ## What calls touch -/

/-- What a call removes, copies into or mounts. -/
def Syscall.operand : Syscall → Option Loc
  | removeAll p => locate p
  | copyReflink _ d => locate d
  | mount s _ _ _ => locate s
  | _ => none

/-- The call makes something at `l`, where nothing was, or removes, copies into or mounts `l`. -/
def Host.Touches (h : Host) (c : Syscall) (l : Loc) : Prop :=
  h.fs.node l = none ∧ (h.step c).2.fs.node l ≠ none ∨ c.operand = some l

instance (h : Host) (c : Syscall) (l : Loc) : Decidable (h.Touches c l) :=
  inferInstanceAs (Decidable (h.fs.node l = none ∧ (h.step c).2.fs.node l ≠ none
    ∨ c.operand = some l))

/-- The location is strictly below a configured directory or is a target that is `own`. -/
def Config.Permits (cfg : Config) (own : String → Prop) (l : Loc) : Prop :=
  cfg.Inside l ∨ ∃ p, own p ∧ locate p = some l

section Touching

variable {cfg : Config} {own : String → Prop} {h : Host} {c : Syscall} {l : Loc}

lemma Syscall.Looks.fs (hc : c.Looks) : (h.step c).2.fs = h.fs := by
  cases c with
  | statfs | stat | readDir | isNotMountPoint | findmnt => rfl
  | _ => exact hc.elim

lemma Syscall.Looks.not_touches (hc : c.Looks) : ¬ h.Touches c l := by
  rintro (⟨hnone, hnew⟩ | hop)
  · rw [hc.fs] at hnew
    exact hnew hnone
  · cases c with
    | statfs | stat | readDir | isNotMountPoint | findmnt => cases hop
    | _ => exact hc.elim

/-- What is made on the way to `z` was missing there. -/
lemma Host.missing_of_made {keep : Loc → Bool} {z : Loc} (hnone : h.fs.node l = none)
    (hnew : (h.made z keep).fs.node l ≠ none) : l <+: z := by
  by_contra hl
  exact hnew ((FileTree.create_node_off_way _ keep hl).trans hnone)

/-- What `MkdirAll` makes is on the way to the directory. -/
lemma Host.way_of_mkdirAll {p : String} (hnone : h.fs.node l = none)
    (hnew : (h.step (Syscall.mkdirAll p)).2.fs.node l ≠ none) : ∃ z, locate p = some z ∧ l <+: z := by
  rcases he : h.step (Syscall.mkdirAll p) with ⟨rep, m⟩
  rw [he] at hnew
  cases rep with
  | ok u =>
      obtain ⟨z, hz, _, rfl⟩ := mkdirAll_ok he
      exact ⟨z, hz, missing_of_made (h := h.tick) hnone hnew⟩
  | error e =>
      rcases mkdirAll_error he with ⟨rfl, _⟩ | ⟨z, reach, hz, _, _, rfl⟩
      · exact absurd hnone hnew
      · exact ⟨z, hz, missing_of_made (h := h.tick) hnone hnew⟩

/-- `Mkdir` makes the directory and nothing else, since the parent is there. -/
lemma Host.locate_of_mkdir {p : String} (hnone : h.fs.node l = none)
    (hnew : (h.step (Syscall.mkdir p)).2.fs.node l ≠ none) : locate p = some l := by
  rcases he : h.step (Syscall.mkdir p) with ⟨rep, m⟩
  rw [he] at hnew
  cases rep with
  | error e => exact absurd ((mkdir_error he).symm ▸ hnone) hnew
  | ok u =>
      obtain ⟨z, hz, _, _, hparent, rfl⟩ := mkdir_ok he
      obtain ⟨r, rfl⟩ := missing_of_made (h := h.tick) hnone hnew
      by_cases hr : r = []
      · rw [hz, hr, List.append_nil]
      · rw [List.dropLast_append_of_ne_nil hr] at hparent
        exact absurd (FileTree.node_none_of_below (List.prefix_append l _) hnone) hparent

lemma Host.node_none_of_removeAll {p : String} (hnone : h.fs.node l = none) :
    (h.step (Syscall.removeAll p)).2.fs.node l = none := by
  rcases he : h.step (Syscall.removeAll p) with ⟨rep, m⟩
  rcases removeAll_cases he with rfl | ⟨z, gone, _, rfl, _⟩
  · exact hnone
  · rcases cleared_node_or h.tick z gone l with hsame | hgone
    · exact hsame.trans hnone
    · exact hgone

lemma Config.permits_of_alters (hc : c.Alters cfg.Inner own) (ht : h.Touches c l) :
    cfg.Permits own l := by
  have hinner : ∀ {p}, cfg.Inner p → locate p = some l → cfg.Permits own l := by
    rintro p ⟨z, hz, hin⟩ hl
    cases hz.symm.trans hl
    exact Or.inl hin
  cases c with
  | statfs | stat | readDir | isNotMountPoint | findmnt =>
      exact absurd ht (Syscall.Looks.not_touches trivial)
  | mkdir p => exact hc.elim
  | mkdirAll p => exact hc.elim
  | unmount t =>
      rcases ht with ⟨hnone, hnew⟩ | hop
      · exact absurd (unmount_fs h.tick _ t ▸ hnone) hnew
      · cases hop
  | mount s t f o =>
      rcases ht with ⟨hnone, hnew⟩ | hop
      · exact absurd (mount_fs h.tick _ s t o ▸ hnone) hnew
      · exact hinner hc.1 hop
  | removeAll p =>
      rcases ht with ⟨hnone, hnew⟩ | hop
      · exact absurd (Host.node_none_of_removeAll hnone) hnew
      · rcases hc with hin | hown
        · exact hinner hin hop
        · exact Or.inr ⟨p, hown, hop⟩
  | copyReflink s d =>
      rcases ht with ⟨hnone, hnew⟩ | hop
      · -- what a copy makes is below what it copies into
        by_contra hno
        have hframe : Frame (fun q => ∃ z, locate d = some z ∧ z <+: q) h.tick
            (h.step (Syscall.copyReflink s d)).2 := Frame.copyReflink fun z q hz hq => ⟨z, hz, hq⟩
        refine hnew ((hframe.node l ?_).trans hnone)
        rintro ⟨z, hz, t, rfl⟩
        obtain ⟨z', hz', k, r, hk, hr, rfl⟩ : cfg.Inner d := hc
        cases hz.symm.trans hz'
        exact hno (Or.inl ⟨k, r ++ t, hk, by simp [hr], List.append_assoc k r t⟩)
      · exact hinner hc hop

/-- As long as the configured directories are there, what is made is below them. -/
lemma Config.Ready.permits_of_makes (hr : cfg.Ready h)
    (hc : c.Makes own fun p => cfg.Inner p ∨ cfg.SnapshotRoot p) (ht : h.Touches c l) :
    cfg.Permits own l := by
  cases c with
  | statfs | stat | readDir | isNotMountPoint | findmnt =>
      exact absurd ht (Syscall.Looks.not_touches trivial)
  | mkdir p =>
      rcases ht with ⟨hnone, hnew⟩ | hop
      · exact Or.inr ⟨p, hc, Host.locate_of_mkdir hnone hnew⟩
      · cases hop
  | mkdirAll p =>
      rcases ht with ⟨hnone, hnew⟩ | hop
      · obtain ⟨z, hz, hlz⟩ := Host.way_of_mkdirAll hnone hnew
        have hst : ∃ k, cfg.Storage k ∧ k <+: z := by
          rcases hc with ⟨z', hz', k, r, hk, _, rfl⟩ | ⟨a, info, ha, hp⟩
          · cases hz.symm.trans hz'
            exact ⟨k, hk, List.prefix_append k r⟩
          · exact ⟨_, Config.storage_snapshot ha hp, (locate_eq_some.mp hz).2 ▸ List.prefix_refl _⟩
        obtain ⟨k, hk, hkz⟩ := hst
        exact Or.inl (hr.inside_of_missing hk hkz hlz hnone)
      · cases hop
  | _ => exact hc.elim

/-- Making directories takes none away. -/
lemma Config.Ready.makes {made : String → Prop} (hr : cfg.Ready h) (hc : c.Makes own made) :
    cfg.Ready (h.step c).2 := by
  intro k hk
  have hdir := hr k hk
  have hmade : ∀ z keep, (h.tick.made z keep).fs.node k = some Node.dir := fun z keep =>
    FileTree.create_node_of_some _ _ hdir
  cases c with
  | statfs | stat | readDir | isNotMountPoint | findmnt => exact hdir
  | mkdir p =>
      rcases he : h.step (Syscall.mkdir p) with ⟨rep, m⟩
      cases rep with
      | error e => exact (mkdir_error he).symm ▸ hdir
      | ok u =>
          obtain ⟨z, _, _, _, _, rfl⟩ := mkdir_ok he
          exact hmade z _
  | mkdirAll p =>
      rcases he : h.step (Syscall.mkdirAll p) with ⟨rep, m⟩
      cases rep with
      | ok u =>
          obtain ⟨z, _, _, rfl⟩ := mkdirAll_ok he
          exact hmade z _
      | error e =>
          rcases mkdirAll_error he with ⟨rfl, _⟩ | ⟨z, reach, _, _, _, rfl⟩
          · exact hdir
          · exact hmade z _
  | _ => exact hc.elim

end Touching

/-- **What a program of two phases touches**, from a host with the configured directories. -/
lemma Staged.along {cfg : Config} {own : String → Prop} {α : Type} {Q : α → Prop} {x : Sys α}
    (hx : Staged cfg.Inner own cfg.SnapshotRoot Q x) {h : Host} (hr : cfg.Ready h) :
    Along step (fun h c => ∀ l, h.Touches c l → cfg.Permits own l) x.run h :=
  Turns.along (I := cfg.Ready) admissible_step
    (fun _ _ hr hc => ⟨fun _ => hr.permits_of_makes hc, hr.makes hc⟩)
    (fun _ _ hc _ => Config.permits_of_alters hc) hx hr

/-! ## All requests -/

namespace HostPath

variable {hp : HostPath}

lemma publish_source {req : NodePublishVolumeRequest} {info : StoragePoolInfo}
    (ha : hp.node.cfg.storagePoolInfo.lookup
      (if isEphemeralVolumeRequest req then hp.node.ephemeralPool req
        else getStoragePoolNameFromMap req.volumeContext) = some info) :
    hp.node.source req = join [info.path, req.volumeId] := by
  by_cases heph : isEphemeralVolumeRequest req = true
  · rw [if_pos heph] at ha
    have hpool : hp.node.cfg.pool (hp.node.ephemeralPool req) = info := by
      rw [Config.pool, ha]
      rfl
    rw [HostPathNode.source, if_pos heph, HostPathNode.getEphemeralVolumePath]
    rw [HostPathNode.ephemeralPool] at hpool
    split_ifs at hpool ⊢ <;> rw [hpool]
  · rw [if_neg heph] at ha
    rw [HostPathNode.source, if_neg heph, Config.pool, ha]
    rfl

/-- Every request of a driver is staged, with its maps in any order. -/
lemma staged_serve {cfg : Config} (hn : cfg.Reorders hp.node.cfg)
    (hc : cfg.Reorders hp.controller.cfg) (hwf : hp.controller.WellFormed) {q : Request}
    (hq : hp.StaysBelow q) :
    Staged cfg.Inner q.OwnTarget cfg.SnapshotRoot (fun _ => True) (hp.serve q) := by
  have hlisted : ∀ {cfg' : Config}, cfg.Reorders cfg' → ∀ info ∈ cfg'.pools, ∀ n, ValidName n →
      cfg.Inner (join [dir (join [info.path, n]), n]) := by
    intro cfg' hre info hinfo n hv
    obtain ⟨a, ha⟩ := Config.mem_pools.mp hinfo
    exact hre.inner ((Config.storage_pool ha).inner_dir hv)
  cases q with
  | createVolume r =>
      refine InTurn.bind_last (Staged.createVolume ?_) fun _ _ => Ensures.ret trivial
      rintro req rfl hadm
      have ha := HostPathController.lookup_poolOf hadm
      exact hc.inner ((Config.storage_pool ha).inner (hq req _ rfl ha))
  | deleteVolume r =>
      refine InTurn.last (Ensures.bind (Altering.deleteVolumeRequest ?_) fun _ _ =>
        Ensures.ret trivial)
      exact fun req _ info hinfo => hlisted hc info hinfo req.volumeId
  | createSnapshot r =>
      refine InTurn.bind_last (Staged.createSnapshotRequest ?_) fun _ _ => Ensures.ret trivial
      rintro req _ _ provider rfl _ _ _ _ hprov
      obtain ⟨info, ha, hpath, _⟩ := hwf _ _ hprov
      obtain ⟨hdata, hsource⟩ := hq req info _ rfl ha hpath
      have hst := Config.storage_snapshot ha hpath
      exact ⟨⟨_, info, (hc.lookup _).symm.trans ha, hpath⟩, hc.inner (hst.inner hdata),
        hc.inner (hst.inner hsource)⟩
  | deleteSnapshot r =>
      refine InTurn.last (Ensures.bind (Altering.deleteSnapshotRequest ?_) fun _ _ =>
        Ensures.ret trivial)
      rintro req rfl hid provider hprov
      obtain ⟨⟨a, _⟩, hmem, rfl⟩ := List.mem_map.mp hprov
      obtain ⟨info, ha, hpath, _⟩ := hwf _ _ (AList.mem_lookup_iff.mpr hmem)
      exact hc.inner ((Config.storage_snapshot ha hpath).inner (hq req a info _ rfl hid ha hpath))
  | nodePublishVolume r =>
      refine InTurn.bind_last (Staged.nodePublishVolume ?_) fun _ _ => Ensures.ret trivial
      rintro req rfl hid
      obtain ⟨info, ha, hsrc, heph⟩ := hq req rfl hid
      have hst := Config.storage_pool ha
      rw [HostPathNode.ephemeralDir, publish_source ha]
      exact ⟨⟨req, rfl, rfl⟩, hn.inner (hst.inner hsrc), fun he => hn.inner (hst.inner (heph he))⟩
  | nodeUnpublishVolume r =>
      refine InTurn.last (Ensures.bind (Altering.nodeUnpublishVolume ?_ ?_) fun _ _ =>
        Ensures.ret trivial)
      · rintro req rfl
        exact ⟨req, rfl, rfl⟩
      · exact fun req _ info hinfo => hlisted hn info hinfo req.volumeId
  | _ => exact hq.elim

lemma StaysBelow.reorders {hp' : HostPath} (hre : hp.Reorders hp') {q : Request}
    (hq : hp.StaysBelow q) : hp'.StaysBelow q := by
  cases q with
  | createVolume r => simpa only [StaysBelow, hre.controller.lookup] using hq
  | createSnapshot r => simpa only [StaysBelow, hre.controller.lookup] using hq
  | deleteSnapshot r => simpa only [StaysBelow, hre.controller.lookup] using hq
  | nodePublishVolume r =>
      have hpool : ∀ req, hp'.node.ephemeralPool req = hp.node.ephemeralPool req := fun req => by
        rw [HostPathNode.ephemeralPool, HostPathNode.ephemeralPool, hre.node.pool, hre.node.rest]
      intro req hr hid
      obtain ⟨info, ha, hbelow⟩ := hq req hr hid
      refine ⟨info, ?_, hbelow⟩
      rw [hpool, hre.node.lookup]
      exact ha
  | _ => exact hq

end HostPath

namespace Sample

/-- The empty host with the snapshot directory. -/
def readyHost : Host := { emptyHost with fs := emptyHost.fs.create ["snapshots"] fun _ => true }

lemma storage_cases {l : Loc} (hl : cfg.Storage l) : l = ["pool"] ∨ l = ["snapshots"] := by
  obtain ⟨a, info, ha, hl⟩ := hl
  obtain ⟨rfl, rfl⟩ := eq_of_lookup ha
  rcases hl with rfl | ⟨p, hp, rfl⟩
  · exact Or.inl (by decide)
  · cases hp
    exact Or.inr (by decide)

lemma ready_readyHost : cfg.Ready readyHost := by
  intro l hl
  rcases storage_cases hl with rfl | rfl <;> decide

/-- What is directly below the root is not strictly below a configured directory. -/
lemma not_inside_single (n : String) : ¬ cfg.Inside [n] := by
  rintro ⟨l, r, hl, hr, heq⟩
  rcases storage_cases hl with rfl | rfl
  · exact hr (List.cons.inj heq).2.symm
  · exact hr (List.cons.inj heq).2.symm

/-- A bound on what is touched excludes what is directly below the root. -/
lemma along_not_touches {q : Request} {h : Host} (n : String)
    (halong : Along step (fun m c => ∀ l, m.Touches c l → cfg.Inside l
      ∨ ∃ p, q.OwnTarget p ∧ locate p = some l) (driver.serve q).run h)
    (hown : ∀ p, q.OwnTarget p → locate p ≠ some [n]) :
    Along step (fun m c => ¬ m.Touches c [n]) (driver.serve q).run h := by
  refine halong.mono fun m c hc ht => ?_
  rcases hc _ ht with hin | ⟨p, hp, hl⟩
  · exact not_inside_single n hin
  · exact hown p hp hl

def publishElsewhere : Request :=
  Request.nodePublishVolume (some (publishRequest "vol"
    (AList.singleton storagePoolName "elsewhere")))

def snapshotRequestFor (id v : String) : Request :=
  Request.createSnapshot (some ⟨id, v, parameters⟩)

/-- A name that leaves the pool and comes back stays below it. -/
lemma staysBelow_comesBack :
    driver.StaysBelow (Request.createVolume (some (volumeRequest "../pool/vol"))) := by
  intro req info hreq ha
  cases hreq
  obtain ⟨_, rfl⟩ := eq_of_lookup ha
  exact ⟨["vol"], by decide, by decide⟩

lemma staysBelow_snapshot : driver.StaysBelow (snapshotRequestFor "snap" "vol") := by
  intro req info p hreq ha hp
  cases hreq
  obtain ⟨_, rfl⟩ := eq_of_lookup ha
  cases hp
  exact ⟨⟨["snap", "data"], by decide, by decide⟩, ⟨["snap", "vol"], by decide, by decide⟩⟩

end Sample

end Hostpath
