import Hostpath.Csi.Controller
import Hostpath.Csi.Storage

/-!
# Creating a volume

What `CreateVolume` does to the host, exit by exit (`createVolume_ok`, `createVolume_error`), and
two properties of it that hold only under conditions the code does not check.

* `createVolume_atomic_iff` — when a failed request leaves every volume as it was.
* `createVolume_idempotent_iff` — when a repeated request leaves every volume as it was.

Both come down to one observation: the check for an existing directory guards making the
directory, but neither the restore that follows nor the clean-up of a failed restore.
-/

namespace Hostpath

open Lib FilePath Prog Host

/-- The snapshot a request wants its volume filled from. -/
def CreateVolumeRequest.snapshotSource (req : CreateVolumeRequest) : Option String :=
  match req.volumeContentSource with
  | some (VolumeContentSource.snapshot id) => id
  | _ => none

namespace HostPathController

variable (hpc : HostPathController)

/-- The pool a request names. -/
def poolOf (req : CreateVolumeRequest) : StoragePoolInfo :=
  hpc.cfg.pool (getStoragePoolNameFromMap req.parameters)

/-- Where the directory of the volume is. -/
def volumePath (req : CreateVolumeRequest) : String := join [(hpc.poolOf req).path, req.name]

/-- The request passes every check that is made before the first system call. -/
def Admits (req : CreateVolumeRequest) : Prop :=
  validateCreateVolumeRequest (some req) = Except.ok req
    ∧ hpc.validateCreateVolumeRequestTopology req = Except.ok ()
    ∧ (hpc.cfg.storagePoolInfo.lookup (getStoragePoolNameFromMap req.parameters)).isSome = true

/-- The directory at `path` is there, made now if it was not. -/
def Ensured (h : Host) (path : String) (h' : Host) : Prop :=
  ∃ m, Quiet h m ∧ ((h.at? path ≠ none ∧ h' = m)
    ∨ h.at? path = none ∧ ∃ l, locate path = some l ∧ h.fs.blocked l = false
      ∧ h' = m.made l fun _ => true)

/-- Something was copied over the directory at `path`, or nothing was. -/
def PartlyCopied (h : Host) (path : String) (h' : Host) : Prop :=
  Quiet h h' ∨ ∃ s d keep m, locate path = some d ∧ h.fs.node d = some Node.dir
    ∧ Quiet h m ∧ h' = m.overlaid s d keep

variable {hpc} {h h' : Host} {req : CreateVolumeRequest} {name pool : String}

lemma validateCreateVolumeRequest_ok {r : Option CreateVolumeRequest}
    (hv : validateCreateVolumeRequest r = Except.ok req) : r = some req ∧ req.name ≠ "" := by
  cases r with
  | none => cases hv
  | some q =>
      simp only [validateCreateVolumeRequest] at hv
      split_ifs at hv with hn
      cases hc : q.volumeCapabilities with
      | none => simp [hc] at hv
      | some caps =>
          simp only [hc] at hv
          split_ifs at hv
          cases hv
          exact ⟨rfl, hn⟩

/-! ## Making the directory -/

lemma ensureVolumeDirectory_ok {u : Unit}
    (e : h.exec (hpc.ensureVolumeDirectory name pool) = (Except.ok u, h')) :
    Ensured h (join [(hpc.cfg.pool pool).path, name]) h' := by
  obtain ⟨b, m, hb, hk⟩ := exec_bind_eq_ok.mp e
  obtain ⟨rfl, rfl⟩ := checkPathExist_ok hb
  split_ifs at hk with hex
  · cases hk
    exact ⟨h.tick, Quiet.tick h, Or.inl ⟨Option.isSome_iff_ne_none.mp hex, rfl⟩⟩
  · obtain ⟨res, m, ha, hk⟩ := exec_bind_eq_ok.mp hk
    have hc := exec_attempt_eq.mp ha
    cases res with
    | error err => cases hk
    | ok v =>
        cases hk
        obtain ⟨l, hl, hbl, rfl⟩ := createVolumeDirectory_ok hc
        exact ⟨h.tick.tick, ⟨2, rfl⟩, Or.inr ⟨by simpa using hex, l, hl, hbl, rfl⟩⟩

lemma ensureVolumeDirectory_error {err : Err}
    (e : h.exec (hpc.ensureVolumeDirectory name pool) = (Except.error err, h')) :
    Quiet h h' ∨ h.at? (join [(hpc.cfg.pool pool).path, name]) = none
      ∧ ∃ m l, ∃ reach : Loc → Bool, Quiet h m
        ∧ locate (join [(hpc.cfg.pool pool).path, name]) = some l ∧ h.fs.blocked l = false
        ∧ h' = m.made l fun q => reach q && q ≠ l := by
  rcases exec_bind_eq_error.mp e with hb | ⟨b, m, hb, hk⟩
  · exact Or.inl (checkPathExist_error hb ▸ Quiet.tick h)
  · obtain ⟨rfl, rfl⟩ := checkPathExist_ok hb
    split_ifs at hk with hex
    · cases hk
    · rcases exec_bind_eq_error.mp hk with ha | ⟨res, m, ha, hk⟩
      · exact absurd ha exec_attempt_ne_error
      · have hc := exec_attempt_eq.mp ha
        cases res with
        | ok v => cases hk
        | error oe =>
            cases hk
            rcases createVolumeDirectory_error hc with rfl | ⟨l, reach, hl, hbl, rfl⟩
            · exact Or.inl ⟨2, rfl⟩
            · exact Or.inr ⟨by simpa using hex, h.tick.tick, l, reach, ⟨2, rfl⟩, hl, hbl, rfl⟩

/-! ## Filling it -/

lemma restoreContent_none (hs : req.snapshotSource = none) :
    hpc.restoreContent req pool = pure () := by
  unfold CreateVolumeRequest.snapshotSource at hs
  unfold restoreContent
  split <;> simp_all

lemma restoreContent_ok {u : Unit}
    (e : h.exec (hpc.restoreContent req pool) = (Except.ok u, h')) :
    (req.snapshotSource = none ∧ h' = h)
      ∨ ∃ id r s d m, req.snapshotSource = some id ∧ hpc.snapshotproviders.lookup pool = some r
        ∧ locate (r.dataDir id) = some s
        ∧ locate (join [(hpc.cfg.pool pool).path, req.name]) = some d
        ∧ Reflink.CanCopy h.fs s d ∧ Quiet h m ∧ h' = m.overlaid s d fun _ => true := by
  cases hs : req.snapshotSource with
  | none =>
      rw [restoreContent_none hs] at e
      cases e
      exact Or.inl ⟨rfl, rfl⟩
  | some id =>
      unfold CreateVolumeRequest.snapshotSource at hs
      unfold restoreContent at e
      split at e
      · rename_i id' heq
        rw [heq] at hs
        cases hs
        obtain ⟨res, m, ha, hk⟩ := exec_bind_eq_ok.mp e
        have hres := exec_attempt_eq.mp ha
        cases res with
        | error err =>
            obtain ⟨res', m', _, hk⟩ := exec_bind_eq_ok.mp hk
            cases res' <;> cases hk
        | ok v =>
            cases hk
            unfold restoreFromSnapshot at hres
            cases hp : hpc.snapshotproviders.lookup pool with
            | none => rw [hp] at hres; cases hres
            | some r =>
                rw [hp] at hres
                obtain ⟨s, d, m, hrest⟩ := Reflink.restoreSnapshot_ok hres
                exact Or.inr ⟨id, r, s, d, m, rfl, rfl, hrest⟩
      · rename_i hne
        cases hv : req.volumeContentSource with
        | none => simp [hv] at hs
        | some c =>
            cases c with
            | unset | volume => simp [hv] at hs
            | snapshot id' =>
                rw [hv] at hs
                exact absurd (hs ▸ hv) (hne id)

/-- A failed restore is followed by the clean-up. -/
lemma restoreContent_error {P : Host → Syscall → Prop} {err : Err}
    (e : h.exec (hpc.restoreContent req pool) = (Except.error err, h'))
    (hP : Along step P (hpc.restoreContent req pool).run h) :
    (∃ id, req.snapshotSource = some id)
      ∧ ∃ m res, PartlyCopied h (join [(hpc.cfg.pool pool).path, req.name]) m
        ∧ m.exec (Hostpath.deleteVolume (hpc.cfg.pool pool).path req.name) = (res, h')
        ∧ Along step P (Hostpath.deleteVolume (hpc.cfg.pool pool).path req.name).run m := by
  unfold restoreContent at e hP
  split at e
  · rename_i id heq
    refine ⟨⟨id, by simp [CreateVolumeRequest.snapshotSource, heq]⟩, ?_⟩
    rw [heq] at hP
    dsimp only at hP
    rcases exec_bind_eq_error.mp e with ha | ⟨res, m, ha, hk⟩
    · exact absurd ha exec_attempt_ne_error
    · have hP' := (along_bind_run.mp hP).2 _ _ ha
      have hres := exec_attempt_eq.mp ha
      cases res with
      | ok v => cases hk
      | error re =>
          have hpart : PartlyCopied h (join [(hpc.cfg.pool pool).path, req.name]) m := by
            unfold restoreFromSnapshot at hres
            split at hres
            · cases hres
              exact Or.inl (Quiet.refl h)
            · exact Reflink.restoreSnapshot_error hres
          dsimp only at hP'
          have hdel := along_attempt.mp (along_bind_run.mp hP').1
          rcases exec_bind_eq_error.mp hk with ha' | ⟨res', m', ha', hk'⟩
          · exact absurd ha' exec_attempt_ne_error
          · have hd := exec_attempt_eq.mp ha'
            refine ⟨m, res', hpart, ?_, hdel⟩
            cases res' <;> cases hk' <;> exact hd
  · cases e

/-! ## The whole request -/

/-- The volume a successful request returns. -/
def response (hpc : HostPathController) (req : CreateVolumeRequest) (capacity : Int64) : Volume :=
  ⟨req.name, capacity, req.parameters, req.volumeContentSource,
    hpc.topologies (getStoragePoolNameFromMap req.parameters)⟩

/-- **A successful request**: the directory is there, and filled if a snapshot was asked for. -/
lemma createVolume_ok {r : Option CreateVolumeRequest} {v : Volume}
    (e : h.exec (hpc.createVolume r) = (Except.ok v, h')) :
    ∃ req c m, r = some req ∧ hpc.Admits req ∧ v = hpc.response req c
      ∧ h.at? (hpc.poolOf req).path ≠ none ∧ Ensured h (hpc.volumePath req) m
      ∧ ((req.snapshotSource = none ∧ h' = m)
        ∨ ∃ id r s d m', req.snapshotSource = some id
          ∧ hpc.snapshotproviders.lookup (getStoragePoolNameFromMap req.parameters) = some r
          ∧ locate (r.dataDir id) = some s
          ∧ locate (hpc.volumePath req) = some d
          ∧ Reflink.CanCopy m.fs s d ∧ Quiet m m' ∧ h' = m'.overlaid s d fun _ => true) := by
  obtain ⟨req, m, hv, hk⟩ := exec_bind_eq_ok.mp e
  obtain ⟨hval, rfl⟩ := Prod.mk.inj ((exec_liftExcept h _).symm.trans hv)
  obtain ⟨rfl, _⟩ := validateCreateVolumeRequest_ok hval
  obtain ⟨u, m, ht, hk⟩ := exec_bind_eq_ok.mp hk
  obtain ⟨htop, rfl⟩ := Prod.mk.inj ((exec_liftExcept h _).symm.trans ht)
  dsimp only at hk
  split_ifs at hk with hpool
  · cases hk
  obtain ⟨c, m, hc, hk⟩ := exec_bind_eq_ok.mp hk
  obtain ⟨rfl, l, hl, hn⟩ := getVolumeDirCapacity_ok hc
  obtain ⟨u', m', hp, hk⟩ := exec_bind_eq_ok.mp hk
  cases hk
  obtain ⟨u'', m, he, hr⟩ := exec_bind_eq_ok.mp hp
  obtain ⟨m₀, hq, hens⟩ := ensureVolumeDirectory_ok he
  refine ⟨req, c, m, rfl, ⟨hval, htop, ?_⟩, rfl, ?_, ⟨m₀, (Quiet.tick h).trans hq, hens⟩, ?_⟩
  · rwa [Option.isNone_iff_eq_none, ← Option.not_isSome_iff_eq_none, not_not] at hpool
  · unfold poolOf at?
    rw [hl]
    exact hn
  · exact restoreContent_ok hr

/-- **A volume that is new** holds what the snapshot holds that was asked for, and nothing if none
was. -/
lemma createVolume_new {v : Volume} (hnew : h.at? (hpc.volumePath req) = none)
    (e : h.exec (hpc.createVolume (some req)) = (Except.ok v, h')) :
    ∃ d, locate (hpc.volumePath req) = some d
      ∧ ((req.snapshotSource = none
          ∧ ∀ q, h'.fs.contents d q = if q = [] then some Node.dir else none)
        ∨ ∃ id r s, req.snapshotSource = some id
          ∧ hpc.snapshotproviders.lookup (getStoragePoolNameFromMap req.parameters) = some r
          ∧ locate (r.dataDir id) = some s ∧ h.fs.node s = some Node.dir
          ∧ h'.fs.contents d = h.fs.contents s) := by
  obtain ⟨req', c, m, hreq, _, _, _, hen, hfill⟩ := createVolume_ok e
  cases hreq
  obtain ⟨m₀, hq₀, ⟨hthere, _⟩ | ⟨_, d, hd, hb, rfl⟩⟩ := hen
  · exact absurd hnew hthere
  have hnone : h.fs.node d = none := by simpa [at?, hd] using hnew
  have hcreated := h.fs.contents_create_new hb (locate_valid hd) hnone
  refine ⟨d, hd, ?_⟩
  rcases hfill with ⟨hsrc, rfl⟩ | ⟨id, r, s, d', m', hsrc, hr, hs, hd', hc, hq, rfl⟩
  · refine Or.inl ⟨hsrc, ?_⟩
    rw [made_fs, hq₀.fs]
    exact hcreated
  · cases hd.symm.trans hd'
    rw [made_fs, hq₀.fs] at hc
    obtain ⟨hsdir, hddir, hout, _⟩ := hc
    -- the new directory is not in the data of the snapshot, and nothing is in it yet
    have hsame := h.fs.contents_create_of_not_below hout fun _ => true
    have hempty : ∀ q ≠ [], (h.fs.create d fun _ => true).node (d ++ q) = none := fun q hne =>
      (hcreated q).trans (if_neg hne)
    refine Or.inr ⟨id, r, s, hsrc, hr, hs, ?_, ?_⟩
    · rwa [h.fs.create_node_off_way _ hout] at hsdir
    · rw [overlaid_fs, hq.fs, made_fs, hq₀.fs,
        FileTree.overlay_contents_of_empty _ hsdir hddir hempty, hsame]

/-- **A failed request**: nothing happened, or making the directory was cut short, or restoring
was cut short and followed by the clean-up. -/
lemma createVolume_error {P : Host → Syscall → Prop} {r : Option CreateVolumeRequest} {err : Err}
    (e : h.exec (hpc.createVolume r) = (Except.error err, h'))
    (hP : Along step P (hpc.createVolume r).run h) :
    Quiet h h' ∨ ∃ req, r = some req ∧ hpc.Admits req ∧ h.at? (hpc.poolOf req).path ≠ none
      ∧ ((h.at? (hpc.volumePath req) = none ∧ ∃ m l, ∃ reach : Loc → Bool, Quiet h m
          ∧ locate (hpc.volumePath req) = some l ∧ h.fs.blocked l = false
          ∧ h' = m.made l fun q => reach q && q ≠ l)
        ∨ ∃ id m₁ m₂ res, req.snapshotSource = some id ∧ Ensured h (hpc.volumePath req) m₁
          ∧ PartlyCopied m₁ (hpc.volumePath req) m₂
          ∧ m₂.exec (Hostpath.deleteVolume (hpc.poolOf req).path req.name) = (res, h')
          ∧ Along step P (Hostpath.deleteVolume (hpc.poolOf req).path req.name).run m₂) := by
  unfold createVolume at e hP
  rcases exec_bind_eq_error.mp e with hv | ⟨req, m, hv, hk⟩
  · exact Or.inl ((Prod.mk.inj ((exec_liftExcept h _).symm.trans hv)).2 ▸ Quiet.refl h)
  replace hP := (along_bind_run.mp hP).2 _ _ hv
  obtain ⟨hval, rfl⟩ := Prod.mk.inj ((exec_liftExcept h _).symm.trans hv)
  obtain ⟨rfl, _⟩ := validateCreateVolumeRequest_ok hval
  rcases exec_bind_eq_error.mp hk with ht | ⟨u, m, ht, hk⟩
  · exact Or.inl ((Prod.mk.inj ((exec_liftExcept h _).symm.trans ht)).2 ▸ Quiet.refl h)
  replace hP := (along_bind_run.mp hP).2 _ _ ht
  obtain ⟨htop, rfl⟩ := Prod.mk.inj ((exec_liftExcept h _).symm.trans ht)
  dsimp only at hk hP
  split_ifs at hk hP with hpool
  · cases hk
    exact Or.inl (Quiet.refl h)
  rcases exec_bind_eq_error.mp hk with hc | ⟨c, m, hc, hk⟩
  · exact Or.inl (getVolumeDirCapacity_error hc ▸ Quiet.tick h)
  replace hP := (along_bind_run.mp hP).2 _ _ hc
  obtain ⟨rfl, l, hl, hn⟩ := getVolumeDirCapacity_ok hc
  have hadm : hpc.Admits req := by
    refine ⟨hval, htop, ?_⟩
    rwa [Option.isNone_iff_eq_none, ← Option.not_isSome_iff_eq_none, not_not] at hpool
  have hat : h.at? (hpc.poolOf req).path ≠ none := by
    unfold poolOf at?
    rw [hl]
    exact hn
  rcases exec_bind_eq_error.mp hk with hp | ⟨u', m', _, hk⟩
  swap
  · cases hk
  replace hP := (along_bind_run.mp hP).1
  rcases exec_bind_eq_error.mp hp with he | ⟨u', m, he, hr⟩
  · rcases ensureVolumeDirectory_error he with hq | ⟨hnone, m, l, reach, hq, hcut⟩
    · exact Or.inl ((Quiet.tick h).trans hq)
    · exact Or.inr ⟨req, rfl, hadm, hat,
        Or.inl ⟨hnone, m, l, reach, (Quiet.tick h).trans hq, hcut⟩⟩
  replace hP := (along_bind_run.mp hP).2 _ _ he
  obtain ⟨m₀, hq, hens⟩ := ensureVolumeDirectory_ok he
  obtain ⟨⟨id, hid⟩, m₂, res, hpart, hdel, hPdel⟩ := restoreContent_error hr hP
  exact Or.inr ⟨req, rfl, hadm, hat, Or.inr ⟨id, m, m₂, res, hid,
    ⟨m₀, (Quiet.tick h).trans hq, hens⟩, hpart, hdel, hPdel⟩⟩

/-! ## What a failed request leaves behind -/

/-- Every removal reports success. -/
def RemovalSucceeds (h : Host) : Syscall → Prop
  | Syscall.removeAll p => (h.step (Syscall.removeAll p)).1 = Except.ok ()
  | _ => True

/-- **Atomicity on failure**: whatever goes wrong, a request that fails and cleans up after itself
leaves every volume as it was. -/
def AtomicOnFailure (hpc : HostPathController) (h : Host) (r : Option CreateVolumeRequest) : Prop :=
  ∀ outcomes err h', { h with outcomes := outcomes }.exec (hpc.createVolume r)
      = (Except.error err, h') →
    Along step RemovalSucceeds (hpc.createVolume r).run { h with outcomes := outcomes } →
    hpc.cfg.SameVolumes h.fs h'.fs

/-- When the directory of the volume exists, a failure is harmless if there is nothing to restore,
if the clean-up cannot remove it, or if no volume has anything there. -/
def HarmlessIfPresent (hpc : HostPathController) (h : Host) (req : CreateVolumeRequest)
    (l : Loc) : Prop :=
  req.snapshotSource = none ∨ l = [] ∨ h.MountedBelow l
    ∨ ∀ q, l <+: q → h.fs.node q ≠ none → ¬ hpc.cfg.InVolume h.fs q

/-- When it does not exist, a failure is harmless if the directory cannot be made or if none of
the directories that are missing on the way to it is in a pool. -/
def HarmlessIfAbsent (hpc : HostPathController) (h : Host) (l : Loc) : Prop :=
  h.fs.blocked l = true ∨ ∀ q, q <+: l → q ≠ l → h.fs.node q = none → ¬ hpc.cfg.InPool q

/-- A failed request is harmless: it is rejected before the first call or the pool is not there,
or it is harmless whether or not the directory exists. -/
def HarmlessFailure (hpc : HostPathController) (h : Host) (r : Option CreateVolumeRequest) : Prop :=
  ∀ req l, r = some req → hpc.Admits req → h.at? (hpc.poolOf req).path ≠ none →
    locate (hpc.volumePath req) = some l →
    (h.fs.node l ≠ none → hpc.HarmlessIfPresent h req l)
      ∧ (h.fs.node l = none → hpc.HarmlessIfAbsent h l)

lemma Ensured.locate {path : String} (he : Ensured h path h') : ∃ l, locate path = some l := by
  obtain ⟨m, _, ⟨hat, _⟩ | ⟨_, l, hl, _⟩⟩ := he
  · exact Option.isSome_iff_exists.mp
      (Option.isSome_of_isSome_bind (Option.isSome_iff_ne_none.mpr hat))
  · exact ⟨l, hl⟩

lemma Ensured.mounts {path : String} (he : Ensured h path h') : h'.mounts = h.mounts := by
  obtain ⟨m, hq, ⟨_, rfl⟩ | ⟨_, l, _, _, rfl⟩⟩ := he
  · exact hq.mounts
  · exact hq.mounts

lemma PartlyCopied.mounts {path : String} (hc : PartlyCopied h path h') :
    h'.mounts = h.mounts := by
  rcases hc with hq | ⟨s, d, keep, m, _, _, hq, rfl⟩
  · exact hq.mounts
  · exact hq.mounts

/-- Copying changes nothing outside the target. -/
lemma PartlyCopied.node {path : String} (hc : PartlyCopied h path h') {l q : Loc}
    (hl : Lib.FilePath.locate path = some l) (hq : ¬ l <+: q) : h'.fs.node q = h.fs.node q := by
  rcases hc with hc | ⟨s, d, keep, m, hd, _, hm, rfl⟩
  · rw [hc.fs]
  · rw [hl] at hd
    cases hd
    rw [overlaid_fs, FileTree.overlay_node_outside _ _ hq, hm.fs]

/-- A clean-up that succeeded leaves nothing at the directory and below it, and elsewhere what was
there before. -/
lemma cleanup_node {d n : String} {res : Except Err Unit} {l : Loc}
    (e : h.exec (Hostpath.deleteVolume d n) = (res, h'))
    (hP : Along step RemovalSucceeds (Hostpath.deleteVolume d n).run h)
    (hl : locate (join [d, n]) = some l) :
    l ≠ [] ∧ ¬ h.MountedBelow l
      ∧ ∀ q, h'.fs.node q = if l <+: q then none else h.fs.node q := by
  have hrem : (h.step (Syscall.removeAll (join [d, n]))).1 = Except.ok () := hP.1
  have hok : h.exec (Hostpath.deleteVolume d n)
      = (Except.ok (), (h.step (Syscall.removeAll (join [d, n]))).2) :=
    exec_bind_eq_ok.mpr ⟨_, _, exec_perform_eq.mpr (Prod.ext hrem rfl), rfl⟩
  rw [e] at hok
  obtain ⟨rfl, hh⟩ := Prod.mk.inj hok
  rcases deleteVolume_ok e with ⟨hnone, _⟩ | ⟨l', hl', hne, hm, rfl⟩
  · rw [hl] at hnone
    cases hnone
  · rw [hl] at hl'
    cases hl'
    exact ⟨hne, hm, fun q => removed_node hne hm q⟩

/-- The directories made on the way to `l` are prefixes of `l` that were missing. -/
lemma made_node_of_not_created {fs : FileTree FileData} {l q : Loc} (hb : fs.blocked l = false)
    (hv : ∀ n ∈ l, ValidName n) (keep : Loc → Bool) (hq : ¬ fs.created l keep q) :
    (fs.create l keep).node q = fs.node q := by
  rw [fs.create_node hb hv, if_neg hq]

/-- The easy direction: a harmless failure changes no volume. -/
lemma atomic_of_harmless {r : Option CreateVolumeRequest} (hh : hpc.HarmlessFailure h r) :
    hpc.AtomicOnFailure h r := by
  intro outcomes err h' e hP
  rcases createVolume_error e hP with hq | ⟨req, rfl, hadm, hpool, hcut | hrest⟩
  · exact Config.sameVolumes_of_node fun q _ => by rw [hq.fs]
  · obtain ⟨hnone, m, l, reach, hq, hl, hb, rfl⟩ := hcut
    have hn : h.fs.node l = none := by simpa [at?, hl] using hnone
    rcases (hh req l rfl hadm hpool hl).2 hn with hblk | hsafe
    · exact absurd (hb.symm.trans hblk) (by simp)
    · refine Config.sameVolumes_of_node fun q hin => ?_
      rw [made_fs, hq.fs]
      refine made_node_of_not_created hb (locate_valid hl) _ fun hc => ?_
      have hkeep := hc.2.2 q ((List.mem_inits q q).mpr (List.prefix_refl q)) hc.2.1
      have hne : reach q = true ∧ q ≠ l := by simpa using hkeep
      exact hsafe q hc.1 hne.2 hc.2.1 hin
  · obtain ⟨id, m₁, m₂, res, hid, hens, hpart, hdel, hPdel⟩ := hrest
    obtain ⟨l, hl⟩ := hens.locate
    obtain ⟨hne, hm, hnode⟩ := cleanup_node hdel hPdel hl
    have hm' : ¬ h.MountedBelow l := by
      unfold MountedBelow at hm ⊢
      rwa [hpart.mounts, hens.mounts] at hm
    obtain ⟨m, hq, ⟨hat, rfl⟩ | ⟨hnone, l', hl', hb, rfl⟩⟩ := hens
    · have hn : h.fs.node l ≠ none := by simpa [at?, hl] using hat
      rcases (hh req l rfl hadm hpool hl).1 hn with hs | hroot | hmnt | hsafe
      · rw [hid] at hs
        cases hs
      · exact absurd hroot hne
      · exact absurd hmnt hm'
      · refine Config.sameVolumes_of_removed (S := fun q => l <+: q) (fun q => ?_) hsafe
        rw [hnode]
        by_cases hlq : l <+: q
        · exact Or.inr ⟨hlq, if_pos hlq⟩
        · left
          rw [if_neg hlq, hpart.node hl hlq, hq.fs]
    · rw [hl] at hl'
      cases hl'
      have hn : h.fs.node l = none := by simpa [at?, hl] using hnone
      rcases (hh req l rfl hadm hpool hl).2 hn with hblk | hsafe
      · exact absurd (hb.symm.trans hblk) (by simp)
      · refine Config.sameVolumes_of_node fun q hin => ?_
        rw [hnode]
        by_cases hlq : l <+: q
        · rw [if_pos hlq]
          exact (FileTree.node_none_of_below hlq hn).symm
        · rw [if_neg hlq, hpart.node hl hlq, made_fs, hq.fs]
          refine made_node_of_not_created hb (locate_valid hl) _ fun hc => ?_
          exact hsafe q hc.1 (fun heq => hlq (heq ▸ List.prefix_refl q)) hc.2.1 hin

/-! ## Failures that do harm -/

/-- The checks and the capacity do not stop an admitted request whose pool is there. -/
lemma createVolume_of_provide {P : Host → Syscall → Prop} (hadm : hpc.Admits req)
    {res : Except Err Unit} (hat : h.at? (hpc.poolOf req).path ≠ none)
    (hf : (h.outcomes 0).fault = none)
    (hP : P h (Syscall.statfs (hpc.poolOf req).path))
    (e : h.tick.exec (hpc.provideVolume req (getStoragePoolNameFromMap req.parameters))
      = (res, h'))
    (hPe : Along step P
      (hpc.provideVolume req (getStoragePoolNameFromMap req.parameters)).run h.tick) :
    (∃ c, h.exec (hpc.createVolume (some req)) = (res.map fun _ => hpc.response req c, h'))
      ∧ Along step P (hpc.createVolume (some req)).run h := by
  obtain ⟨l, hl, hn⟩ : ∃ l, locate (hpc.poolOf req).path = some l ∧ h.fs.node l ≠ none := by
    unfold at? at hat
    cases hl : locate (hpc.poolOf req).path with
    | none => simp [hl] at hat
    | some l => exact ⟨l, rfl, by simpa [hl] using hat⟩
  obtain ⟨c, hc⟩ := getVolumeDirCapacity_of_noFault hf hl hn
  have hv : h.exec (liftExcept (validateCreateVolumeRequest (some req))) = (Except.ok req, h) := by
    rw [exec_liftExcept, hadm.1]
  have ht : h.exec (liftExcept (hpc.validateCreateVolumeRequestTopology req))
      = (Except.ok (), h) := by
    rw [exec_liftExcept, hadm.2.1]
  have hpool : ¬ (hpc.cfg.storagePoolInfo.lookup
      (getStoragePoolNameFromMap req.parameters)).isNone = true := by
    rw [Option.isNone_iff_eq_none, ← Option.not_isSome_iff_eq_none, not_not]
    exact hadm.2.2
  constructor
  · refine ⟨c, ?_⟩
    refine (exec_bind_of_ok step hv).trans ((exec_bind_of_ok step ht).trans ?_)
    dsimp only
    rw [if_neg hpool]
    refine (exec_bind_of_ok step hc).trans ?_
    cases res with
    | ok u => exact exec_bind_of_ok step e
    | error err => exact exec_bind_of_error step e
  · refine along_bind_run.mpr ⟨?_, fun req' m hreq => ?_⟩
    · rw [hadm.1]
      trivial
    cases hv.symm.trans hreq
    refine along_bind_run.mpr ⟨?_, fun u m hu => ?_⟩
    · rw [hadm.2.1]
      trivial
    cases ht.symm.trans hu
    dsimp only
    rw [if_neg hpool]
    refine along_bind_run.mpr ⟨?_, fun c' m hc' => ?_⟩
    · refine along_bind_run.mpr ⟨along_bind_run.mpr ⟨along_perform.mpr hP, fun _ _ _ => trivial⟩, ?_⟩
      intro res m _
      cases res <;> trivial
    cases hc.symm.trans hc'
    exact along_bind_run.mpr ⟨hPe, fun u m hu => trivial⟩

/-- **Making the directory cut short**: everything on the way to it is made. -/
lemma exists_failure_of_absent (hadm : hpc.Admits req)
    (hat : h.at? (hpc.poolOf req).path ≠ none) {l : Loc} (hl : locate (hpc.volumePath req) = some l)
    (hn : h.fs.node l = none) (hb : h.fs.blocked l = false) :
    ∃ outcomes err h', { h with outcomes := outcomes }.exec (hpc.createVolume (some req))
        = (Except.error err, h')
      ∧ Along step RemovalSucceeds (hpc.createVolume (some req)).run { h with outcomes := outcomes }
      ∧ h'.fs = h.fs.create l fun q => q ≠ l := by
  set h₀ : Host := { h with outcomes := Outcome.failAt 2 }
  have hnone : h₀.at? (hpc.volumePath req) = none := by simp [at?, hl, h₀, hn]
  have hex : h₀.tick.exec (checkPathExist (hpc.volumePath req))
      = (Except.ok (h₀.tick.at? (hpc.volumePath req)).isSome, h₀.tick.tick) :=
    checkPathExist_of_noFault (Outcome.failAt_of_ne (by decide)) (Or.inr (lookup_error_of_none hl hn hb))
  have hmk : h₀.tick.tick.exec (perform (Syscall.mkdirAll (hpc.volumePath req)) : Sys _)
      = (Except.ok (Except.error _), h₀.tick.tick.tick.made l fun q => true && q ≠ l) :=
    exec_perform_eq.mpr (mkdirAll_of_fault (h := h₀.tick.tick.tick) (o := Outcome.failAt 2 2) rfl hl hb)
  have hfalse : (h₀.tick.at? (hpc.volumePath req)).isSome = false := by
    rw [Option.isSome_eq_false_iff, Option.isNone_iff_eq_none]
    exact hnone
  rw [hfalse] at hex
  have hcr : h₀.tick.tick.exec (createVolumeDirectory (hpc.poolOf req).path req.name)
      = (Except.error _, h₀.tick.tick.tick.made l fun q => true && q ≠ l) :=
    exec_bind_eq_error.mpr (Or.inr ⟨_, _, hmk, rfl⟩)
  have hens : h₀.tick.exec (hpc.ensureVolumeDirectory req.name
      (getStoragePoolNameFromMap req.parameters))
      = (Except.error _, h₀.tick.tick.tick.made l fun q => true && q ≠ l) :=
    exec_bind_eq_error.mpr (Or.inr ⟨false, h₀.tick.tick, hex,
      exec_bind_eq_error.mpr (Or.inr ⟨_, _, exec_attempt_eq.mpr hcr, rfl⟩)⟩)
  have hprov : h₀.tick.exec (hpc.provideVolume req (getStoragePoolNameFromMap req.parameters))
      = (Except.error _, h₀.tick.tick.tick.made l fun q => true && q ≠ l) :=
    exec_bind_eq_error.mpr (Or.inl hens)
  have hPprov : Along step RemovalSucceeds
      (hpc.provideVolume req (getStoragePoolNameFromMap req.parameters)).run h₀.tick := by
    refine along_bind_run.mpr ⟨along_bind_run.mpr ⟨?_, fun b m hb' => ?_⟩, fun u m hu => ?_⟩
    · refine along_bind_run.mpr ⟨along_perform.mpr trivial, fun res m _ => ?_⟩
      cases res with
      | ok i => trivial
      | error oe => dsimp only; split_ifs <;> trivial
    · cases hex.symm.trans hb'
      rw [if_neg (by simp)]
      refine along_bind_run.mpr ⟨along_attempt.mpr ?_, fun res m _ => ?_⟩
      · refine along_bind_run.mpr ⟨along_perform.mpr trivial, fun res m _ => ?_⟩
        cases res <;> trivial
      · cases res <;> trivial
    · cases hens.symm.trans hu
  obtain ⟨⟨c, he⟩, hP⟩ := createVolume_of_provide (h := h₀) hadm hat
    (Outcome.failAt_of_ne (by decide)) trivial hprov hPprov
  refine ⟨Outcome.failAt 2, _, _, he, hP, ?_⟩
  rw [made_fs]
  simp only [Bool.true_and]
  rfl

lemma restoreContent_some {id : String} (hid : req.snapshotSource = some id) :
    hpc.restoreContent req pool = (do
      match ← attempt (hpc.restoreFromSnapshot id pool req.name) with
      | Except.ok _ => return ()
      | Except.error err =>
          match ← attempt (Hostpath.deleteVolume (hpc.cfg.pool pool).path req.name) with
          | Except.ok _ => throw err
          | Except.error e =>
              throw (Err.plain ("failed to delete restore " ++ req.name ++ ": " ++ e.text))) := by
  have hv : req.volumeContentSource = some (VolumeContentSource.snapshot (some id)) := by
    unfold CreateVolumeRequest.snapshotSource at hid
    cases hc : req.volumeContentSource with
    | none => simp [hc] at hid
    | some c =>
        cases c with
        | unset | volume => simp [hc] at hid
        | snapshot i => simpa [hc] using hid
  unfold restoreContent
  generalize req.volumeContentSource = c at hv ⊢
  subst hv
  rfl

/-- A restore can always fail before it copies anything, with the clean-up succeeding after it:
because the pool has no snapshot provider, or because the snapshot cannot be looked up. -/
lemma exists_restore_failure (hpc : HostPathController) (id pool name : String) :
    ∃ k, 2 ≤ k ∧ ∀ h : Host, (∀ n, h.outcomes n = Outcome.failAt k (n + 2)) →
      ∃ err h', h.exec (hpc.restoreFromSnapshot id pool name) = (Except.error err, h')
        ∧ Along step RemovalSucceeds (hpc.restoreFromSnapshot id pool name).run h
        ∧ Quiet h h' ∧ (h'.outcomes 0).fault = none := by
  cases hp : hpc.snapshotproviders.lookup pool with
  | none =>
      refine ⟨9, by decide, fun h ho => ?_⟩
      rw [restoreFromSnapshot, hp]
      refine ⟨_, h, rfl, trivial, Quiet.refl h, ?_⟩
      rw [ho]
      exact Outcome.failAt_of_ne (by decide)
  | some r =>
      refine ⟨2, le_refl 2, fun h ho => ?_⟩
      have hex : h.exec (checkPathExist (r.dataDir id))
          = (Except.error _, h.tick) :=
        exec_bind_eq_error.mpr (Or.inr ⟨_, _,
          exec_perform_eq.mpr (stat_of_fault (by rw [ho]; rfl)), rfl⟩)
      rw [restoreFromSnapshot, hp]
      refine ⟨_, h.tick, exec_bind_eq_error.mpr (Or.inl hex), ?_, Quiet.tick h, ?_⟩
      · refine along_bind_run.mpr ⟨?_, fun b m hb => ?_⟩
        · refine along_bind_run.mpr ⟨along_perform.mpr trivial, fun res m _ => ?_⟩
          cases res with
          | ok i => trivial
          | error oe => dsimp only; split_ifs <;> trivial
        · cases hex.symm.trans hb
      · rw [tick_outcomes, ho]
        exact Outcome.failAt_of_ne (by decide)

/-- **A restore that fails**: the clean-up removes the directory, whoever made it. -/
lemma exists_failure_of_present (hadm : hpc.Admits req)
    (hat : h.at? (hpc.poolOf req).path ≠ none) {l : Loc} (hl : locate (hpc.volumePath req) = some l)
    (hn : h.fs.node l ≠ none) {id : String} (hid : req.snapshotSource = some id) (hne : l ≠ [])
    (hm : ¬ h.MountedBelow l) :
    ∃ outcomes err h', { h with outcomes := outcomes }.exec (hpc.createVolume (some req))
        = (Except.error err, h')
      ∧ Along step RemovalSucceeds (hpc.createVolume (some req)).run { h with outcomes := outcomes }
      ∧ ∀ q, l <+: q → h'.fs.node q = none := by
  set pool := getStoragePoolNameFromMap req.parameters with hpool
  obtain ⟨k, hk, hfail⟩ := exists_restore_failure hpc id pool req.name
  set h₀ : Host := { h with outcomes := Outcome.failAt k }
  have hex : h₀.tick.exec (checkPathExist (hpc.volumePath req))
      = (Except.ok true, h₀.tick.tick) := by
    have hat' : h₀.tick.at? (hpc.volumePath req) ≠ none := by simpa [at?, hl, h₀] using hn
    rw [checkPathExist_of_noFault (Outcome.failAt_of_ne (by omega)) (Or.inl hat'),
      Option.isSome_iff_ne_none.mpr hat']
  have hens : h₀.tick.exec (hpc.ensureVolumeDirectory req.name pool)
      = (Except.ok (), h₀.tick.tick) := exec_bind_eq_ok.mpr ⟨true, _, hex, rfl⟩
  obtain ⟨err, h₃, hres, hPres, hq, hf⟩ := hfail h₀.tick.tick fun n => rfl
  have hrm : h₃.step (Syscall.removeAll (hpc.volumePath req))
      = (Except.ok (), h₃.tick.cleared l fun _ => true) := by
    refine removeAll_of_noFault hf hl ?_ hne ?_ (Or.inl ?_)
    · exact decide_eq_false (getLast_elems_join hl hne)
    · unfold MountedBelow
      rw [tick_mounts, hq.mounts]
      exact hm
    · rw [tick_fs, hq.fs]
      exact hn
  have hdel : h₃.exec (Hostpath.deleteVolume (hpc.poolOf req).path req.name)
      = (Except.ok (), h₃.tick.cleared l fun _ => true) :=
    exec_bind_eq_ok.mpr ⟨_, _, exec_perform_eq.mpr hrm, rfl⟩
  have hprov : h₀.tick.exec (hpc.provideVolume req pool)
      = (Except.error err, h₃.tick.cleared l fun _ => true) := by
    refine exec_bind_eq_error.mpr (Or.inr ⟨(), _, hens, ?_⟩)
    rw [restoreContent_some hid]
    refine exec_bind_eq_error.mpr (Or.inr ⟨_, h₃, exec_attempt_eq.mpr hres, ?_⟩)
    exact exec_bind_eq_error.mpr (Or.inr ⟨_, _, exec_attempt_eq.mpr hdel, rfl⟩)
  have hPprov : Along step RemovalSucceeds (hpc.provideVolume req pool).run h₀.tick := by
    refine along_bind_run.mpr ⟨along_bind_run.mpr ⟨?_, fun b m hb => ?_⟩, fun u m hu => ?_⟩
    · refine along_bind_run.mpr ⟨along_perform.mpr trivial, fun res m _ => ?_⟩
      cases res with
      | ok i => trivial
      | error oe => dsimp only; split_ifs <;> trivial
    · cases hex.symm.trans hb
      trivial
    · cases hens.symm.trans hu
      rw [restoreContent_some hid]
      refine along_bind_run.mpr ⟨along_attempt.mpr hPres, fun res m hr => ?_⟩
      cases hres.symm.trans (exec_attempt_eq.mp hr)
      refine along_bind_run.mpr ⟨along_attempt.mpr ?_, fun res m _ => ?_⟩
      · refine along_bind_run.mpr ⟨along_perform.mpr (congrArg Prod.fst hrm), fun res m _ => ?_⟩
        cases res with
        | ok i => trivial
        | error oe => dsimp only; split_ifs <;> trivial
      · cases res <;> trivial
  obtain ⟨⟨c, he⟩, hP⟩ := createVolume_of_provide (h := h₀) hadm hat
    (Outcome.failAt_of_ne (by omega)) trivial hprov hPprov
  refine ⟨Outcome.failAt k, err, _, he, hP, fun q hq' => ?_⟩
  rw [cleared_fs, removed_node hne, if_pos hq']
  unfold MountedBelow
  rw [tick_mounts, hq.mounts]
  exact hm

/-- **When a failed request is atomic.**  For every configuration, host and request: a failure
followed by a successful clean-up leaves every volume as it was, whatever went wrong, if and only
if failing is harmless. -/
theorem createVolume_atomic_iff (hpc : HostPathController) (h : Host)
    (r : Option CreateVolumeRequest) : hpc.AtomicOnFailure h r ↔ hpc.HarmlessFailure h r := by
  refine ⟨fun hatom => ?_, atomic_of_harmless⟩
  rintro req l rfl hadm hat hl
  constructor
  · intro hn
    by_contra hc
    unfold HarmlessIfPresent at hc
    push Not at hc
    obtain ⟨hs, hne, hm, q, hlq, hq, hin⟩ := hc
    obtain ⟨id, hid⟩ := Option.ne_none_iff_exists'.mp hs
    obtain ⟨outcomes, err, h', he, hP, hgone⟩ :=
      exists_failure_of_present hadm hat hl hn hid hne hm
    have hsame := (hatom outcomes err h' he hP).node hin
    rw [hgone q hlq] at hsame
    exact hq hsame.symm
  · intro hn
    by_contra hc
    unfold HarmlessIfAbsent at hc
    push Not at hc
    obtain ⟨hb, q, hql, hqne, hq, info, hinfo, lp, n, rest, hlp, hqe⟩ := hc
    have hb : h.fs.blocked l = false := by simpa using hb
    obtain ⟨outcomes, err, h', he, hP, hfs⟩ := exists_failure_of_absent hadm hat hl hn hb
    have hcr : h.fs.created l (fun q => q ≠ l) q := by
      refine ⟨hql, hq, fun p hp _ => ?_⟩
      rw [List.mem_inits] at hp
      refine decide_eq_true fun hpl => hqne (hql.eq_of_length (le_antisymm hql.length_le ?_))
      exact hpl ▸ hp.length_le
    have hq' : h'.fs.node q = some Node.dir := by
      rw [hfs, h.fs.create_node hb (locate_valid hl), if_pos hcr]
    have hdir : h'.fs.node (lp ++ [n]) = some Node.dir := by
      cases rest with
      | nil => rwa [hqe] at hq'
      | cons x xs =>
          refine FileTree.node_of_below (q := q) ?_ ?_ (by simp [hq'])
          · rw [hqe]
            exact ⟨x :: xs, by simp⟩
          · rw [hqe]
            simp
    have hsame := (hatom outcomes err h' he hP).symm.node ⟨info, hinfo, lp, n, rest, hlp, hqe, hdir⟩
    rw [hq, hq'] at hsame
    cases hsame

/-- A volume that exists is asked for again, with a snapshot that is gone. -/
def retryFromLostSnapshot : CreateVolumeRequest :=
  ⟨"vol", some [⟨AccessType.mount "" []⟩], Sample.parameters,
    some (VolumeContentSource.snapshot (some "lost")), none⟩

theorem retry_removes_volume :
    ∃ h', Sample.host.exec (Sample.controller.createVolume (some retryFromLostSnapshot))
        = (Except.error (Err.status Code.notFound
            "snapshot lost not found, unable to restore into volume"), h')
      ∧ Along step RemovalSucceeds
          (Sample.controller.createVolume (some retryFromLostSnapshot)).run Sample.host
      ∧ ¬ Sample.controller.cfg.SameVolumes Sample.host.fs h'.fs := by
  refine ⟨_, Prod.ext rfl rfl, ⟨trivial, trivial, trivial, rfl, trivial⟩, fun hsame => ?_⟩
  have hvol : Sample.controller.cfg.InVolume Sample.host.fs ["pool", "vol"] :=
    ⟨Sample.pool, by decide, ["pool"], "vol", [], by decide, rfl, by decide⟩
  exact absurd (hsame.node hvol) (by decide)

/-! ## Repeating a request -/

/-- A repeated request changes nothing: not the volume at `l`, no other volume, no snapshot; and
it returns what the first one returned, apart from the capacity. -/
def RepeatsQuietly (hpc : HostPathController) (h : Host) (req : CreateVolumeRequest) (l : Loc)
    (first : Volume) : Prop :=
  ∀ outcomes v h', { h with outcomes := outcomes }.exec (hpc.createVolume (some req))
      = (Except.ok v, h') →
    h'.fs.contents l = h.fs.contents l ∧ hpc.cfg.SameVolumes h.fs h'.fs
      ∧ hpc.cfg.SameSnapshots h.fs h'.fs ∧ v.volumeId = first.volumeId
      ∧ v.volumeContext = first.volumeContext ∧ v.contentSource = first.contentSource
      ∧ v.accessibleTopology = first.accessibleTopology

/-- Restoring again would change nothing: there is nothing to restore, the restore cannot
succeed, or everything in the snapshot is in the volume as it is. -/
def RestoredAlready (hpc : HostPathController) (h : Host) (req : CreateVolumeRequest) (l : Loc) :
    Prop :=
  ∀ id r s, req.snapshotSource = some id →
    hpc.snapshotproviders.lookup (getStoragePoolNameFromMap req.parameters) = some r →
    locate (r.dataDir id) = some s → h.at? (hpc.poolOf req).path ≠ none →
    Reflink.CanCopy h.fs s l →
    ∀ q, q ≠ [] → h.fs.contents s q ≠ none → h.fs.contents l q = h.fs.contents s q

/-- A copy of what is there already is no copy. -/
lemma overlay_node_eq {fs : FileTree FileData} {s d : Loc} (hc : Reflink.CanCopy fs s d)
    (hsame : ∀ q, q ≠ [] → fs.contents s q ≠ none → fs.contents d q = fs.contents s q) (q : Loc) :
    (fs.overlay s d fun _ => true).node q = fs.node q := by
  rw [fs.overlay_node hc.2.1]
  split_ifs with h
  · obtain ⟨⟨r, rfl⟩, hcop⟩ := h
    rw [List.drop_left] at hcop ⊢
    exact (hsame r hcop.1 (fs.copied_self hcop).1).symm
  · rfl

/-- A repeated request whose restore can succeed does the restore. -/
lemma createVolume_restores (hadm : hpc.Admits req) (hat : h.at? (hpc.poolOf req).path ≠ none)
    {l s : Loc} (hl : locate (hpc.volumePath req) = some l) {id : String} {r : Reflink}
    (hid : req.snapshotSource = some id)
    (hr : hpc.snapshotproviders.lookup (getStoragePoolNameFromMap req.parameters) = some r)
    (hs : locate (r.dataDir id) = some s) (hc : Reflink.CanCopy h.fs s l) :
    ∃ outcomes v h', { h with outcomes := outcomes }.exec (hpc.createVolume (some req))
      = (Except.ok v, h') ∧ h'.fs = h.fs.overlay s l fun _ => true := by
  set h₀ : Host := { h with outcomes := fun _ => Outcome.fine }
  have hex : h₀.tick.exec (checkPathExist (hpc.volumePath req))
      = (Except.ok true, h₀.tick.tick) := by
    have hat' : h₀.tick.at? (hpc.volumePath req) ≠ none := by simp [at?, hl, h₀, hc.2.1]
    rw [checkPathExist_of_noFault rfl (Or.inl hat'), Option.isSome_iff_ne_none.mpr hat']
  have hens : h₀.tick.exec (hpc.ensureVolumeDirectory req.name
      (getStoragePoolNameFromMap req.parameters)) = (Except.ok (), h₀.tick.tick) :=
    exec_bind_eq_ok.mpr ⟨true, _, hex, rfl⟩
  have hres := Reflink.restoreSnapshot_of_noFault (h := h₀.tick.tick) (fun _ _ => rfl) hs hl hc
  have hprov : h₀.tick.exec (hpc.provideVolume req (getStoragePoolNameFromMap req.parameters))
      = (Except.ok (), h₀.tick.tick.tick.tick.tick.overlaid s l fun _ => true) := by
    refine exec_bind_eq_ok.mpr ⟨(), _, hens, ?_⟩
    rw [restoreContent_some hid]
    refine exec_bind_eq_ok.mpr ⟨Except.ok (), _, exec_attempt_eq.mpr ?_, rfl⟩
    rw [restoreFromSnapshot, hr]
    exact hres
  obtain ⟨⟨c, he⟩, _⟩ := createVolume_of_provide (h := h₀) (P := fun _ _ => True) hadm hat rfl
    trivial hprov (along_true _ _)
  exact ⟨_, _, _, he, rfl⟩

/-- **When repeating a request is idempotent.**  After an identical request succeeded, and in
whatever state the directory of the volume exists, the repeated request changes nothing if and
only if restoring again would change nothing. -/
theorem createVolume_idempotent_iff {h₀ h₁ : Host} {first : Volume}
    (hfirst : h₀.exec (hpc.createVolume (some req)) = (Except.ok first, h₁)) {l : Loc}
    (hl : locate (hpc.volumePath req) = some l) (hex : h.fs.node l ≠ none) :
    hpc.RepeatsQuietly h req l first ↔ hpc.RestoredAlready h req l := by
  obtain ⟨req', c₀, m₀, hreq, hadm, rfl, _⟩ := createVolume_ok hfirst
  cases hreq
  constructor
  · intro hrep id r s hid hr hs hat hc q hq hsq
    obtain ⟨outcomes, v, h', he, hfs⟩ := createVolume_restores hadm hat hl hid hr hs hc
    have hsame := congrFun (hrep outcomes v h' he).1 q
    rw [hfs, h.fs.overlay_contents hc.2.1 hc.2.2.2 hq, if_pos hsq] at hsame
    exact hsame.symm
  · intro halready outcomes v h' he
    obtain ⟨req', c, m, hreq, _, rfl, hat, ⟨m₁, hq, hens⟩, hfill⟩ := createVolume_ok he
    cases hreq
    have hm : m.fs = h.fs := by
      rcases hens with ⟨_, rfl⟩ | ⟨hnone, _⟩
      · exact hq.fs
      · exact absurd (by simpa [at?, hl] using hnone) hex
    have hsame : ∀ q, h'.fs.node q = h.fs.node q := by
      rcases hfill with ⟨_, rfl⟩ | ⟨id, r, s, d, m', hid, hr, hs, hd, hc, hq', rfl⟩
      · rw [hm]
        exact fun _ => rfl
      · rw [hl] at hd
        cases hd
        rw [hm] at hc
        rw [overlaid_fs, hq'.fs, hm]
        exact overlay_node_eq hc (halready id r s hid hr hs hat hc)
    exact ⟨funext fun q => hsame _, Config.sameVolumes_of_node fun q _ => hsame q,
      fun _ _ _ _ _ _ => hsame _, rfl, rfl, rfl, rfl⟩

/-- The sample node with a snapshot of the volume. -/
def snapshotHost : Host :=
  { Sample.host with
    fs := ((Sample.host.fs.create ["snapshots", "snap", "data"] fun _ => true).create
      ["snapshots", "snap", "vol"] fun _ => true).write ["snapshots", "snap", "data"] "f" "old" }

def restoreRequest (name : String) : CreateVolumeRequest :=
  ⟨name, some [⟨AccessType.mount "" []⟩], Sample.parameters,
    some (VolumeContentSource.snapshot (some "snap")), none⟩

/-- The host after the volume `new` was restored from the snapshot and its user overwrote the
file in it. -/
def overwrittenHost : Host :=
  let restored := (snapshotHost.exec (Sample.controller.createVolume (some (restoreRequest "new")))).2
  { restored with fs := restored.fs.write ["pool", "new"] "f" "user" }

theorem repeat_overwrites_volume :
    (∃ v h₁, snapshotHost.exec (Sample.controller.createVolume (some (restoreRequest "new")))
        = (Except.ok v, h₁))
      ∧ overwrittenHost.fs.node ["pool", "new", "f"] = some (Node.file "user")
      ∧ ∃ v h₂, overwrittenHost.exec
            (Sample.controller.createVolume (some (restoreRequest "new"))) = (Except.ok v, h₂)
          ∧ h₂.fs.node ["pool", "new", "f"] = some (Node.file "old") :=
  ⟨⟨_, _, Prod.ext rfl rfl⟩, by decide, _, _, Prod.ext rfl rfl, by decide⟩

/-- A repeated restore whose volume was not touched, on the sample node. -/
theorem idempotent_without_writes :
    Sample.controller.RepeatsQuietly
        (snapshotHost.exec (Sample.controller.createVolume (some (restoreRequest "new")))).2
        (restoreRequest "new") ["pool", "new"]
        (Sample.controller.response (restoreRequest "new") 0)
      ↔ Sample.controller.RestoredAlready
        (snapshotHost.exec (Sample.controller.createVolume (some (restoreRequest "new")))).2
        (restoreRequest "new") ["pool", "new"] :=
  createVolume_idempotent_iff (show snapshotHost.exec _ = (Except.ok _, _) from Prod.ext rfl rfl)
    (by decide) (by decide)

end HostPathController

end Hostpath
