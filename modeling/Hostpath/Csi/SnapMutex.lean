import Hostpath.Csi.Linearizability
import Hostpath.Lib.Mutex

/-!
# The snapshot mutex

The controller has a mutex, `snapMutex`.  `CreateSnapshot`, `DeleteSnapshot` and `ListSnapshots` hold
it while they talk to the snapshot providers, and `CreateVolume` holds it while it restores a
snapshot; the other requests do not use it.  Here the handlers are written with the mutex.  Apart
from taking and returning it they make the calls of the handlers without it.
-/

namespace Hostpath

open Lib FilePath Prog

/-- A handler that makes system calls and uses the mutex. -/
abbrev Locking := ExceptT Err (Prog (Mutex.Call Syscall) (Mutex.Reply Reply))

/-- Without the mutex. -/
def unlocked {α : Type} (x : Sys α) : Locking α := ExceptT.mk (Mutex.plain x.run)

/-- `Lock` followed by a deferred `Unlock`. -/
def withSnapMutex {α : Type} (x : Sys α) : Locking α := ExceptT.mk (Mutex.locked x.run)

namespace HostPathController

variable (hpc : HostPathController)

def restoreContentLocked (req : CreateVolumeRequest) (storagePool : String) : Locking Unit :=
  match req.volumeContentSource with
  | some (VolumeContentSource.snapshot (some snapshotId)) => do
      match ← attempt (withSnapMutex (hpc.restoreFromSnapshot snapshotId storagePool req.name)) with
      | Except.ok _ => return ()
      | Except.error err =>
          match ← attempt (unlocked (Hostpath.deleteVolume (hpc.cfg.pool storagePool).path req.name)) with
          | Except.ok _ => throw err
          | Except.error e =>
              throw (Err.plain ("failed to delete restore " ++ req.name ++ ": " ++ e.text))
  | _ => return ()

def provideVolumeLocked (req : CreateVolumeRequest) (storagePool : String) : Locking Unit := do
  unlocked (hpc.ensureVolumeDirectory req.name storagePool)
  hpc.restoreContentLocked req storagePool

def createVolumeLocked (r : Option CreateVolumeRequest) : Locking Volume := do
  let req ← unlocked (liftExcept (validateCreateVolumeRequest r))
  unlocked (liftExcept (hpc.validateCreateVolumeRequestTopology req))
  let storagePool := getStoragePoolNameFromMap req.parameters
  if (hpc.cfg.storagePoolInfo.lookup storagePool).isNone then
    throw (Err.plain ("unable to locate path for storage pool " ++ storagePool))
  else
    let capacity ← unlocked (getVolumeDirCapacity (hpc.cfg.pool storagePool).path)
    hpc.provideVolumeLocked req storagePool
    return ⟨req.name, capacity, req.parameters, req.volumeContentSource, hpc.topologies storagePool⟩

def createSnapshotLocked (r : Option CreateSnapshotRequest) : Locking Snapshot := do
  let req ← unlocked (liftExcept (validateCreateSnapshotRequest r))
  let storagePool := getStoragePoolNameFromMap req.parameters
  match hpc.cfg.storagePoolInfo.lookup storagePool with
  | none => throw (Err.plain
      ("unable to locate volumesnapshot path for storage pool " ++ storagePool))
  | some info =>
      match info.snapshotPath, hpc.snapshotproviders.lookup storagePool with
      | none, _ => throw (Err.plain ("volumesnapshot path not set for storage pool " ++ storagePool))
      | some _, none =>
          throw (Err.plain ("snapshot provider not set for storage pool " ++ storagePool))
      | some snapshotPath, some provider => withSnapMutex do
          ensureInitialized provider snapshotPath
          findOrCreate provider req

def deleteSnapshotLocked (r : Option DeleteSnapshotRequest) : Locking Unit :=
  match r with
  | none => throw (Err.status Code.invalidArgument "missing request")
  | some req =>
      if req.snapshotId = "" then
        throw (Err.status Code.invalidArgument "snapshot id missing in request")
      else withSnapMutex (deleteFromProviders req.snapshotId hpc.providers)

def listSnapshotsLocked (r : Option ListSnapshotsRequest) : Locking ListSnapshotsResponse :=
  match r with
  | none => throw (Err.status Code.invalidArgument "missing request")
  | some req => withSnapMutex do
      liftExcept (snapshotsPage (← collectSnapshots req hpc.providers) req)

end HostPathController

/-- A request is served, with the mutex. -/
def HostPath.serveLocked (hp : HostPath) : Request → Locking Response
  | Request.createVolume r => do return Response.volume (← hp.controller.createVolumeLocked r)
  | Request.createSnapshot r => do return Response.snapshot (← hp.controller.createSnapshotLocked r)
  | Request.deleteSnapshot r => do
      hp.controller.deleteSnapshotLocked r
      return Response.empty
  | Request.listSnapshots r => do return Response.snapshots (← hp.controller.listSnapshotsLocked r)
  | q => unlocked (hp.serve q)

/-! ## The same handlers without the mutex -/

lemma unlocked_bind {α β : Type} (x : Sys α) (f : α → Sys β) :
    unlocked (x >>= f) = unlocked x >>= fun a => unlocked (f a) := by
  refine (congrArg ExceptT.mk (Mutex.plain_bind x.run _)).trans ?_
  refine congrArg (fun g => ExceptT.mk ((Mutex.plain x.run).bind g)) (funext fun r => ?_)
  cases r <;> rfl

lemma unlocked_liftExcept_bind {α β : Type} (a : α) (f : α → Locking β) :
    (unlocked (liftExcept (Except.ok a)) >>= f) = f a := rfl

/-- A response is made from what the handler returned. -/
lemma withSnapMutex_respond {α β : Type} (x : Sys α) (f : α → β) :
    (withSnapMutex x >>= fun a => pure (f a)) = withSnapMutex (x >>= fun a => pure (f a)) := by
  have hmap : ∀ {C : Type} {R : C → Type}, (ExceptT.bindCont (fun a => pure (f a)) :
      Except Err α → Prog C R (Except Err β)) = fun r => Prog.ret (r.map f) := by
    intro C R
    funext r
    cases r <;> rfl
  show ExceptT.mk (Prog.call Mutex.Call.lock fun _ => (Mutex.inside x.run).bind (ExceptT.bindCont _))
    = ExceptT.mk (Prog.call Mutex.Call.lock fun _ => Mutex.inside (x.run.bind (ExceptT.bindCont _)))
  rw [hmap, hmap, Mutex.inside_bind_ret]

namespace HostPathController

variable {hpc : HostPathController}

lemma restoreContentLocked_none {req : CreateVolumeRequest} {storagePool : String}
    (hs : req.snapshotSource = none) : hpc.restoreContentLocked req storagePool = pure () := by
  unfold CreateVolumeRequest.snapshotSource at hs
  unfold restoreContentLocked
  split <;> simp_all

lemma provideVolumeLocked_eq {req : CreateVolumeRequest} {storagePool : String}
    (hs : req.snapshotSource = none) :
    hpc.provideVolumeLocked req storagePool = unlocked (hpc.provideVolume req storagePool) := by
  rw [provideVolumeLocked, provideVolume, unlocked_bind, restoreContentLocked_none hs,
    restoreContent_none hs]
  rfl

/-- Without a snapshot to restore, the mutex is not used. -/
lemma createVolumeLocked_eq {r : Option CreateVolumeRequest}
    (hs : ∀ req, r = some req → req.snapshotSource = none) :
    hpc.createVolumeLocked r = unlocked (hpc.createVolume r) := by
  unfold createVolumeLocked createVolume
  rw [unlocked_bind]
  cases hv : validateCreateVolumeRequest r with
  | error e => rfl
  | ok req =>
      obtain ⟨rfl, _⟩ := validateCreateVolumeRequest_ok hv
      rw [unlocked_liftExcept_bind, unlocked_liftExcept_bind, unlocked_bind]
      cases ht : hpc.validateCreateVolumeRequestTopology req with
      | error e => rfl
      | ok u =>
          rw [unlocked_liftExcept_bind, unlocked_liftExcept_bind]
          dsimp only
          split_ifs
          · rfl
          · rw [unlocked_bind]
            refine congrArg _ (funext fun capacity => ?_)
            rw [unlocked_bind, provideVolumeLocked_eq (hs req rfl)]
            rfl

/-- **A request for a snapshot** is refused, or runs with the mutex. -/
lemma createSnapshotLocked_cases (r : Option CreateSnapshotRequest) :
    (∃ e, hpc.createSnapshotLocked r = throw e)
      ∨ ∃ req info path provider, r = some req
        ∧ hpc.cfg.storagePoolInfo.lookup (getStoragePoolNameFromMap req.parameters) = some info
        ∧ info.snapshotPath = some path
        ∧ hpc.snapshotproviders.lookup (getStoragePoolNameFromMap req.parameters) = some provider
        ∧ hpc.createSnapshotLocked r = withSnapMutex (do
            ensureInitialized provider path
            findOrCreate provider req) := by
  unfold createSnapshotLocked
  cases hv : validateCreateSnapshotRequest r with
  | error e => exact Or.inl ⟨e, rfl⟩
  | ok req =>
      obtain ⟨rfl, _⟩ := validateCreateSnapshotRequest_ok hv
      rw [unlocked_liftExcept_bind]
      dsimp only
      cases hinfo : hpc.cfg.storagePoolInfo.lookup (getStoragePoolNameFromMap req.parameters) with
      | none => exact Or.inl ⟨_, rfl⟩
      | some info =>
          cases hpath : info.snapshotPath with
          | none => exact Or.inl ⟨_, by dsimp only; rw [hpath]⟩
          | some path =>
              cases hp : hpc.snapshotproviders.lookup
                  (getStoragePoolNameFromMap req.parameters) with
              | none => exact Or.inl ⟨_, by dsimp only; rw [hpath]⟩
              | some provider =>
                  exact Or.inr ⟨req, info, path, provider, rfl, hinfo, hpath, hp, by
                    dsimp only
                    rw [hpath]⟩

end HostPathController

end Hostpath
