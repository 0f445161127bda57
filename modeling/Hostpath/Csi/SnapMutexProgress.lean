import Hostpath.Csi.SnapMutex
import Hostpath.Lib.MutexProgress

/-!
# The snapshot mutex is given back

All requests run at the same time, among them the creations of volumes from a snapshot, which hold
the mutex while they restore and take the volume away again without it if that fails.  Nothing is
asked of their names, of the configuration or of the calls that fail.

* `without_serveLocked` — apart from the mutex, a request makes the calls it makes alone.
* `mutex_given_back` — the mutex is held by one of the requests that run or by nobody, and whatever
  has happened so far, all requests that run can still be answered.
-/

namespace Hostpath

open Lib FilePath Prog

/-- The handler without the mutex. -/
def withoutMutex {α : Type} (x : Locking α) : Sys α := ExceptT.mk (Mutex.erase x.run)

section Erase

variable {α β : Type}

lemma without_bind (x : Locking α) (f : α → Locking β) :
    withoutMutex (x >>= f) = withoutMutex x >>= fun a => withoutMutex (f a) := by
  refine (congrArg ExceptT.mk (Mutex.erase_bind x.run _)).trans ?_
  refine congrArg (fun g => ExceptT.mk ((Mutex.erase x.run).bind g)) (funext fun r => ?_)
  cases r <;> rfl

@[simp] lemma without_unlocked (x : Sys α) : withoutMutex (unlocked x) = x :=
  congrArg ExceptT.mk (Mutex.erase_plain x.run)

@[simp] lemma without_withSnapMutex (x : Sys α) : withoutMutex (withSnapMutex x) = x :=
  congrArg ExceptT.mk (Mutex.erase_locked x.run)

lemma without_attempt (x : Locking α) : withoutMutex (attempt x) = attempt (withoutMutex x) :=
  congrArg ExceptT.mk (Mutex.erase_bind x.run _)

end Erase

namespace HostPathController

variable (hpc : HostPathController)

lemma without_restoreContentLocked (req : CreateVolumeRequest) (pool : String) :
    withoutMutex (hpc.restoreContentLocked req pool) = hpc.restoreContent req pool := by
  unfold restoreContentLocked restoreContent
  rcases req.volumeContentSource with _ | (_ | (_ | id) | _)
  · rfl
  · rfl
  · rfl
  · dsimp only
    rw [without_bind, without_attempt, without_withSnapMutex]
    refine congrArg _ (funext fun r => ?_)
    cases r with
    | ok u => rfl
    | error err =>
        dsimp only
        rw [without_bind, without_attempt, without_unlocked]
        refine congrArg _ (funext fun r => ?_)
        cases r <;> rfl
  · rfl

lemma without_createVolumeLocked (r : Option CreateVolumeRequest) :
    withoutMutex (hpc.createVolumeLocked r) = hpc.createVolume r := by
  unfold createVolumeLocked createVolume
  rw [without_bind, without_unlocked]
  refine congrArg _ (funext fun req => ?_)
  rw [without_bind, without_unlocked]
  refine congrArg _ (funext fun _ => ?_)
  dsimp only
  split_ifs
  · rfl
  · rw [without_bind, without_unlocked]
    refine congrArg _ (funext fun capacity => ?_)
    rw [without_bind, provideVolumeLocked, provideVolume, without_bind, without_unlocked,
      without_restoreContentLocked]
    rfl

lemma without_createSnapshotLocked (r : Option CreateSnapshotRequest) :
    withoutMutex (hpc.createSnapshotLocked r) = hpc.createSnapshot r := by
  unfold createSnapshotLocked createSnapshot
  rw [without_bind, without_unlocked]
  refine congrArg _ (funext fun req => ?_)
  dsimp only
  cases hpc.cfg.storagePoolInfo.lookup (getStoragePoolNameFromMap req.parameters) with
  | none => rfl
  | some info =>
      dsimp only
      cases info.snapshotPath with
      | none => rfl
      | some path =>
          cases hpc.snapshotproviders.lookup (getStoragePoolNameFromMap req.parameters) with
          | none => rfl
          | some provider => exact without_withSnapMutex _

lemma without_deleteSnapshotLocked (r : Option DeleteSnapshotRequest) :
    withoutMutex (hpc.deleteSnapshotLocked r) = hpc.deleteSnapshot r := by
  cases r with
  | none => rfl
  | some req =>
      unfold deleteSnapshotLocked deleteSnapshot
      dsimp only
      split_ifs
      · rfl
      · exact without_withSnapMutex _

lemma without_listSnapshotsLocked (r : Option ListSnapshotsRequest) :
    withoutMutex (hpc.listSnapshotsLocked r) = hpc.listSnapshots r := by
  cases r with
  | none => rfl
  | some req => exact without_withSnapMutex _

end HostPathController

/-- **Apart from the mutex**, a request makes the calls that it makes alone. -/
lemma HostPath.without_serveLocked (hp : HostPath) (q : Request) :
    withoutMutex (hp.serveLocked q) = hp.serve q := by
  cases q with
  | createVolume r =>
      rw [serveLocked, without_bind, hp.controller.without_createVolumeLocked]
      rfl
  | createSnapshot r =>
      rw [serveLocked, without_bind, hp.controller.without_createSnapshotLocked]
      rfl
  | deleteSnapshot r =>
      rw [serveLocked, without_bind, hp.controller.without_deleteSnapshotLocked]
      rfl
  | listSnapshots r =>
      rw [serveLocked, without_bind, hp.controller.without_listSnapshotsLocked]
      rfl
  | _ => exact without_unlocked _

/-! ## Every handler gives the mutex back -/

open Mutex (GivesBack)

lemma givesBack_unlocked {α : Type} (x : Sys α) : GivesBack (unlocked x) :=
  Mutex.balanced_plain x.run

lemma givesBack_withSnapMutex {α : Type} (x : Sys α) : GivesBack (withSnapMutex x) :=
  Mutex.balanced_locked x.run

namespace HostPathController

variable (hpc : HostPathController)

lemma givesBack_restoreContentLocked (req : CreateVolumeRequest) (pool : String) :
    GivesBack (hpc.restoreContentLocked req pool) := by
  unfold restoreContentLocked
  split
  · refine GivesBack.bind (GivesBack.attempt (givesBack_withSnapMutex _)) fun r => ?_
    cases r with
    | ok u => exact GivesBack.ret _
    | error err =>
        refine GivesBack.bind (GivesBack.attempt (givesBack_unlocked _)) fun r => ?_
        cases r with
        | ok u => exact GivesBack.fail _
        | error e => exact GivesBack.fail _
  · exact GivesBack.ret _

lemma givesBack_createVolumeLocked (r : Option CreateVolumeRequest) :
    GivesBack (hpc.createVolumeLocked r) := by
  refine GivesBack.bind (givesBack_unlocked _) fun req => ?_
  refine GivesBack.bind (givesBack_unlocked _) fun _ => ?_
  dsimp only
  split_ifs
  · exact GivesBack.fail _
  · refine GivesBack.bind (givesBack_unlocked _) fun capacity => ?_
    refine GivesBack.bind (GivesBack.bind (givesBack_unlocked _) fun _ => ?_) fun _ => GivesBack.ret _
    exact hpc.givesBack_restoreContentLocked req _

lemma givesBack_createSnapshotLocked (r : Option CreateSnapshotRequest) :
    GivesBack (hpc.createSnapshotLocked r) := by
  rcases hpc.createSnapshotLocked_cases r with ⟨e, he⟩ | ⟨_, _, _, _, _, _, _, _, heq⟩
  · rw [he]
    exact GivesBack.fail e
  · rw [heq]
    exact givesBack_withSnapMutex _

end HostPathController

/-- **Every request gives back the mutex it takes**, and never asks for it twice. -/
lemma HostPath.givesBack_serveLocked (hp : HostPath) (q : Request) :
    GivesBack (hp.serveLocked q) := by
  cases q with
  | createVolume r =>
      exact GivesBack.bind (hp.controller.givesBack_createVolumeLocked r) fun _ => GivesBack.ret _
  | createSnapshot r =>
      exact GivesBack.bind (hp.controller.givesBack_createSnapshotLocked r) fun _ => GivesBack.ret _
  | deleteSnapshot r =>
      refine GivesBack.bind ?_ fun _ => GivesBack.ret _
      cases r with
      | none => exact GivesBack.fail _
      | some req =>
          unfold HostPathController.deleteSnapshotLocked
          dsimp only
          split_ifs
          · exact GivesBack.fail _
          · exact givesBack_withSnapMutex _
  | listSnapshots r =>
      refine GivesBack.bind ?_ fun _ => GivesBack.ret _
      cases r with
      | none => exact GivesBack.fail _
      | some req => exact givesBack_withSnapMutex _
  | _ => exact givesBack_unlocked _

/-! ## All requests at the same time -/

/-- The requests that run at the same time, and whether one of them holds the mutex. -/
abbrev LockedServing := Pool (Mutex.Guard Host) (HostPath × Request) (Mutex.Call Syscall)
  (Mutex.Reply Reply) (Except Err Response)

/-- What a move of the driver is, with the mutex. -/
abbrev LockedMove := Move (HostPath × Request) (Mutex.Call Syscall) (Mutex.Reply Reply)

/-- One move of a driver that serves any requests at the same time. -/
def HostPath.AnyMoves (hp : HostPath) : LockedServing → LockedMove → LockedServing → Prop :=
  Mutex.Step Host.step (fun a => (a.1.serveLocked a.2).run) fun _ a => hp.Reorders a.1

/-- **The snapshot mutex is given back.**  However the calls of requests are interleaved, and
whichever of them fail, the mutex is held by one of the requests that run or by nobody; and without
a new request, all those that run can be brought to their answers, after which it is free. -/
theorem mutex_given_back {hp : HostPath} {h₀ : Host} {w : LockedServing}
    {tr : List (LockedServing × LockedMove)} (hr : Run hp.AnyMoves (Pool.idle ⟨h₀, false⟩) tr w) :
    ∃ holder, Mutex.Owned w holder
      ∧ ∃ tr' w', Run hp.AnyMoves w tr' w' ∧ (∀ x ∈ tr', ∀ i a, x.2 ≠ Move.start i a)
        ∧ (∀ i, w'.threads i = none) ∧ w'.shared.held = false := by
  obtain ⟨holder, hown, w', ⟨tr', hrun, hno⟩, hend⟩ := Mutex.owned_of_run
    (fun _ a _ => a.1.givesBack_serveLocked a.2) hr
  exact ⟨holder, hown, tr', w', hrun, hno, hend⟩

namespace Sample

/-- A volume that is filled from a snapshot that is not there. -/
def lostRestore : HostPath × Request :=
  (driver, Request.createVolume (some { volumeRequest "new" with
    volumeContentSource := some (VolumeContentSource.snapshot (some "lost")) }))

def listSnaps : HostPath × Request := (driver, Request.listSnapshots (some ⟨0, "", "", ""⟩))

/-- The restore has the mutex when the listing would like to have it. -/
def contended : List (Pool.Choice (HostPath × Request)) :=
  [Pool.Choice.start 0 lostRestore, Pool.Choice.start 1 listSnaps]
    ++ List.replicate 4 (Pool.Choice.go 0)

lemma eq_of_contended {i : ℕ} {a : HostPath × Request} (h : Pool.Choice.start i a ∈ contended) :
    a = lostRestore ∨ a = listSnaps := by
  simp only [contended, List.mem_append, List.mem_cons, Pool.Choice.start.injEq, List.mem_replicate,
    reduceCtorEq, List.not_mem_nil, and_false, or_false] at h
  exact h.imp (fun h => h.2) fun h => h.2

/-- The mutex is free if somebody takes it. -/
def takesFree (x : LockedServing × LockedMove) : Bool :=
  match x.2 with
  | Move.call _ _ Mutex.Call.lock _ => !x.1.shared.held
  | _ => true

end Sample

/-- A restore that will fail has the mutex while a listing waits for it; both can be answered. -/
theorem sample_given_back :
    ∃ tr w, Run Sample.driver.AnyMoves (Pool.idle ⟨Sample.emptyHost, false⟩) tr w
      ∧ w.shared.held = true ∧ (w.threads 1).isSome = true
      ∧ ∃ holder, Mutex.Owned w holder
        ∧ ∃ tr' w', Run Sample.driver.AnyMoves w tr' w'
          ∧ (∀ x ∈ tr', ∀ i a, x.2 ≠ Move.start i a)
          ∧ (∀ i, w'.threads i = none) ∧ w'.shared.held = false := by
  have hplay : ((Pool.play (Mutex.step Host.step) (fun a => (a.1.serveLocked a.2).run)
      Sample.contended (Pool.idle ⟨Sample.emptyHost, false⟩)).map fun r =>
        decide (r.1.all Sample.takesFree = true ∧ r.2.shared.held = true
          ∧ (r.2.threads 1).isSome = true)) = some true := by
    decide +kernel
  obtain ⟨⟨tr, w⟩, hrun, hend⟩ := Option.map_eq_some_iff.mp hplay
  obtain ⟨hfree, hheld, hwaits⟩ := of_decide_eq_true hend
  have hr : Run Sample.driver.AnyMoves (Pool.idle ⟨Sample.emptyHost, false⟩) tr w := by
    refine Mutex.run_of_free (Pool.run_of_play (fun i a ha _ => ?_) hrun) fun x hx i a r hmv => ?_
    · rcases Sample.eq_of_contended ha with rfl | rfl <;> exact HostPath.Reorders.refl _
    · have hx' := List.all_eq_true.mp hfree x hx
      rw [Sample.takesFree, hmv] at hx'
      simpa using hx'
  exact ⟨tr, w, hr, hheld, hwaits, mutex_given_back hr⟩

end Hostpath
