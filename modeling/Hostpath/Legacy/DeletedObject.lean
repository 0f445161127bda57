import Hostpath.Lib.Transcript
import Hostpath.Legacy.StoreTruth
import Hostpath.Legacy.Controller

/-!
# Which directory goes with which object

Before it deletes a volume, `deleteVolumeOperation` reads the object again, and it deletes it only
if the object that it then sees should be deleted.  But what it hands to the provisioner is the copy
from the cache, and in the meantime another object may have taken the name.

Other clients can change anything between two calls.  So nothing is assumed about the replies,
except that the object read again is `newVolume`.  `removes_own_iff` says for which cached copies
the directory removed is then the directory of `newVolume`.
-/

namespace Hostpath.Legacy

open Lib Prog

/-- The directory that a call removes. -/
def removedPath : Sigma (Answer NodeReply) → Option String
  | ⟨Call.backend ⟨_, Syscall.removeAll path⟩, _⟩ => some path
  | _ => none

/-- Who looks at a volume sees `newVolume`.  Any other call can have any reply. -/
def Rereads (newVolume : PersistentVolume) : (c : Call NodeCall) → Answer NodeReply c → Prop
  | Call.getVolume _, r => r = Except.ok newVolume
  | _, _ => True

namespace ProvisionController

/-- After the calls `t`, made with the cached copy `volume`, it is right to delete the object
`newVolume`: it is to be deleted, exactly its directory was removed, and the annotations that the
provisioner checked are the annotations that it has. -/
structure Belongs (ctrl : ProvisionController NodeReply) (volume newVolume : PersistentVolume)
    (t : List (Sigma (Answer NodeReply))) : Prop where
  deletable : ctrl.deletable newVolume = true
  removed : t.filterMap removedPath = newVolume.hostPath.toList
  identity : volume.annotations.lookup annIdentity = newVolume.annotations.lookup annIdentity
  node : volume.annotations.lookup annProvisionOnNode
    = newVolume.annotations.lookup annProvisionOnNode

/-- Whenever `deleteVolumeOperation` deletes the object, the directory it removed before belongs to
the object it read. -/
def RemovesOwn (ctrl : ProvisionController NodeReply) (volume newVolume : PersistentVolume) :
    Prop :=
  Logs (fun t c => ∀ name, c = Call.deleteVolume name → ctrl.Belongs volume newVolume t)
    (Rereads newVolume) (fun _ _ => True) [] (ctrl.deleteVolumeOperation volume).run

variable {ctrl : ProvisionController NodeReply} {p : HostPathProvisioner}
  {volume newVolume : PersistentVolume}

/-- What follows the deletion of the object deletes nothing more. -/
lemma logs_removeFinalizer {P : List (Sigma (Answer NodeReply)) → Call NodeCall → Prop}
    {V : (c : Call NodeCall) → Answer NodeReply c → Prop} {t : List (Sigma (Answer NodeReply))}
    {name : String} (hget : ∀ t, P t (Call.getVolume name))
    (hupdate : ∀ t v, P t (Call.updateVolume v)) :
    Logs P V (fun _ _ => True) t (removeFinalizer name : Ctl NodeReply (Option GoError)).run := by
  refine logs_perform.mpr ⟨hget t, fun r _ => ?_⟩
  cases r with
  | error e => exact logs_ite.mpr ⟨fun _ => trivial, fun _ => trivial⟩
  | ok v =>
      refine logs_ite.mpr ⟨fun _ => logs_perform.mpr ⟨hupdate _ _, fun r _ => ?_⟩, fun _ => trivial⟩
      cases r with
      | error e => exact logs_ite.mpr ⟨fun _ => trivial, fun _ => trivial⟩
      | ok u => trivial

/-- If the provisioner leaves the cached copy alone, the object is not deleted. -/
lemma removesOwn_of_not_removes (hp : ctrl.provisioner = p.provisioner)
    (h : ∀ path, ¬ p.Removes volume path) : ctrl.RemovesOwn volume newVolume := by
  have hdelete : ctrl.provisioner.delete volume = p.delete volume := by rw [hp]; rfl
  rw [RemovesOwn, deleteVolumeOperation, hdelete]
  simp only [shouldDelete_eq hp]
  rcases p.delete_of_not_removes h with ⟨e, he⟩ | ⟨e, he⟩ <;> rw [he]
  · refine logs_perform.mpr ⟨nofun, fun r hr => ?_⟩
    obtain rfl : r = Except.ok newVolume := hr
    refine logs_ite.mpr ⟨fun _ => trivial, fun _ => ?_⟩
    cases e <;> trivial
  · refine logs_perform.mpr ⟨nofun, fun r hr => ?_⟩
    obtain rfl : r = Except.ok newVolume := hr
    exact logs_ite.mpr ⟨fun _ => trivial, fun _ => trivial⟩

/-- If it removes the directory `path`, everything depends on the moment after that. -/
lemma removesOwn_of_removes (hp : ctrl.provisioner = p.provisioner) {path : String}
    (h : p.Removes volume path) :
    ctrl.RemovesOwn volume newVolume ↔ (ctrl.deletable newVolume = true →
      ctrl.Belongs volume newVolume [⟨Call.getVolume volume.name, Except.ok newVolume⟩,
        ⟨Call.backend ⟨p.nodeName, Syscall.removeAll path⟩, Except.ok ()⟩]) := by
  have hdelete : ctrl.provisioner.delete volume = p.delete volume := by rw [hp]; rfl
  rw [RemovesOwn, deleteVolumeOperation, hdelete, p.delete_of_removes h]
  simp only [shouldDelete_eq hp]
  constructor
  · intro hrun hdel
    have hget := (logs_perform.mp hrun).2 (Except.ok newVolume) rfl
    have hremove := (logs_perform.mp ((logs_ite.mp hget).2 (by simp [hdel]))).2
      (Except.ok ()) trivial
    exact (logs_perform.mp hremove).1 volume.name rfl
  · intro hbelongs
    refine logs_perform.mpr ⟨nofun, fun r hr => ?_⟩
    obtain rfl : r = Except.ok newVolume := hr
    refine logs_ite.mpr ⟨fun _ => trivial, fun hdel => ?_⟩
    refine logs_perform.mpr ⟨nofun, fun r _ => ?_⟩
    cases r with
    | error e => trivial
    | ok u =>
        refine logs_perform.mpr ⟨fun _ _ => hbelongs (by simpa using hdel), fun r _ => ?_⟩
        cases r with
        | error e => trivial
        | ok u =>
            exact logs_ite.mpr ⟨fun _ => logs_removeFinalizer (fun _ => nofun) (fun _ _ => nofun),
              fun _ => trivial⟩

/--
  **When the directory removed belongs to the object deleted**: if the object read again is to be
  deleted and the provisioner removes the directory of the cached copy, then the two have the same
  directory and the same annotations.
-/
theorem removes_own_iff (hp : ctrl.provisioner = p.provisioner) :
    ctrl.RemovesOwn volume newVolume
      ↔ (ctrl.deletable newVolume = true →
        ∀ path, p.Removes volume path → p.Removes newVolume path) := by
  by_cases h : ∃ path, p.Removes volume path
  · obtain ⟨path, hpath⟩ := h
    refine (removesOwn_of_removes hp hpath).trans (imp_congr_right fun hdel => ?_)
    constructor
    · intro hb path' hpath'
      obtain rfl : path = path' := Option.some.inj (hpath.hostPath.symm.trans hpath'.hostPath)
      have hremoved : [path] = newVolume.hostPath.toList := hb.removed
      refine ⟨hb.identity.symm.trans hpath.identity, hb.node.symm.trans hpath.node, ?_⟩
      cases hn : newVolume.hostPath with
      | none => simp [hn] at hremoved
      | some other => simpa [hn] using hremoved.symm
    · intro hsame
      have hnew := hsame path hpath
      refine ⟨hdel, ?_, hpath.identity.trans hnew.identity.symm, hpath.node.trans hnew.node.symm⟩
      rw [hnew.hostPath]
      rfl
  · have hnot : ∀ path, ¬ p.Removes volume path := fun path hpath => h ⟨path, hpath⟩
    exact iff_of_true (removesOwn_of_not_removes hp hnot) fun _ path hpath =>
      absurd hpath (hnot path)

end ProvisionController

namespace Sample

/-- A controller with the default options, but for the finalizer. -/
def controller (addFinalizer : Bool) : ProvisionController NodeReply where
  provisionerName := defaultProvisionerName
  additionalProvisionerNames := []
  provisioner := provisioner.provisioner
  kubeVersion := ⟨1, 20, 0⟩
  addFinalizer := addFinalizer
  failedProvisionThreshold := 15
  volumeStore := BackoffStore.storeVolume (StoreOptions.none.backoff id) provisioner.provisioner

/-- The volume as the controller stored it, after its claim is gone. -/
def released : PersistentVolume :=
  { (controller false).completeVolume claim volume with phase := PersistentVolumePhase.released }

/-- Another volume of the same name, with another directory on another node. -/
def successor : PersistentVolume :=
  { released with
    annotations := released.annotations.insert annProvisionOnNode "far"
    hostPath := some "/pv/other" }

/-- The nodes have both directories, and the second volume is stored. -/
def replaced : Cluster where
  api := (cluster fun _ => none).api.put successor
  hosts := fun _ => { host with
    fs := (FileTree.empty.create ["pv", "pvc-1"] fun _ => true).create ["pv", "other"] fun _ => true }

end Sample

/-- The cached copy is what is stored. -/
theorem sample_removes_own :
    (Sample.controller false).RemovesOwn Sample.released Sample.released :=
  Iff.mpr (ProvisionController.removes_own_iff (p := Sample.provisioner) rfl) fun _ _ h => h

/-- The controller on `node` syncs the first volume when the second has taken its name.  It removes
the directory of the first and deletes the object of the second, whose directory on `far` stays. -/
theorem removes_another :
    ¬ (Sample.controller false).RemovesOwn Sample.released Sample.successor
      ∧ (Sample.replaced.exec ((Sample.controller false).syncVolume Sample.released)).1.toOption
        = some none
      ∧ (let w := (Sample.replaced.exec ((Sample.controller false).syncVolume Sample.released)).2
        w.api.volumes "pvc-1" = none ∧ (w.hosts "node").fs.node ["pv", "pvc-1"] = none
          ∧ (w.hosts "far").fs.node ["pv", "other"] = some Node.dir) := by
  refine ⟨fun h => ?_, by decide +kernel, by decide +kernel, by decide +kernel, by decide +kernel⟩
  have hremoves : Sample.provisioner.Removes Sample.released "/pv/pvc-1" :=
    ⟨by decide, by decide, by decide⟩
  have hbelongs := (ProvisionController.removesOwn_of_removes rfl hremoves).mp h (by decide)
  exact absurd hbelongs.removed (by decide)

end Hostpath.Legacy
