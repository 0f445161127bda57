import Hostpath.Legacy.VolumeStore

/-!
# The provision controller

The controller takes claims and volumes one after the other.  For a claim that is for it, it has the
provisioner make a volume and stores the object (`syncClaim`); for a volume that is no longer
needed, it has the provisioner remove the volume and deletes the object (`syncVolume`).

Both start from the object in the informer's cache, which may be out of date.  A claim is not looked
up again; a volume is, before it is deleted.

Claims whose volumes may still be in the making are remembered in `claimsInProgress`, so that they
are not forgotten when they leave the cache (`syncClaimHandler`, `finishClaim`).
-/

namespace Hostpath.Legacy

open Lib Prog

variable {B : Type} {RB : B → Type}

/-- A controller.  A threshold of zero is none. -/
structure ProvisionController {B : Type} (RB : B → Type) where
  provisionerName : String
  additionalProvisionerNames : List String
  provisioner : Provisioner RB
  kubeVersion : Version
  addFinalizer : Bool
  failedProvisionThreshold : ℤ
  volumeStore : PersistentVolume → Ctl RB (Option GoError)

namespace ProvisionController

variable (ctrl : ProvisionController RB)

def knownProvisioner (provisioner : String) : Bool :=
  provisioner = ctrl.provisionerName || ctrl.additionalProvisionerNames.contains provisioner

def getStorageClass (name : String) : Ctl RB (Except GoError StorageClass) := do
  match ← perform (Call.getStorageClass name) with
  | Except.error e => return Except.error (GoError.plain e)
  | Except.ok none =>
      return Except.error (GoError.plain ("storageClass \"" ++ name ++ "\" not found"))
  | Except.ok (some c) => return Except.ok c

/-! ## Claims -/

/-- Whether the provisioner, if it is asked, wants to provision the claim. -/
def qualify (claim : PersistentVolumeClaim) (bindingMode : Option VolumeBindingMode) :
    Ctl RB (Bool × PersistentVolumeClaim) :=
  match ctrl.provisioner.shouldProvision with
  | some shouldProvision => shouldProvision claim bindingMode
  | none => return (true, claim)

/-- Whether the claim asks for a volume of this provisioner. -/
def requested (claim : PersistentVolumeClaim) (c : StorageClass) : Bool :=
  if ctrl.kubeVersion.atLeast ⟨1, 5, 0⟩ then
    match claim.annotations.lookup annStorageProvisioner with
    | some provisioner => ctrl.knownProvisioner provisioner
    | none => false
  else c.provisioner = ctrl.provisionerName

/-- Whether a volume should be provisioned for the claim, and the claim as the check leaves it. -/
def shouldProvision (claim : PersistentVolumeClaim) :
    Ctl RB (Except GoError Bool × PersistentVolumeClaim) :=
  if claim.volumeName ≠ "" then return (Except.ok false, claim)
  else do
    match ← getStorageClass (getPersistentVolumeClaimClass claim) with
    | Except.error e => return (Except.error e, claim)
    | Except.ok c =>
        let (qualified, claim) ← ctrl.qualify claim c.volumeBindingMode
        if qualified then return (Except.ok (ctrl.requested claim c), claim)
        else return (Except.ok false, claim)

def supportsBlock : Bool := ctrl.provisioner.supportsBlock.getD false

def canProvision (claim : PersistentVolumeClaim) : Option GoError :=
  if checkPersistentVolumeClaimModeBlock claim && !ctrl.supportsBlock then
    some (GoError.plain (ctrl.provisionerName ++ " does not support block volume provisioning"))
  else none

/-- The node that the scheduler selected, if there is one and the cluster is recent enough. -/
def getSelectedNode (claim : PersistentVolumeClaim) : Ctl RB (Except GoError (Option String)) :=
  if ctrl.kubeVersion.atLeast ⟨1, 11, 0⟩ then
    match claim.annotations.lookup annSelectedNode with
    | none => return Except.ok none
    | some nodeName => do
        match ← perform (Call.getNode nodeName) with
        | Except.error e =>
            return Except.error (GoError.plain ("failed to get target node: " ++ e.message))
        | Except.ok _ => return Except.ok (some nodeName)
  else return Except.ok none

def claimReference (claim : PersistentVolumeClaim) : ObjectReference :=
  ⟨"PersistentVolumeClaim", "v1", claim.name, claim.ns, claim.uid⟩

/-- The object that the provisioner returned, as it is stored. -/
def completeVolume (claim : PersistentVolumeClaim) (volume : PersistentVolume) :
    PersistentVolume :=
  let volume := { volume with claimRef := some (claimReference claim) }
  let volume := if ctrl.addFinalizer && !checkFinalizer volume finalizerPV then
      { volume with finalizers := volume.finalizers ++ [finalizerPV] }
    else volume
  let volume := { volume with
    annotations := volume.annotations.insert annDynamicallyProvisioned ctrl.provisionerName }
  if ctrl.kubeVersion.atLeast ⟨1, 6, 0⟩ then
    { volume with storageClassName := getPersistentVolumeClaimClass claim }
  else
    { volume with
      annotations := volume.annotations.insert annClass (getPersistentVolumeClaimClass claim) }

/-- Ask the provisioner for a volume. -/
def callProvision (options : ProvisionOptions) :
    Ctl RB (Except GoError PersistentVolume × ProvisioningState) :=
  match ctrl.provisioner.provisionExt with
  | some provisionExt => provisionExt options
  | none => do return (← ctrl.provisioner.provision options, ProvisioningState.finished)

/-- The part of `provisionClaimOperation` after all checks. -/
def provisionAndStore (claim : PersistentVolumeClaim) (options : ProvisionOptions) :
    Ctl RB (ProvisioningState × Option GoError) := do
  match ← ctrl.callProvision options with
  | (Except.error (GoError.ignored _), _) => return (ProvisioningState.finished, none)
  | (Except.error (GoError.plain message), result) =>
      return (result, some (GoError.plain ("failed to provision volume with StorageClass \""
        ++ getPersistentVolumeClaimClass claim ++ "\": " ++ message)))
  | (Except.ok volume, _) =>
      return (ProvisioningState.finished,
        ← ctrl.volumeStore (ctrl.completeVolume claim volume))

def provisionClaimOperation (claim : PersistentVolumeClaim) :
    Ctl RB (ProvisioningState × Option GoError) := do
  let pvName := getProvisionedVolumeNameForClaim claim
  match ← perform (Call.getVolume pvName) with
  | Except.ok _ => return (ProvisioningState.finished, none)
  | Except.error _ =>
  match ← perform (Call.getReference claim) with
  | Except.error _ => return (ProvisioningState.noChange, none)
  | Except.ok _ =>
  match ctrl.canProvision claim with
  | some _ => return (ProvisioningState.finished, none)
  | none =>
  match ← getStorageClass (getPersistentVolumeClaimClass claim) with
  | Except.error e => return (ProvisioningState.finished, some e)
  | Except.ok c =>
  if !ctrl.knownProvisioner c.provisioner then return (ProvisioningState.finished, none)
  else
    match ← ctrl.getSelectedNode claim with
    | Except.error e => return (ProvisioningState.noChange, some e)
    | Except.ok selectedNode => ctrl.provisionAndStore claim ⟨c, pvName, claim, selectedNode⟩

/-- What became of the claim, and the claim as it was left. -/
def syncClaim (claim : PersistentVolumeClaim) :
    Ctl RB ((ProvisioningState × Option GoError) × PersistentVolumeClaim) := do
  match ← ctrl.shouldProvision claim with
  | (Except.error e, claim) => return ((ProvisioningState.finished, some e), claim)
  | (Except.ok true, claim) => return (← ctrl.provisionClaimOperation claim, claim)
  | (Except.ok false, claim) => return ((ProvisioningState.finished, none), claim)

/-! ## Claims in progress -/

/-- Sync the claim with a certain UID.  `objs` is what the cache has under that UID and
`inProgress` the entry of `claimsInProgress`, which is returned as it is afterwards. -/
def syncClaimHandler (objs : Except String (Option PersistentVolumeClaim))
    (inProgress : Option PersistentVolumeClaim) :
    Ctl RB ((ProvisioningState × Option GoError) × Option PersistentVolumeClaim) :=
  match objs with
  | Except.error e => return ((ProvisioningState.finished, some (GoError.plain e)), inProgress)
  | Except.ok cached =>
  match cached.or inProgress with
  | none => return ((ProvisioningState.finished, none), inProgress)
  | some claim => do
      let ((status, err), claim) ← ctrl.syncClaim claim
      if err = none ∨ status = ProvisioningState.finished then return ((status, err), none)
      else if status = ProvisioningState.inBackground then return ((status, err), some claim)
      else if cached.isSome then return ((status, err), inProgress)
      else return ((status, err), some claim)

/-- What `processNextClaimWorkItem` does after the sync, to the entry of `claimsInProgress`. -/
def finishClaim (numRequeues : ℕ) (err : Option GoError)
    (inProgress : Option PersistentVolumeClaim) : Option PersistentVolumeClaim :=
  if err.isSome then
    if ctrl.failedProvisionThreshold = 0 then inProgress
    else if numRequeues < ctrl.failedProvisionThreshold then inProgress
    else none
  else none

/-! ## Volumes -/

/-- What `shouldDelete` asks of the object itself. -/
def deletable (volume : PersistentVolume) : Bool :=
  if ctrl.kubeVersion.atLeast ⟨1, 9, 0⟩ && (ctrl.addFinalizer && !checkFinalizer volume finalizerPV
      && volume.deletionTimestamp) then false
  else if ctrl.kubeVersion.atLeast ⟨1, 9, 0⟩ && volume.deletionTimestamp then false
  else if ctrl.kubeVersion.atLeast ⟨1, 5, 0⟩
      && volume.phase ≠ PersistentVolumePhase.released then false
  else if !ctrl.kubeVersion.atLeast ⟨1, 5, 0⟩ && (volume.phase ≠ PersistentVolumePhase.released
      && volume.phase ≠ PersistentVolumePhase.failed) then false
  else if volume.reclaimPolicy ≠ PersistentVolumeReclaimPolicy.delete then false
  else
    match volume.annotations.lookup annDynamicallyProvisioned with
    | none => false
    | some ann => ann = ctrl.provisionerName

def shouldDelete (volume : PersistentVolume) : Ctl RB Bool :=
  match ctrl.provisioner.shouldDelete with
  | none => return ctrl.deletable volume
  | some shouldDelete => do
      if ← shouldDelete volume then return ctrl.deletable volume
      else return false

/-- Take the finalizer off an object that was deleted. -/
def removeFinalizer (name : String) : Ctl RB (Option GoError) := do
  match ← perform (Call.getVolume name) with
  | Except.error e =>
      if e.reason = StatusReason.notFound then return none
      else return some (GoError.plain e.message)
  | Except.ok newVolume =>
      let finalizers := newVolume.finalizers.filter fun f => f ≠ finalizerPV
      if finalizers.length ≠ newVolume.finalizers.length then
        match ← perform (Call.updateVolume { newVolume with finalizers := finalizers }) with
        | Except.error e =>
            if e.reason = StatusReason.notFound then return none
            else return some (GoError.plain e.message)
        | Except.ok _ => return none
      else return none

/-- The part of `deleteVolumeOperation` after the provisioner has answered. -/
def deleteObject (name : String) (newVolume : PersistentVolume) :
    Option GoError → Ctl RB (Option GoError)
  | some (GoError.ignored _) => return none
  | some (GoError.plain message) => return some (GoError.plain message)
  | none => do
      match ← perform (Call.deleteVolume name) with
      | Except.error e => return some (GoError.plain e.message)
      | Except.ok _ =>
          if ctrl.addFinalizer && 0 < newVolume.finalizers.length then removeFinalizer name
          else return none

/-- Delete a volume.  The object that is checked is read again; what the provisioner is given is the
copy from the cache. -/
def deleteVolumeOperation (volume : PersistentVolume) : Ctl RB (Option GoError) := do
  match ← perform (Call.getVolume volume.name) with
  | Except.error _ => return none
  | Except.ok newVolume =>
  if !(← ctrl.shouldDelete newVolume) then return none
  else ctrl.deleteObject volume.name newVolume (← ctrl.provisioner.delete volume)

def syncVolume (volume : PersistentVolume) : Ctl RB (Option GoError) := do
  if ← ctrl.shouldDelete volume then ctrl.deleteVolumeOperation volume
  else return none

/-! ## With the host path provisioner -/

section HostPath

variable {ctrl : ProvisionController NodeReply} {p : HostPathProvisioner}

/-- The host path provisioner does not guard deletions. -/
lemma shouldDelete_eq (hp : ctrl.provisioner = p.provisioner) (v : PersistentVolume) :
    ctrl.shouldDelete v = pure (ctrl.deletable v) := by
  rw [shouldDelete, hp]
  rfl

lemma syncVolume_eq (hp : ctrl.provisioner = p.provisioner) (volume : PersistentVolume) :
    ctrl.syncVolume volume
      = if ctrl.deletable volume then ctrl.deleteVolumeOperation volume else pure none := by
  rw [syncVolume, shouldDelete_eq hp]
  rfl

end HostPath

end ProvisionController

end Hostpath.Legacy
