import Hostpath.Csi.Utils

/-!
# The objects of the legacy provisioner

The legacy provisioner is a controller that watches claims and volumes in the API server of the
cluster.  It makes a directory for a claim on its node, stores a `PersistentVolume` that names the
directory, and takes both away once the volume is released.

This file has the objects, as far as the controller reads or writes them, and the functions of the
controller that look at one object and make no call.
-/

namespace Hostpath.Legacy

/-! ## Objects -/

inductive PersistentVolumeReclaimPolicy where
  | delete
  | retain
  | recycle
  deriving DecidableEq, Repr

inductive PersistentVolumePhase where
  | pending
  | available
  | bound
  | released
  | failed
  deriving DecidableEq, Repr

inductive VolumeBindingMode where
  | immediate
  | waitForFirstConsumer
  deriving DecidableEq, Repr

inductive PersistentVolumeMode where
  | block
  | filesystem
  deriving DecidableEq, Repr

inductive PersistentVolumeAccessMode where
  | readWriteOnce
  | readOnlyMany
  | readWriteMany
  deriving DecidableEq, Repr

structure ObjectReference where
  kind : String
  apiVersion : String
  name : String
  ns : String
  uid : String
  deriving DecidableEq, Repr

/-- A volume.  The node affinity is the list of host names it requires; whether the object is being
deleted is all that is read of its deletion timestamp. -/
structure PersistentVolume where
  name : String
  annotations : GoMap String
  finalizers : List String
  deletionTimestamp : Bool
  reclaimPolicy : PersistentVolumeReclaimPolicy
  accessModes : List PersistentVolumeAccessMode
  capacity : Int64
  hostPath : Option String
  nodeAffinity : List String
  claimRef : Option ObjectReference
  storageClassName : String
  phase : PersistentVolumePhase
  deriving DecidableEq

structure PersistentVolumeClaim where
  ns : String
  name : String
  uid : String
  annotations : GoMap String
  volumeName : String
  storageClassName : Option String
  volumeMode : Option PersistentVolumeMode
  storageRequest : ℤ
  deriving DecidableEq

structure StorageClass where
  name : String
  provisioner : String
  reclaimPolicy : Option PersistentVolumeReclaimPolicy
  volumeBindingMode : Option VolumeBindingMode
  deriving DecidableEq, Repr

structure ProvisionOptions where
  storageClass : StorageClass
  pvName : String
  pvc : PersistentVolumeClaim
  selectedNode : Option String
  deriving DecidableEq

/-- Whether a volume may still be in the making after a call of the provisioner returned. -/
inductive ProvisioningState where
  | inBackground
  | finished
  | noChange
  deriving DecidableEq, Repr

/-! ## Names -/

def annClass : String := "volume.beta.kubernetes.io/storage-class"

def annDynamicallyProvisioned : String := "pv.kubernetes.io/provisioned-by"

def annStorageProvisioner : String := "volume.beta.kubernetes.io/storage-provisioner"

def annSelectedNode : String := "volume.kubernetes.io/selected-node"

def annProvisionOnNode : String := "kubevirt.io/provisionOnNode"

def annIdentity : String := "hostPathProvisionerIdentity"

def finalizerPV : String := "external-provisioner.volume.kubernetes.io/finalizer"

def defaultProvisionerName : String := "kubevirt.io/hostpath-provisioner"

/-! ## Errors -/

inductive StatusReason where
  | notFound
  | alreadyExists
  | other
  deriving DecidableEq, Repr

/-- What the API server, or the connection to it, reports instead of a result. -/
structure ApiError where
  reason : StatusReason
  message : String
  deriving DecidableEq, Repr

/-- The error values that the controller hands around; `ignored` is the one it tells apart. -/
inductive GoError where
  | ignored (reason : String)
  | plain (message : String)
  deriving DecidableEq, Repr

/-! ## Looking at claims -/

def getPersistentVolumeClaimClass (claim : PersistentVolumeClaim) : String :=
  match claim.annotations.lookup annClass with
  | some name => name
  | none => claim.storageClassName.getD ""

def checkPersistentVolumeClaimModeBlock (claim : PersistentVolumeClaim) : Bool :=
  claim.volumeMode = some PersistentVolumeMode.block

def getProvisionedVolumeNameForClaim (claim : PersistentVolumeClaim) : String :=
  "pvc-" ++ claim.uid

def isCorrectNode (annotations : GoMap String) (nodeName annotationName : String) : Bool :=
  match annotations.lookup annotationName with
  | some val => val = nodeName
  | none => false

/-- Whether a claim with these annotations is for this node.  The annotations belong to the object
in the informer's cache, and a claim that names the node gets the provisioner annotation there. -/
def isCorrectNodeByBindingMode (annotations : GoMap String) (nodeName : String)
    (bindingMode : VolumeBindingMode) : Bool × GoMap String :=
  if (annotations.lookup annProvisionOnNode).isSome then
    if isCorrectNode annotations nodeName annProvisionOnNode then
      (true, annotations.insert annStorageProvisioner defaultProvisionerName)
    else (false, annotations)
  else if bindingMode = VolumeBindingMode.waitForFirstConsumer then
    (isCorrectNode annotations nodeName annSelectedNode, annotations)
  else (false, annotations)

def checkFinalizer (volume : PersistentVolume) (finalizer : String) : Bool :=
  volume.finalizers.contains finalizer

/-! ## The version of the cluster -/

structure Version where
  major : ℕ
  minor : ℕ
  patch : ℕ
  deriving DecidableEq, Repr

def Version.atLeast (v w : Version) : Bool :=
  w.major < v.major || w.major = v.major && (w.minor < v.minor
    || w.minor = v.minor && w.patch ≤ v.patch)

end Hostpath.Legacy
