import Hostpath.Legacy.Api

/-!
# Provisioners

What the controller asks of a provisioner, and the provisioner that makes host path volumes.  A
provisioner may implement more than the two methods that every provisioner has; the others are
optional here as they are there.
-/

namespace Hostpath.Legacy

open Lib FilePath Prog

variable {B : Type} {RB : B → Type}

/-- A provisioner, with the optional interfaces `ProvisionerExt`, `Qualifier`, `DeletionGuard` and
`BlockProvisioner`.  A qualifier is handed the object in the informer's cache, and what it writes
to it is seen by whoever looks at the object later. -/
structure Provisioner {B : Type} (RB : B → Type) where
  provision : ProvisionOptions → Ctl RB (Except GoError PersistentVolume)
  provisionExt : Option (ProvisionOptions →
    Ctl RB (Except GoError PersistentVolume × ProvisioningState))
  delete : PersistentVolume → Ctl RB (Option GoError)
  shouldProvision : Option (PersistentVolumeClaim → Option VolumeBindingMode →
    Ctl RB (Bool × PersistentVolumeClaim))
  shouldDelete : Option (PersistentVolume → Ctl RB Bool)
  supportsBlock : Option Bool

/-! ## Capacity

The provisioner has its own copy of the rounding. -/

def kiB : Int64 := 1024

def miB : Int64 := 1024 * kiB

def giB : Int64 := 1024 * miB

def roundDownCapacityPretty (capacityBytes : Int64) : Int64 :=
  match [giB, miB].find? fun unit => 10 ≤ capacityBytes / unit with
  | some unit => capacityBytes / unit * unit
  | none => capacityBytes

/-! ## The host path provisioner -/

structure HostPathProvisioner where
  pvDir : String
  identity : String
  nodeName : String
  useNamingPrefix : Bool
  deriving DecidableEq, Repr

namespace HostPathProvisioner

/-- A call to the operating system of the provisioner's node. -/
def onNode (p : HostPathProvisioner) (c : Syscall) : Ctl NodeReply (Reply c) :=
  perform (Call.backend (⟨p.nodeName, c⟩ : NodeCall))

lemma exec_onNode {α : Type} {w : Cluster} (p : HostPathProvisioner) {c : Syscall}
    {k : Reply c → Ctl NodeReply α} : w.exec (p.onNode c >>= k)
      = (w.step (Call.backend ⟨p.nodeName, c⟩)).2.exec
        (k (w.step (Call.backend ⟨p.nodeName, c⟩)).1) := rfl

def calculatePvCapacity (p : HostPathProvisioner) (path : String) :
    Ctl NodeReply (Except GoError Int64) := do
  match ← p.onNode (Syscall.statfs path) with
  | Except.error e => return Except.error (GoError.plain e.text)
  | Except.ok s => return Except.ok (roundDownCapacityPretty (s.blocks.toInt64 * s.bsize))

def shouldProvision (p : HostPathProvisioner) (pvc : PersistentVolumeClaim)
    (bindingMode : Option VolumeBindingMode) : Ctl NodeReply (Bool × PersistentVolumeClaim) :=
  match bindingMode with
  | none => throw "invalid memory address or nil pointer dereference"
  | some mode =>
      let node := isCorrectNodeByBindingMode pvc.annotations p.nodeName mode
      if node.1 then do
        match ← p.calculatePvCapacity p.pvDir with
        | Except.error _ => return (false, { pvc with annotations := node.2 })
        | Except.ok capacity =>
            return (pvc.storageRequest ≤ capacity.toInt, { pvc with annotations := node.2 })
      else return (false, { pvc with annotations := node.2 })

/-- Where the directory of a volume is. -/
def vPath (p : HostPathProvisioner) (options : ProvisionOptions) : String :=
  if p.useNamingPrefix then join [p.pvDir, options.pvc.name ++ "-" ++ options.pvName]
  else join [p.pvDir, options.pvName]

/-- The object for a new directory.  Its reclaim policy is always `Delete`. -/
def newVolume (p : HostPathProvisioner) (options : ProvisionOptions) (capacity : Int64) :
    PersistentVolume where
  name := options.pvName
  annotations := (AList.singleton annIdentity p.identity).insert annProvisionOnNode p.nodeName
  finalizers := []
  deletionTimestamp := false
  reclaimPolicy := PersistentVolumeReclaimPolicy.delete
  accessModes := [PersistentVolumeAccessMode.readWriteOnce]
  capacity := capacity
  hostPath := some (p.vPath options)
  nodeAffinity := [p.nodeName]
  claimRef := none
  storageClassName := ""
  phase := PersistentVolumePhase.pending

def provision (p : HostPathProvisioner) (options : ProvisionOptions) :
    Ctl NodeReply (Except GoError PersistentVolume) := do
  match ← p.calculatePvCapacity p.pvDir with
  | Except.error e => return Except.error e
  | Except.ok capacity =>
      match ← p.onNode (Syscall.mkdirAll (p.vPath options)) with
      | Except.error e => return Except.error (GoError.plain e.text)
      | Except.ok _ => return Except.ok (p.newVolume options capacity)

def delete (p : HostPathProvisioner) (volume : PersistentVolume) :
    Ctl NodeReply (Option GoError) :=
  match volume.annotations.lookup annIdentity with
  | none => return some (GoError.plain "identity annotation not found on PV")
  | some ann =>
      if ann ≠ p.identity then
        return some (GoError.ignored "identity annotation on PV does not match ours")
      else if !isCorrectNode volume.annotations p.nodeName annProvisionOnNode then
        return some (GoError.ignored
          "identity annotation on pvc does not match ours, not deleting PV")
      else
        match volume.hostPath with
        | none => throw "invalid memory address or nil pointer dereference"
        | some path => do
            match ← p.onNode (Syscall.removeAll path) with
            | Except.error e => return some (GoError.plain e.text)
            | Except.ok _ => return none

/-- The volume is one that this provisioner removes, and its directory. -/
structure Removes (p : HostPathProvisioner) (volume : PersistentVolume) (path : String) : Prop where
  identity : volume.annotations.lookup annIdentity = some p.identity
  node : volume.annotations.lookup annProvisionOnNode = some p.nodeName
  hostPath : volume.hostPath = some path

section Delete

variable {p : HostPathProvisioner} {volume : PersistentVolume} {path : String}

lemma delete_of_removes (h : p.Removes volume path) :
    p.delete volume = p.onNode (Syscall.removeAll path) >>= fun r => match r with
      | Except.error e => pure (some (GoError.plain e.text))
      | Except.ok _ => pure none := by
  unfold delete
  rw [h.identity, h.hostPath]
  simp [isCorrectNode, h.node]

/-- A volume that is not this provisioner's is left alone, with an error or with a panic. -/
lemma delete_of_not_removes (h : ∀ path, ¬ p.Removes volume path) :
    (∃ e, p.delete volume = pure (some e)) ∨ ∃ e, p.delete volume = throw e := by
  unfold delete
  cases hid : volume.annotations.lookup annIdentity with
  | none => exact Or.inl ⟨_, rfl⟩
  | some ann =>
      by_cases hann : ann = p.identity
      · subst hann
        by_cases hnode : volume.annotations.lookup annProvisionOnNode = some p.nodeName
        · cases hpath : volume.hostPath with
          | none =>
              refine Or.inr ⟨"invalid memory address or nil pointer dereference", ?_⟩
              simp [isCorrectNode, hnode]
          | some path => exact absurd ⟨hid, hnode, hpath⟩ (h path)
        · refine Or.inl ⟨GoError.ignored
            "identity annotation on pvc does not match ours, not deleting PV", ?_⟩
          have hfar : isCorrectNode volume.annotations p.nodeName annProvisionOnNode = false := by
            unfold isCorrectNode
            cases hn : volume.annotations.lookup annProvisionOnNode with
            | none => rfl
            | some val => simpa using fun hv => hnode (by rw [hn, hv])
          simp [hfar]
      · refine Or.inl ⟨GoError.ignored "identity annotation on PV does not match ours", ?_⟩
        simp [hann]

lemma exec_delete_of_removes {w : Cluster} (h : p.Removes volume path) :
    w.exec (p.delete volume)
      = (Except.ok (match ((w.hosts p.nodeName).step (Syscall.removeAll path)).1 with
        | Except.error e => some (GoError.plain e.text)
        | Except.ok _ => none),
        (w.step (Call.backend ⟨p.nodeName, Syscall.removeAll path⟩)).2) := by
  rw [delete_of_removes h, exec_onNode]
  have hreply : (w.step (Call.backend ⟨p.nodeName, Syscall.removeAll path⟩)).1
      = ((w.hosts p.nodeName).step (Syscall.removeAll path)).1 := rfl
  rw [hreply]
  cases ((w.hosts p.nodeName).step (Syscall.removeAll path)).1 <;> rfl

lemma exec_delete_of_not_removes {w : Cluster} (h : ∀ path, ¬ p.Removes volume path) :
    ∃ r, w.exec (p.delete volume) = (r, w) ∧ r ≠ Except.ok none := by
  rcases delete_of_not_removes h with ⟨e, he⟩ | ⟨e, he⟩
  · exact ⟨Except.ok (some e), by rw [he]; rfl, by simp⟩
  · exact ⟨Except.error e, by rw [he]; rfl, by simp⟩

end Delete

/-- As a provisioner: it is also a `Qualifier`, and nothing else. -/
def provisioner (p : HostPathProvisioner) : Provisioner NodeReply where
  provision := p.provision
  provisionExt := none
  delete := p.delete
  shouldProvision := some p.shouldProvision
  shouldDelete := none
  supportsBlock := none

end HostPathProvisioner

end Hostpath.Legacy
