import Hostpath.Csi.Controller
import Hostpath.Csi.Node
import Hostpath.Csi.Storage

/-!
# The driver

Starting the driver from a list of storage pools, and the requests it serves once it runs.
-/

namespace Hostpath

open Lib FilePath Prog

structure HostPath where
  node : HostPathNode
  controller : HostPathController

/-- The configuration with the decoded storage pools put in: the first pool is the default unless
one is set, and of two pools with one name the later stays. -/
def Config.withPools (cfg : Config) (storagePools : List StoragePoolInfo) : Config :=
  storagePools.foldl
    (fun c p =>
      { c with
        defaultStoragePoolName :=
          if c.defaultStoragePoolName = "" then p.name else c.defaultStoragePoolName
        storagePoolInfo := c.storagePoolInfo.insert p.name p })
    { cfg with storagePoolInfo := ∅ }

def createDataRoots : List (Sigma fun _ : String => StoragePoolInfo) → Sys Unit
  | [] => pure ()
  | ⟨name, info⟩ :: rest => do
      match ← perform (Syscall.mkdirAll info.path) with
      | Except.ok _ => createDataRoots rest
      | Except.error e =>
          throw (Err.plain
            ("failed to create dataRoot for storage pool " ++ name ++ ": " ++ e.text))

/-- The storage pools are decoded from a JSON text; `none` is a text that does not decode. -/
def newHostPathDriver (cfg : Config) (dataDir : Option (List StoragePoolInfo)) :
    Sys HostPath := do
  if cfg.driverName = "" then throw (Err.plain "no driver name provided")
  else if cfg.nodeID = "" then throw (Err.plain "no node id provided")
  else if cfg.endpoint = "" then throw (Err.plain "no driver endpoint provided")
  else if cfg.version = "" then throw (Err.plain "no version provided")
  else match dataDir with
    | none => throw (Err.plain "unable to parse storage pool info")
    | some storagePools =>
        let cfg := cfg.withPools storagePools
        createDataRoots cfg.storagePoolInfo.entries
        let controller ← liftExcept (newHostPathController cfg)
        return ⟨⟨cfg⟩, controller⟩

/-! ## Requests -/

inductive Request where
  | createVolume (r : Option CreateVolumeRequest)
  | deleteVolume (r : Option DeleteVolumeRequest)
  | validateVolumeCapabilities (r : Option ValidateVolumeCapabilitiesRequest)
  | getCapacity (r : Option GetCapacityRequest)
  | listVolumes (r : Option ListVolumesRequest)
  | controllerGetVolume (r : Option ControllerGetVolumeRequest)
  | createSnapshot (r : Option CreateSnapshotRequest)
  | deleteSnapshot (r : Option DeleteSnapshotRequest)
  | listSnapshots (r : Option ListSnapshotsRequest)
  | nodePublishVolume (r : Option NodePublishVolumeRequest)
  | nodeUnpublishVolume (r : Option NodeUnpublishVolumeRequest)

inductive Response where
  | volume (v : Volume)
  | capabilities (r : ValidateVolumeCapabilitiesResponse)
  | capacity (r : GetCapacityResponse)
  | volumes (r : ListVolumesResponse)
  | entry (e : VolumeEntry)
  | snapshot (s : Snapshot)
  | snapshots (r : ListSnapshotsResponse)
  | empty

namespace HostPath

variable (hp : HostPath)

def serve : Request → Sys Response
  | Request.createVolume r => do return Response.volume (← hp.controller.createVolume r)
  | Request.deleteVolume r => do
      hp.controller.deleteVolume r
      return Response.empty
  | Request.validateVolumeCapabilities r => do
      return Response.capabilities (← hp.controller.validateVolumeCapabilities r)
  | Request.getCapacity r => do return Response.capacity (← hp.controller.getCapacity r)
  | Request.listVolumes r => do return Response.volumes (← hp.controller.listVolumes r)
  | Request.controllerGetVolume r => do
      return Response.entry (← hp.controller.controllerGetVolume r)
  | Request.createSnapshot r => do return Response.snapshot (← hp.controller.createSnapshot r)
  | Request.deleteSnapshot r => do
      hp.controller.deleteSnapshot r
      return Response.empty
  | Request.listSnapshots r => do return Response.snapshots (← hp.controller.listSnapshots r)
  | Request.nodePublishVolume r => do
      hp.node.nodePublishVolume r
      return Response.empty
  | Request.nodeUnpublishVolume r => do
      hp.node.nodeUnpublishVolume r
      return Response.empty

end HostPath

/-! ## The order of maps

Every loop over a map may see its entries in another order. -/

structure Config.Reorders (cfg cfg' : Config) : Prop where
  pools : cfg'.storagePoolInfo.entries.Perm cfg.storagePoolInfo.entries
  rest : cfg' = { cfg with storagePoolInfo := cfg'.storagePoolInfo }

structure HostPath.Reorders (hp hp' : HostPath) : Prop where
  node : hp.node.cfg.Reorders hp'.node.cfg
  controller : hp.controller.cfg.Reorders hp'.controller.cfg
  providers : hp'.controller.snapshotproviders.entries.Perm hp.controller.snapshotproviders.entries

lemma Config.Reorders.refl (cfg : Config) : cfg.Reorders cfg := ⟨List.Perm.refl _, rfl⟩

lemma Config.Reorders.symm {cfg cfg' : Config} (hre : cfg.Reorders cfg') : cfg'.Reorders cfg :=
  ⟨hre.pools.symm, by rw [hre.rest]⟩

lemma HostPath.Reorders.refl (hp : HostPath) : hp.Reorders hp :=
  ⟨Config.Reorders.refl _, Config.Reorders.refl _, List.Perm.refl _⟩

/-! ## Steps -/

/-- The users of the volumes changed what is in the directories of volumes. -/
structure Config.UserWrites (cfg : Config) (h h' : Host) : Prop where
  node : ∀ q, h'.fs.node q ≠ h.fs.node q → ∃ a info l n,
    cfg.storagePoolInfo.lookup a = some info ∧ info.loc = some l
      ∧ h.fs.node (l ++ [n]) = some Node.dir ∧ l ++ [n] <+: q ∧ q ≠ l ++ [n]
  mounts : h'.mounts = h.mounts

inductive Event where
  | request (q : Request) (res : Except Err Response)
  | write

/-- One step of a node: a request is served, with some order of the maps and some outcomes of its
calls, all as the condition `C` allows, or the users of the volumes write. -/
inductive HostPath.Step (hp : HostPath) (C : HostPath → Host → Request → Prop) :
    Host → Event → Host → Prop where
  | request {h h' : Host} {hp' : HostPath} {outcomes : ℕ → Outcome} {q : Request}
      {res : Except Err Response} (hre : hp.Reorders hp') (hC : C hp' { h with outcomes } q)
      (he : Host.exec { h with outcomes } (hp'.serve q) = (res, h')) :
      Step hp C h (Event.request q res) h'
  | write {h h' : Host} (hw : hp.controller.cfg.UserWrites h h') : Step hp C h Event.write h'

/-- Serving a request with the maps in the order they are in. -/
lemma HostPath.Step.serve {hp : HostPath} {C : HostPath → Host → Request → Prop} {h : Host}
    (outcomes : ℕ → Outcome) {q : Request} (hC : C hp { h with outcomes } q) :
    hp.Step C h (Event.request q (Host.exec { h with outcomes } (hp.serve q)).1)
      (Host.exec { h with outcomes } (hp.serve q)).2 :=
  HostPath.Step.request (HostPath.Reorders.refl hp) hC rfl

namespace Sample

/-- The driver of the node with one pool. -/
def driver : HostPath := ⟨⟨cfg⟩, controller⟩

/-- The pool is empty, and there is a place for targets. -/
def emptyHost : Host where
  fs := (FileTree.empty.create ["pool"] fun _ => true).create ["pods"] fun _ => true
  mounts := []
  ctime := fun _ => 0
  now := 0
  outcomes := fun _ => Outcome.fine

lemma emptyHost_volume (n : String) : emptyHost.fs.node ["pool", n] = none := by
  have hlong : ∀ x, ¬ ["pool", n] <+: [x] := fun x hp => absurd hp.length_le (by simp)
  have hone : (FileTree.empty.create ["pool"] fun _ => true : FileTree FileData).node ["pool", n]
      = none :=
    FileTree.create_node_of_none _ (by simp [FileTree.empty]) fun hp => absurd hp (hlong _)
  exact FileTree.create_node_of_none _ hone fun hp => absurd hp (hlong "pods")

/-- The configuration before the pools are decoded. -/
def bareCfg : Config := { cfg with storagePoolInfo := ∅, defaultStoragePoolName := "" }

/-- The sample driver is one that starts. -/
lemma newHostPathDriver_sample :
    emptyHost.exec (newHostPathDriver bareCfg (some [pool]))
      = (Except.ok driver, (emptyHost.exec (newHostPathDriver bareCfg (some [pool]))).2) := rfl

/-- What a request returns if no call fails, and the host it leaves. -/
def result (h : Host) (q : Request) : Except Err Response :=
  (Host.exec { h with outcomes := fun _ => Outcome.fine } (driver.serve q)).1

def after (h : Host) (q : Request) : Host :=
  (Host.exec { h with outcomes := fun _ => Outcome.fine } (driver.serve q)).2

lemma step_after {C : HostPath → Host → Request → Prop} {h : Host} {q : Request}
    (hC : C driver { h with outcomes := fun _ => Outcome.fine } q) :
    driver.Step C h (Event.request q (result h q)) (after h q) :=
  HostPath.Step.serve _ hC

def volumeRequest (name : String) : CreateVolumeRequest :=
  ⟨name, some [⟨AccessType.mount "" []⟩], parameters, none, none⟩

end Sample

end Hostpath
