import Hostpath.Csi.Reflink
import Hostpath.Lib.Strconv

/-!
# The controller service

The handlers of the controller service, one definition per function of the source.  Each handler
is a program over the node's system calls.  The snapshot mutex does not appear: it serialises the
handlers that use the snapshot providers, which is how runs execute them here.
-/

namespace Hostpath

open Lib FilePath Prog

structure HostPathController where
  cfg : Config
  snapshotproviders : GoMap Reflink

/-- The providers of the configured pools.  A pool with a provider but no snapshot path
dereferences a nil pointer, and an unsupported provider ends the process. -/
def snapshotProviders (nodeID : String) :
    List (Sigma fun _ : String => StoragePoolInfo) → GoMap Reflink → Except Err (GoMap Reflink)
  | [], m => Except.ok m
  | ⟨storagePool, info⟩ :: rest, m =>
      match info.snapshotProvider, info.snapshotPath with
      | none, _ => snapshotProviders nodeID rest m
      | some SnapshotProviderType.reflink, some path =>
          snapshotProviders nodeID rest (m.insert storagePool ⟨nodeID, path, info.path⟩)
      | some SnapshotProviderType.reflink, none =>
          Except.error (Err.panic "invalid memory address or nil pointer dereference")
      | some (SnapshotProviderType.unsupported name), _ =>
          Except.error (Err.panic
            ("Unsupported snapshot provider " ++ name ++ " for storage pool " ++ storagePool))

def newHostPathController (cfg : Config) : Except Err HostPathController :=
  (snapshotProviders cfg.nodeID cfg.storagePoolInfo.entries ∅).map fun providers => ⟨cfg, providers⟩

/-! ## Request checks -/

def validateCreateVolumeRequest : Option CreateVolumeRequest → Except Err CreateVolumeRequest
  | none => Except.error (Err.status Code.invalidArgument "missing request")
  | some req =>
      if req.name = "" then
        Except.error (Err.status Code.invalidArgument "name missing in request")
      else match req.volumeCapabilities with
        | none => Except.error (Err.status Code.invalidArgument
            "volume capabilities missing in request")
        | some caps =>
            if caps.any fun c => c.hasMount then Except.ok req
            else Except.error (Err.status Code.invalidArgument "must have mount access type")

def validateDeleteVolumeRequest : Option DeleteVolumeRequest → Except Err DeleteVolumeRequest
  | none => Except.error (Err.status Code.invalidArgument "missing request")
  | some req =>
      if req.volumeId = "" then
        Except.error (Err.status Code.invalidArgument "Volume ID missing in request")
      else Except.ok req

def validateListVolumesRequest : Option ListVolumesRequest → Except Err ListVolumesRequest
  | none => Except.error (Err.status Code.invalidArgument "missing request")
  | some req =>
      if req.maxEntries < 0 then
        Except.error (Err.status Code.invalidArgument "maxEntries < 0")
      else Except.ok req

def validateCreateSnapshotRequest :
    Option CreateSnapshotRequest → Except Err CreateSnapshotRequest
  | none => Except.error (Err.status Code.invalidArgument "missing snapshot request")
  | some req =>
      if req.name = "" then
        Except.error (Err.status Code.invalidArgument "name missing in snapshot request")
      else if req.sourceVolumeId = "" then
        Except.error (Err.status Code.invalidArgument
          "source volume id missing in snapshot request")
      else Except.ok req

/-- A request that is accepted is taken as it is, and has a name and a source. -/
lemma validateCreateSnapshotRequest_ok {r : Option CreateSnapshotRequest}
    {req : CreateSnapshotRequest} (hv : validateCreateSnapshotRequest r = Except.ok req) :
    r = some req ∧ req.name ≠ "" ∧ req.sourceVolumeId ≠ "" := by
  cases r with
  | none => cases hv
  | some q =>
      simp only [validateCreateSnapshotRequest] at hv
      split_ifs at hv with hname hsource
      cases hv
      exact ⟨rfl, hname, hsource⟩

namespace HostPathController

variable (hpc : HostPathController)

/-- The request is for this node, if it says where the volume is to be. -/
def validateCreateVolumeRequestTopology (req : CreateVolumeRequest) : Except Err Unit :=
  match req.accessibilityRequirements with
  | none => Except.ok ()
  | some t =>
      if (t.requisite ++ t.preferred).any fun s =>
          (s.segments.lookup topologyKeyNode).getD "" = hpc.cfg.nodeID then Except.ok ()
      else Except.error (Err.status Code.invalidArgument "not correct node")

/-! ## Volumes -/

def restoreFromSnapshot (snapshotId storagePool targetVolume : String) : Sys Unit :=
  match hpc.snapshotproviders.lookup storagePool with
  | none => throw (Err.plain ("unable to restore snapshot because unable to locate snapshot " ++
      "provider for storage pool " ++ storagePool))
  | some provider =>
      provider.restoreSnapshot snapshotId (join [(hpc.cfg.pool storagePool).path, targetVolume])

/-- Fill a new volume from its content source.  The directory is removed again if that fails;
a content source other than a snapshot is ignored. -/
def restoreContent (req : CreateVolumeRequest) (storagePool : String) : Sys Unit :=
  match req.volumeContentSource with
  | some (VolumeContentSource.snapshot (some snapshotId)) => do
      match ← attempt (hpc.restoreFromSnapshot snapshotId storagePool req.name) with
      | Except.ok _ => return ()
      | Except.error err =>
          match ← attempt (deleteVolume (hpc.cfg.pool storagePool).path req.name) with
          | Except.ok _ => throw err
          | Except.error e =>
              throw (Err.plain ("failed to delete restore " ++ req.name ++ ": " ++ e.text))
  | _ => return ()

/-- Make the directory of a volume unless something is there. -/
def ensureVolumeDirectory (name storagePool : String) : Sys Unit := do
  if ← checkPathExist (join [(hpc.cfg.pool storagePool).path, name]) then return ()
  else match ← attempt (createVolumeDirectory (hpc.cfg.pool storagePool).path name) with
    | Except.ok _ => return ()
    | Except.error e => throw (Err.plain ("failed to create volume " ++ name ++ ": " ++ e.text))

def provideVolume (req : CreateVolumeRequest) (storagePool : String) : Sys Unit := do
  hpc.ensureVolumeDirectory req.name storagePool
  hpc.restoreContent req storagePool

def topologies (storagePool : String) : List Topology :=
  if (hpc.cfg.pool storagePool).shared then []
  else [⟨AList.singleton topologyKeyNode hpc.cfg.nodeID⟩]

def createVolume (r : Option CreateVolumeRequest) : Sys Volume := do
  let req ← liftExcept (validateCreateVolumeRequest r)
  liftExcept (hpc.validateCreateVolumeRequestTopology req)
  let storagePool := getStoragePoolNameFromMap req.parameters
  if (hpc.cfg.storagePoolInfo.lookup storagePool).isNone then
    throw (Err.plain ("unable to locate path for storage pool " ++ storagePool))
  else
    let capacity ← getVolumeDirCapacity (hpc.cfg.pool storagePool).path
    hpc.provideVolume req storagePool
    return ⟨req.name, capacity, req.parameters, req.volumeContentSource, hpc.topologies storagePool⟩

def getVolumeDirectories : Sys (List String) := getStoragePoolDataDirectories hpc.cfg.pools

def deleteVolume (r : Option DeleteVolumeRequest) : Sys Unit := do
  let req ← liftExcept (validateDeleteVolumeRequest r)
  removeVolumeNamed hpc.cfg.pools req.volumeId fun e =>
    "failed to delete volume " ++ req.volumeId ++ ": " ++ e

/-- A nil request has an empty volume id. -/
def validateVolumeCapabilities (r : Option ValidateVolumeCapabilitiesRequest) :
    Sys ValidateVolumeCapabilitiesResponse :=
  match r with
  | none => throw (Err.status Code.invalidArgument "volume ID not provided")
  | some req => do
      if req.volumeId = "" then
        throw (Err.status Code.invalidArgument "volume ID not provided")
      else if req.volumeCapabilities = [] then
        throw (Err.status Code.invalidArgument
          ("volumeCapabilities not provided for " ++ req.volumeId))
      else if req.volumeCapabilities.any fun c => !c.hasMount then
        throw (Err.status Code.invalidArgument "mount type is undefined")
      else
        let storagePool := getStoragePoolNameFromMap req.parameters
        if ← checkPathExist (join [(hpc.cfg.pool storagePool).path, req.volumeId]) then
          return ⟨req.volumeContext, req.volumeCapabilities, req.parameters⟩
        else throw (Err.status Code.notFound ("volume " ++ req.volumeId ++ " not found"))

def getCapacity (r : Option GetCapacityRequest) : Sys GetCapacityResponse :=
  match r with
  | none => throw (Err.status Code.invalidArgument "missing request")
  | some req => do
      let storagePool := getStoragePoolNameFromMap req.parameters
      if (hpc.cfg.storagePoolInfo.lookup storagePool).isNone then
        throw (Err.plain ("unable to locate path for storage pool " ++ storagePool))
      else
        let stats ← orReturn (← getPVStats (hpc.cfg.pool storagePool).path)
        return ⟨stats.available, stats.capacity, 0⟩

/-! ## Listing volumes -/

/-- The page of the sorted directories that a request asks for, and the token of the next one. -/
def volumesPage (volumeDirs : List String) (req : ListVolumesRequest) :
    Except Err (List String × String) :=
  if req.startingToken ≠ "" ∧ Strconv.parseUint 32 req.startingToken = none then
    Except.error (Err.status Code.aborted "the type of startingToken should be integer")
  else match volumeDirs with
    | [] =>
        if req.startingToken ≠ "" then
          Except.error (Err.status Code.aborted ("volume " ++ req.startingToken ++ " not found"))
        else Except.ok ([], "")
    | first :: _ =>
        let token := if req.startingToken = "" then base first else req.startingToken
        let maxLength :=
          if req.maxEntries = 0 then volumeDirs.length else req.maxEntries.toInt.toNat
        match indexOfStartingToken token volumeDirs with
        | none => Except.error (Err.status Code.invalidArgument ("volume " ++ token ++ " not found"))
        | some start =>
            let stop := min (start + maxLength) volumeDirs.length
            Except.ok ((volumeDirs.take stop).drop start,
              if stop + 1 < volumeDirs.length then base (volumeDirs.getD stop "") else "")

def volumeEntry (capacities : GoMap Int64) (volumeId volumeDir : String) : Sys VolumeEntry := do
  let (healthy, msg) ← doHealthCheckInControllerSide volumeDir
  return ⟨volumeId, (capacities.lookup (dir volumeDir)).getD 0, [hpc.cfg.nodeID], ⟨!healthy, msg⟩⟩

def volumeEntries (capacities : GoMap Int64) : List String → Sys (List VolumeEntry)
  | [] => pure []
  | volumeDir :: rest => do
      let entry ← hpc.volumeEntry capacities (base volumeDir) volumeDir
      return entry :: (← volumeEntries capacities rest)

def listVolumes (r : Option ListVolumesRequest) : Sys ListVolumesResponse := do
  let req ← liftExcept (validateListVolumesRequest r)
  let capacities ← capacityMap hpc.cfg.pools ∅
  let volumeDirs ← hpc.getVolumeDirectories
  let (page, nextToken) ← liftExcept (volumesPage volumeDirs req)
  return ⟨← hpc.volumeEntries capacities page, nextToken⟩

def controllerGetVolume (r : Option ControllerGetVolumeRequest) : Sys VolumeEntry :=
  match r with
  | none => throw (Err.status Code.invalidArgument "missing request")
  | some req => do
      if req.volumeId = "" then
        throw (Err.status Code.invalidArgument "volume ID not provided")
      else
        let capacities ← capacityMap hpc.cfg.pools ∅
        let volumePath := volumePathOf (← hpc.getVolumeDirectories) req.volumeId
        if volumePath = "" then
          throw (Err.status Code.notFound ("volume " ++ req.volumeId ++ " not found"))
        else hpc.volumeEntry capacities req.volumeId volumePath

/-! ## Snapshots -/

/-- Make the snapshot directory of a pool unless it is there. -/
def ensureInitialized (provider : Reflink) (snapshotPath : String) : Sys Unit := do
  if ← checkPathExist snapshotPath then return ()
  else match ← attempt provider.init with
    | Except.ok _ => return ()
    | Except.error e => throw (Err.plain ("failed to initialize snapshot storage pool " ++ e.text))

/-- Return the snapshot of that name if it is of the same volume, and take it if there is none. -/
def findOrCreate (provider : Reflink) (req : CreateSnapshotRequest) : Sys Snapshot := do
  match ← attempt (provider.getSnapshotById req.name) with
  | Except.error e => throw (Err.plain ("getsnapshot by id failed, " ++ e.text))
  | Except.ok (some snapshot) =>
      if snapshot.sourceVolumeId = req.sourceVolumeId then return snapshot
      else throw (Err.status Code.alreadyExists ("snapshot with the same name: " ++
        req.name ++ " but with different SourceVolumeId already exist"))
  | Except.ok none => provider.createSnapshot req.name req.sourceVolumeId

def createSnapshot (r : Option CreateSnapshotRequest) : Sys Snapshot := do
  let req ← liftExcept (validateCreateSnapshotRequest r)
  let storagePool := getStoragePoolNameFromMap req.parameters
  match hpc.cfg.storagePoolInfo.lookup storagePool with
  | none => throw (Err.plain
      ("unable to locate volumesnapshot path for storage pool " ++ storagePool))
  | some info =>
      match info.snapshotPath, hpc.snapshotproviders.lookup storagePool with
      | none, _ => throw (Err.plain ("volumesnapshot path not set for storage pool " ++ storagePool))
      | some _, none =>
          throw (Err.plain ("snapshot provider not set for storage pool " ++ storagePool))
      | some snapshotPath, some provider => do
          ensureInitialized provider snapshotPath
          findOrCreate provider req

def deleteFromProviders (snapshotId : String) : List Reflink → Sys Unit
  | [] => pure ()
  | provider :: rest => do
      provider.deleteSnapshot snapshotId
      deleteFromProviders snapshotId rest

/-- The providers in the order the map is iterated over. -/
def providers : List Reflink := hpc.snapshotproviders.entries.map fun e => e.2

def deleteSnapshot (r : Option DeleteSnapshotRequest) : Sys Unit :=
  match r with
  | none => throw (Err.status Code.invalidArgument "missing request")
  | some req =>
      if req.snapshotId = "" then
        throw (Err.status Code.invalidArgument "snapshot id missing in request")
      else deleteFromProviders req.snapshotId hpc.providers

/-- What a listing asks one provider for. -/
def providerSnapshots (req : ListSnapshotsRequest) (provider : Reflink) : Sys (List Snapshot) :=
  if req.snapshotId ≠ "" then do
    return (← provider.getSnapshotById req.snapshotId).toList
  else if req.sourceVolumeId ≠ "" then
    provider.getSnapshotsByVolumeSourceId req.sourceVolumeId
  else provider.getAllSnapshots

def collectSnapshots (req : ListSnapshotsRequest) : List Reflink → Sys (List Snapshot)
  | [] => pure []
  | provider :: rest => do
      let snapshots ← providerSnapshots req provider
      return snapshots ++ (← collectSnapshots req rest)

/-- The page of the snapshots that a request asks for.  The start is an unsigned 64-bit number,
so the token `00` wraps around, and a slice out of range panics. -/
def snapshotsPage (snapshots : List Snapshot) (req : ListSnapshotsRequest) :
    Except Err ListSnapshotsResponse :=
  if snapshots = [] then
    if req.startingToken ≠ "" then
      Except.error (Err.status Code.aborted ("snapshot " ++ req.startingToken ++ " not found"))
    else Except.ok ⟨[], ""⟩
  else
    let token :=
      if req.startingToken = "" ∨ req.startingToken = "0" then "1" else req.startingToken
    match Strconv.parseUint 32 token with
    | none => Except.error (Err.status Code.aborted "the type of startingToken should be integer")
    | some n =>
        let start : UInt64 := UInt64.ofNat n - 1
        let snapshotLength : Int64 := Int64.ofNat snapshots.length
        let maxLength : Int64 :=
          if req.maxEntries = 0 then snapshotLength else req.maxEntries.toInt64
        let stop : Int64 := min (start.toInt64 + maxLength) snapshotLength
        if 0 ≤ stop ∧ start.toNat ≤ stop.toInt.toNat then
          Except.ok ⟨(snapshots.take stop.toInt.toNat).drop start.toNat,
            if stop < snapshotLength - 1 then toString (stop + 1).toInt else ""⟩
        else Except.error (Err.panic "slice bounds out of range")

def listSnapshots (r : Option ListSnapshotsRequest) : Sys ListSnapshotsResponse :=
  match r with
  | none => throw (Err.status Code.invalidArgument "missing request")
  | some req => do
      liftExcept (snapshotsPage (← collectSnapshots req hpc.providers) req)

end HostPathController

/-! ## A node with one pool -/

namespace Sample

def pool : StoragePoolInfo :=
  ⟨"local", "/pool", some "/snapshots", some SnapshotProviderType.reflink, false⟩

def cfg : Config :=
  ⟨"kubevirt.io.hostpath-provisioner", "unix:///csi/csi.sock", "node",
    AList.singleton "local" pool, "local", "latest"⟩

def controller : HostPathController :=
  ⟨cfg, AList.singleton "local" ⟨"node", "/snapshots", "/pool"⟩⟩

def parameters : GoMap String := AList.singleton storagePoolName "local"

/-- The pool holds one volume with one file, and there are no snapshots. -/
def host : Host where
  fs := ((FileTree.empty.create ["pool", "vol"] fun _ => true).write ["pool", "vol"] "f" "old").create
    ["snapshots"] fun _ => true
  mounts := []
  ctime := fun _ => 0
  now := 0
  outcomes := fun _ => Outcome.fine

end Sample

end Hostpath
