import Hostpath.Csi.Utils

/-!
# The node service

Publishing and unpublishing a volume.  Publishing checks that nothing is mounted on the target,
makes it if needed, and bind mounts the volume's directory there; an ephemeral volume gets its
directory at that point.  Unpublishing takes one mount off, removes the target, and removes the
directory of a volume whose id looks ephemeral.  Neither handler takes a lock.
-/

namespace Hostpath

open Lib FilePath Prog

structure HostPathNode where
  cfg : Config

/-! ## Request checks -/

def validateRequestCapabilties :
    Option NodePublishVolumeRequest → Except Err (NodePublishVolumeRequest × VolumeCapability)
  | none => Except.error (Err.status Code.invalidArgument "missing request")
  | some req =>
      if req.volumeId = "" then
        Except.error (Err.status Code.invalidArgument "volume ID not provided")
      else if req.targetPath = "" then
        Except.error (Err.status Code.invalidArgument "target path not provided")
      else match req.volumeCapability with
        | none => Except.error (Err.status Code.invalidArgument "volume capability not provided")
        | some c => Except.ok (req, c)

def validateNodePublishRequest (r : Option NodePublishVolumeRequest) :
    Except Err (NodePublishVolumeRequest × VolumeCapability) :=
  match validateRequestCapabilties r with
  | Except.error e => Except.error e
  | Except.ok (req, c) =>
      if c.hasBlock then
        Except.error (Err.status Code.invalidArgument
          "cannot publish a non-block volume as block volume")
      else if !c.hasMount then
        Except.error (Err.status Code.invalidArgument "can only publish a non-block volume")
      else Except.ok (req, c)

/-- A nil request has an empty volume id. -/
def validateNodeUnpublishRequest :
    Option NodeUnpublishVolumeRequest → Except Err NodeUnpublishVolumeRequest
  | none => Except.error (Err.status Code.invalidArgument "volume ID not provided")
  | some req =>
      if req.volumeId = "" then
        Except.error (Err.status Code.invalidArgument "volume ID not provided")
      else if req.targetPath = "" then
        Except.error (Err.status Code.invalidArgument "target path not provided")
      else Except.ok req

/-! ## Ephemeral volumes -/

def isEphemeralVolumeRequest (req : NodePublishVolumeRequest) : Bool :=
  (req.volumeContext.lookup ephemeralContextKey).getD "" = "true"

def isEphemeralVolumeId (volumeId : String) : Bool := "csi".toList.isPrefixOf volumeId.toList

namespace HostPathNode

variable (hpn : HostPathNode)

/-- The directory of an ephemeral volume; a pool that is not configured gives the default one. -/
def getEphemeralVolumePath (storagePool volumeId : String) : String :=
  let storagePoolPath := (hpn.cfg.pool storagePool).path
  join [if storagePoolPath = "" then (hpn.cfg.pool hpn.cfg.defaultStoragePoolName).path
    else storagePoolPath, volumeId]

/-! ## Publishing -/

def canMountVolume (targetPath : String) : Sys Bool := do
  match ← perform (Syscall.isNotMountPoint targetPath) with
  | Except.ok notMnt => return notMnt
  | Except.error e =>
      if e.isNotExist then
        match ← perform (Syscall.mkdir targetPath) with
        | Except.ok _ => return true
        | Except.error e => throw (Err.plain ("create target path: " ++ e.text))
      else throw (Err.plain ("check target path: " ++ e.text))

/-- The directory to mount; that of an ephemeral volume is made here. -/
def volumeSource (req : NodePublishVolumeRequest) : Sys String := do
  let storagePool := getStoragePoolNameFromMap req.volumeContext
  if isEphemeralVolumeRequest req then
    let path := hpn.getEphemeralVolumePath storagePool req.volumeId
    match ← attempt (createVolumeDirectory (dir path) req.volumeId) with
    | Except.ok _ => return path
    | Except.error e =>
        throw (Err.plain ("failed to create ephemeral volume " ++ req.volumeId ++ ": " ++ e.text))
  else return join [(hpn.cfg.pool storagePool).path, req.volumeId]

/-- After a failed mount: describe the target, whose mode is read even if there is none, and
remove the directory of an ephemeral volume. -/
def mountFailed (req : NodePublishVolumeRequest) (path : String) (e : OsError) : Sys Unit := do
  match ← perform (Syscall.stat req.targetPath) with
  | Except.error _ => throw (Err.panic "invalid memory address or nil pointer dereference")
  | Except.ok fileInfo =>
      let failed := fun rm => Err.plain ("failed to mount device: " ++ path ++ " at " ++
        req.targetPath ++ ": " ++ e.text ++ fileInfo.mode ++ rm)
      if isEphemeralVolumeRequest req then
        match ← perform (Syscall.removeAll path) with
        | Except.ok _ => throw (failed "")
        | Except.error rmErr => throw (failed (if rmErr.isNotExist then "" else " :" ++ rmErr.text))
      else throw (failed "")

def mountVolume (req : NodePublishVolumeRequest) (c : VolumeCapability) : Sys Unit := do
  let options := if req.readonly then ["bind", "ro"] else ["bind"]
  let path ← hpn.volumeSource req
  match ← perform (Syscall.mount path req.targetPath c.fsType options) with
  | Except.ok _ => return ()
  | Except.error e => mountFailed req path e

def nodePublishVolume (r : Option NodePublishVolumeRequest) : Sys Unit := do
  let (req, c) ← liftExcept (validateNodePublishRequest r)
  if ← canMountVolume req.targetPath then hpn.mountVolume req c

/-! ## Unpublishing -/

def removeEphemeralPath (volumeId : String) : Sys Unit :=
  removeVolumeNamed hpn.cfg.pools volumeId fun e =>
    "failed to delete ephemeral volume " ++ volumeId ++ ": " ++ e

/-- Take one mount off the target if there is one. -/
def unmountTarget (targetPath : String) : Sys Unit := do
  match ← perform (Syscall.isNotMountPoint targetPath) with
  | Except.error e =>
      if e.isNotExist then return () else throw (Err.plain ("check target path: " ++ e.text))
  | Except.ok true => return ()
  | Except.ok false =>
      match ← perform (Syscall.unmount targetPath) with
      | Except.ok _ => return ()
      | Except.error e => throw (Err.plain ("unmount target path: " ++ e.text))

def removeTarget (targetPath : String) : Sys Unit := do
  match ← perform (Syscall.removeAll targetPath) with
  | Except.ok _ => return ()
  | Except.error e => throw (Err.plain ("remove target path: " ++ e.text))

def nodeUnpublishVolume (r : Option NodeUnpublishVolumeRequest) : Sys Unit := do
  let req ← liftExcept (validateNodeUnpublishRequest r)
  unmountTarget req.targetPath
  removeTarget req.targetPath
  if isEphemeralVolumeId req.volumeId then
    match ← attempt (hpn.removeEphemeralPath req.volumeId) with
    | Except.ok _ => return ()
    | Except.error e =>
        throw (Err.plain ("failed to delete ephemeral volume: " ++ req.volumeId ++ ", " ++ e.text))

end HostPathNode

end Hostpath
