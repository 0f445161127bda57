import Hostpath.Host.Calls

/-!
# Messages of the CSI services

The requests and responses of the controller and node services, with the fields the driver reads
or sets, and the errors its handlers return.  A request is passed as a pointer, so a handler takes
an `Option`; a map is an association list with distinct keys, whose order is the order in which
Go happens to iterate over it.
-/

namespace Hostpath

open Lib

/-! ## Errors -/

/-- The codes of gRPC that the handlers return.  A client decides by the code whether it tries
again. -/
inductive Code where
  | invalidArgument
  | notFound
  | alreadyExists
  | aborted
  | internal
  deriving DecidableEq, Repr

namespace Code

def name : Code → String
  | invalidArgument => "InvalidArgument"
  | notFound => "NotFound"
  | alreadyExists => "AlreadyExists"
  | aborted => "Aborted"
  | internal => "Internal"

end Code

/-- What a handler returns instead of a response: an error made with `errors` or `fmt`, a gRPC
status, or no return at all because the goroutine panicked. -/
inductive Err where
  | plain (message : String)
  | status (code : Code) (message : String)
  | panic (message : String)
  deriving DecidableEq, Repr

namespace Err

/-- What `Error()` returns, which is also what the driver puts into the errors it wraps. -/
def text : Err → String
  | plain m => m
  | status c m => "rpc error: code = " ++ c.name ++ " desc = " ++ m
  | panic m => m

/-- The request was not answered at all. -/
def isPanic : Err → Bool
  | panic _ => true
  | _ => false

end Err

/-- Handlers: programs that make system calls and may fail. -/
abbrev Sys := ExceptT Err (Prog Syscall Reply)

/-- Return the error of a call as it is. -/
def orReturn {α : Type} : Except OsError α → Sys α
  | Except.ok a => pure a
  | Except.error e => throw (Err.plain e.text)

/-- A check that makes no calls. -/
def liftExcept {α : Type} : Except Err α → Sys α
  | Except.ok a => pure a
  | Except.error e => throw e

/-- The error of a call is passed on without any other call. -/
lemma exec_orReturn_ok {α : Type} {h h' : Host} {r : Except OsError α} {a : α} :
    h.exec (orReturn r) = (Except.ok a, h') ↔ r = Except.ok a ∧ h' = h := by
  cases r with
  | ok b =>
      rw [orReturn, Host.exec, Prog.exec_pure]
      simp [eq_comm]
  | error e =>
      rw [orReturn, Host.exec, Prog.exec_throw]
      simp

/-- An error of the operating system reaches the client as text, without a code of its own. -/
lemma exec_orReturn_error {α : Type} {h h' : Host} {r : Except OsError α} {err : Err}
    (e : h.exec (orReturn r) = (Except.error err, h')) :
    (∃ oe, r = Except.error oe ∧ err = Err.plain oe.text) ∧ h' = h := by
  cases r with
  | ok b => cases (Prod.mk.inj e).1
  | error oe =>
      cases e
      exact ⟨⟨oe, rfl, rfl⟩, rfl⟩

/-- Checks leave the host as it is. -/
lemma exec_liftExcept {α : Type} (h : Host) (r : Except Err α) :
    h.exec (liftExcept r) = (r, h) := by
  cases r <;> rfl

/-- Read an execution off its result. -/
lemma exec_eq_ok {α : Type} {h : Host} {x : Sys α} {a : α}
    (hx : (h.exec x).1.toOption = some a) : h.exec x = (Except.ok a, (h.exec x).2) := by
  rcases he : h.exec x with ⟨r, h'⟩
  rw [he] at hx
  cases r with
  | error err => cases hx
  | ok b =>
      cases hx
      rfl

/-- As `exec_eq_ok`, for a handler that failed. -/
lemma exec_eq_error {α : Type} {h : Host} {x : Sys α} (hx : (h.exec x).1.toOption.isNone = true) :
    ∃ err, h.exec x = (Except.error err, (h.exec x).2) := by
  rcases he : h.exec x with ⟨r, h'⟩
  rw [he] at hx
  cases r with
  | error err => exact ⟨err, rfl⟩
  | ok b => cases hx

/-! ## Shared parts of messages -/

/-- A map of Go.  Two lists with the same entries are one map, ranged over in two orders. -/
abbrev GoMap (V : Type) := AList fun _ : String => V

/-- How a volume is to be used.  The driver offers mounted volumes only. -/
inductive AccessType where
  | unset
  | block
  | mount (fsType : String) (mountFlags : List String)
  deriving DecidableEq, Repr

/-- One way in which a volume is to be used; the access mode is not looked at. -/
structure VolumeCapability where
  accessType : AccessType
  deriving DecidableEq, Repr

namespace VolumeCapability

def hasMount (c : VolumeCapability) : Bool :=
  match c.accessType with
  | AccessType.mount _ _ => true
  | _ => false

def hasBlock (c : VolumeCapability) : Bool := c.accessType = AccessType.block

def fsType (c : VolumeCapability) : String :=
  match c.accessType with
  | AccessType.mount t _ => t
  | _ => ""

end VolumeCapability

/-- Where a volume can be reached from: for this driver one node, by its name. -/
structure Topology where
  segments : GoMap String
  deriving DecidableEq

structure TopologyRequirement where
  requisite : List Topology
  preferred : List Topology
  deriving DecidableEq

/-- The `oneof` of a content source; each case holds a pointer. -/
inductive VolumeContentSource where
  | unset
  | snapshot (snapshotId : Option String)
  | volume (volumeId : Option String)
  deriving DecidableEq, Repr

/-- A volume as `CreateVolume` returns it. -/
structure Volume where
  volumeId : String
  capacityBytes : Int64
  volumeContext : GoMap String
  contentSource : Option VolumeContentSource
  accessibleTopology : List Topology

/-- Whether a volume is in good order, as far as the driver can tell from its file system. -/
structure VolumeCondition where
  abnormal : Bool
  message : String
  deriving DecidableEq, Repr

/-- Creation times are in nanoseconds. -/
structure Snapshot where
  snapshotId : String
  sourceVolumeId : String
  creationTime : ℕ
  readyToUse : Bool
  deriving DecidableEq, Repr

/-! ## Controller service -/

/-- The name becomes the name of the directory; the parameters name the storage pool. -/
structure CreateVolumeRequest where
  name : String
  volumeCapabilities : Option (List VolumeCapability)
  parameters : GoMap String
  volumeContentSource : Option VolumeContentSource
  accessibilityRequirements : Option TopologyRequirement
  deriving DecidableEq

/-- Volumes are deleted by id alone, so all pools are searched. -/
structure DeleteVolumeRequest where
  volumeId : String

structure ValidateVolumeCapabilitiesRequest where
  volumeId : String
  volumeContext : GoMap String
  volumeCapabilities : List VolumeCapability
  parameters : GoMap String

/-- What the request asked for, if it can be had. -/
structure ValidateVolumeCapabilitiesResponse where
  volumeContext : GoMap String
  volumeCapabilities : List VolumeCapability
  parameters : GoMap String

structure GetCapacityRequest where
  parameters : GoMap String

/-- The sizes are those of the file system that the pool is on. -/
structure GetCapacityResponse where
  availableCapacity : Int64
  maximumVolumeSize : Int64
  minimumVolumeSize : Int64

/-- A page of a listing.  No bound is a bound of zero, and no token is the empty one. -/
structure ListVolumesRequest where
  maxEntries : Int32
  startingToken : String

/-- One volume in a listing, or the answer about a single volume. -/
structure VolumeEntry where
  volumeId : String
  capacityBytes : Int64
  publishedNodeIds : List String
  volumeCondition : VolumeCondition
  deriving DecidableEq

/-- The token names the volume that the next page starts with, and is empty on the last page. -/
structure ListVolumesResponse where
  entries : List VolumeEntry
  nextToken : String
  deriving DecidableEq

structure ControllerGetVolumeRequest where
  volumeId : String

/-- The name is the id of the snapshot; the parameters name the storage pool. -/
structure CreateSnapshotRequest where
  name : String
  sourceVolumeId : String
  parameters : GoMap String

structure DeleteSnapshotRequest where
  snapshotId : String

/-- Of the two filters the id comes first. -/
structure ListSnapshotsRequest where
  maxEntries : Int32
  startingToken : String
  sourceVolumeId : String
  snapshotId : String

structure ListSnapshotsResponse where
  entries : List Snapshot
  nextToken : String
  deriving DecidableEq

/-! ## Node service -/

/-- The volume is mounted on the target.  The context holds the storage pool, and whether the volume
lives only as long as its pod. -/
structure NodePublishVolumeRequest where
  volumeId : String
  targetPath : String
  volumeCapability : Option VolumeCapability
  readonly : Bool
  volumeContext : GoMap String

structure NodeUnpublishVolumeRequest where
  volumeId : String
  targetPath : String

end Hostpath
