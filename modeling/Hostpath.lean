import Hostpath.Lib.FilePath
import Hostpath.Lib.Prog
import Hostpath.Lib.FileTree
import Hostpath.Lib.Run
import Hostpath.Lib.Strconv
import Hostpath.Lib.Slices
import Hostpath.Lib.Interleave
import Hostpath.Lib.WorkQueue
import Hostpath.Host.Syscall
import Hostpath.Host.Calls
import Hostpath.Host.Mounts
import Hostpath.Host.Frame
import Hostpath.Csi.Messages
import Hostpath.Csi.Utils
import Hostpath.Csi.Storage
import Hostpath.Csi.Reflink
import Hostpath.Csi.Controller
import Hostpath.Csi.Listing
import Hostpath.Csi.Node
import Hostpath.Csi.Publish
import Hostpath.Csi.Driver
import Hostpath.Csi.CreateVolume
import Hostpath.Csi.Snapshots
import Hostpath.Csi.Layout
import Hostpath.Csi.Sites
import Hostpath.Csi.Runs
import Hostpath.Csi.SnapshotRuns
import Hostpath.Csi.Paging
import Hostpath.Csi.VolumeMap
import Hostpath.Csi.Refinement
import Hostpath.Csi.Ephemeral
import Hostpath.Csi.Confinement
import Hostpath.Csi.Concurrent
import Hostpath.Csi.SnapshotStore
import Hostpath.Csi.SnapshotPaging
import Hostpath.Csi.SnapshotMap
import Hostpath.Csi.SnapshotHistory
import Hostpath.Csi.SnapshotRefinement
import Hostpath.Csi.SnapshotListing
import Hostpath.Csi.SnapshotIds
import Hostpath.Csi.VolumeDeletion
import Hostpath.Csi.SnapshotNames
import Hostpath.Csi.SnapshotFailures
import Hostpath.Csi.PublishRuns
import Hostpath.Csi.PublishFailures
import Hostpath.Csi.SnapshotSlices
import Hostpath.Csi.SnapshotViews
import Hostpath.Legacy.StoreTruth
import Hostpath.Legacy.DeletedObject
import Hostpath.Legacy.FinalizerRetries
import Hostpath.Legacy.BackgroundProvisioning
import Hostpath.Legacy.QueueStore
import Hostpath.Legacy.Fleet
import Hostpath.Legacy.Removals
import Hostpath.Legacy.Retention
import Hostpath.Lib.Rounding
import Hostpath.Csi.Capacity
import Hostpath.Csi.CapacityReports
import Hostpath.Csi.Health
import Hostpath.Csi.MapOrder
import Hostpath.Csi.Startup
import Hostpath.Legacy.Capacity
import Hostpath.Legacy.Directories
import Hostpath.Csi.ContentSource
import Hostpath.Legacy.LiveDirectories
import Hostpath.Legacy.NodeExclusion
import Hostpath.Legacy.SyncQueues
import Hostpath.Legacy.UpdateDelivery
import Hostpath.Csi.ConcurrentListing
import Hostpath.Csi.Ownership
import Hostpath.Csi.SnapMutex
import Hostpath.Lib.MutexProgress
import Hostpath.Csi.SnapMutexProgress
import Hostpath.Csi.SnapshotSections
import Hostpath.Csi.StoreLinearizability
