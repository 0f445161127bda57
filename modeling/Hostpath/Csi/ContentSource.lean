import Hostpath.Csi.CreateVolume
import Hostpath.Csi.Driver

/-!
# The source of a new volume

A request can ask for a volume that is filled from a snapshot or from another volume, and the
response repeats what was asked for.  Only snapshots are restored: a request for a copy of a volume
gets an empty one, and the response says that it has the contents of the other.

`source_used_iff` is about every request with a source for a name without a directory.  If it
succeeds, the new volume holds what its source holds exactly if the source is a snapshot, or a volume
that is empty itself.
-/

namespace Hostpath

open Lib FilePath Prog Host

namespace HostPathController

/-- What a source holds.  A snapshot is looked for in the pool of the request, a volume in every
pool, and a source that names nothing holds nothing. -/
def SourceHolds (hpc : HostPathController) (fs : FileTree FileData) (storagePool : String) :
    VolumeContentSource → (Loc → Option (Node FileData)) → Prop
  | VolumeContentSource.snapshot (some id), held =>
      ∃ r s, hpc.snapshotproviders.lookup storagePool = some r ∧ locate (r.dataDir id) = some s
        ∧ fs.node s = some Node.dir ∧ held = fs.contents s
  | VolumeContentSource.volume (some id), held =>
      ∃ a info l, hpc.cfg.storagePoolInfo.lookup a = some info ∧ info.loc = some l
        ∧ fs.node (l ++ [id]) = some Node.dir ∧ held = fs.contents (l ++ [id])
  | _, _ => False

/-- A snapshot, or a volume without anything in it. -/
def Restorable (hpc : HostPathController) (fs : FileTree FileData) : VolumeContentSource → Prop
  | VolumeContentSource.snapshot id => id ≠ none
  | VolumeContentSource.volume (some id) =>
      ∃ a info l, hpc.cfg.storagePoolInfo.lookup a = some info ∧ info.loc = some l
        ∧ fs.node (l ++ [id]) = some Node.dir ∧ ∀ r ≠ [], fs.node (l ++ [id] ++ r) = none
  | _ => False

variable {hpc : HostPathController} {h h' : Host} {req : CreateVolumeRequest} {vol : Volume}
  {src : VolumeContentSource}

/-- A volume is as empty as a new directory if nothing is in it. -/
lemma contents_eq_new {fs : FileTree FileData} {l : Loc} (hl : fs.node l = some Node.dir)
    {held : Loc → Option (Node FileData)}
    (hheld : ∀ r, held r = if r = [] then some Node.dir else none) :
    held = fs.contents l ↔ ∀ r ≠ [], fs.node (l ++ r) = none := by
  constructor
  · intro heq r hr
    have hrest := congrFun heq r
    rw [hheld, if_neg hr] at hrest
    exact hrest.symm
  · intro hempty
    funext r
    rw [hheld, FileTree.contents]
    split_ifs with hr
    · rw [hr, List.append_nil, hl]
    · exact (hempty r hr).symm

/-- **When the source that is acknowledged was used.** -/
theorem source_used_iff (hsrc : req.volumeContentSource = some src)
    (hnew : h.at? (hpc.volumePath req) = none)
    (e : h.exec (hpc.createVolume (some req)) = (Except.ok vol, h')) :
    vol.contentSource = some src ∧ ∃ d, locate (hpc.volumePath req) = some d
      ∧ (hpc.SourceHolds h.fs (getStoragePoolNameFromMap req.parameters) src (h'.fs.contents d)
        ↔ hpc.Restorable h.fs src) := by
  obtain ⟨_, c, _, hreq, _, rfl, _⟩ := createVolume_ok e
  cases hreq
  refine ⟨hsrc, ?_⟩
  obtain ⟨d, hd, hcase⟩ := createVolume_new hnew e
  refine ⟨d, hd, ?_⟩
  rw [CreateVolumeRequest.snapshotSource, hsrc] at hcase
  cases src with
  | unset => exact Iff.rfl
  | snapshot id =>
      rcases hcase with ⟨hnone, _⟩ | ⟨id', r, s, hid, hr, hs, hdir, hcontents⟩
      · cases show id = none from hnone
        exact ⟨False.elim, fun hne => hne rfl⟩
      · cases show id = some id' from hid
        exact ⟨fun _ => Option.some_ne_none _, fun _ => ⟨r, s, hr, hs, hdir, hcontents⟩⟩
  | volume id =>
      rcases hcase with ⟨_, hempty⟩ | ⟨id', r, s, hid, _⟩
      · cases id with
        | none => exact Iff.rfl
        | some id =>
            refine exists_congr fun a => exists_congr fun info => exists_congr fun l => ?_
            refine and_congr_right fun _ => and_congr_right fun _ => and_congr_right fun hdir => ?_
            exact contents_eq_new hdir hempty
      · cases hid

end HostPathController

namespace Sample

/-- The sample node with a snapshot of one file. -/
def snapshotHost : Host :=
  { host with
    fs := (host.fs.create ["snapshots", "snap", "data"] fun _ => true).write
      ["snapshots", "snap", "data"] "g" "kept" }

/-- A request for a volume `copy` that is filled from a source. -/
def copyRequest (src : VolumeContentSource) : CreateVolumeRequest :=
  { volumeRequest "copy" with volumeContentSource := some src }

/-- What happens on the node with a snapshot, and the host that is left. -/
def copyHost (src : VolumeContentSource) : Host :=
  (snapshotHost.exec (controller.createVolume (some (copyRequest src)))).2

lemma createVolume_copy (src : VolumeContentSource) (hsome : (snapshotHost.exec
      (controller.createVolume (some (copyRequest src)))).1.toOption.isSome = true) :
    ∃ vol, snapshotHost.exec (controller.createVolume (some (copyRequest src)))
      = (Except.ok vol, copyHost src) := by
  obtain ⟨vol, hvol⟩ := Option.isSome_iff_exists.mp hsome
  exact ⟨vol, exec_eq_ok hvol⟩

end Sample

/-- A volume that is filled from a snapshot. -/
theorem sample_source_used : ∃ vol d,
    Sample.snapshotHost.exec (Sample.controller.createVolume
        (some (Sample.copyRequest (VolumeContentSource.snapshot (some "snap")))))
        = (Except.ok vol, Sample.copyHost (VolumeContentSource.snapshot (some "snap")))
      ∧ vol.contentSource = some (VolumeContentSource.snapshot (some "snap"))
      ∧ Sample.controller.SourceHolds Sample.snapshotHost.fs "local"
        (VolumeContentSource.snapshot (some "snap"))
        ((Sample.copyHost (VolumeContentSource.snapshot (some "snap"))).fs.contents d) := by
  obtain ⟨vol, hvol⟩ := Sample.createVolume_copy (VolumeContentSource.snapshot (some "snap"))
    (by decide +kernel)
  obtain ⟨hack, d, _, hiff⟩ :=
    HostPathController.source_used_iff rfl (by decide +kernel) hvol
  exact ⟨vol, d, hvol, hack, hiff.mpr (Option.some_ne_none _)⟩

/-- A request for a copy of the volume `vol`, which has a file, is answered with an empty volume and
the source that was asked for. -/
theorem source_ignored :
    (∃ vol, Sample.snapshotHost.exec (Sample.controller.createVolume
        (some (Sample.copyRequest (VolumeContentSource.volume (some "vol")))))
        = (Except.ok vol, Sample.copyHost (VolumeContentSource.volume (some "vol")))
        ∧ vol.contentSource = some (VolumeContentSource.volume (some "vol")))
      ∧ Sample.snapshotHost.fs.node ["pool", "vol", "f"] = some (Node.file "old")
      ∧ (Sample.copyHost (VolumeContentSource.volume (some "vol"))).fs.node ["pool", "copy"]
        = some Node.dir
      ∧ (Sample.copyHost (VolumeContentSource.volume (some "vol"))).fs.node ["pool", "copy", "f"]
        = none := by
  have hsome : (Sample.snapshotHost.exec (Sample.controller.createVolume (some (Sample.copyRequest
      (VolumeContentSource.volume (some "vol")))))).1.toOption.map Volume.contentSource
        = some (some (VolumeContentSource.volume (some "vol"))) := by decide +kernel
  obtain ⟨vol, hvol, hack⟩ := Option.map_eq_some_iff.mp hsome
  exact ⟨⟨vol, exec_eq_ok hvol, hack⟩, by decide +kernel, by decide +kernel, by decide +kernel⟩

end Hostpath
