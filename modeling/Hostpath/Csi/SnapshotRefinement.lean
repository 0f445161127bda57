import Hostpath.Csi.SnapshotHistory
import Hostpath.Csi.SnapshotRuns

/-!
# The snapshot store is a finite map

The abstract store of a pool is a finite map from snapshot ids to source volumes.

* `SnapshotMap.Step` says what each request does to the map and which answer it gets.  It looks at
  the map and at which volumes exist, and at nothing else.
* `SnapshotMap.Answers` says what the three queries of the provider return.

`snapshots_refine_map` is **the refinement**: every run of the driver without failures is a run of
the abstract store, with the same answers, and in the state it reaches the queries return the map.
-/

namespace Hostpath

open Lib FilePath Prog Host

/-! ## The abstract store -/

/-- The events that are about the snapshots of the pool `a`. -/
def AboutSnapshots (a : String) : Event → Prop
  | Event.request (Request.createSnapshot (some req)) _ =>
      getStoragePoolNameFromMap req.parameters = a
  | Event.request (Request.deleteSnapshot (some _)) _ => True
  | _ => False

/-- One step of the abstract store of the pool `a`, whose volumes are in `L`. -/
inductive SnapshotMap.Step (a : String) (L : Loc) (M : GoMap String) :
    Host × Event → GoMap String → Prop where
  | created {h : Host} {req : CreateSnapshotRequest} {t : ℕ}
      (hpool : getStoragePoolNameFromMap req.parameters = a) (hM : M.lookup req.name = none)
      (hvol : h.fs.node (L ++ [req.sourceVolumeId]) = some Node.dir) :
      Step a L M (h, Event.request (Request.createSnapshot (some req))
        (Except.ok (Response.snapshot ⟨req.name, req.sourceVolumeId, t, true⟩)))
        (M.insert req.name req.sourceVolumeId)
  | noVolume {h : Host} {req : CreateSnapshotRequest} {err : Err}
      (hpool : getStoragePoolNameFromMap req.parameters = a) (hM : M.lookup req.name = none)
      (hvol : h.fs.node (L ++ [req.sourceVolumeId]) ≠ some Node.dir) :
      Step a L M (h, Event.request (Request.createSnapshot (some req)) (Except.error err)) M
  | same {h : Host} {req : CreateSnapshotRequest} {t : ℕ}
      (hpool : getStoragePoolNameFromMap req.parameters = a)
      (hM : M.lookup req.name = some req.sourceVolumeId) :
      Step a L M (h, Event.request (Request.createSnapshot (some req))
        (Except.ok (Response.snapshot ⟨req.name, req.sourceVolumeId, t, true⟩))) M
  | otherSource {h : Host} {req : CreateSnapshotRequest} {w : String}
      (hpool : getStoragePoolNameFromMap req.parameters = a) (hM : M.lookup req.name = some w)
      (hw : w ≠ req.sourceVolumeId) :
      Step a L M (h, Event.request (Request.createSnapshot (some req))
        (Except.error (HostPathController.sameName req.name))) M
  | deleted {h : Host} {req : DeleteSnapshotRequest} :
      Step a L M (h, Event.request (Request.deleteSnapshot (some req)) (Except.ok Response.empty))
        (M.erase req.snapshotId)
  | elsewhere {x : Host × Event} (hx : ¬ AboutSnapshots a x.2) : Step a L M x M

/-- The abstract store looks at the files of the host only. -/
lemma SnapshotMap.Step.of_fs {a : String} {L : Loc} {M M' : GoMap String} {h h' : Host} {e : Event}
    (hs : SnapshotMap.Step a L M (h, e) M') (hfs : h'.fs = h.fs) :
    SnapshotMap.Step a L M (h', e) M' := by
  cases hs with
  | created hpool hM hvol => exact created hpool hM (hfs ▸ hvol)
  | noVolume hpool hM hvol => exact noVolume hpool hM (hfs ▸ hvol)
  | same hpool hM => exact same hpool hM
  | otherSource hpool hM hw => exact otherSource hpool hM hw
  | deleted => exact deleted
  | elsewhere hx => exact elsewhere hx

/-- What the queries of the provider return, as long as no call fails: each id of the map exactly
once with its source, those of one source, and the entry of an id or nothing. -/
structure SnapshotMap.Answers (p : Reflink) (M : GoMap String) (h : Host) : Prop where
  all : h.NoFaults → ∃ ss h', h.exec p.getAllSnapshots = (Except.ok ss, h')
    ∧ (ss.map Snapshot.snapshotId).Nodup
    ∧ ∀ n v, M.lookup n = some v ↔ ∃ s ∈ ss, s.snapshotId = n ∧ s.sourceVolumeId = v
  bySource : h.NoFaults → ∀ v, ∃ ss h', h.exec (p.getSnapshotsByVolumeSourceId v) = (Except.ok ss, h')
    ∧ (ss.map Snapshot.snapshotId).Nodup ∧ (∀ s ∈ ss, s.sourceVolumeId = v)
    ∧ ∀ n, M.lookup n = some v ↔ ∃ s ∈ ss, s.snapshotId = n
  byId : h.NoFaults → ∀ id, ValidName id → ∃ t h', h.exec (p.getSnapshotById id)
    = (Except.ok ((M.lookup id).map fun v => ⟨id, v, t, true⟩), h')

/-! ## Queries -/

lemma Reflink.Encodes.answers {h : Host} {p : Reflink} {S : Loc} {M : GoMap String}
    (he : Reflink.Encodes S h.fs M) (hS : locate p.path = some S)
    (hdir : h.fs.node S = some Node.dir) : SnapshotMap.Answers p M h := by
  obtain ⟨hnodup, hmem⟩ := he.snapshots hS
  refine ⟨fun hf => ?_, fun hf v => ?_, fun hf id hid => ?_⟩
  · obtain ⟨m, _, hall⟩ := Reflink.getAllSnapshots_of_listable hf (he.listable hS hdir)
    exact ⟨_, m, hall, hnodup, hmem⟩
  · obtain ⟨m, _, hall⟩ := Reflink.getAllSnapshots_of_listable hf (he.listable hS hdir)
    refine ⟨_, m, exec_bind_eq_ok.mpr ⟨_, _, hall, rfl⟩, ?_, ?_, fun n => ?_⟩
    · exact hnodup.sublist (List.filter_sublist.map _)
    · intro s hs
      simpa using (List.mem_filter.mp hs).2
    · rw [hmem]
      simp only [List.mem_filter, decide_eq_true_eq]
      constructor
      · rintro ⟨s, hs, hn, hv⟩
        exact ⟨s, ⟨hs, hv⟩, hn⟩
      · rintro ⟨s, ⟨hs, hv⟩, hn⟩
        exact ⟨s, hs, hn, hv⟩
  · obtain ⟨t, m, _, hget⟩ := he.getSnapshotById hS (h.fs.blocked_concat hdir he.node) hid hf
    exact ⟨t, m, hget⟩

/-! ## Requests -/

namespace HostPathController.SnapshotState

variable {hp : HostPath} {h h' : Host} {e : Event} {a : String} {p : Reflink} {S L : Loc}
  {D : String → Prop} {M : String → GoMap String}

/-- A request for a snapshot gets the answer of the map. -/
lemma createSnapshot_matched {hpc : HostPathController} {req : CreateSnapshotRequest}
    {res : Except Err Snapshot} (hlay : hpc.cfg.Layout) (hst : hpc.SnapshotState D M h)
    (site : hpc.Site a p S L) (hD : D a) (hpool : getStoragePoolNameFromMap req.parameters = a)
    (hid : ValidName req.name) (hv : ValidName req.sourceVolumeId)
    (hvd : req.sourceVolumeId ≠ dataPath) (hf : h.NoFaults)
    (e : h.exec (hpc.createSnapshot (some req)) = (res, h')) :
    SnapshotMap.Step a L (M a)
      (h, Event.request (Request.createSnapshot (some req)) (res.map Response.snapshot))
      (takenAfter a (M a)
        (Event.request (Request.createSnapshot (some req)) (res.map Response.snapshot))) := by
  subst hpool
  rcases createSnapshot_answered (hst.encodes site) site (site.apart_self hlay)
      (hst.volume_node site) hid hv hvd hf e with ⟨m, _, _, hquiet, hans⟩ | ⟨hno, _⟩
  · have hm := (hquiet (hst.dirs site hD)).fs
    cases hans with
    | found hM _ =>
        simp only [Except.map, takenAfter, hM, reduceCtorEq, and_false, if_false]
        exact SnapshotMap.Step.same rfl hM
    | taken hM hvol _ =>
        rw [hm] at hvol
        simp only [Except.map, takenAfter, hM, and_self, if_true]
        exact SnapshotMap.Step.created rfl hM hvol
    | noVolume hM hvol _ =>
        rw [hm] at hvol
        exact SnapshotMap.Step.noVolume rfl hM (by simp [hvol])
    | otherSource hM hw _ => exact SnapshotMap.Step.otherSource rfl hM hw
  · exact absurd (hst.dirs site hD) hno

/-- **Every step of the driver is a step of the abstract store.** -/
lemma step_matched (hlay : hp.controller.cfg.Layout) (hwf : hp.controller.WellFormed)
    (hst : hp.controller.SnapshotState D M h) (site : hp.controller.Site a p S L) (hD : D a)
    (hs : hp.Step SnapshotRequest h e h') :
    SnapshotMap.Step a L (M a) (h, e) (takenAfter a (M a) e) := by
  cases hs with
  | write hw => exact SnapshotMap.Step.elsewhere id
  | @request _ hp' outcomes q res hre hC he =>
      have hlay' := hre.controller.layout hlay
      have hwf' := hre.wellFormed hwf
      have hst' : hp'.controller.SnapshotState D M { h with outcomes } :=
        (hst.reorders hre).of_host rfl rfl
      cases q with
      | createSnapshot r =>
          cases r with
          | none => exact SnapshotMap.Step.elsewhere id
          | some req =>
              obtain ⟨r', e', rfl⟩ := exec_respond he
              obtain ⟨hf, hreq⟩ := hC
              obtain ⟨hid, hv, hvd⟩ := hreq req rfl
              by_cases hpool : getStoragePoolNameFromMap req.parameters = a
              · exact (hst'.createSnapshot_matched hlay' (hre.site site) hD hpool hid hv hvd hf
                  e').of_fs rfl
              · have hkeep : takenAfter a (M a) (Event.request (Request.createSnapshot (some req))
                    (r'.map Response.snapshot)) = M a := by
                  cases r' with
                  | ok snap => simp [takenAfter, Except.map, hpool]
                  | error err => rfl
                rw [hkeep]
                exact SnapshotMap.Step.elsewhere hpool
      | deleteSnapshot r =>
          cases r with
          | none => exact SnapshotMap.Step.elsewhere id
          | some req =>
              obtain ⟨r', e', rfl⟩ := exec_respond he
              obtain ⟨m, hrun, _⟩ := hst'.deleteSnapshot hlay' hwf' (hC.2 req rfl) hC.1
              cases hrun.symm.trans e'
              exact SnapshotMap.Step.deleted
      | createVolume r => exact SnapshotMap.Step.elsewhere id
      | deleteVolume r => exact SnapshotMap.Step.elsewhere id
      | listSnapshots r => exact SnapshotMap.Step.elsewhere id
      | validateVolumeCapabilities r => exact hC.elim
      | getCapacity r => exact hC.elim
      | listVolumes r => exact hC.elim
      | controllerGetVolume r => exact hC.elim
      | nodePublishVolume r => exact hC.elim
      | nodeUnpublishVolume r => exact hC.elim

end HostPathController.SnapshotState

/-- **The snapshots of a pool refine a finite map.**  Every run of requests for snapshots and
volumes, without failures, from a state that encodes the map `M₀ a`, is a run of the abstract store
with the same answers, and the queries return the map that it ends with. -/
theorem snapshots_refine_map {hp : HostPath} {a : String} {p : Reflink} {S L : Loc}
    {M₀ : String → GoMap String} {h₀ h : Host} {tr : List (Host × Event)}
    (hlay : hp.controller.cfg.Layout) (hwf : hp.controller.WellFormed)
    (site : hp.controller.Site a p S L) (hst : hp.controller.SnapshotState (fun b => b = a) M₀ h₀)
    (hr : Run (hp.Step SnapshotRequest) h₀ tr h) :
    ∃ atr M, Run (SnapshotMap.Step a L) (M₀ a) atr M ∧ atr.map Prod.snd = tr
      ∧ ∀ outcomes, SnapshotMap.Answers p M { h with outcomes } := by
  obtain ⟨atr, M, hrun, htr, Ms, rfl, hst'⟩ := hr.simulates (A := SnapshotMap.Step a L)
    (R := fun m M => ∃ Ms : String → GoMap String, Ms a = M
      ∧ hp.controller.SnapshotState (fun b => b = a) Ms m) ⟨M₀, rfl, hst⟩ (by
    rintro m _ e m' ⟨Ms, rfl, hm⟩ hs
    exact ⟨_, hm.step_matched hlay hwf site rfl hs, fun b => takenAfter b (Ms b) e, rfl,
      hm.step hlay hwf hs⟩)
  refine ⟨atr, Ms a, hrun, htr, fun outcomes => ?_⟩
  exact Reflink.Encodes.answers (hst'.encodes site) site.snapshots (hst'.dirs site rfl)

namespace Sample

lemma snapshotState : controller.SnapshotState (fun b => b = "local") (fun _ => ∅) host where
  unmounted := Config.Unmounted.of_nil rfl
  encodes a p S L hs := Reflink.Encodes.of_empty fun n => by
    obtain ⟨info, hi, _, hS⟩ := hs.pool
    exact noSnapshots _ _ _ n hi hS
  dirs a p S L hs _ := by
    obtain ⟨_, rfl, _⟩ := site_eq hs
    decide
  free a p S L hs := by
    obtain ⟨_, rfl, _⟩ := site_eq hs
    decide
  volumes a p S L hs n c hc := by
    obtain ⟨_, _, rfl⟩ := site_eq hs
    have hmem := host.fs.mem_list.mpr (show host.fs.node (["pool"] ++ [n]) ≠ none by
      rw [hc]
      simp)
    rw [show host.fs.list ["pool"] = ["vol"] by decide, List.mem_singleton] at hmem
    subst hmem
    cases (show host.fs.node ["pool", "vol"] = some Node.dir by decide).symm.trans hc

end Sample

/-- The first snapshot of the sample node, as a run of the abstract store. -/
theorem sample_snapshots_refine :
    ∃ atr M, Run (SnapshotMap.Step "local" ["pool"]) ∅ atr M
      ∧ atr.map Prod.snd = [(Sample.host, Event.request
        (Request.createSnapshot (some Sample.snapshotRequest))
        (Except.ok (Response.snapshot ⟨"snap", "vol", 0, true⟩)))]
      ∧ ∀ outcomes, SnapshotMap.Answers ⟨"node", "/snapshots", "/pool"⟩ M
        { Sample.takenHost with outcomes } :=
  snapshots_refine_map Sample.layout Sample.wellFormed Sample.site Sample.snapshotState
    (Run.snoc Run.nil (Sample.takenHost_step ⟨fun _ => rfl, by
      rintro req ⟨rfl⟩
      exact ⟨by decide, by decide, by decide⟩⟩))

end Hostpath
