import Hostpath.Csi.Runs

/-!
# Snapshots over whole runs

That a snapshot is ready is inferred from the directories that are there, so it is a property of
the runs that led to them.  A run here is any sequence of volume and snapshot requests and of
writes by the users of the volumes.

* `snapshot_complete_run` — **as long as no copy fails, every snapshot that is reported ready holds
  what its source held when it was taken**; `ready_after_failed_copy` is a run with one failed copy
  in which that is not so.
* `restore_faithful_run` — **without failures a restored volume holds what the source held at the
  last request that found no snapshot of that id.**
-/

namespace Hostpath

open Lib FilePath Prog Host

/-! ## One step, at one snapshot -/

/-- Requests whose names are single path components.  `P` holds of the calls of the snapshot
requests. -/
def Orderly (P : Host → Syscall → Prop) (hp : HostPath) (h : Host) : Request → Prop
  | Request.createVolume r => ∀ req, r = some req → ValidName req.name
  | Request.deleteVolume _ => True
  | Request.createSnapshot r =>
      (∀ req, r = some req → ValidName req.name ∧ ValidName req.sourceVolumeId)
        ∧ Along step P (hp.controller.createSnapshot r).run h
  | Request.deleteSnapshot r =>
      (∀ req, r = some req → ValidName req.snapshotId)
        ∧ Along step P (hp.controller.deleteSnapshot r).run h
  | Request.listSnapshots r =>
      ∀ req, r = some req → req.snapshotId = "" ∨ ValidName req.snapshotId
  | _ => False

/-- The event is a request for the snapshot `id` of the pool `a` that found none and went on to
fill it. -/
def Filling (P : Host → Syscall → Prop) (a : String) (p : Reflink) (S : Loc) (id : String)
    (h : Host) (e : Event) (h' : Host) : Prop :=
  ∃ req res r m, e = Event.request (Request.createSnapshot (some req)) res
    ∧ getStoragePoolNameFromMap req.parameters = a ∧ req.name = id
    ∧ ValidName id ∧ ValidName req.sourceVolumeId ∧ h.fs.node (S ++ [id]) = none
    ∧ Frame (fun q => q <+: S) h m ∧ m.at? (p.sourcePoolDir req.sourceVolumeId) ≠ none
    ∧ p.Filled P id req.sourceVolumeId m r h' ∧ res = r.map Response.snapshot

section Step

variable {hp : HostPath} {hpc : HostPathController} {h h' : Host} {e : Event} {a id : String}
  {p : Reflink} {S L : Loc} {P : Host → Syscall → Prop}

/-- **A step leaves a snapshot alone, removes it, or fills it because there was none.** -/
lemma step_site (hlay : hp.controller.cfg.Layout) (hwf : hp.controller.WellFormed)
    (hrem : ∀ m path, P m (Syscall.removeAll path) → (m.outcomes 0).fault = none)
    (site : hp.controller.Site a p S L) (hu : hp.controller.cfg.Unmounted h)
    (hs : hp.Step (Orderly P) h e h') :
    h'.mounts = h.mounts ∧ ∀ id, Untouched (S ++ [id]) h h' ∨ h'.fs.node (S ++ [id]) = none
      ∨ Filling P a p S id h e h' := by
  have hbelow : ∀ {m : Host}, Untouched S h m → ∀ id, Untouched (S ++ [id]) h m := fun hu id q hq =>
    hu q ((List.prefix_append S _).trans hq)
  cases hs with
  | write hw =>
      refine ⟨hw.mounts, fun id => Or.inl (hbelow (hw.untouched fun b info l hb hl => ?_) id)⟩
      exact site.apart_pool hlay hb hl
  | @request _ hp' outcomes q res hre hC he =>
      have hlay' := hre.controller.layout hlay
      have hwf' := hre.wellFormed hwf
      have site' := hre.site site
      have hu' : hp'.controller.cfg.Unmounted { h with outcomes } :=
        (hre.controller.unmounted hu).of_mounts rfl
      cases q with
      | createVolume r =>
          obtain ⟨r', e', _⟩ := exec_respond he
          obtain ⟨hm, hun⟩ := HostPathController.createVolume_untouched hlay' hu' site' hC e'
          exact ⟨hm, fun id => Or.inl (hbelow hun id)⟩
      | deleteVolume r =>
          obtain ⟨r', e', _⟩ := exec_respond he
          obtain ⟨hm, hun⟩ := HostPathController.deleteVolume_untouched hlay' hu' site' e'
          exact ⟨hm, fun id => Or.inl (hbelow hun id)⟩
      | createSnapshot r =>
          obtain ⟨r', e', rfl⟩ := exec_respond he
          have hm := HostPathController.createSnapshot_mounts hlay' hwf' hC.1 e'
          refine ⟨hm, fun id => ?_⟩
          rcases HostPathController.createSnapshot_site hlay' hwf' site' hC.1 e' hC.2 id with
            hun | ⟨req, m, rfl, hpool, hname, hnone, hf, hsrc, hfill⟩
          · exact Or.inl hun
          · obtain ⟨hn, hv⟩ := hC.1 req rfl
            exact Or.inr (Or.inr ⟨req, _, r', m, rfl, hpool, hname, hname ▸ hn, hv, hnone,
              ⟨hf.node, hf.mounts⟩, hsrc, hfill, rfl⟩)
      | deleteSnapshot r =>
          obtain ⟨r', e', _⟩ := exec_respond he
          have heff := HostPathController.deleteSnapshot_site hlay' hwf' hu' site' hC.1 hrem e' hC.2
          exact ⟨(heff "").1, fun id => (heff id).2.imp_right Or.inl⟩
      | listSnapshots r =>
          obtain ⟨r', e', _⟩ := exec_respond he
          have hq := HostPathController.listSnapshots_quiet e'
          have hun : Untouched S { h with outcomes } h' := Untouched.of_quiet hq
          exact ⟨hq.mounts, fun id => Or.inl (hbelow hun id)⟩
      | validateVolumeCapabilities r => exact hC.elim
      | getCapacity r => exact hC.elim
      | listVolumes r => exact hC.elim
      | controllerGetVolume r => exact hC.elim
      | nodePublishVolume r => exact hC.elim
      | nodeUnpublishVolume r => exact hC.elim

/-- The source of a snapshot is outside of its site's snapshots. -/
lemma source_contents {v : String} {m : Host} (hlay : hpc.cfg.Layout)
    (site : hpc.Site a p S L) (hf : Frame (fun q => q <+: S) h m) :
    m.fs.contents (L ++ [v]) = h.fs.contents (L ++ [v]) := by
  refine funext fun q => hf.node _ fun hq => ?_
  exact (site.apart_self hlay).1 ((List.prefix_append L _).trans ((List.prefix_append _ q).trans hq))

end Step

/-! ## Snapshots that are reported ready -/

/-- The calls that decide whether a snapshot is whole: copies succeed, and removals are not cut
short. -/
def Undisturbed (h : Host) : Syscall → Prop
  | Syscall.copyReflink src dst => (h.step (Syscall.copyReflink src dst)).1.isOk = true
  | Syscall.removeAll _ => (h.outcomes 0).fault = none
  | _ => True

instance (h : Host) : ∀ c, Decidable (Undisturbed h c)
  | Syscall.copyReflink src dst =>
      inferInstanceAs (Decidable ((h.step (Syscall.copyReflink src dst)).1.isOk = true))
  | Syscall.removeAll _ => inferInstanceAs (Decidable ((h.outcomes 0).fault = none))
  | Syscall.statfs _ | Syscall.stat _ | Syscall.readDir _ | Syscall.mkdir _ | Syscall.mkdirAll _
  | Syscall.isNotMountPoint _ | Syscall.mount _ _ _ _ | Syscall.unmount _ | Syscall.findmnt _ =>
      isTrue trivial

/-- The snapshot `id` of the pool `a` was asked for with the source `v`, and its data directory
holds what `v` held then. -/
def Complete (a : String) (S L : Loc) (tr : List (Host × Event)) (h : Host) (id v : String) :
    Prop :=
  ∃ g req res, (g, Event.request (Request.createSnapshot (some req)) res) ∈ tr
    ∧ getStoragePoolNameFromMap req.parameters = a ∧ req.name = id ∧ req.sourceVolumeId = v
    ∧ g.fs.node (L ++ [v]) = some Node.dir
    ∧ h.fs.contents (S ++ [id, dataPath]) = g.fs.contents (L ++ [v])

/-- Nothing is in the snapshot directories yet. -/
def Config.NoSnapshots (cfg : Config) (h : Host) : Prop :=
  ∀ a info S n, cfg.storagePoolInfo.lookup a = some info → info.snapshotLoc = some S →
    h.fs.node (S ++ [n]) = none

section Ready

variable {hp : HostPath} {hpc : HostPathController} {h h' : Host} {e : Event} {a id v : String}
  {p : Reflink} {S L : Loc} {tr : List (Host × Event)}

lemma Complete.step {x : Host × Event} (hc : Complete a S L tr h id v)
    (hu : Untouched (S ++ [id]) h h') : Complete a S L (tr ++ [x]) h' id v := by
  obtain ⟨g, req, res, hmem, hpool, hname, hsrc, hdir, hcont⟩ := hc
  refine ⟨g, req, res, List.mem_append_left _ hmem, hpool, hname, hsrc, hdir, ?_⟩
  rw [hu.contents ⟨[dataPath], by simp⟩]
  exact hcont

/-- A snapshot that was taken is complete. -/
lemma complete_of_taken {req : CreateSnapshotRequest} {res : Except Err Response} {m : Host}
    (hlay : hpc.cfg.Layout) (site : hpc.Site (getStoragePoolNameFromMap req.parameters) p S L)
    (hf : Frame (fun q => q <+: S) h m)
    (ht : Reflink.Taken S req.name req.sourceVolumeId (L ++ [req.sourceVolumeId]) m h') :
    Complete (getStoragePoolNameFromMap req.parameters) S L
      (tr ++ [(h, Event.request (Request.createSnapshot (some req)) res)]) h'
      req.name req.sourceVolumeId := by
  have hcont := source_contents (v := req.sourceVolumeId) hlay site hf
  refine ⟨h, req, res, by simp, rfl, rfl, rfl, ?_, ht.contents.trans hcont⟩
  have hnode := congrFun hcont []
  rw [FileTree.contents, FileTree.contents, List.append_nil, ht.source] at hnode
  exact hnode.symm

/-- The snapshot is still not there when filling it starts, and its source is elsewhere. -/
lemma fresh_of_frame {m : Host} (hlay : hpc.cfg.Layout)
    (site : hpc.Site a p S L) (hv : ValidName v) (hnone : h.fs.node (S ++ [id]) = none)
    (hf : Frame (fun q => q <+: S) h m) :
    locate (p.sourcePoolDir v) = some (L ++ [v]) ∧ Apart (L ++ [v]) S
      ∧ m.fs.node (S ++ [id]) = none := by
  refine ⟨locate_join_valid site.volumes hv,
    (site.apart_self hlay).below (List.prefix_append L _) (List.prefix_refl S), ?_⟩
  rw [hf.node _ (not_prefix_of_below (List.prefix_refl _))]
  exact hnone

/-- **One step keeps every snapshot that can be found complete.** -/
lemma markers_step (hlay : hp.controller.cfg.Layout) (hwf : hp.controller.WellFormed)
    (site : hp.controller.Site a p S L) (hu : hp.controller.cfg.Unmounted h)
    (hJ : ∀ id v, v ≠ dataPath → h.fs.node (S ++ [id, v]) ≠ none → Complete a S L tr h id v)
    (hs : hp.Step (Orderly Undisturbed) h e h') (hv : v ≠ dataPath)
    (hn : h'.fs.node (S ++ [id, v]) ≠ none) : Complete a S L (tr ++ [(h, e)]) h' id v := by
  rcases (step_site hlay hwf (fun m path hP => hP) site hu hs).2 id with hun | hgone | hfill
  · refine (hJ id v hv ?_).step hun
    rwa [← hun _ ⟨[v], by simp⟩]
  · exact absurd (FileTree.node_none_of_below ⟨[v], by simp⟩ hgone) hn
  · obtain ⟨req, res, r, m, rfl, rfl, rfl, hid, hsrc, hnone, hf, _, hfilled, _⟩ := hfill
    obtain ⟨hloc, hap, hnone'⟩ := fresh_of_frame hlay site hsrc hnone hf
    rcases hfilled.fresh site.snapshots hid hsrc hloc hap hnone' with
      ⟨ht, _⟩ | ⟨_, hno | ⟨m₂, oe, hcopy, hok⟩⟩
    · obtain rfl := ht.marker v hv hn
      exact complete_of_taken hlay site hf ht
    · exact absurd (hno v hv) hn
    · rw [Undisturbed, hcopy] at hok
      cases hok

/-- Every snapshot that can be found is complete, in every state a run reaches. -/
lemma markers_run {h₀ : Host} (hrun : Run (hp.Step (Orderly Undisturbed)) h₀ tr h)
    (hlay : hp.controller.cfg.Layout) (hwf : hp.controller.WellFormed)
    (hu : hp.controller.cfg.Unmounted h₀) (hempty : hp.controller.cfg.NoSnapshots h₀)
    (site : hp.controller.Site a p S L) :
    hp.controller.cfg.Unmounted h ∧ ∀ id v, v ≠ dataPath → h.fs.node (S ++ [id, v]) ≠ none →
      Complete a S L tr h id v := by
  refine hrun.invariant (I := fun tr h => hp.controller.cfg.Unmounted h ∧ ∀ id v, v ≠ dataPath →
    h.fs.node (S ++ [id, v]) ≠ none → Complete a S L tr h id v) ⟨hu, fun id v _ hn => ?_⟩ ?_
  · obtain ⟨info, hi, _, hS⟩ := site.pool
    exact absurd (FileTree.node_none_of_below ⟨[v], by simp⟩ (hempty a info S id hi hS)) hn
  · rintro tr m e m' ⟨hum, hJ⟩ hs
    have hm := (step_site hlay hwf (fun _ _ hP => hP) site hum hs).1
    exact ⟨hum.of_mounts hm, fun id v hv hn => markers_step hlay hwf site hum hJ hs hv hn⟩

lemma complete_of_found {snap : Snapshot} (site : hpc.Site a p S L)
    (hJ : ∀ id v, v ≠ dataPath → h.fs.node (S ++ [id, v]) ≠ none → Complete a S L tr h id v)
    (hid : ValidName snap.snapshotId) (hf : p.Found h.fs snap) :
    Complete a S L tr h snap.snapshotId snap.sourceVolumeId := by
  obtain ⟨l, hl, hne, hdir⟩ := hf
  rw [locate_join_valid site.snapshots hid] at hl
  cases hl
  have hdir' : h.fs.node (S ++ [snap.snapshotId, snap.sourceVolumeId]) = some Node.dir := by
    simpa using hdir
  exact hJ _ _ hne (by simp [hdir'])

/-- A snapshot that a request returns is complete. -/
lemma createSnapshot_complete {req : CreateSnapshotRequest} {snap : Snapshot}
    (hs : hp.Step (Orderly Undisturbed) h (Event.request (Request.createSnapshot (some req))
      (Except.ok (Response.snapshot snap))) h')
    (hlay : hp.controller.cfg.Layout) (hwf : hp.controller.WellFormed)
    (hJ : ∀ {a p S L}, hp.controller.Site a p S L → ∀ id v, v ≠ dataPath →
      h'.fs.node (S ++ [id, v]) ≠ none → Complete a S L (tr ++ [(h,
        Event.request (Request.createSnapshot (some req)) (Except.ok (Response.snapshot snap)))])
        h' id v) :
    snap.snapshotId = req.name ∧ snap.sourceVolumeId = req.sourceVolumeId
      ∧ ∃ p S L, hp.controller.Site (getStoragePoolNameFromMap req.parameters) p S L
        ∧ Complete (getStoragePoolNameFromMap req.parameters) S L (tr ++ [(h,
          Event.request (Request.createSnapshot (some req)) (Except.ok (Response.snapshot snap)))])
          h' snap.snapshotId snap.sourceVolumeId := by
  cases hs with
  | @request _ hp' outcomes _ _ hre hC he =>
  obtain ⟨r', e', hr'⟩ := exec_respond he
  cases r' with
  | error err => cases hr'
  | ok snap' =>
  cases hr'
  obtain ⟨hname, hsrc⟩ := hC.1 req rfl
  rcases HostPathController.createSnapshot_effect (hre.controller.layout hlay)
      (hre.wellFormed hwf) (fun req' hr => (hC.1 req' hr).1) e' hC.2 with
    ⟨_, hno⟩ | ⟨req', p, S, L, hreq, site', hcases⟩
  · exact absurd rfl (hno snap)
  cases hreq
  obtain ⟨S₀, L₀, site⟩ := HostPathController.exists_site hlay hwf
    ((hre.provider _).symm.trans site'.provider)
  obtain ⟨_, rfl, rfl⟩ := (hre.site site).unique site'
  rcases hcases with ⟨hf, hfound⟩ | ⟨hnone, m, hf, _, hfill⟩
  · obtain ⟨hfd, hid, hsv⟩ := hfound snap rfl
    refine ⟨hid, hsv, p, S₀, L₀, site, complete_of_found site (hJ site) (hid ▸ hname) ?_⟩
    obtain ⟨l, hl, hne, hdir⟩ := hfd
    refine ⟨l, hl, hne, ?_⟩
    rw [hid, locate_join_valid site.snapshots hname] at hl
    cases hl
    rw [hf.node _ (not_prefix_of_below (n := req.name) ⟨[snap.sourceVolumeId], rfl⟩)]
    exact hdir
  · obtain ⟨hloc, hap, hnone'⟩ := fresh_of_frame hlay site hsrc hnone hf
    rcases hfill.fresh site.snapshots hname hsrc hloc hap hnone' with ⟨ht, hids⟩ | ⟨hno, _⟩
    · obtain ⟨hid, hsv⟩ := hids snap rfl
      refine ⟨hid, hsv, p, S₀, L₀, site, ?_⟩
      rw [hid, hsv]
      exact complete_of_taken hlay site ⟨hf.node, hf.mounts⟩ ht
    · exact absurd rfl (hno snap)

end Ready

/-- **Snapshots reported ready are complete.**  In every run in which the names in the requests
are single path components, no copy into a snapshot fails and no removal of a snapshot is cut
short, whatever `CreateSnapshot`, `ListSnapshots` or a provider's `GetSnapshotById` report as ready
is a copy of the source as it was at some earlier request for it. -/
theorem snapshot_complete_run {cfg : Config} {hpc : HostPathController} {h₀ h h' : Host}
    {tr : List (Host × Event)} {e : Event} (hnew : newHostPathController cfg = Except.ok hpc)
    (hlay : cfg.Layout) (hu : cfg.Unmounted h₀) (hempty : cfg.NoSnapshots h₀)
    (hrun : Run (HostPath.Step ⟨⟨cfg⟩, hpc⟩ (Orderly Undisturbed)) h₀ tr h)
    (hs : HostPath.Step ⟨⟨cfg⟩, hpc⟩ (Orderly Undisturbed) h e h') :
    (∀ req snap, e = Event.request (Request.createSnapshot (some req))
          (Except.ok (Response.snapshot snap)) → snap.readyToUse = true →
        snap.snapshotId = req.name ∧ snap.sourceVolumeId = req.sourceVolumeId
          ∧ ∃ p S L, hpc.Site (getStoragePoolNameFromMap req.parameters) p S L
            ∧ Complete (getStoragePoolNameFromMap req.parameters) S L (tr ++ [(h, e)]) h'
              snap.snapshotId snap.sourceVolumeId)
      ∧ (∀ req page, e = Event.request (Request.listSnapshots (some req))
          (Except.ok (Response.snapshots page)) →
        ∀ snap ∈ page.entries, snap.readyToUse = true →
          ∃ a p S L, ∃ m m' : Host, ∃ ss, hpc.Site a p S L ∧ m.fs = h.fs
            ∧ m.exec (HostPathController.providerSnapshots req p) = (Except.ok ss, m')
            ∧ snap ∈ ss ∧ Complete a S L tr h snap.snapshotId snap.sourceVolumeId)
      ∧ ∀ a p id outcomes snap m', hpc.snapshotproviders.lookup a = some p → ValidName id →
        Host.exec { h with outcomes } (p.getSnapshotById id) = (Except.ok (some snap), m') →
        snap.readyToUse = true →
          ∃ S L, hpc.Site a p S L ∧ Complete a S L tr h snap.snapshotId snap.sourceVolumeId := by
  obtain ⟨rfl, hwf⟩ := newHostPathController_ok hnew
  have hJ : ∀ {a p S L}, hpc.Site a p S L → ∀ id v, v ≠ dataPath →
      h.fs.node (S ++ [id, v]) ≠ none → Complete a S L tr h id v := fun site =>
    (markers_run hrun hlay hwf hu hempty site).2
  refine ⟨?_, ?_, ?_⟩
  · rintro req snap rfl -
    refine createSnapshot_complete hs hlay hwf ?_
    exact fun site => (markers_run (hrun.snoc hs) hlay hwf hu hempty site).2
  · rintro req page rfl snap hsnap -
    cases hs with
    | @request _ hp' outcomes _ _ hre hC he =>
    obtain ⟨r', e', hr'⟩ := exec_respond he
    cases r' with
    | error err => cases hr'
    | ok page' =>
    cases hr'
    obtain ⟨_, req', hreq, hall⟩ := HostPathController.listSnapshots_ok e'
    cases hreq
    obtain ⟨p, hp, m, m', ss, hq, hex, hmem⟩ := hall snap hsnap
    obtain ⟨a, ha⟩ := HostPathController.mem_providers.mp hp
    rw [hre.provider] at ha
    obtain ⟨S, L, site⟩ := HostPathController.exists_site hlay hwf ha
    obtain ⟨hid, hf⟩ := (HostPathController.providerSnapshots_ok hex).2 snap hmem
    refine ⟨a, p, S, L, m, m', ss, site, hq.fs, hex, hmem, ?_⟩
    rw [hq.fs] at hf
    refine complete_of_found site (hJ site) ?_ hf
    rcases hid with hid | ⟨hne, hid⟩
    · exact hid
    · rw [hid]
      exact (hC req rfl).resolve_left hne
  · intro a p id outcomes snap m' ha hid hex _
    obtain ⟨S, L, site⟩ := HostPathController.exists_site hlay hwf ha
    obtain ⟨_, ⟨hcon, _⟩ | ⟨l, v, heq, hl, _, hne, hvd⟩⟩ := Reflink.getSnapshotById_ok hex
    · cases hcon
    · cases heq
      exact ⟨S, L, site, complete_of_found site (hJ site) hid
        ⟨l, hl, hne, hvd⟩⟩

/-! ### A copy that fails -/

namespace Sample

def snapshotRequest : CreateSnapshotRequest := ⟨"snap", "vol", parameters⟩

/-- The copy is the seventh call of the request, and fails at once. -/
def copyFails (n : ℕ) : Outcome :=
  if n = 6 then { Outcome.fine with fault := some fun _ => false } else Outcome.fine

/-- The host after the first request, whose copy failed. -/
def cutHost : Host :=
  (Host.exec { host with outcomes := copyFails }
    (controller.createSnapshot (some snapshotRequest))).2

/-- The host after the retry. -/
def retriedHost : Host :=
  (Host.exec { cutHost with outcomes := fun _ => Outcome.fine }
    (controller.createSnapshot (some snapshotRequest))).2

lemma noSnapshots : cfg.NoSnapshots host := by
  intro a info S n ha hS
  obtain ⟨rfl, rfl⟩ := eq_of_lookup ha
  cases (show pool.snapshotLoc = some ["snapshots"] by decide).symm.trans hS
  by_contra hn
  have hmem := host.fs.mem_list.mpr hn
  rw [show host.fs.list ["snapshots"] = [] by decide] at hmem
  cases hmem

end Sample

/-- A copy that failed leaves the directories, and the retry reports the empty snapshot as
ready. -/
theorem ready_after_failed_copy :
    ∃ err snap,
      Sample.driver.Step (fun _ _ _ => True) Sample.host (Event.request
        (Request.createSnapshot (some Sample.snapshotRequest)) (Except.error err)) Sample.cutHost
      ∧ Sample.driver.Step (fun _ _ _ => True) Sample.cutHost (Event.request
        (Request.createSnapshot (some Sample.snapshotRequest))
        (Except.ok (Response.snapshot snap))) Sample.retriedHost
      ∧ snap.readyToUse = true
      ∧ ∀ res₁ res₂, ¬ Complete "local" ["snapshots"] ["pool"]
        [(Sample.host, Event.request (Request.createSnapshot (some Sample.snapshotRequest)) res₁),
          (Sample.cutHost, Event.request (Request.createSnapshot (some Sample.snapshotRequest)) res₂)]
        Sample.retriedHost snap.snapshotId snap.sourceVolumeId := by
  have hcut : (Host.exec { Sample.host with outcomes := Sample.copyFails }
      (Sample.controller.createSnapshot (some Sample.snapshotRequest))).1.toOption.isNone = true := by
    decide +kernel
  have hretry : (Host.exec { Sample.cutHost with outcomes := fun _ => Outcome.fine }
      (Sample.controller.createSnapshot (some Sample.snapshotRequest))).1.toOption
      = some ⟨"snap", "vol", 0, true⟩ := by
    decide +kernel
  obtain ⟨err, hcut⟩ := exec_eq_error hcut
  refine ⟨err, ⟨"snap", "vol", 0, true⟩, ?_, ?_, rfl, ?_⟩
  · exact HostPath.Step.request (HostPath.Reorders.refl _) trivial (exec_bind_of_error step hcut)
  · exact HostPath.Step.request (HostPath.Reorders.refl _) trivial
      (exec_bind_of_ok step (exec_eq_ok hretry))
  rintro res₁ res₂ ⟨g, req, res, hmem, _, _, _, _, hcont⟩
  have hsource : g.fs.node ["pool", "vol", "f"] = some (Node.file "old") := by
    rcases List.mem_cons.mp hmem with heq | hmem
    · rw [(Prod.mk.inj heq).1]
      decide +kernel
    · rw [(Prod.mk.inj (List.mem_singleton.mp hmem)).1]
      decide +kernel
  have hnone : Sample.retriedHost.fs.node ["snapshots", "snap", "data", "f"] = none := by
    decide +kernel
  have hfile := congrFun hcont ["f"]
  simp only [FileTree.contents, dataPath, List.cons_append, List.nil_append] at hfile
  rw [hnone, hsource] at hfile
  cases hfile

namespace Sample

/-- The host after the snapshot was taken. -/
def takenHost : Host :=
  (Host.exec { host with outcomes := fun _ => Outcome.fine }
    (controller.createSnapshot (some snapshotRequest))).2

lemma takenHost_step {C : HostPath → Host → Request → Prop}
    (hC : C driver { host with outcomes := fun _ => Outcome.fine }
      (Request.createSnapshot (some snapshotRequest))) :
    driver.Step C host (Event.request (Request.createSnapshot (some snapshotRequest))
      (Except.ok (Response.snapshot ⟨"snap", "vol", 0, true⟩))) takenHost := by
  have hok : (Host.exec { host with outcomes := fun _ => Outcome.fine }
      (controller.createSnapshot (some snapshotRequest))).1.toOption
      = some ⟨"snap", "vol", 0, true⟩ := by
    decide +kernel
  exact HostPath.Step.request (HostPath.Reorders.refl _) hC (exec_bind_of_ok step (exec_eq_ok hok))

lemma snapshotRequest_valid : ∀ req, some snapshotRequest = some req →
    ValidName req.name ∧ ValidName req.sourceVolumeId := by
  rintro req ⟨rfl⟩
  exact ⟨by decide, by decide⟩

end Sample

/-- On the sample node a snapshot that is taken without failures is complete. -/
theorem sample_snapshot_complete :
    ∃ p S L, Sample.controller.Site "local" p S L ∧ Complete "local" S L
      [(Sample.host, Event.request (Request.createSnapshot (some Sample.snapshotRequest))
        (Except.ok (Response.snapshot ⟨"snap", "vol", 0, true⟩)))] Sample.takenHost "snap" "vol" :=
  ((snapshot_complete_run rfl Sample.layout (Config.Unmounted.of_nil rfl) Sample.noSnapshots Run.nil
    (Sample.takenHost_step ⟨Sample.snapshotRequest_valid, by decide +kernel⟩)).1 _ _ rfl rfl).2.2

/-! ## Restoring a snapshot -/

/-- The call does not fail. -/
def Succeeds (h : Host) : Syscall → Prop
  | Syscall.copyReflink src dst =>
      (h.outcomes 0).fault = none ∧ (h.step (Syscall.copyReflink src dst)).1.isOk = true
  | _ => (h.outcomes 0).fault = none

instance (h : Host) : ∀ c, Decidable (Succeeds h c)
  | Syscall.copyReflink src dst => inferInstanceAs (Decidable ((h.outcomes 0).fault = none
      ∧ (h.step (Syscall.copyReflink src dst)).1.isOk = true))
  | Syscall.statfs _ | Syscall.stat _ | Syscall.readDir _ | Syscall.mkdir _ | Syscall.mkdirAll _
  | Syscall.removeAll _ | Syscall.isNotMountPoint _ | Syscall.mount _ _ _ _ | Syscall.unmount _
  | Syscall.findmnt _ =>
      inferInstanceAs (Decidable ((h.outcomes 0).fault = none))

lemma Succeeds.fault {h : Host} {c : Syscall} (hc : Succeeds h c) : (h.outcomes 0).fault = none := by
  cases c with
  | copyReflink src dst => exact hc.1
  | _ => exact hc

/-- No call fails, and the names and ids of the request are single path components. -/
def Faultless (hp : HostPath) (h : Host) (q : Request) : Prop :=
  h.NoFaults ∧ Orderly Succeeds hp h q
    ∧ ∀ req id, q = Request.createVolume (some req) → req.snapshotSource = some id → ValidName id

/-- `req`, made in the state `g`, is the last request for the snapshot `id` of the pool `a` that
found no such snapshot in the directory `S`. -/
def LastTaken (a : String) (S : Loc) (id : String) (tr : List (Host × Event)) (g : Host)
    (req : CreateSnapshotRequest) : Prop :=
  ∃ tr₁ res tr₂, tr = tr₁ ++ (g, Event.request (Request.createSnapshot (some req)) res) :: tr₂
    ∧ getStoragePoolNameFromMap req.parameters = a ∧ req.name = id
    ∧ g.fs.node (S ++ [id]) = none
    ∧ ∀ g' req' res', (g', Event.request (Request.createSnapshot (some req')) res') ∈ tr₂ →
      getStoragePoolNameFromMap req'.parameters = a → req'.name = id →
      g'.fs.node (S ++ [id]) ≠ none

section Restore

variable {hp : HostPath} {h h' g : Host} {e : Event} {a id : String} {p : Reflink} {S L : Loc}
  {tr : List (Host × Event)}

lemma HostPath.Step.mono {C C' : HostPath → Host → Request → Prop}
    (hC : ∀ hp h q, C hp h q → C' hp h q) (hs : hp.Step C h e h') : hp.Step C' h e h' := by
  cases hs with
  | request hre hq he => exact HostPath.Step.request hre (hC _ _ _ hq) he
  | write hw => exact HostPath.Step.write hw

/-- A later event does not take the place of the last one if the snapshot is there. -/
lemma LastTaken.snoc {req : CreateSnapshotRequest} (hl : LastTaken a S id tr g req)
    (hn : h.fs.node (S ++ [id]) ≠ none) : LastTaken a S id (tr ++ [(h, e)]) g req := by
  obtain ⟨tr₁, res, tr₂, rfl, hpool, hname, hnone, hlater⟩ := hl
  refine ⟨tr₁, res, tr₂ ++ [(h, e)], by simp, hpool, hname, hnone, ?_⟩
  intro g' req' res' hmem hpool' hname'
  rcases List.mem_append.mp hmem with hmem | hmem
  · exact hlater g' req' res' hmem hpool' hname'
  · rw [(Prod.mk.inj (List.mem_singleton.mp hmem)).1]
    exact hn

/-- **One step keeps every snapshot what its source was when it was last taken.** -/
lemma recorded_step (hlay : hp.controller.cfg.Layout) (hwf : hp.controller.WellFormed)
    (site : hp.controller.Site a p S L) (hu : hp.controller.cfg.Unmounted h)
    (hK : ∀ id, h.fs.node (S ++ [id]) ≠ none → ∃ g req, LastTaken a S id tr g req
      ∧ h.fs.contents (S ++ [id, dataPath]) = g.fs.contents (L ++ [req.sourceVolumeId]))
    (hs : hp.Step Faultless h e h') (hn : h'.fs.node (S ++ [id]) ≠ none) :
    ∃ g req, LastTaken a S id (tr ++ [(h, e)]) g req
      ∧ h'.fs.contents (S ++ [id, dataPath]) = g.fs.contents (L ++ [req.sourceVolumeId]) := by
  have hs' : hp.Step (Orderly Succeeds) h e h' := hs.mono fun _ _ _ hC => hC.2.1
  rcases (step_site hlay hwf (fun _ _ hP => hP) site hu hs').2 id with hun | hgone | hfill
  · have hn' : h.fs.node (S ++ [id]) ≠ none := by rwa [← hun _ (List.prefix_refl _)]
    obtain ⟨g, req, hlast, hcont⟩ := hK id hn'
    refine ⟨g, req, hlast.snoc hn', ?_⟩
    rw [hun.contents ⟨[dataPath], by simp⟩]
    exact hcont
  · exact absurd hgone hn
  · obtain ⟨req, res, r, m, rfl, rfl, rfl, hid, hsrc, hnone, hf, _, hfilled, _⟩ := hfill
    obtain ⟨hloc, hap, hnone'⟩ := fresh_of_frame hlay site hsrc hnone hf
    rcases hfilled.of_succeeds site.snapshots hid hsrc hloc hap hnone' (fun _ _ hP => hP.fault)
        (fun _ _ _ hP => hP.2) with ht | hgone
    · refine ⟨h, req, ⟨tr, res, [], rfl, rfl, rfl, hnone, by simp⟩, ?_⟩
      exact ht.contents.trans (source_contents hlay site hf)
    · exact absurd hgone hn

lemma recorded_run {h₀ : Host} (hrun : Run (hp.Step Faultless) h₀ tr h)
    (hlay : hp.controller.cfg.Layout) (hwf : hp.controller.WellFormed)
    (hu : hp.controller.cfg.Unmounted h₀) (hempty : hp.controller.cfg.NoSnapshots h₀)
    (site : hp.controller.Site a p S L) :
    hp.controller.cfg.Unmounted h ∧ ∀ id, h.fs.node (S ++ [id]) ≠ none →
      ∃ g req, LastTaken a S id tr g req
        ∧ h.fs.contents (S ++ [id, dataPath]) = g.fs.contents (L ++ [req.sourceVolumeId]) := by
  refine hrun.invariant (I := fun tr h => hp.controller.cfg.Unmounted h ∧ ∀ id,
    h.fs.node (S ++ [id]) ≠ none → ∃ g req, LastTaken a S id tr g req
      ∧ h.fs.contents (S ++ [id, dataPath]) = g.fs.contents (L ++ [req.sourceVolumeId]))
    ⟨hu, fun id hn => ?_⟩ ?_
  · obtain ⟨info, hi, _, hS⟩ := site.pool
    exact absurd (hempty a info S id hi hS) hn
  · rintro tr m e m' ⟨hum, hK⟩ hs
    have hs' : hp.Step (Orderly Succeeds) m e m' := hs.mono fun _ _ _ hC => hC.2.1
    have hm := (step_site hlay hwf (fun _ _ hP => hP) site hum hs').1
    exact ⟨hum.of_mounts hm, fun id hn => recorded_step hlay hwf site hum hK hs hn⟩

/-- A volume that is new is filled with exactly what the data directory of the snapshot holds. -/
lemma restored_contents {hpc : HostPathController} {req : CreateVolumeRequest} {v : Volume}
    (site : hpc.Site (getStoragePoolNameFromMap req.parameters) p S L)
    (hname : ValidName req.name) (hid : ValidName id) (hsrc : req.snapshotSource = some id)
    (hnew : h.fs.node (L ++ [req.name]) = none)
    (e : h.exec (hpc.createVolume (some req)) = (Except.ok v, h')) :
    h.fs.node (S ++ [id, dataPath]) = some Node.dir
      ∧ h'.fs.contents (L ++ [req.name]) = h.fs.contents (S ++ [id, dataPath]) := by
  obtain ⟨_, _, _, hreq, hadm, _⟩ := HostPathController.createVolume_ok e
  cases hreq
  have hL : (hpc.poolOf req).loc = some L := by
    obtain ⟨info, hi, hL, _⟩ := site.pool
    rw [HostPathController.lookup_poolOf hadm] at hi
    cases hi
    exact hL
  have hvol := HostPathController.locate_volumePath hL hname
  have habsent : h.at? (hpc.volumePath req) = none := by rw [at?, hvol]; exact hnew
  obtain ⟨d, hd, ⟨hnone, _⟩ | ⟨id', r, s, hsrc', hr, hs, hdir, hcontents⟩⟩ :=
    HostPathController.createVolume_new habsent e
  · cases hsrc.symm.trans hnone
  · cases hsrc.symm.trans hsrc'
    cases site.provider.symm.trans hr
    cases (Reflink.locate_dataDir site.snapshots hid).symm.trans hs
    cases hvol.symm.trans hd
    exact ⟨hdir, hcontents⟩

end Restore

/-- **Snapshot then restore is faithful.**  In every run without failures, a volume that is newly
made from the snapshot `id` holds what the source volume held at the last request that found no
snapshot `id` in that pool. -/
theorem restore_faithful_run {cfg : Config} {hpc : HostPathController} {h₀ h h' : Host}
    {tr : List (Host × Event)} (hnew : newHostPathController cfg = Except.ok hpc)
    (hlay : cfg.Layout) (hu : cfg.Unmounted h₀) (hempty : cfg.NoSnapshots h₀)
    (hrun : Run (HostPath.Step ⟨⟨cfg⟩, hpc⟩ Faultless) h₀ tr h)
    {req : CreateVolumeRequest} {v : Volume} {id : String} (hsrc : req.snapshotSource = some id)
    {L : Loc} (hL : (cfg.pool (getStoragePoolNameFromMap req.parameters)).loc = some L)
    (habs : h.fs.node (L ++ [req.name]) = none)
    (hs : HostPath.Step ⟨⟨cfg⟩, hpc⟩ Faultless h
      (Event.request (Request.createVolume (some req)) (Except.ok (Response.volume v))) h') :
    ∃ p S g sreq, hpc.Site (getStoragePoolNameFromMap req.parameters) p S L
      ∧ LastTaken (getStoragePoolNameFromMap req.parameters) S id tr g sreq
      ∧ h'.fs.contents (L ++ [req.name]) = g.fs.contents (L ++ [sreq.sourceVolumeId]) := by
  obtain ⟨rfl, hwf⟩ := newHostPathController_ok hnew
  cases hs with
  | @request _ hp' outcomes _ _ hre hC he =>
  obtain ⟨r', e', hr'⟩ := exec_respond he
  cases r' with
  | error err => cases hr'
  | ok v' =>
  have hid := hC.2.2 req id rfl hsrc
  have hname := hC.2.1 req rfl
  obtain ⟨_, c, m, hreq, _, _, _, _, ⟨hnone, _⟩ | ⟨id', p, _, _, _, hsrc', hp, _⟩⟩ :=
    HostPathController.createVolume_ok e'
  · cases hreq
    cases hsrc.symm.trans hnone
  cases hreq
  obtain ⟨S, L', site⟩ := HostPathController.exists_site hlay hwf ((hre.provider _).symm.trans hp)
  obtain rfl : L' = L := by
    obtain ⟨info, hi, hL', _⟩ := site.pool
    rw [Config.pool, hi] at hL
    exact Option.some.inj (hL'.symm.trans hL)
  obtain ⟨hdata, hcont⟩ := restored_contents (h := { h with outcomes }) (hre.site site) hname hid
    hsrc habs e'
  have hthere : h.fs.node (S ++ [id]) ≠ none := fun hnone => by
    cases (FileTree.node_none_of_below ⟨[dataPath], by simp⟩ hnone).symm.trans hdata
  obtain ⟨g, sreq, hlast, hrec⟩ := (recorded_run hrun hlay hwf hu hempty site).2 id hthere
  exact ⟨p, S, g, sreq, site, hlast, hcont.trans hrec⟩

namespace Sample

lemma snapshotRequest_faultless :
    Faultless driver { host with outcomes := fun _ => Outcome.fine }
      (Request.createSnapshot (some snapshotRequest)) :=
  ⟨fun _ => rfl, ⟨snapshotRequest_valid, by decide +kernel⟩, fun req id hreq => by cases hreq⟩

lemma restoreRequest_faultless : Faultless driver { takenHost with outcomes := fun _ => Outcome.fine }
    (Request.createVolume (some (HostPathController.restoreRequest "new"))) := by
  refine ⟨fun _ => rfl, ?_, ?_⟩
  · rintro req ⟨rfl⟩
    decide
  · rintro req id ⟨rfl⟩ ⟨rfl⟩
    decide

end Sample

/-- On the sample node, the snapshot of the volume restored to a new one. -/
theorem sample_restore_faithful :
    ∃ v h', Sample.driver.Step Faultless Sample.takenHost (Event.request
        (Request.createVolume (some (HostPathController.restoreRequest "new")))
        (Except.ok (Response.volume v))) h'
      ∧ ∃ p S g sreq, Sample.controller.Site "local" p S ["pool"]
        ∧ LastTaken "local" S "snap" [(Sample.host, Event.request
            (Request.createSnapshot (some Sample.snapshotRequest))
            (Except.ok (Response.snapshot ⟨"snap", "vol", 0, true⟩)))] g sreq
        ∧ h'.fs.contents ["pool", "new"] = g.fs.contents (["pool"] ++ [sreq.sourceVolumeId]) := by
  have h₁ := Sample.takenHost_step Sample.snapshotRequest_faultless
  have hok : (Host.exec { Sample.takenHost with outcomes := fun _ => Outcome.fine }
      (Sample.controller.createVolume
        (some (HostPathController.restoreRequest "new")))).1.toOption.isSome = true := by
    decide +kernel
  obtain ⟨v, hv⟩ := Option.isSome_iff_exists.mp hok
  have h₂ := HostPath.Step.request (HostPath.Reorders.refl Sample.driver)
    Sample.restoreRequest_faultless (exec_bind_of_ok step (exec_eq_ok hv))
  exact ⟨v, _, h₂, restore_faithful_run rfl Sample.layout (Config.Unmounted.of_nil rfl)
    Sample.noSnapshots (Run.snoc Run.nil h₁) rfl (by decide) (by decide +kernel) h₂⟩

end Hostpath
