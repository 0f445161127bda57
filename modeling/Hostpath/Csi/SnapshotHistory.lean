import Hostpath.Csi.SnapshotMap

/-!
# Runs of snapshot requests

The history of a run says which snapshots each pool has: `taken` folds it into a map.  In every
state that a run without failures reaches, each snapshot directory encodes the map of its pool
(`SnapshotState.run`).  Volumes may come and go and be written to in between, as long as they stay
directories.
-/

namespace Hostpath

open Lib FilePath Prog Host

/-! ## The map of a history -/

/-- What a step does to the snapshots of the pool `a`. -/
def takenAfter (a : String) (M : GoMap String) : Event → GoMap String
  | Event.request (Request.createSnapshot (some req)) (Except.ok _) =>
      if getStoragePoolNameFromMap req.parameters = a ∧ M.lookup req.name = none then
        M.insert req.name req.sourceVolumeId
      else M
  | Event.request (Request.deleteSnapshot (some req)) (Except.ok _) => M.erase req.snapshotId
  | _ => M

/-- The snapshots of the pool `a`, each with its source, after a history that started with the
snapshots `M`. -/
def taken (a : String) (M : GoMap String) (tr : List (Host × Event)) : GoMap String :=
  tr.foldl (fun M x => takenAfter a M x.2) M

lemma taken_snoc (a : String) (M : GoMap String) (tr : List (Host × Event)) (x : Host × Event) :
    taken a M (tr ++ [x]) = takenAfter a (taken a M tr) x.2 := by
  simp [taken]

/-! ## The states of a run -/

/-- Every snapshot directory encodes the map of its pool and can be had, those of the pools in `D`
are there, the pools hold no files, and nothing is mounted in either. -/
structure HostPathController.SnapshotState (hpc : HostPathController) (D : String → Prop)
    (M : String → GoMap String) (h : Host) : Prop where
  unmounted : hpc.cfg.Unmounted h
  encodes : ∀ ⦃a p S L⦄, hpc.Site a p S L → Reflink.Encodes S h.fs (M a)
  dirs : ∀ ⦃a p S L⦄, hpc.Site a p S L → D a → h.fs.node S = some Node.dir
  free : ∀ ⦃a p S L⦄, hpc.Site a p S L → h.fs.blocked S = false
  volumes : ∀ ⦃a p S L⦄, hpc.Site a p S L → ∀ n c, h.fs.node (L ++ [n]) ≠ some (Node.file c)

namespace HostPathController

variable {hpc : HostPathController} {h h' : Host} {a b : String} {p p' : Reflink}
  {S S' L L' : Loc} {D : String → Prop} {M : String → GoMap String}

namespace SnapshotState

lemma of_host (hst : hpc.SnapshotState D M h) (hfs : h'.fs = h.fs) (hm : h'.mounts = h.mounts) :
    hpc.SnapshotState D M h' := by
  obtain ⟨h₁, h₂, h₃, h₄, h₅⟩ := hst
  refine ⟨h₁.of_mounts hm, ?_, ?_, ?_, ?_⟩ <;> rw [hfs] <;> assumption

/-- The map does not change where nothing happens to the snapshots. -/
lemma congr (hst : hpc.SnapshotState D M h) (hm : h'.mounts = h.mounts)
    (hS : ∀ ⦃a p S L⦄, hpc.Site a p S L → Untouched S h h' ∧ ∀ q, q <+: S → NoNewFile q h h')
    (hL : ∀ ⦃a p S L⦄, hpc.Site a p S L → ∀ n, NoNewFile (L ++ [n]) h h') :
    hpc.SnapshotState D M h' where
  unmounted := hst.unmounted.of_mounts hm
  encodes _ _ S _ site := (hst.encodes site).congr fun _ q hq =>
    (hS site).1 q ((List.prefix_append S _).trans hq)
  dirs _ _ S _ site hD := ((hS site).1 S (List.prefix_refl S)).trans (hst.dirs site hD)
  free _ _ _ _ site := FileTree.blocked_of_no_file (hS site).2 (hst.free site)
  volumes _ _ _ _ site n c hc := hst.volumes site n c (hL site n c hc)

/-- Where a volume would be is a directory or nothing. -/
lemma volume_node (hst : hpc.SnapshotState D M h) (site : hpc.Site a p S L) (n : String) :
    h.fs.node (L ++ [n]) = none ∨ h.fs.node (L ++ [n]) = some Node.dir := by
  cases hn : h.fs.node (L ++ [n]) with
  | none => exact Or.inl rfl
  | some x =>
      cases x with
      | dir => exact Or.inr rfl
      | file c => exact absurd hn (hst.volumes site n c)

end SnapshotState

/-! ## Volumes -/

/-- A request for a volume puts no file in the place of a volume. -/
lemma createVolume_noNewFile {req : CreateVolumeRequest} {res : Except Err Volume} {l : Loc}
    (hname : ValidName req.name) (hl : (hpc.poolOf req).loc = some l)
    (e : h.exec (hpc.createVolume (some req)) = (res, h')) :
    NoNewFile (l ++ [req.name]) h h' := by
  have hloc := locate_volumePath hl hname
  have hens : ∀ {m : Host}, Ensured h (hpc.volumePath req) m →
      NoNewFile (l ++ [req.name]) h m := by
    rintro m ⟨m₀, hq, ⟨_, rfl⟩ | ⟨_, l', _, _, rfl⟩⟩
    · exact NoNewFile.of_quiet hq
    · exact (NoNewFile.of_quiet hq).trans (NoNewFile.made _)
  cases res with
  | ok v =>
      obtain ⟨_, c, m, hreq, _, _, _, hen, hfill⟩ := createVolume_ok e
      cases hreq
      rcases hfill with ⟨_, rfl⟩ | ⟨id, r, s, d, m', _, _, _, hd, hc, hq, rfl⟩
      · exact hens hen
      · cases hloc.symm.trans hd
        exact (hens hen).trans ((NoNewFile.of_quiet hq).trans
          (NoNewFile.overlaid _ (by rw [hq.fs]; exact hc.2.1)))
  | error err =>
      rcases createVolume_error (P := fun _ _ => True) e (along_true _ _) with
        hq | ⟨_, hreq, _, _, hcut | ⟨id, m₁, m₂, res, _, hen, hpart, hdel, _⟩⟩
      · exact NoNewFile.of_quiet hq
      · obtain ⟨_, m, l', reach, hq, _, _, rfl⟩ := hcut
        exact (NoNewFile.of_quiet hq).trans (NoNewFile.made _)
      · cases hreq
        have hcopy : NoNewFile (l ++ [req.name]) m₁ m₂ := by
          rcases hpart with hq | ⟨s, d, keep, m, hd, hdir, hq, rfl⟩
          · exact NoNewFile.of_quiet hq
          · cases hloc.symm.trans hd
            exact (NoNewFile.of_quiet hq).trans
              (NoNewFile.overlaid _ (by rw [hq.fs]; exact hdir))
        refine ((hens hen).trans hcopy).trans ?_
        cases res with
        | ok u =>
            rcases deleteVolume_ok hdel with ⟨_, rfl⟩ | ⟨l', _, _, _, rfl⟩
            · exact NoNewFile.of_quiet (Quiet.tick _)
            · exact (NoNewFile.of_quiet (Quiet.tick _)).trans (NoNewFile.cleared _)
        | error re =>
            rcases deleteVolume_error hdel with rfl | ⟨l', gone, _, rfl⟩
            · exact NoNewFile.of_quiet (Quiet.tick _)
            · exact (NoNewFile.of_quiet (Quiet.tick _)).trans (NoNewFile.cleared _)

/-- Requests for volumes leave the snapshots alone. -/
lemma SnapshotState.createVolume {r : Option CreateVolumeRequest} {res : Except Err Volume}
    (hlay : hpc.cfg.Layout) (hst : hpc.SnapshotState D M h)
    (hreq : ∀ req, r = some req → ValidName req.name)
    (e : h.exec (hpc.createVolume r) = (res, h')) : hpc.SnapshotState D M h' := by
  cases r with
  | none =>
      cases e
      exact hst
  | some req =>
      have hname := hreq req rfl
      have hf := createVolume_frame hst.unmounted.pool hname e
      have hout : ∀ {q}, (∀ l, (hpc.poolOf req).loc = some l → ¬ l ++ [req.name] <+: q) →
          NoNewFile q h h' := fun hq => NoNewFile.of_eq (hf.node _ fun ⟨l, hl, hlq⟩ => hq l hl hlq)
      refine hst.congr hf.mounts (fun a p S L site => ⟨?_, fun q hq => ?_⟩) fun a p S L site n => ?_
      · exact (createVolume_untouched hlay hst.unmounted site hreq e).2
      · refine hout fun l hl hlq => ?_
        exact (site.apart_pool hlay (lookup_of_pool_loc hl) hl).1
          ((List.prefix_append l _).trans (hlq.trans hq))
      · obtain ⟨info, hi, hL, _⟩ := site.pool
        by_cases hsame : getStoragePoolNameFromMap req.parameters = a ∧ req.name = n
        · obtain ⟨rfl, rfl⟩ := hsame
          refine createVolume_noNewFile hname ?_ e
          rw [poolOf, Config.pool, hi]
          exact hL
        · refine hout fun l hl hlq => ?_
          exact hlay.pools.volume_not_below (lookup_of_pool_loc hl) hl hi hL hsame hlq

lemma SnapshotState.deleteVolume {r : Option DeleteVolumeRequest} {res : Except Err Unit}
    (hlay : hpc.cfg.Layout) (hst : hpc.SnapshotState D M h)
    (e : h.exec (hpc.deleteVolume r) = (res, h')) : hpc.SnapshotState D M h' := by
  have hno : ∀ q, NoNewFile q h h' := by
    intro q c hc
    rcases deleteVolume_node_or e q with heq | hnone
    · rwa [heq] at hc
    · cases hnone.symm.trans hc
  have hm : h'.mounts = h.mounts := by
    rcases deleteVolume_cases e with ⟨rfl, _⟩ | ⟨req, failed, rfl, he⟩
    · rfl
    · exact (removeVolumeNamed_frame hst.unmounted.pool he).mounts
  exact hst.congr hm (fun a p S L site =>
    ⟨(deleteVolume_untouched hlay hst.unmounted site e).2, fun q _ => hno q⟩)
    fun a p S L site n => hno _

/-- So do the users of the volumes. -/
lemma SnapshotState.writes (hlay : hpc.cfg.Layout) (hst : hpc.SnapshotState D M h)
    (hw : hpc.cfg.UserWrites h h') : hpc.SnapshotState D M h' := by
  have hway : ∀ {a p S L}, hpc.Site a p S L → ∀ q, q <+: S → NoNewFile q h h' := by
    intro a p S L site q hq
    refine NoNewFile.of_eq ?_
    by_contra hne
    obtain ⟨b, info, l, n, hb, hl, _, hlq, _⟩ := hw.node q hne
    exact (site.apart_pool hlay hb hl).1 ((List.prefix_append l _).trans (hlq.trans hq))
  refine hst.congr hw.mounts (fun a p S L site => ⟨?_, hway site⟩) fun a p S L site n => ?_
  · exact hw.untouched fun b info l hb hl => site.apart_pool hlay hb hl
  · obtain ⟨info, hi, hL, _⟩ := site.pool
    exact NoNewFile.of_eq (hw.volume_node hlay.pools hi hL)

/-! ## Snapshots -/

/-- Where a request for a snapshot can have an effect, and what its map is afterwards. -/
lemma Answered.effect {M : GoMap String} {id v : String} {m : Host} {res : Except Err Snapshot}
    (he : Reflink.Encodes S m.fs M) (hdir : m.fs.node S = some Node.dir) (hvd : v ≠ dataPath)
    (ha : Answered S L M id v m res h') :
    Frame (Reflink.Area S id) m h' ∧ h'.fs.node S = some Node.dir
      ∧ Reflink.Encodes S h'.fs (if res.isOk ∧ M.lookup id = none then M.insert id v else M) := by
  cases ha with
  | found hM hq =>
      refine ⟨Frame.of_quiet hq, by rw [hq.fs]; exact hdir, ?_⟩
      rw [hq.fs, if_neg (by simp [hM])]
      exact he
  | taken hM hvol hnew =>
      refine ⟨hnew.frame, FileTree.node_of_below ⟨[id], rfl⟩ (by simp) (by simp [hnew.dir]), ?_⟩
      rw [if_pos ⟨rfl, hM⟩]
      exact he.insert hvd hnew
  | noVolume hM hvol hq =>
      refine ⟨Frame.of_quiet hq, by rw [hq.fs]; exact hdir, ?_⟩
      rw [hq.fs, if_neg fun hok => absurd hok.1 (by simp [Except.isOk, Except.toBool])]
      exact he
  | otherSource hM hw hq =>
      refine ⟨Frame.of_quiet hq, by rw [hq.fs]; exact hdir, ?_⟩
      rw [hq.fs, if_neg fun hok => absurd hok.1 (by simp [Except.isOk, Except.toBool])]
      exact he

/-- A request for a snapshot can only have an effect at its own snapshot. -/
lemma SnapshotState.of_area {M' : String → GoMap String} {id : String} (hlay : hpc.cfg.Layout)
    (hst : hpc.SnapshotState D M h) (site : hpc.Site a p S L)
    (hf : Frame (Reflink.Area S id) h h') (hdir : h'.fs.node S = some Node.dir)
    (henc : Reflink.Encodes S h'.fs (M' a)) (hM : ∀ b, b ≠ a → M' b = M b) :
    hpc.SnapshotState D M' h' where
  unmounted := hst.unmounted.of_mounts hf.mounts
  encodes b p' S' L' site' := by
    by_cases hba : b = a
    · subst hba
      obtain ⟨_, rfl, _⟩ := site.unique site'
      exact henc
    · rw [hM b hba]
      exact (hst.encodes site').congr fun n => Untouched.of_frame hf fun q hq =>
        site'.not_area hlay site (fun h => hba h.1) hq
  dirs b p' S' L' site' hD := by
    by_cases hba : b = a
    · subst hba
      obtain ⟨_, rfl, _⟩ := site.unique site'
      exact hdir
    · have hap := site'.apart hlay site hba
      rw [hf.node S' (by
        rintro (h₁ | h₁)
        · exact hap.1 h₁
        · exact hap.2 ((List.prefix_append S _).trans h₁))]
      exact hst.dirs site' hD
  free b p' S' L' site' := by
    refine FileTree.blocked_of_no_file (fun q hq c hc => ?_) (hst.free site')
    by_cases hqS : q <+: S
    · -- what is on the way to a directory is a directory
      have hqdir : h'.fs.node q = some Node.dir := by
        by_cases hne : q = S
        · rw [hne, hdir]
        · exact FileTree.node_of_below hqS hne (by simp [hdir])
      cases hqdir.symm.trans hc
    · rw [hf.node q] at hc
      · exact hc
      rintro (h₁ | h₁)
      · exact hqS h₁
      · have hSS : S <+: S' := (List.prefix_append S _).trans (h₁.trans hq)
        by_cases hba : b = a
        · subst hba
          obtain ⟨_, rfl, _⟩ := site.unique site'
          exact not_prefix_of_below h₁ hq
        · exact (site'.apart hlay site hba).2 hSS
  volumes b p' S' L' site' n c hc := by
    obtain ⟨info, hi, hL, _⟩ := site'.pool
    have hap := site.apart_pool hlay hi hL
    rw [hf.node] at hc
    · exact hst.volumes site' n c hc
    rintro (h₁ | h₁)
    · exact hap.1 ((List.prefix_append L' _).trans h₁)
    · exact hap.not_below (List.prefix_append L' _) ((List.prefix_append S _).trans h₁)

/-- A request for a snapshot changes the map of its pool as its answer says. -/
lemma SnapshotState.createSnapshot {req : CreateSnapshotRequest} {res : Except Err Snapshot}
    (hlay : hpc.cfg.Layout) (hwf : hpc.WellFormed) (hst : hpc.SnapshotState D M h)
    (hid : ValidName req.name) (hv : ValidName req.sourceVolumeId)
    (hvd : req.sourceVolumeId ≠ dataPath) (hf : h.NoFaults)
    (e : h.exec (hpc.createSnapshot (some req)) = (res, h')) :
    hpc.SnapshotState D (fun a => takenAfter a (M a)
      (Event.request (Request.createSnapshot (some req)) (res.map Response.snapshot))) h' := by
  have hquiet : Quiet h h' → (∃ err, res = Except.error err) →
      hpc.SnapshotState D (fun a => takenAfter a (M a)
        (Event.request (Request.createSnapshot (some req)) (res.map Response.snapshot))) h' := by
    rintro hq ⟨err, rfl⟩
    exact hst.of_host hq.fs hq.mounts
  cases hp : hpc.snapshotproviders.lookup (getStoragePoolNameFromMap req.parameters) with
  | none =>
      rcases createSnapshot_effect (P := fun _ _ => True) hlay hwf
          (fun req' hr => Option.some.inj hr ▸ hid) e (along_true _ _) with
        ⟨hq, hno⟩ | ⟨_, _, _, _, hreq, site, _⟩
      · cases res with
        | ok snap => exact absurd rfl (hno snap)
        | error err => exact hquiet hq ⟨err, rfl⟩
      · cases hreq
        cases hp.symm.trans site.provider
  | some p =>
  obtain ⟨S, L, site⟩ := exists_site hlay hwf hp
  have hap := site.apart_self hlay
  rcases createSnapshot_answered (hst.encodes site) site hap (hst.volume_node site) hid hv hvd hf
      e with
    ⟨m, hframe, hmdir, _, hans⟩ | ⟨_, herr, hq⟩
  · have hem : Reflink.Encodes S m.fs (M (getStoragePoolNameFromMap req.parameters)) :=
      (hst.encodes site).congr fun n => Untouched.of_frame hframe fun q hq => not_prefix_of_below hq
    obtain ⟨harea, hdir, henc⟩ := hans.effect hem hmdir hvd
    refine hst.of_area hlay site ((hframe.mono fun q hq => Or.inl hq).trans harea) hdir ?_ ?_
    · cases res with
      | ok snap => simpa [takenAfter, Except.map, Except.isOk, Except.toBool] using henc
      | error err => exact henc
    · intro b hb
      cases res with
      | ok snap => simp [takenAfter, Except.map, Ne.symm hb]
      | error err => rfl
  · exact hquiet hq herr

/-- No file is in the place of a snapshot or on the way to it. -/
lemma SnapshotState.entry_free (hst : hpc.SnapshotState D M h) (site : hpc.Site a p S L)
    (n : String) : h.fs.blocked (S ++ [n]) = false := by
  cases hS : h.fs.node S with
  | none => exact h.fs.blocked_append [n] hS (hst.free site)
  | some x =>
      have hx := h.fs.blocked_eq_false (hst.free site) (List.prefix_refl S) hS
      subst hx
      exact h.fs.blocked_concat hS (hst.encodes site).node

/-- **Deleting a snapshot** always succeeds and takes exactly its id out of every map. -/
lemma SnapshotState.deleteSnapshot {req : DeleteSnapshotRequest} (hlay : hpc.cfg.Layout)
    (hwf : hpc.WellFormed) (hst : hpc.SnapshotState D M h) (hid : ValidName req.snapshotId)
    (hf : h.NoFaults) :
    ∃ m, h.exec (hpc.deleteSnapshot (some req)) = (Except.ok (), m)
      ∧ hpc.SnapshotState D (fun a => (M a).erase req.snapshotId) m := by
  obtain ⟨m, hrun, hm, hnode⟩ := deleteFromProviders_of_noFaults (fun p (hp : p ∈ hpc.providers) => by
    obtain ⟨a, S, L, site⟩ := site_of_mem hlay hwf hp
    exact ⟨S, site.snapshots, hst.entry_free site _,
      not_mountedBelow_of_below (List.prefix_append S _) (site.not_mountedBelow hst.unmounted)⟩)
    hid hf
  have hno : ∀ q, NoNewFile q h m := by
    intro q c hc
    rw [hnode q] at hc
    split_ifs at hc
    exact hc
  -- nothing is removed but what is in a snapshot of that name
  have hkeep : ∀ {q}, (∀ a p S L, hpc.Site a p S L → ¬ S ++ [req.snapshotId] <+: q) →
      m.fs.node q = h.fs.node q := by
    intro q hq
    rw [hnode q, if_neg]
    rintro ⟨p, hp, S, hS, hqS⟩
    obtain ⟨a, S', L, site⟩ := site_of_mem hlay hwf hp
    cases hS.symm.trans site.snapshots
    exact hq a p S L site hqS
  refine ⟨m, ?_, hst.unmounted.of_mounts hm, fun a p S L site => ?_, fun a p S L site hD => ?_,
    fun a p S L site => FileTree.blocked_of_no_file (fun q _ => hno q) (hst.free site),
    fun a p S L site n c hc => hst.volumes site n c (hno _ c hc)⟩
  · rw [HostPathController.deleteSnapshot, if_neg hid.1]
    exact hrun
  · refine (hst.encodes site).erase ?_ fun n hne q hq => hkeep fun b p' S' L' site' hq' => ?_
    · rw [hnode, if_pos ⟨p, mem_providers.mpr ⟨a, site.provider⟩, S, site.snapshots,
        List.prefix_refl _⟩]
    · exact site.not_area hlay site' (fun h => hne h.2) hq (Or.inr hq')
  · refine (hkeep fun b p' S' L' site' hq => ?_).trans (hst.dirs site hD)
    by_cases hba : b = a
    · subst hba
      obtain ⟨_, rfl, _⟩ := site.unique site'
      exact not_prefix_of_below hq (List.prefix_refl S)
    · exact (site'.apart hlay site hba).1 ((List.prefix_append S' _).trans hq)

end HostPathController

/-! ## Runs -/

/-- Requests for snapshots without failures, with single path components as names and `data` kept
for the contents, and requests for volumes. -/
def SnapshotRequest (_ : HostPath) (h : Host) : Request → Prop
  | Request.createVolume r => ∀ req, r = some req → ValidName req.name
  | Request.deleteVolume _ => True
  | Request.createSnapshot r => h.NoFaults ∧ ∀ req, r = some req →
      ValidName req.name ∧ ValidName req.sourceVolumeId ∧ req.sourceVolumeId ≠ dataPath
  | Request.deleteSnapshot r => h.NoFaults ∧ ∀ req, r = some req → ValidName req.snapshotId
  | Request.listSnapshots _ => True
  | _ => False

namespace HostPathController.SnapshotState

variable {hp hp' : HostPath} {h h' : Host} {e : Event} {D : String → Prop}
  {M : String → GoMap String} {tr : List (Host × Event)}

lemma reorders (hre : hp.Reorders hp') (hst : hp.controller.SnapshotState D M h) :
    hp'.controller.SnapshotState D M h where
  unmounted := hre.controller.unmounted hst.unmounted
  encodes _ _ _ _ site := hst.encodes (hre.symm.site site)
  dirs _ _ _ _ site := hst.dirs (hre.symm.site site)
  free _ _ _ _ site := hst.free (hre.symm.site site)
  volumes _ _ _ _ site := hst.volumes (hre.symm.site site)

/-- **A step** changes the maps as its event says. -/
lemma step (hlay : hp.controller.cfg.Layout) (hwf : hp.controller.WellFormed)
    (hst : hp.controller.SnapshotState D M h) (hs : hp.Step SnapshotRequest h e h') :
    hp.controller.SnapshotState D (fun a => takenAfter a (M a) e) h' := by
  cases hs with
  | write hw => exact hst.writes hlay hw
  | @request _ hp' outcomes q res hre hC he =>
      have hlay' := hre.controller.layout hlay
      have hwf' := hre.wellFormed hwf
      have hst' : hp'.controller.SnapshotState D M { h with outcomes } :=
        (hst.reorders hre).of_host rfl rfl
      refine SnapshotState.reorders hre.symm ?_
      cases q with
      | createVolume r =>
          obtain ⟨r', e', _⟩ := exec_respond he
          exact hst'.createVolume hlay' hC e'
      | deleteVolume r =>
          obtain ⟨r', e', _⟩ := exec_respond he
          exact hst'.deleteVolume hlay' e'
      | createSnapshot r =>
          obtain ⟨r', e', rfl⟩ := exec_respond he
          cases r with
          | none =>
              cases e'
              exact hst'
          | some req =>
              obtain ⟨hf, hreq⟩ := hC
              obtain ⟨hid, hv, hvd⟩ := hreq req rfl
              exact hst'.createSnapshot hlay' hwf' hid hv hvd hf e'
      | deleteSnapshot r =>
          obtain ⟨r', e', rfl⟩ := exec_respond he
          cases r with
          | none =>
              cases e'
              exact hst'
          | some req =>
              obtain ⟨m, hrun, hdel⟩ := hst'.deleteSnapshot hlay' hwf' (hC.2 req rfl) hC.1
              cases hrun.symm.trans e'
              exact hdel
      | listSnapshots r =>
          obtain ⟨r', e', _⟩ := exec_respond he
          have hq := listSnapshots_quiet e'
          exact hst'.of_host hq.fs hq.mounts
      | validateVolumeCapabilities r => exact hC.elim
      | getCapacity r => exact hC.elim
      | listVolumes r => exact hC.elim
      | controllerGetVolume r => exact hC.elim
      | nodePublishVolume r => exact hC.elim
      | nodeUnpublishVolume r => exact hC.elim

/-- **In every state of a run** each snapshot directory encodes the map of the history. -/
lemma run (hlay : hp.controller.cfg.Layout) (hwf : hp.controller.WellFormed)
    (hst : hp.controller.SnapshotState D M h) (hr : Run (hp.Step SnapshotRequest) h tr h') :
    hp.controller.SnapshotState D (fun a => taken a (M a) tr) h' := by
  refine hr.invariant (I := fun tr m =>
    hp.controller.SnapshotState D (fun a => taken a (M a) tr) m) hst ?_
  intro tr m e m' ih hs
  simp only [taken_snoc]
  exact ih.step hlay hwf hs

end HostPathController.SnapshotState

end Hostpath
