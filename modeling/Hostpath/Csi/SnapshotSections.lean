import Hostpath.Csi.SnapMutex
import Hostpath.Csi.SnapshotHistory
import Hostpath.Csi.SnapshotListing

/-!
# What happens while the snapshot mutex is held

The mutex protects the snapshot directories: while nobody holds it, each of them encodes a map from
ids to source volumes.  A request that holds it reads and changes the directories call by call, and
in between other requests make and remove volumes.  For each of the three requests the file says what
it does to the maps and what it answers, as long as no call fails.

A snapshot is taken of a volume that may be deleted at any moment.  If that happens after the request
has looked for the volume, there is nothing to copy any more, the request fails, and a snapshot stays
that is empty and looks like any other (`StoreAnswer.lost`).
-/

namespace Hostpath

open Lib FilePath Prog Host

/-! ## What the mutex protects -/

/-- The snapshots of each pool, with their sources. -/
abbrev SnapshotMaps := String → GoMap String

namespace HostPathController

variable {hpc : HostPathController} {h h' m : Host} {a b id : String} {p p' : Reflink}
  {S S' L L' : Loc} {M M' : SnapshotMaps}

/-- Every snapshot directory is there and encodes the map of its pool. -/
def Stores (hpc : HostPathController) (h : Host) (M : SnapshotMaps) : Prop :=
  ∀ ⦃a p S L⦄, hpc.Site a p S L → Reflink.Encodes S h.fs (M a) ∧ h.fs.node S = some Node.dir

/-- Nothing has happened in the snapshot directories. -/
def Spared (hpc : HostPathController) (h h' : Host) : Prop :=
  ∀ ⦃a p S L⦄, hpc.Site a p S L → Untouched S h h'

lemma Spared.of_quiet (hq : Quiet h h') : hpc.Spared h h' := fun _ _ _ _ _ => Untouched.of_quiet hq

lemma Spared.trans (h₁ : hpc.Spared h m) (h₂ : hpc.Spared m h') : hpc.Spared h h' :=
  fun _ _ _ _ site => (h₁ site).trans (h₂ site)

lemma Stores.of_spared (hk : hpc.Stores h M) (hs : hpc.Spared h h') : hpc.Stores h' M := by
  intro a p S L site
  obtain ⟨he, hdir⟩ := hk site
  refine ⟨he.congr fun n q hq => hs site q ((List.prefix_append S _).trans hq), ?_⟩
  exact (hs site S (List.prefix_refl S)).trans hdir

/-- The terms of the mutex.  The pools show the map of the volumes at any time, and no call fails. -/
def snapTerms (hpc : HostPathController) (pool : String → String) :
    Mutex.Terms Host (GoMap String) SnapshotMaps where
  shown h live := hpc.cfg.Shows pool h live ∧ h.NoFaults
  kept := hpc.Stores
  same := hpc.Spared
  refl h := Spared.of_quiet (Quiet.refl h)
  trans := Spared.trans
  stable hs hk := hk.of_spared hs

/-- Maps with the same entries are kept alike. -/
lemma Stores.of_lookup (hk : hpc.Stores h M) (hM : ∀ a n, (M' a).lookup n = (M a).lookup n) :
    hpc.Stores h M' := by
  intro a p S L site
  obtain ⟨⟨h₁, h₂⟩, hdir⟩ := hk site
  refine ⟨⟨fun n hn => h₁ ((hM a n).symm.trans hn), fun n v hn => h₂ ((hM a n).symm.trans hn)⟩, hdir⟩

/-! ## While one snapshot is changed -/

/-- Everything but the snapshot `id` of the pool `a` is as the maps say. -/
def KeptBut (hpc : HostPathController) (a id : String) (M : SnapshotMaps) (h : Host) : Prop :=
  ∀ ⦃b p S L⦄, hpc.Site b p S L → h.fs.node S = some Node.dir ∧ ∀ n, ¬ (b = a ∧ n = id) →
    ((M b).lookup n = none → h.fs.node (S ++ [n]) = none)
      ∧ ∀ v, (M b).lookup n = some v →
        h.fs.node (S ++ [n]) = some Node.dir ∧ Reflink.sourceOf h.fs (S ++ [n]) = some v

lemma Stores.but (hk : hpc.Stores h M) (a id : String) : hpc.KeptBut a id M h :=
  fun _ _ _ _ site => ⟨(hk site).2, fun _ _ => ⟨fun hn => (hk site).1.unmapped hn,
    fun _ hn => (hk site).1.mapped hn⟩⟩

namespace KeptBut

lemma of_untouched (hk : hpc.KeptBut a id M h)
    (hu : ∀ ⦃b p S L⦄, hpc.Site b p S L → h'.fs.node S = h.fs.node S
      ∧ ∀ n, ¬ (b = a ∧ n = id) → Untouched (S ++ [n]) h h') : hpc.KeptBut a id M h' := by
  intro b p S L site
  obtain ⟨hdir, hall⟩ := hk site
  obtain ⟨hsame, hrest⟩ := hu site
  refine ⟨hsame.trans hdir, fun n hne => ?_⟩
  have hun := hrest n hne
  refine ⟨fun hn => (hun _ (List.prefix_refl _)).trans ((hall n hne).1 hn), fun v hn => ?_⟩
  obtain ⟨hd, hsrc⟩ := (hall n hne).2 v hn
  refine ⟨(hun _ (List.prefix_refl _)).trans hd, ?_⟩
  rw [← hsrc]
  exact Reflink.sourceOf_congr fun x => hun _ (List.prefix_append _ _)

lemma of_spared (hk : hpc.KeptBut a id M h) (hs : hpc.Spared h h') : hpc.KeptBut a id M h' :=
  hk.of_untouched fun _ _ S _ site => ⟨hs site S (List.prefix_refl S), fun _ _ q hq =>
    hs site q ((List.prefix_append S _).trans hq)⟩

/-- A call that stays in the directory of the snapshot. -/
lemma of_frame (hlay : hpc.cfg.Layout) (site : hpc.Site a p S L) (hk : hpc.KeptBut a id M h)
    (hf : Frame (fun q => S ++ [id] <+: q) h h') : hpc.KeptBut a id M h' := by
  refine hk.of_untouched fun b p' S' L' site' => ⟨hf.node _ fun hq => ?_, fun n hne q hq =>
    hf.node _ fun hq' => ?_⟩
  · by_cases hab : b = a
    · subst hab
      obtain ⟨_, rfl, _⟩ := site.unique site'
      exact not_prefix_of_below hq (List.prefix_refl _)
    · exact (site'.apart hlay site hab).2 ((List.prefix_append S _).trans hq)
  · exact site'.not_area hlay site hne hq (Or.inr hq')

/-- The maps say of the snapshot what is there. -/
lemma kept (hk : hpc.KeptBut a id M h) (site : hpc.Site a p S L)
    (hM : ∀ b n, ¬ (b = a ∧ n = id) → (M' b).lookup n = (M b).lookup n)
    (hnone : (M' a).lookup id = none → h.fs.node (S ++ [id]) = none)
    (hsome : ∀ v, (M' a).lookup id = some v →
      h.fs.node (S ++ [id]) = some Node.dir ∧ Reflink.sourceOf h.fs (S ++ [id]) = some v) :
    hpc.Stores h M' := by
  intro b p' S' L' site'
  obtain ⟨hd, hall⟩ := hk site'
  refine ⟨⟨fun n hn => ?_, fun n w hn => ?_⟩, hd⟩ <;> by_cases hc : b = a ∧ n = id
  · obtain ⟨rfl, rfl⟩ := hc
    obtain ⟨_, rfl, _⟩ := site.unique site'
    exact hnone hn
  · exact (hall n hc).1 ((hM b n hc).symm.trans hn)
  · obtain ⟨rfl, rfl⟩ := hc
    obtain ⟨_, rfl, _⟩ := site.unique site'
    exact hsome w hn
  · exact (hall n hc).2 w ((hM b n hc).symm.trans hn)

/-- The snapshot is put into the map. -/
lemma insert (hk : hpc.KeptBut a id M h) (site : hpc.Site a p S L) {v : String}
    (hdir : h.fs.node (S ++ [id]) = some Node.dir)
    (hsrc : Reflink.sourceOf h.fs (S ++ [id]) = some v) :
    hpc.Stores h (Function.update M a ((M a).insert id v)) := by
  refine hk.kept site (fun b n hc => ?_) (by simp) fun w hw => ?_
  · by_cases hab : b = a
    · subst hab
      rw [Function.update_self, AList.lookup_insert_ne fun hni => hc ⟨rfl, hni⟩]
    · rw [Function.update_of_ne hab]
  · rw [Function.update_self, AList.lookup_insert] at hw
    cases hw
    exact ⟨hdir, hsrc⟩

/-- The snapshot is taken out of the map. -/
lemma erase (hk : hpc.KeptBut a id M h) (site : hpc.Site a p S L)
    (hnone : h.fs.node (S ++ [id]) = none) :
    hpc.Stores h (Function.update M a ((M a).erase id)) := by
  refine hk.kept site (fun b n hc => ?_) (fun _ => hnone) fun w hw => ?_
  · by_cases hab : b = a
    · subst hab
      rw [Function.update_self, AList.lookup_erase_ne fun hni => hc ⟨rfl, hni⟩]
    · rw [Function.update_of_ne hab]
  · rw [Function.update_self, AList.lookup_erase] at hw
    cases hw

end KeptBut

end HostPathController

/-! ## What the requests do to the maps -/

/-- What a request observes when it takes effect. -/
inductive StoreAnswer where
  | volume (o : VolumeAnswer)
  /-- There is such a snapshot already. -/
  | found
  /-- There is a snapshot of that name, of another volume. -/
  | otherSource
  /-- There is no such volume. -/
  | noVolume
  | taken
  /-- The volume is gone before it is copied. -/
  | lost
  | deleted
  | listed (M : SnapshotMaps)

/-- What a request for snapshots does to the maps when it takes effect, while `live` is the map of
the volumes. -/
inductive Request.OnSnapshots (live : GoMap String) (M : SnapshotMaps) :
    Request → StoreAnswer → SnapshotMaps → Prop where
  | found {req : CreateSnapshotRequest}
      (hM : (M (getStoragePoolNameFromMap req.parameters)).lookup req.name
        = some req.sourceVolumeId) :
      OnSnapshots live M (createSnapshot (some req)) StoreAnswer.found M
  | otherSource {req : CreateSnapshotRequest} {w : String}
      (hM : (M (getStoragePoolNameFromMap req.parameters)).lookup req.name = some w)
      (hw : w ≠ req.sourceVolumeId) :
      OnSnapshots live M (createSnapshot (some req)) StoreAnswer.otherSource M
  | noVolume {req : CreateSnapshotRequest}
      (hM : (M (getStoragePoolNameFromMap req.parameters)).lookup req.name = none)
      (hv : live.lookup req.sourceVolumeId ≠ some (getStoragePoolNameFromMap req.parameters)) :
      OnSnapshots live M (createSnapshot (some req)) StoreAnswer.noVolume M
  | taken {req : CreateSnapshotRequest}
      (hM : (M (getStoragePoolNameFromMap req.parameters)).lookup req.name = none)
      (hv : live.lookup req.sourceVolumeId = some (getStoragePoolNameFromMap req.parameters)) :
      OnSnapshots live M (createSnapshot (some req)) StoreAnswer.taken
        (Function.update M (getStoragePoolNameFromMap req.parameters)
          ((M (getStoragePoolNameFromMap req.parameters)).insert req.name req.sourceVolumeId))
  | lost {req : CreateSnapshotRequest}
      (hM : (M (getStoragePoolNameFromMap req.parameters)).lookup req.name = none)
      (hv : live.lookup req.sourceVolumeId ≠ some (getStoragePoolNameFromMap req.parameters)) :
      OnSnapshots live M (createSnapshot (some req)) StoreAnswer.lost
        (Function.update M (getStoragePoolNameFromMap req.parameters)
          ((M (getStoragePoolNameFromMap req.parameters)).insert req.name req.sourceVolumeId))
  | deleted {req : DeleteSnapshotRequest} :
      OnSnapshots live M (deleteSnapshot (some req)) StoreAnswer.deleted
        fun a => (M a).erase req.snapshotId
  | listed {req : ListSnapshotsRequest} :
      OnSnapshots live M (listSnapshots (some req)) (StoreAnswer.listed M) M

/-- Requests that use the mutex for all they do. -/
def Request.OfSnapshots : Request → Prop
  | createSnapshot _ => True
  | deleteSnapshot _ => True
  | listSnapshots _ => True
  | _ => False

/-! ## Listings -/

/-- The entries of a map. -/
def pairs (M : GoMap String) : List (String × String) := M.entries.map fun e => (e.1, e.2)

/-- The snapshots that a listing asks for. -/
def ListSnapshotsRequest.wants (req : ListSnapshotsRequest) (e : String × String) : Bool :=
  if req.snapshotId ≠ "" then e.1 = req.snapshotId
  else if req.sourceVolumeId ≠ "" then e.2 = req.sourceVolumeId
  else true

/-- The listing has the snapshots of all pools that the request asks for, each once. -/
def HostPathController.Lists (hpc : HostPathController) (req : ListSnapshotsRequest)
    (M : SnapshotMaps) (ss : List Snapshot) : Prop :=
  (ss.map Snapshot.key).Perm
    (hpc.snapshotproviders.entries.flatMap fun e => (pairs (M e.1)).filter req.wants)

lemma mem_pairs {M : GoMap String} {n v : String} : (n, v) ∈ pairs M ↔ M.lookup n = some v := by
  rw [← Option.mem_def, AList.mem_lookup_iff, pairs, List.mem_map]
  constructor
  · rintro ⟨⟨n', v'⟩, hmem, heq⟩
    cases heq
    exact hmem
  · exact fun hmem => ⟨_, hmem, rfl⟩

lemma nodup_pairs (M : GoMap String) : (pairs M).Nodup := by
  refine M.nodupKeys.nodup.map fun x y hxy => ?_
  obtain ⟨n, v⟩ := x
  obtain ⟨n', v'⟩ := y
  cases hxy
  rfl

/-- A list of snapshots with different ids, one for each entry of the map. -/
lemma perm_pairs {M : GoMap String} {ss : List Snapshot}
    (hnodup : (ss.map Snapshot.snapshotId).Nodup)
    (hsound : ∀ s ∈ ss, M.lookup s.snapshotId = some s.sourceVolumeId)
    (hall : ∀ n, M.lookup n ≠ none → n ∈ ss.map Snapshot.snapshotId) :
    (ss.map Snapshot.key).Perm (pairs M) := by
  have hkeys : (ss.map Snapshot.key).Nodup := by
    refine List.Nodup.of_map Prod.fst ?_
    rwa [List.map_map]
  refine (List.perm_ext_iff_of_nodup hkeys (nodup_pairs M)).mpr fun ⟨n, v⟩ => ?_
  rw [mem_pairs, List.mem_map]
  constructor
  · rintro ⟨s, hs, heq⟩
    cases heq
    exact hsound s hs
  · intro hn
    obtain ⟨s, hs, rfl⟩ := List.mem_map.mp (hall n (by simp [hn]))
    cases (hsound s hs).symm.trans hn
    exact ⟨s, hs, rfl⟩

/-- How the response of a request agrees with what the request observed.  A request that is refused
is refused before it takes the mutex. -/
inductive HostPath.Reported (hp : HostPath) :
    Request → Option StoreAnswer → Except Err Response → Prop where
  | refused {q : Request} {e : Err} (hq : hp.serveLocked q = throw e) :
      Reported hp q none (Except.error e)
  | snapshot {req : CreateSnapshotRequest} {o : StoreAnswer} (t : ℕ)
      (ho : o = StoreAnswer.found ∨ o = StoreAnswer.taken) :
      Reported hp (Request.createSnapshot (some req)) (some o)
        (Except.ok (Response.snapshot ⟨req.name, req.sourceVolumeId, t, true⟩))
  | otherSource {req : CreateSnapshotRequest} :
      Reported hp (Request.createSnapshot (some req)) (some StoreAnswer.otherSource)
        (Except.error (HostPathController.sameName req.name))
  | noSource {req : CreateSnapshotRequest} {o : StoreAnswer} (e : Err)
      (ho : o = StoreAnswer.noVolume ∨ o = StoreAnswer.lost) :
      Reported hp (Request.createSnapshot (some req)) (some o) (Except.error e)
  | deleted {req : DeleteSnapshotRequest} :
      Reported hp (Request.deleteSnapshot (some req)) (some StoreAnswer.deleted)
        (Except.ok Response.empty)
  | listed {req : ListSnapshotsRequest} {M : SnapshotMaps} {ss : List Snapshot}
      (hss : hp.controller.Lists req M ss) :
      Reported hp (Request.listSnapshots (some req)) (some (StoreAnswer.listed M))
        ((HostPathController.snapshotsPage ss req).map Response.snapshots)
  | volume {q : Request} {st : Option VolumeAnswer} {r : Except Err Response}
      (hq : ¬ q.OfSnapshots) (hr : q.Reports st r) :
      Reported hp q (st.map StoreAnswer.volume) r

/-! ## Sections -/

section Sections

variable {hpc : HostPathController} {pool : String → String} {q : Request} {α β : Type}
  {st : Option StoreAnswer} {h : Host} {M : SnapshotMaps} {a id : String} {p : Reflink} {S L : Loc}

/-- What a program does while it holds the mutex for the request `q`. -/
abbrev WithMutex (hpc : HostPathController) (pool : String → String) (q : Request)
    (Q : Option StoreAnswer → α → Host → SnapshotMaps → Prop) (st : Option StoreAnswer)
    (x : Prog Syscall Reply α) (h : Host) (M : SnapshotMaps) : Prop :=
  Mutex.During step (hpc.snapTerms pool) (fun live M o M' => q.OnSnapshots live M o M') Q st x h M

/-- A single call.  `I` is known of the snapshot directories. -/
lemma withMutex_once {Q : Option StoreAnswer → Except Err α → Host → SnapshotMaps → Prop}
    {x : Sys α} (hx : x.run.Once) {I : Host → Prop}
    (hI : ∀ {h h'}, hpc.Spared h h' → I h → I h') (hh : I h)
    (hr : ∀ h' live, I h' → hpc.cfg.Shows pool h' live → h'.NoFaults → ∃ r m, h'.exec x = (r, m)
      ∧ hpc.cfg.Shows pool m live ∧ (Q st r m M
        ∨ st = none ∧ ∃ o M', q.OnSnapshots live M o M' ∧ Q (some o) r m M')) :
    WithMutex hpc pool q Q st x.run h M := by
  refine Mutex.During.of_once hx fun h' live hsame ⟨hshows, hf⟩ => ?_
  obtain ⟨r, m, he, hm, hpost⟩ := hr h' live (hI hsame hh) hshows hf
  rw [show run step x.run h' = (r, m) from he]
  exact ⟨⟨hm, hf.of_exec he⟩, hpost⟩

/-- A call that looks into the snapshot directories. -/
lemma withMutex_look {x : Sys α} (hx : x.run.Once) {I : Host → Prop} {Q : Except Err α → Prop}
    (hI : ∀ {h h'}, hpc.Spared h h' → I h → I h') (hh : I h)
    (hr : ∀ h', I h' → h'.NoFaults → ∃ r, h'.exec x = (r, h'.tick) ∧ Q r) :
    WithMutex hpc pool q (fun st' r h' M' => st = st' ∧ M = M' ∧ I h' ∧ Q r) st x.run h M := by
  refine withMutex_once hx hI hh fun h' live hI' hs hf => ?_
  obtain ⟨r, he, hQ⟩ := hr h' hI' hf
  exact ⟨r, h'.tick, he, hs.of_quiet (Quiet.tick h'), Or.inl ⟨rfl, rfl,
    hI (HostPathController.Spared.of_quiet (Quiet.tick h')) hI', hQ⟩⟩

lemma once_perform (c : Syscall) : (perform c : Sys (Reply c)).run.Once :=
  ⟨c, _, rfl, fun r => ⟨Except.ok r, rfl⟩⟩

/-- A call that looks into the snapshot directories while they store the maps of `N`. -/
lemma withMutex_read {x : Sys α} (hx : x.run.Once) {N : SnapshotMaps} {Q : Except Err α → Prop}
    (hk : hpc.Stores h N)
    (hr : ∀ h', hpc.Stores h' N → h'.NoFaults → ∃ r, h'.exec x = (r, h'.tick) ∧ Q r) :
    WithMutex hpc pool q (fun st' r h' M' => st = st' ∧ M = M' ∧ hpc.Stores h' N ∧ Q r) st
      x.run h M :=
  withMutex_look hx (fun hs hk => hk.of_spared hs) hk hr

/-! ### Looking -/

lemma orReturn_ok_bind (u : α) (f : α → Sys β) : (orReturn (Except.ok u) >>= f) = f u := rfl

lemma once_getSourceVolumeId (r : Reflink) (id : String) : (r.getSourceVolumeId id).run.Once := by
  refine ⟨_, _, rfl, fun rep => ?_⟩
  cases rep with
  | error e => exact ⟨_, rfl⟩
  | ok es =>
      dsimp only [Prog.bind, Function.comp_apply, ExceptT.bindCont]
      rw [orReturn_ok_bind]
      cases es.find? fun e : DirEntry => e.isDir && e.name ≠ dataPath with
      | none => exact ⟨_, rfl⟩
      | some e => exact ⟨_, rfl⟩

lemma Reflink.stat_of_absent {r : Reflink} (hf : (h.outcomes 0).fault = none) (ha : r.Absent h id) :
    h.step (Syscall.stat (join [r.path, id]))
      = (Except.error (OsError.path "stat" (join [r.path, id]) Errno.notExist), h.tick) := by
  refine Prod.ext ((stat_of_noFault hf).trans ?_) rfl
  rw [Host.stat, ha]
  rfl

/-- **A snapshot is found** if the map of its pool has it. -/
lemma withMutex_getSnapshotById (site : hpc.Site a p S L) (hid : ValidName id)
    (hk : hpc.Stores h M) :
    WithMutex hpc pool q (fun st' r h' M' => st = st' ∧ M = M' ∧ hpc.Stores h' M
      ∧ ∃ t, r = Except.ok (((M a).lookup id).map fun v => ⟨id, v, t, true⟩)) st
      (p.getSnapshotById id).run h M := by
  have hloc := locate_join_valid site.snapshots hid
  rw [Reflink.getSnapshotById]
  refine Mutex.During.bind (withMutex_read (once_perform _)
    (Q := fun r => ((M a).lookup id = none ∧ ∃ e : OsError, r = Except.ok (Except.error e)
        ∧ e.isNotExist = true)
      ∨ ∃ v info, (M a).lookup id = some v ∧ r = Except.ok (Except.ok info) ∧ info.isDir = true)
    hk fun h' hk' hf => ?_) ?_ ?_
  · obtain ⟨he, hdir⟩ := hk' site
    cases hM : (M a).lookup id with
    | none =>
        have habs : p.Absent h' id := lookup_error_of_none hloc (he.unmapped hM)
          (h'.fs.blocked_concat hdir he.node)
        exact ⟨_, exec_perform_eq.mpr (Reflink.stat_of_absent (hf 0) habs),
          Or.inl ⟨rfl, _, rfl, rfl⟩⟩
    | some v => exact ⟨_, exec_perform_eq.mpr (stat_of_dir (hf 0) hloc (he.mapped hM).1),
        Or.inr ⟨v, _, rfl, rfl, rfl⟩⟩
  · rintro _ rep h₁ _ ⟨rfl, rfl, hk₁, ⟨hM, e, hrep, hne⟩ | ⟨v, info, hM, hrep, hinfo⟩⟩
    · cases hrep
      dsimp only
      rw [if_pos hne]
      exact ⟨rfl, rfl, hk₁, 0, by rw [hM]; rfl⟩
    · cases hrep
      dsimp only
      rw [if_neg (by simp [hinfo])]
      refine Mutex.During.bind (withMutex_read (once_getSourceVolumeId p id)
        (Q := fun r => r = Except.ok v) hk₁ fun h' hk' hf => ?_) ?_ ?_
      · obtain ⟨hd, hsrc⟩ := (hk' site).1.mapped hM
        refine ⟨_, Reflink.getSourceVolumeId_of_noFault (hf 0) hloc hd, ?_⟩
        rw [hsrc]
        rfl
      · rintro _ w h₂ _ ⟨rfl, rfl, hk₂, hw⟩
        cases hw
        exact ⟨rfl, rfl, hk₂, info.ctime, by rw [hM]; rfl⟩
      · rintro _ e h₂ _ ⟨_, _, _, hw⟩
        cases hw
  · rintro _ e h₁ _ ⟨_, _, _, ⟨_, _, hrep, _⟩ | ⟨_, _, _, hrep, _⟩⟩ <;> cases hrep

/-- The snapshots among the entries of a directory. -/
lemma withMutex_snapshotsOf (site : hpc.Site a p S L) (hk : hpc.Stores h M) {ns : List String}
    (hns : ∀ n ∈ ns, ValidName n ∧ (M a).lookup n ≠ none) :
    WithMutex hpc pool q (fun st' r h' M' => st = st' ∧ M = M' ∧ hpc.Stores h' M
      ∧ ∃ ss, r = Except.ok ss ∧ ss.map Snapshot.snapshotId = ns
        ∧ ∀ s ∈ ss, (M a).lookup s.snapshotId = some s.sourceVolumeId) st
      (p.snapshotsOf (ns.map fun n => ⟨n, true⟩)).run h M := by
  induction ns generalizing h with
  | nil => exact ⟨rfl, rfl, hk, [], rfl, rfl, by simp⟩
  | cons n ns ih =>
      obtain ⟨hvalid, hlookup⟩ := hns n List.mem_cons_self
      obtain ⟨v, hv⟩ := Option.ne_none_iff_exists'.mp hlookup
      rw [List.map_cons, Reflink.snapshotsOf, if_neg (by simp)]
      refine Mutex.During.bind (withMutex_getSnapshotById site hvalid hk) ?_ ?_
      · rintro _ o h₁ _ ⟨rfl, rfl, hk₁, t, hr⟩
        rw [hv] at hr
        cases hr
        refine Mutex.During.bind (ih hk₁ fun m hm => hns m (List.mem_cons_of_mem _ hm)) ?_ ?_
        · rintro _ ss h₂ _ ⟨rfl, rfl, hk₂, _, hss, hids, hsound⟩
          cases hss
          refine ⟨rfl, rfl, hk₂, _, rfl, by simp [hids], fun s hs => ?_⟩
          rcases List.mem_cons.mp hs with rfl | hs
          · exact hv
          · exact hsound s hs
        · rintro _ e h₂ _ ⟨_, _, _, _, hss, _⟩
          cases hss
      · rintro _ e h₁ _ ⟨_, _, _, t, hr⟩
        cases hr

/-- **All snapshots of a pool.** -/
lemma withMutex_getAllSnapshots (site : hpc.Site a p S L) (hk : hpc.Stores h M) :
    WithMutex hpc pool q (fun st' r h' M' => st = st' ∧ M = M' ∧ hpc.Stores h' M
      ∧ ∃ ss, r = Except.ok ss ∧ (ss.map Snapshot.key).Perm (pairs (M a))) st
      p.getAllSnapshots.run h M := by
  rw [Reflink.getAllSnapshots]
  refine Mutex.During.bind (withMutex_read (once_perform _)
    (Q := fun r => ∃ ns : List String, r = Except.ok (Except.ok (ns.map fun n => ⟨n, true⟩))
      ∧ ns.Nodup ∧ ∀ n, n ∈ ns ↔ (M a).lookup n ≠ none) hk fun h' hk' hf => ?_) ?_ ?_
  · obtain ⟨he, hdir⟩ := hk' site
    refine ⟨_, exec_perform_eq.mpr (readDir_of_noFault (hf 0) site.snapshots hdir),
      h'.fs.list S, ?_, h'.fs.nodup_list S, fun n => ?_⟩
    · refine congrArg (fun es => Except.ok (Except.ok es)) (List.map_congr_left fun n hn => ?_)
      rw [(he.node (n := n)).resolve_left (h'.fs.mem_list.mp hn)]
      simp
    · rw [h'.fs.mem_list]
      exact he.lookup_eq_none.not.symm
  · rintro _ rep h₁ _ ⟨rfl, rfl, hk₁, ns, hrep, hnodup, hmem⟩
    cases hrep
    have hvalid : ∀ n ∈ ns, ValidName n ∧ (M a).lookup n ≠ none := fun n hn => by
      have hne := (hmem n).mp hn
      exact ⟨h₁.fs.valid (l := S) fun hnone => hne ((hk₁ site).1.lookup_eq_none.mpr hnone), hne⟩
    refine Mutex.During.mono (withMutex_snapshotsOf site hk₁ hvalid) ?_
    rintro _ r h₂ _ ⟨rfl, rfl, hk₂, ss, rfl, rfl, hsound⟩
    exact ⟨rfl, rfl, hk₂, ss, rfl, perm_pairs hnodup hsound fun n hn => (hmem n).mpr hn⟩
  · rintro _ e h₁ _ ⟨_, _, _, _, hrep, _⟩
    cases hrep

/-- What a listing asks one provider for. -/
lemma withMutex_providerSnapshots (site : hpc.Site a p S L) (hk : hpc.Stores h M)
    {req : ListSnapshotsRequest} (hreq : req.snapshotId ≠ "" → ValidName req.snapshotId) :
    WithMutex hpc pool q (fun st' r h' M' => st = st' ∧ M = M' ∧ hpc.Stores h' M
      ∧ ∃ ss, r = Except.ok ss
        ∧ (ss.map Snapshot.key).Perm ((pairs (M a)).filter req.wants)) st
      (HostPathController.providerSnapshots req p).run h M := by
  unfold HostPathController.providerSnapshots
  split_ifs with hid hsrc
  · refine Mutex.During.bind (withMutex_getSnapshotById site (hreq hid) hk) ?_ ?_
    · rintro _ o h₁ _ ⟨rfl, rfl, hk₁, t, hr⟩
      cases hr
      refine ⟨rfl, rfl, hk₁, _, rfl, ?_⟩
      have hwants : ∀ e : String × String, req.wants e = decide (e.1 = req.snapshotId) := fun e => by
        rw [ListSnapshotsRequest.wants, if_pos hid]
      refine (List.perm_ext_iff_of_nodup ?_ ((nodup_pairs _).filter _)).mpr fun ⟨n, v⟩ => ?_
      · cases (M a).lookup req.snapshotId <;> simp
      · rw [List.mem_filter, mem_pairs, hwants]
        cases hM : (M a).lookup req.snapshotId with
        | none =>
            simp only [Option.map_none, Option.toList_none, List.map_nil, List.not_mem_nil,
              decide_eq_true_eq, false_iff, not_and]
            rintro hn rfl
            cases hM.symm.trans hn
        | some w =>
            simp only [Option.map_some, Option.toList_some, List.map_cons, List.map_nil,
              List.mem_singleton, Snapshot.key, Prod.mk.injEq, decide_eq_true_eq]
            constructor
            · rintro ⟨rfl, rfl⟩
              exact ⟨hM, rfl⟩
            · rintro ⟨hn, rfl⟩
              exact ⟨rfl, Option.some.inj (hn.symm.trans hM)⟩
    · rintro _ e h₁ _ ⟨_, _, _, _, hr⟩
      cases hr
  · refine Mutex.During.bind (withMutex_getAllSnapshots site hk) ?_ ?_
    · rintro _ all h₁ _ ⟨rfl, rfl, hk₁, _, hr, hperm⟩
      cases hr
      refine ⟨rfl, rfl, hk₁, _, rfl, ?_⟩
      have hwants : req.wants = fun e => decide (e.2 = req.sourceVolumeId) := funext fun e => by
        rw [ListSnapshotsRequest.wants, if_neg hid, if_pos hsrc]
      have hfilter : (all.filter fun s => decide (s.sourceVolumeId = req.sourceVolumeId)).map
          Snapshot.key = (all.map Snapshot.key).filter req.wants := by
        rw [List.filter_map, hwants]
        rfl
      rw [hfilter]
      exact hperm.filter _
    · rintro _ e h₁ _ ⟨_, _, _, _, hr, _⟩
      cases hr
  · refine Mutex.During.mono (withMutex_getAllSnapshots site hk) ?_
    rintro _ r h₁ _ ⟨rfl, rfl, hk₁, ss, rfl, hperm⟩
    have hwants : (pairs (M a)).filter req.wants = pairs (M a) :=
      List.filter_eq_self.mpr fun e _ => by rw [ListSnapshotsRequest.wants, if_neg hid, if_neg hsrc]
    exact ⟨rfl, rfl, hk₁, ss, rfl, hwants.symm ▸ hperm⟩

/-- **A listing** asks the providers one after the other. -/
lemma withMutex_collectSnapshots {es : List (Sigma fun _ : String => Reflink)}
    (hes : ∀ e ∈ es, ∃ S L, hpc.Site e.1 e.2 S L) (hk : hpc.Stores h M)
    {req : ListSnapshotsRequest} (hreq : req.snapshotId ≠ "" → ValidName req.snapshotId) :
    WithMutex hpc pool q (fun st' r h' M' => st = st' ∧ M = M' ∧ hpc.Stores h' M
      ∧ ∃ ss, r = Except.ok ss ∧ (ss.map Snapshot.key).Perm
        (es.flatMap fun e => (pairs (M e.1)).filter req.wants)) st
      (HostPathController.collectSnapshots req (es.map fun e => e.2)).run h M := by
  induction es generalizing h with
  | nil => exact ⟨rfl, rfl, hk, [], rfl, List.Perm.refl _⟩
  | cons e es ih =>
      obtain ⟨S, L, site⟩ := hes e List.mem_cons_self
      rw [List.map_cons, HostPathController.collectSnapshots]
      refine Mutex.During.bind (withMutex_providerSnapshots site hk hreq) ?_ ?_
      · rintro _ ss h₁ _ ⟨rfl, rfl, hk₁, _, hr, hperm⟩
        cases hr
        refine Mutex.During.bind (ih (fun e' he' => hes e' (List.mem_cons_of_mem _ he')) hk₁) ?_ ?_
        · rintro _ rest h₂ _ ⟨rfl, rfl, hk₂, _, hr, hrest⟩
          cases hr
          refine ⟨rfl, rfl, hk₂, _, rfl, ?_⟩
          rw [List.map_append, List.flatMap_cons]
          exact hperm.append hrest
        · rintro _ err h₂ _ ⟨_, _, _, _, hr, _⟩
          cases hr
      · rintro _ err h₁ _ ⟨_, _, _, _, hr, _⟩
        cases hr

/-! ### Deleting -/

lemma HostPathController.Site.inSnapshots (site : hpc.Site a p S L) {path : String} {l : Loc}
    (hl : locate path = some l) (hS : S <+: l) : hpc.cfg.InSnapshots path := by
  obtain ⟨info, hi, _, hk⟩ := site.pool
  exact ⟨a, info, S, l, hi, hk, hl, hS⟩

/-- **Deleting from one provider** takes the snapshot out of the map of its pool.  The maps are now
those of `N`; the request has not taken effect yet. -/
lemma withMutex_deleteSnapshot (hlay : hpc.cfg.Layout) (site : hpc.Site a p S L) (hid : ValidName id)
    {N : SnapshotMaps} (hk : hpc.Stores h N) :
    WithMutex hpc pool q (fun st' r h' M' => st = st' ∧ M = M' ∧ r = Except.ok ()
      ∧ hpc.Stores h' (Function.update N a ((N a).erase id))) st (p.deleteSnapshot id).run h M := by
  have hloc := locate_join_valid site.snapshots hid
  rw [Reflink.deleteSnapshot]
  refine Mutex.During.bind (withMutex_read (once_checkPathExist _)
    (Q := fun r => r = Except.ok ((N a).lookup id).isSome) hk fun h' hk' hf => ?_) ?_ ?_
  · obtain ⟨he, hdir⟩ := hk' site
    cases hN : (N a).lookup id with
    | none => exact ⟨_, checkPathExist_of_missing (hf 0) hloc (he.unmapped hN)
        (h'.fs.blocked_concat hdir he.node), rfl⟩
    | some v => exact ⟨_, checkPathExist_of_node (hf 0) hloc (by simp [(he.mapped hN).1]), rfl⟩
  · rintro _ b h₁ _ ⟨rfl, rfl, hk₁, hb⟩
    cases hb
    cases hN : (N a).lookup id with
    | none => exact ⟨rfl, rfl, rfl, (hk₁.but a id).erase site ((hk₁ site).1.unmapped hN)⟩
    | some v =>
        rw [if_pos (by simp)]
        refine Mutex.During.bind (withMutex_once (once_perform _) (I := fun h => hpc.Stores h N)
          (Q := fun st' r h' M' => st = st' ∧ M = M' ∧ r = Except.ok (Except.ok ())
            ∧ hpc.Stores h' (Function.update N a ((N a).erase id)))
          (fun hs hk => hk.of_spared hs) hk₁ fun h' live hk' hs hf => ?_) ?_ ?_
        · obtain ⟨he, hdir⟩ := hk' site
          have hm := not_mountedBelow_of_below (List.prefix_append S [id]) (site.not_mountedBelow hs.2)
          have hrm : h'.step (Syscall.removeAll (join [p.path, id]))
              = (Except.ok (), h'.tick.cleared (S ++ [id]) fun _ => true) :=
            removeAll_of_noFault (hf 0) hloc (decide_eq_false (getLast_elems_join hloc (by simp)))
              (by simp) hm (Or.inl (by simp [(he.mapped hN).1]))
          have hshows := hs.of_confined hlay (c := Syscall.removeAll (join [p.path, id]))
            (Or.inl (site.inSnapshots hloc (List.prefix_append S _)))
          rw [hrm] at hshows
          refine ⟨_, _, exec_perform_eq.mpr hrm, hshows, Or.inl ⟨rfl, rfl, rfl, ?_⟩⟩
          have hframe : Frame (fun q => S ++ [id] <+: q) h'
              (h'.tick.cleared (S ++ [id]) fun _ => true) :=
            (Frame.of_quiet (Quiet.tick h')).trans (Frame.cleared _ hm fun q hq => hq)
          refine ((hk'.but a id).of_frame hlay site hframe).erase site ?_
          rw [cleared_fs, removed_node (h := h'.tick) (by simp) hm, if_pos (List.prefix_refl _)]
        · rintro _ rep h₂ _ ⟨rfl, rfl, hrep, hk₂⟩
          cases hrep
          exact ⟨rfl, rfl, rfl, hk₂⟩
        · rintro _ e h₂ _ ⟨_, _, hrep, _⟩
          cases hrep
  · rintro _ e h₁ _ ⟨_, _, _, hb⟩
    cases hb

/-- The maps without the snapshots `id` of some pools. -/
def erasedIn (ks : List String) (id : String) (N : SnapshotMaps) : SnapshotMaps :=
  fun b => if b ∈ ks then (N b).erase id else N b

lemma withMutex_deleteFromProviders (hlay : hpc.cfg.Layout) (hid : ValidName id)
    {es : List (Sigma fun _ : String => Reflink)} (hes : ∀ e ∈ es, ∃ S L, hpc.Site e.1 e.2 S L)
    (hnodup : (es.map Sigma.fst).Nodup) {N : SnapshotMaps} (hk : hpc.Stores h N) :
    WithMutex hpc pool q (fun st' r h' M' => st = st' ∧ M = M' ∧ r = Except.ok ()
      ∧ hpc.Stores h' (erasedIn (es.map Sigma.fst) id N)) st
      (HostPathController.deleteFromProviders id (es.map fun e => e.2)).run h M := by
  induction es generalizing h N with
  | nil => exact ⟨rfl, rfl, rfl, hk.of_lookup fun b n => by simp [erasedIn]⟩
  | cons e es ih =>
      obtain ⟨S, L, site⟩ := hes e List.mem_cons_self
      obtain ⟨hnot, hrest⟩ := List.nodup_cons.mp hnodup
      refine Mutex.During.bind (x := e.2.deleteSnapshot id)
        (withMutex_deleteSnapshot hlay site hid hk) ?_ ?_
      · rintro _ u h₁ _ ⟨rfl, rfl, _, hk₁⟩
        refine Mutex.During.mono (ih (fun e' he' => hes e' (List.mem_cons_of_mem _ he')) hrest hk₁) ?_
        rintro _ r h₂ _ ⟨rfl, rfl, hr, hk₂⟩
        refine ⟨rfl, rfl, hr, hk₂.of_lookup fun b n => ?_⟩
        by_cases hb : b = e.1
        · subst hb
          simp [erasedIn, hnot]
        · simp only [erasedIn, List.map_cons, List.mem_cons, hb, false_or, Function.update_of_ne hb]
      · rintro _ err h₁ _ ⟨_, _, hr, _⟩
        cases hr

/-! ### Taking a snapshot -/

/-- The directory of the snapshot `id` is made, with the directories of `xs` and nothing else. -/
structure Started (S : Loc) (id : String) (xs : List String) (h : Host) : Prop where
  dir : h.fs.node (S ++ [id]) = some Node.dir
  made : ∀ x ∈ xs, h.fs.node (S ++ [id, x]) = some Node.dir
  only : ∀ q, S ++ [id] <+: q → h.fs.node q ≠ none → q = S ++ [id] ∨ ∃ x ∈ xs, q = S ++ [id, x]

namespace Started

variable {h' : Host} {xs : List String} {x v : String}

lemma of_spared (site : hpc.Site a p S L) (hst : Started S id xs h) (hs : hpc.Spared h h') :
    Started S id xs h' := by
  have hu : ∀ q, S ++ [id] <+: q → h'.fs.node q = h.fs.node q := fun q hq =>
    hs site q ((List.prefix_append S _).trans hq)
  refine ⟨(hu _ (List.prefix_refl _)).trans hst.dir, fun x hx => ?_, fun q hq hn => ?_⟩
  · exact (hu _ ⟨[x], by simp⟩).trans (hst.made x hx)
  · exact hst.only q hq (by rwa [hu q hq] at hn)

/-- One more directory. -/
lemma next (hS : h.fs.node S = some Node.dir) (hid : ValidName id) (hx : ValidName x)
    (hvalid : ∀ n ∈ S, ValidName n) (hold : h.fs.node (S ++ [id]) = none ∧ xs = [] ∨ Started S id xs h)
    (hnew : h.fs.node (S ++ [id, x]) = none) :
    h.fs.blocked (S ++ [id, x]) = false
      ∧ Started S id (x :: xs) (h.tick.made (S ++ [id, x]) fun _ => true) := by
  have hdirs : h.fs.node (S ++ [id]) = none ∨ h.fs.node (S ++ [id]) = some Node.dir :=
    hold.imp And.left Started.dir
  have hb : h.fs.blocked (S ++ [id, x]) = false := by
    rcases hdirs with hnone | hdir
    · have hway := h.fs.blocked_append [x] hnone (h.fs.blocked_concat hS (Or.inl hnone))
      rwa [List.append_assoc] at hway
    · have hway := h.fs.blocked_concat (n := x) hdir (Or.inl (by rwa [List.append_assoc]))
      rwa [List.append_assoc] at hway
  have hall : ∀ n ∈ S ++ [id, x], ValidName n := by
    intro n hn
    rcases List.mem_append.mp hn with hn | hn
    · exact hvalid n hn
    · rcases List.mem_cons.mp hn with rfl | hn
      · exact hid
      · rwa [List.mem_singleton.mp hn]
  refine ⟨hb, ?_, fun y hy => ?_, fun q hq hn => ?_⟩
  · exact h.fs.create_node_on_way hb hall ⟨[x], by simp⟩
  · rcases List.mem_cons.mp hy with rfl | hy
    · exact h.fs.create_node_on_way hb hall (List.prefix_refl _)
    · rcases hold with ⟨_, rfl⟩ | hst
      · cases hy
      · exact h.fs.create_node_of_some _ (hst.made y hy)
  · by_cases hway : q <+: S ++ [id, x]
    · -- the only locations between the two are the two themselves
      obtain ⟨r, rfl⟩ := hq
      rw [List.append_assoc, List.prefix_append_right_inj] at hway
      rcases r with _ | ⟨y, r⟩
      · exact Or.inl (by simp)
      · simp only [List.cons_append, List.nil_append, List.cons_prefix_cons, List.prefix_nil,
          true_and] at hway
        obtain ⟨rfl, rfl⟩ := hway
        exact Or.inr ⟨y, List.mem_cons_self, by simp⟩
    · rw [made_fs, tick_fs, h.fs.create_node_off_way _ hway] at hn
      rcases hold with ⟨hnone, _⟩ | hst
      · exact absurd (FileTree.node_none_of_below hq hnone) hn
      · exact (hst.only q hq hn).imp_right fun ⟨y, hy, heq⟩ =>
          ⟨y, List.mem_cons_of_mem _ hy, heq⟩

/-- The snapshot can be put into the map, also while or after its data is copied. -/
lemma kept (hlay : hpc.cfg.Layout) (site : hpc.Site a p S L) (hst : Started S id [v, dataPath] h)
    (hk : hpc.KeptBut a id M h) (hvd : v ≠ dataPath)
    (hf : Frame (fun q => S ++ [id, dataPath] <+: q) h h') :
    hpc.Stores h' (Function.update M a ((M a).insert id v)) := by
  have hbelow : ∀ q, S ++ [id, dataPath] <+: q → S ++ [id] <+: q := fun q hq =>
    List.IsPrefix.trans ⟨[dataPath], by simp⟩ hq
  have houtside : ∀ x, x ≠ dataPath → h'.fs.node (S ++ [id] ++ [x]) = h.fs.node (S ++ [id] ++ [x]) := by
    intro x hx
    refine hf.node _ fun hq => hx ?_
    have heq := hq.eq_of_length (by simp)
    simpa using heq.symm
  have hdir : h'.fs.node (S ++ [id]) = some Node.dir := by
    rw [hf.node _ fun hq => by simpa using hq.length_le]
    exact hst.dir
  refine (hk.of_frame hlay site (hf.mono hbelow)).insert site hdir ?_
  refine Reflink.sourceOf_of_single ?_ hvd fun x hx => ?_
  · rw [houtside v hvd, List.append_assoc]
    exact hst.made v (by simp)
  · by_cases hxd : x = dataPath
    · exact Or.inr hxd
    · rw [houtside x hxd] at hx
      rcases hst.only (S ++ [id] ++ [x]) (List.prefix_append _ _) (by rw [hx]; simp) with
        heq | ⟨y, hy, heq⟩
      · simp at heq
      · simp only [List.append_assoc, List.cons_append, List.nil_append, List.append_cancel_left_eq,
          List.cons.injEq, and_true, true_and] at heq
        subst heq
        simpa using hy

/-- There is nothing in the directories that are made. -/
lemma empty (hst : Started S id xs h) {r : Loc} (hr : r ≠ []) :
    h.fs.node (S ++ [id, x] ++ r) = none := by
  by_contra hn
  rcases hst.only _ (List.IsPrefix.trans ⟨[x], by simp⟩ (List.prefix_append _ r)) hn with
    heq | ⟨y, hy, heq⟩
  · simp at heq
  · have hlen := congrArg List.length heq
    simp only [List.length_append, List.length_cons, List.length_nil] at hlen
    exact hr (List.length_eq_zero_iff.mp (by omega))

/-- A volume that is there can be copied into the snapshot. -/
lemma copied (hlay : hpc.cfg.Layout) (site : hpc.Site a p S L) (hid : ValidName id)
    (hv : ValidName v) (hst : Started S id [v, dataPath] h) (hf : (h.outcomes 0).fault = none)
    (hvol : h.fs.node (L ++ [v]) = some Node.dir) :
    h.step (Syscall.copyReflink (p.sourcePoolDir v ++ "/.") (p.dataDir id))
      = (Except.ok (), h.tick.overlaid (L ++ [v]) (S ++ [id, dataPath]) fun _ => true) := by
  have hdata := hst.made dataPath (by simp)
  have hap : ¬ L ++ [v] <+: S ++ [id, dataPath] := fun hq =>
    (site.apart_self hlay).not_below ((List.prefix_append L _).trans hq) (List.prefix_append S _)
  exact copyReflink_of_noFault hf (locate_dot (locate_join_valid site.volumes hv))
    (Reflink.locate_dataDir site.snapshots hid) hvol hdata hap
    (h.fs.fits_of_empty hvol hdata fun r hr => hst.empty hr)

end Started

lemma once_reflinkCopy (src dst : String) : (reflinkCopy src dst).run.Once := by
  refine ⟨_, _, rfl, fun r => ?_⟩
  cases r <;> exact ⟨_, rfl⟩

lemma once_createSnapshotFromDir (id v path : String) :
    (Reflink.createSnapshotFromDir id v path).run.Once := by
  refine ⟨_, _, rfl, fun r => ?_⟩
  cases r <;> exact ⟨_, rfl⟩

section Taking

variable {req : CreateSnapshotRequest}

/-- Making a directory of the snapshot. -/
lemma withMutex_mkdir (hlay : hpc.cfg.Layout) (site : hpc.Site a p S L) {x path : String}
    {xs : List String} (hid : ValidName id) (hx : ValidName x)
    (hpath : locate path = some (S ++ [id, x])) (hnot : x ∉ xs) (hk : hpc.KeptBut a id M h)
    (hold : h.fs.node (S ++ [id]) = none ∧ xs = [] ∨ Started S id xs h) :
    WithMutex hpc pool q (fun st' r h' M' => st = st' ∧ M = M' ∧ r = Except.ok (Except.ok ())
      ∧ hpc.KeptBut a id M h' ∧ Started S id (x :: xs) h') st
      (perform (Syscall.mkdirAll path) : Sys (Reply (Syscall.mkdirAll path))).run h M := by
  refine withMutex_once (once_perform _) (I := fun h => hpc.KeptBut a id M h
    ∧ (h.fs.node (S ++ [id]) = none ∧ xs = [] ∨ Started S id xs h)) ?_ ⟨hk, hold⟩ ?_
  · rintro h h' hs ⟨hk, hold⟩
    refine ⟨hk.of_spared hs, hold.imp (fun ⟨hn, hxs⟩ => ⟨?_, hxs⟩) fun hst => hst.of_spared site hs⟩
    exact (hs site _ (List.prefix_append S _)).trans hn
  · rintro h' live ⟨hk', hold'⟩ hs hf
    have hnone : h'.fs.node (S ++ [id, x]) = none := by
      by_contra hn
      rcases hold' with ⟨hnone, _⟩ | hst
      · exact hn (FileTree.node_none_of_below ⟨[x], by simp⟩ hnone)
      · rcases hst.only _ ⟨[x], by simp⟩ hn with heq | ⟨y, hy, heq⟩
        · simp at heq
        · simp only [List.append_cancel_left_eq, List.cons.injEq, and_true, true_and] at heq
          exact hnot (heq ▸ hy)
    obtain ⟨hS, _⟩ := hk' site
    obtain ⟨hb, hst⟩ := Started.next hS hid hx (locate_valid site.snapshots) hold' hnone
    have hmk : h'.step (Syscall.mkdirAll path)
        = (Except.ok (), h'.tick.made (S ++ [id, x]) fun _ => true) :=
      mkdirAll_of_noFault (hf 0) hpath hb
    have hshows := hs.of_confined hlay (c := Syscall.mkdirAll path)
      (Or.inl (site.inSnapshots hpath (List.prefix_append S _)))
    rw [hmk] at hshows
    refine ⟨_, _, exec_perform_eq.mpr hmk, hshows, Or.inl ⟨rfl, rfl, rfl, ?_, hst⟩⟩
    refine hk'.of_frame hlay site ((Frame.of_quiet (Quiet.tick h')).trans
      (Frame.made _ fun q hq hnone => ?_))
    rcases prefix_cases hq with hqS | hq
    · cases (show h'.fs.node S = none from FileTree.node_none_of_below hqS hnone).symm.trans hS
    · exact hq

/-- The copy takes the snapshot if the volume is there at that moment, and otherwise leaves an empty
one. -/
lemma withMutex_copy (hlay : hpc.cfg.Layout)
    (site : hpc.Site (getStoragePoolNameFromMap req.parameters) p S L) (hid : ValidName req.name)
    (hv : ValidName req.sourceVolumeId) (hvd : req.sourceVolumeId ≠ dataPath)
    (hM : (M (getStoragePoolNameFromMap req.parameters)).lookup req.name = none)
    (hk : hpc.KeptBut (getStoragePoolNameFromMap req.parameters) req.name M h)
    (hst : Started S req.name [req.sourceVolumeId, dataPath] h) :
    WithMutex hpc pool (Request.createSnapshot (some req)) (fun st' r h' M' =>
      (st' = some StoreAnswer.taken ∧ r = Except.ok ()
          ∧ h'.fs.node (S ++ [req.name, dataPath]) = some Node.dir
        ∨ st' = some StoreAnswer.lost ∧ ∃ e, r = Except.error e) ∧ hpc.Stores h' M') none
      (reflinkCopy (p.sourcePoolDir req.sourceVolumeId ++ "/.") (p.dataDir req.name)).run h M := by
  set a := getStoragePoolNameFromMap req.parameters with ha
  have hsrc : locate (p.sourcePoolDir req.sourceVolumeId ++ "/.") = some (L ++ [req.sourceVolumeId]) :=
    locate_dot (locate_join_valid site.volumes hv)
  have hdst : locate (p.dataDir req.name) = some (S ++ [req.name, dataPath]) :=
    Reflink.locate_dataDir site.snapshots hid
  refine withMutex_once (once_reflinkCopy _ _) (I := fun h => hpc.KeptBut a req.name M h
    ∧ Started S req.name [req.sourceVolumeId, dataPath] h)
    (fun hs hh => ⟨hh.1.of_spared hs, hh.2.of_spared site hs⟩) ⟨hk, hst⟩ ?_
  rintro h' live ⟨hk', hst'⟩ hs hf
  obtain ⟨info, hi, hL, _⟩ := site.pool
  have hshows := hs.of_confined hlay (c := Syscall.copyReflink (p.sourcePoolDir req.sourceVolumeId ++ "/.")
    (p.dataDir req.name)) (site.inSnapshots hdst (List.prefix_append S _))
  have hvol := hs.1.volumes req.sourceVolumeId hi hL
  have hdata := hst'.made dataPath (by simp)
  have hat : h'.at? (p.dataDir req.name) ≠ none := by simp [at?, hdst, hdata]
  have hkept : ∀ {m : Host}, Frame (fun q => S ++ [req.name, dataPath] <+: q) h' m →
      hpc.Stores m (Function.update M a ((M a).insert req.name req.sourceVolumeId)) := fun hframe =>
    hst'.kept hlay site hk' hvd hframe
  have htick : Frame (fun q => S ++ [req.name, dataPath] <+: q) h' h'.tick :=
    Frame.of_quiet (Quiet.tick h')
  by_cases hlive : live.lookup req.sourceVolumeId = some a
  · rw [if_pos hlive] at hvol
    have hcp := hst'.copied hlay site hid hv (hf 0) hvol
    rw [hcp] at hshows
    refine ⟨Except.ok (), _, exec_bind_eq_ok.mpr ⟨_, _, exec_perform_eq.mpr hcp, rfl⟩, hshows,
      Or.inr ⟨rfl, StoreAnswer.taken, _, Request.OnSnapshots.taken hM hlive, Or.inl ⟨rfl, rfl, ?_⟩,
        hkept (htick.trans (Frame.overlaid _ fun q hq => hq))⟩⟩
    exact FileTree.overlay_node_self _ hdata _
  · rcases hcp : h'.step (Syscall.copyReflink (p.sourcePoolDir req.sourceVolumeId ++ "/.")
      (p.dataDir req.name)) with ⟨rep, m⟩
    rw [hcp] at hshows
    cases rep with
    | ok u =>
        obtain ⟨s', _, hs', _, hdir, _⟩ := copyReflink_ok (h := h'.tick) hat hcp
        cases hsrc.symm.trans hs'
        rw [tick_fs, hvol, if_neg hlive] at hdir
        cases hdir
    | error oe =>
        refine ⟨Except.error _, m, (exec_bind_of_ok step (exec_perform_eq.mpr hcp)).trans rfl, hshows,
          Or.inr ⟨rfl, StoreAnswer.lost, _, Request.OnSnapshots.lost hM hlive,
            Or.inr ⟨rfl, _, rfl⟩, hkept ?_⟩⟩
        rw [← show _ = m from congrArg Prod.snd hcp]
        refine htick.trans (Frame.copyReflink fun d q hd hq => ?_)
        cases hdst.symm.trans hd
        exact hq

/-- Filling a new snapshot. -/
lemma withMutex_fillSnapshot (hlay : hpc.cfg.Layout)
    (site : hpc.Site (getStoragePoolNameFromMap req.parameters) p S L) (hid : ValidName req.name)
    (hv : ValidName req.sourceVolumeId) (hvd : req.sourceVolumeId ≠ dataPath)
    (hM : (M (getStoragePoolNameFromMap req.parameters)).lookup req.name = none)
    (hk : hpc.Stores h M) :
    WithMutex hpc pool (Request.createSnapshot (some req)) (fun st' r h' M' =>
      (st' = some StoreAnswer.taken
          ∧ (∃ t, r = Except.ok ⟨req.name, req.sourceVolumeId, t, true⟩)
        ∨ st' = some StoreAnswer.lost ∧ ∃ e, r = Except.error e) ∧ hpc.Stores h' M') none
      (p.fillSnapshot req.name req.sourceVolumeId).run h M := by
  have hnone := (hk site).1.unmapped hM
  have hdata := Reflink.locate_dataDir site.snapshots hid
  rw [Reflink.fillSnapshot]
  refine Mutex.During.bind (withMutex_mkdir hlay site hid Reflink.validName_dataPath hdata (by simp)
    (hk.but _ req.name) (Or.inl ⟨hnone, rfl⟩)) ?_ ?_
  swap
  · rintro _ e h₁ _ ⟨_, _, hrep, _⟩
    cases hrep
  rintro _ rep h₁ _ ⟨rfl, rfl, hrep, hk₁, hst₁⟩
  cases hrep
  rw [orReturn_ok_bind]
  refine Mutex.During.bind (withMutex_mkdir hlay site hid hv
    (Reflink.locate_sourceDir site.snapshots hid hv) (by simpa using hvd) hk₁ (Or.inr hst₁)) ?_ ?_
  swap
  · rintro _ e h₂ _ ⟨_, _, hrep, _⟩
    cases hrep
  rintro _ rep h₂ _ ⟨rfl, rfl, hrep, hk₂, hst₂⟩
  cases hrep
  rw [orReturn_ok_bind]
  refine Mutex.During.bind (withMutex_copy hlay site hid hv hvd hM hk₂ hst₂) ?_ ?_
  · rintro _ u h₃ M₃ ⟨⟨rfl, _, hd₃⟩ | ⟨_, e, hr⟩, hk₃⟩
    · refine Mutex.During.mono (withMutex_look (once_createSnapshotFromDir _ _ _)
        (I := fun h => hpc.Stores h M₃ ∧ h.fs.node (S ++ [req.name, dataPath]) = some Node.dir)
        (Q := fun r => ∃ t, r = Except.ok ⟨req.name, req.sourceVolumeId, t, true⟩)
        (fun hs hh => ⟨hh.1.of_spared hs,
          (hs site _ (List.prefix_append S _)).trans hh.2⟩) ⟨hk₃, hd₃⟩ fun h' hh hf => ?_) ?_
      · have hstat := stat_of_dir (hf 0) hdata hh.2
        exact ⟨_, exec_bind_eq_ok.mpr ⟨_, _, exec_bind_eq_ok.mpr
          ⟨_, _, exec_perform_eq.mpr hstat, rfl⟩, rfl⟩, _, rfl⟩
      · rintro _ r h₄ _ ⟨rfl, rfl, ⟨hk₄, _⟩, hr⟩
        exact ⟨Or.inl ⟨rfl, hr⟩, hk₄⟩
    · cases hr
  · rintro st' e h₃ M₃ ⟨⟨_, hr, _⟩ | ⟨rfl, _⟩, hk₃⟩
    · cases hr
    · exact ⟨Or.inr ⟨rfl, e, rfl⟩, hk₃⟩

/-- **Taking a snapshot** of which there is none. -/
lemma withMutex_createSnapshot (hlay : hpc.cfg.Layout)
    (site : hpc.Site (getStoragePoolNameFromMap req.parameters) p S L) (hid : ValidName req.name)
    (hv : ValidName req.sourceVolumeId) (hvd : req.sourceVolumeId ≠ dataPath)
    (hM : (M (getStoragePoolNameFromMap req.parameters)).lookup req.name = none)
    (hk : hpc.Stores h M) :
    WithMutex hpc pool (Request.createSnapshot (some req)) (fun st' r h' M' =>
      (st' = some StoreAnswer.taken
          ∧ (∃ t, r = Except.ok ⟨req.name, req.sourceVolumeId, t, true⟩)
        ∨ (st' = some StoreAnswer.lost ∨ st' = some StoreAnswer.noVolume)
          ∧ ∃ e, r = Except.error e) ∧ hpc.Stores h' M') none
      (p.createSnapshot req.name req.sourceVolumeId).run h M := by
  have hsrc : locate (p.sourcePoolDir req.sourceVolumeId) = some (L ++ [req.sourceVolumeId]) :=
    locate_join_valid site.volumes hv
  obtain ⟨info, hi, hL, _⟩ := site.pool
  rw [Reflink.createSnapshot]
  refine Mutex.During.bind (withMutex_once (once_checkPathExist _) (I := fun h => hpc.Stores h M)
    (Q := fun st' r h' M' => M = M' ∧ hpc.Stores h' M ∧ (none = st' ∧ r = Except.ok true
      ∨ some StoreAnswer.noVolume = st' ∧ r = Except.ok false))
    (fun hs hk => hk.of_spared hs) hk fun h' live hk' hs hf => ?_) ?_ ?_
  · have htick : hpc.Stores h'.tick M :=
      hk'.of_spared (HostPathController.Spared.of_quiet (Quiet.tick h'))
    have hvol := hs.1.volumes req.sourceVolumeId hi hL
    by_cases hlive : live.lookup req.sourceVolumeId = some (getStoragePoolNameFromMap req.parameters)
    · rw [if_pos hlive] at hvol
      exact ⟨_, _, checkPathExist_of_node (hf 0) hsrc (by simp [hvol]), hs.of_quiet (Quiet.tick h'),
        Or.inl ⟨rfl, htick, Or.inl ⟨rfl, rfl⟩⟩⟩
    · rw [if_neg hlive] at hvol
      obtain ⟨L', hL', hdir⟩ := hs.1.pools hi
      cases hL.symm.trans hL'
      exact ⟨_, _, checkPathExist_of_missing (hf 0) hsrc hvol
        (h'.fs.blocked_concat hdir (Or.inl hvol)), hs.of_quiet (Quiet.tick h'),
        Or.inr ⟨rfl, StoreAnswer.noVolume, M, Request.OnSnapshots.noVolume hM hlive, rfl, htick,
          Or.inr ⟨rfl, rfl⟩⟩⟩
  · rintro _ b h₁ _ ⟨rfl, hk₁, ⟨rfl, hb⟩ | ⟨rfl, hb⟩⟩
    · cases hb
      rw [if_pos rfl]
      refine Mutex.During.bind (withMutex_read (once_checkPathExist _)
        (Q := fun r => r = Except.ok false) hk₁ fun h' hk' hf => ?_) ?_ ?_
      · obtain ⟨he, hdir⟩ := hk' site
        have hnone := he.unmapped hM
        refine ⟨_, checkPathExist_of_missing (hf 0) (Reflink.locate_dataDir site.snapshots hid)
          (FileTree.node_none_of_below ⟨[dataPath], by simp⟩ hnone) ?_, rfl⟩
        have hb := h'.fs.blocked_append [dataPath] hnone (h'.fs.blocked_concat hdir (Or.inl hnone))
        rwa [List.append_assoc] at hb
      · rintro _ b h₂ _ ⟨rfl, rfl, hk₂, hb⟩
        cases hb
        rw [if_neg (by simp)]
        refine Mutex.During.mono (withMutex_fillSnapshot hlay site hid hv hvd hM hk₂) ?_
        rintro st' r h₃ M₃ ⟨hcases, hk₃⟩
        exact ⟨hcases.imp_right fun hc => ⟨Or.inl hc.1, hc.2⟩, hk₃⟩
      · rintro _ e h₂ _ ⟨_, _, _, hb⟩
        cases hb
    · cases hb
      rw [if_neg (by simp)]
      exact ⟨Or.inr ⟨Or.inr rfl, _, rfl⟩, hk₁⟩
  · rintro _ e h₁ _ ⟨_, _, ⟨_, hb⟩ | ⟨_, hb⟩⟩ <;> cases hb

end Taking

end Sections

end Hostpath
