import Hostpath.Csi.Ownership
import Hostpath.Csi.SnapMutexProgress
import Hostpath.Csi.SnapshotSections

/-!
# Volumes and snapshots at the same time

Volumes are made and removed without the mutex, snapshots with it, and a snapshot is taken of a
volume that others may remove meanwhile.  `store_linearizable` says that all these requests together
run like one object, whose state is the map of the volumes and the maps of the snapshots: every
request takes effect at one moment between its start and its end, and a snapshot is taken only of a
volume that is there at that moment.  `snapshots_last` says that a snapshot stays, with its source,
until a deletion of it is started.
-/

namespace Hostpath

open Lib FilePath Prog Host

/-- Requests of the controller service other than creations from a snapshot.  Names are single path
components, each name of a volume is used with one pool, and `data` is kept for the contents of
snapshots. -/
def Request.OnStore (pool : String → String) : Request → Prop
  | createSnapshot r => ∀ req, r = some req → ValidName req.name ∧ ValidName req.sourceVolumeId
      ∧ req.sourceVolumeId ≠ dataPath
  | deleteSnapshot r => ∀ req, r = some req → req.snapshotId ≠ "" → ValidName req.snapshotId
  | listSnapshots r => ∀ req, r = some req → req.snapshotId ≠ "" → ValidName req.snapshotId
  | q => q.OnVolumes pool

/-! ## Requests that use the mutex -/

section Requests

variable {hp : HostPath} {pool : String → String} {q : Request} {st : Option StoreAnswer}
  {r : Except Err Response} {h : Host} {M N : SnapshotMaps}

/-- What has to hold when the mutex is given back. -/
abbrev GivesBack (hp : HostPath) (pool : String → String) (q : Request) (st : Option StoreAnswer)
    (r : Except Err Response) (h : Host) (M : SnapshotMaps) : Prop :=
  Mutex.Leaves (hp.controller.snapTerms pool) (fun live M o M' => q.OnSnapshots live M o M')
    (hp.Reported q) st r h M

lemma givesBack_done (hk : hp.controller.Stores h M) (hr : hp.Reported q st r) :
    GivesBack hp pool q st r h M :=
  fun _ _ hs _ => Or.inl ⟨hk.of_spared hs, hr⟩

lemma givesBack_now {o : StoreAnswer} (hk : hp.controller.Stores h N)
    (ho : ∀ live, q.OnSnapshots live M o N) (hr : hp.Reported q (some o) r) :
    GivesBack hp pool q none r h M :=
  fun _ live hs _ => Or.inr ⟨rfl, o, N, ho live, hk.of_spared hs, hr⟩

/-- A response is made from what the handler returned. -/
lemma withMutex_respond {hpc : HostPathController} {α β : Type} {x : Sys α} {f : α → β}
    {Q : Option StoreAnswer → Except Err β → Host → SnapshotMaps → Prop}
    (hx : WithMutex hpc pool q (fun st' r h' M' => Q st' (r.map f) h' M') st x.run h M) :
    WithMutex hpc pool q Q st (x >>= fun a => pure (f a)).run h M :=
  Mutex.During.bind hx (fun _ _ _ _ ha => ha) fun _ _ _ _ he => he

/-- **`CreateSnapshot` with the mutex.** -/
lemma section_createSnapshot (hlay : hp.controller.cfg.Layout) (hwf : hp.controller.WellFormed)
    {req : CreateSnapshotRequest} {info : StoragePoolInfo} {path : String} {p : Reflink}
    (hinfo : hp.controller.cfg.storagePoolInfo.lookup (getStoragePoolNameFromMap req.parameters)
      = some info) (hpath : info.snapshotPath = some path)
    (hp' : hp.controller.snapshotproviders.lookup (getStoragePoolNameFromMap req.parameters) = some p)
    (hid : ValidName req.name) (hv : ValidName req.sourceVolumeId)
    (hvd : req.sourceVolumeId ≠ dataPath) (hk : hp.controller.Stores h M) :
    WithMutex hp.controller pool (Request.createSnapshot (some req))
      (fun st r h M => GivesBack hp pool (Request.createSnapshot (some req)) st
        (r.map Response.snapshot) h M) none
      (do HostPathController.ensureInitialized p path
          HostPathController.findOrCreate p req : Sys Snapshot).run h M := by
  obtain ⟨S, L, site⟩ := HostPathController.exists_site hlay hwf hp'
  have hsame : p.path = path := by
    obtain ⟨info', hi', hpath', _⟩ := hwf _ p hp'
    cases hinfo.symm.trans hi'
    exact Option.some.inj (hpath'.symm.trans hpath)
  -- the snapshot directory is there
  refine Mutex.During.bind (Q := fun st' r h' M' => none = st' ∧ M = M'
    ∧ hp.controller.Stores h' M ∧ r = Except.ok ()) (Mutex.During.bind (withMutex_read
      (once_checkPathExist _) (Q := fun r => r = Except.ok true) hk fun h' hk' hf => ?_) ?_ ?_) ?_ ?_
  · have hdir := (hk' site).2
    exact ⟨_, checkPathExist_of_node (hf 0) (hsame ▸ site.snapshots) (by simp [hdir]), rfl⟩
  · rintro _ b h₁ _ ⟨rfl, rfl, hk₁, hb⟩
    cases hb
    exact ⟨rfl, rfl, hk₁, rfl⟩
  · rintro _ e h₁ _ ⟨_, _, _, hb⟩
    cases hb
  · rintro _ u h₁ _ ⟨rfl, rfl, hk₁, _⟩
    refine Mutex.During.attempt (withMutex_getSnapshotById site hid hk₁) ?_
    rintro _ r h₂ _ ⟨rfl, rfl, hk₂, t, rfl⟩
    cases hM : (M (getStoragePoolNameFromMap req.parameters)).lookup req.name with
    | some w =>
        dsimp only [Option.map_some]
        split_ifs with hw
        · subst hw
          exact givesBack_now hk₂ (fun live => Request.OnSnapshots.found hM)
            (HostPath.Reported.snapshot t (Or.inl rfl))
        · exact givesBack_now hk₂ (fun live => Request.OnSnapshots.otherSource hM hw)
            HostPath.Reported.otherSource
    | none =>
        refine Mutex.During.mono (withMutex_createSnapshot hlay site hid hv hvd hM hk₂) ?_
        rintro _ r h₃ M₃ ⟨⟨rfl, t', rfl⟩ | ⟨hst, e, rfl⟩, hk₃⟩
        · exact givesBack_done hk₃ (HostPath.Reported.snapshot t' (Or.inr rfl))
        · rcases hst with rfl | rfl
          · exact givesBack_done hk₃ (HostPath.Reported.noSource e (Or.inr rfl))
          · exact givesBack_done hk₃ (HostPath.Reported.noSource e (Or.inl rfl))
  · rintro _ e h₁ _ ⟨_, _, _, hr⟩
    cases hr

lemma sites_of_providers (hlay : hp.controller.cfg.Layout) (hwf : hp.controller.WellFormed) :
    ∀ e ∈ hp.controller.snapshotproviders.entries, ∃ S L, hp.controller.Site e.1 e.2 S L :=
  fun _ he => HostPathController.exists_site hlay hwf (AList.mem_lookup_iff.mpr he)

/-- **`DeleteSnapshot` with the mutex.** -/
lemma section_deleteSnapshot (hlay : hp.controller.cfg.Layout) (hwf : hp.controller.WellFormed)
    {req : DeleteSnapshotRequest} (hid : ValidName req.snapshotId) (hk : hp.controller.Stores h M) :
    WithMutex hp.controller pool (Request.deleteSnapshot (some req))
      (fun st r h M => GivesBack hp pool (Request.deleteSnapshot (some req)) st
        (r.map fun _ => Response.empty) h M) none
      (HostPathController.deleteFromProviders req.snapshotId hp.controller.providers).run h M := by
  refine Mutex.During.mono (withMutex_deleteFromProviders hlay hid (sites_of_providers hlay hwf)
    hp.controller.snapshotproviders.nodupKeys hk) ?_
  rintro _ r h₁ _ ⟨rfl, rfl, rfl, hk₁⟩
  refine givesBack_now (N := fun a => (M a).erase req.snapshotId) ?_
    (fun live => Request.OnSnapshots.deleted) HostPath.Reported.deleted
  -- every snapshot directory belongs to one of the providers
  intro a p S L site
  have hmem : a ∈ hp.controller.snapshotproviders.entries.map Sigma.fst :=
    List.mem_map.mpr ⟨⟨a, p⟩, AList.mem_lookup_iff.mp site.provider, rfl⟩
  have hone := hk₁ site
  rwa [erasedIn, if_pos hmem] at hone

/-- **`ListSnapshots` with the mutex.** -/
lemma section_listSnapshots (hlay : hp.controller.cfg.Layout) (hwf : hp.controller.WellFormed)
    {req : ListSnapshotsRequest} (hreq : req.snapshotId ≠ "" → ValidName req.snapshotId)
    (hk : hp.controller.Stores h M) :
    WithMutex hp.controller pool (Request.listSnapshots (some req))
      (fun st r h M => GivesBack hp pool (Request.listSnapshots (some req)) st
        (r.map Response.snapshots) h M) none
      (do liftExcept (HostPathController.snapshotsPage
        (← HostPathController.collectSnapshots req hp.controller.providers) req) :
          Sys ListSnapshotsResponse).run h M := by
  refine Mutex.During.bind (withMutex_collectSnapshots (sites_of_providers hlay hwf) hk hreq) ?_ ?_
  · rintro _ ss h₁ _ ⟨rfl, rfl, hk₁, _, hr, hss⟩
    cases hr
    have hback : GivesBack hp pool (Request.listSnapshots (some req)) none
        ((HostPathController.snapshotsPage ss req).map Response.snapshots) h₁ M :=
      givesBack_now hk₁ (fun live => Request.OnSnapshots.listed) (HostPath.Reported.listed hss)
    cases hpage : HostPathController.snapshotsPage ss req with
    | ok page =>
        rw [hpage] at hback
        exact hback
    | error e =>
        rw [hpage] at hback
        exact hback
  · rintro _ e h₁ _ ⟨_, _, _, _, hr, _⟩
    cases hr

/-- **A request for snapshots** is refused, or runs with the mutex. -/
lemma section_serve (hlay : hp.controller.cfg.Layout) (hwf : hp.controller.WellFormed)
    (hq : q.OfSnapshots) (hreq : q.OnStore pool) :
    (∃ e, hp.serveLocked q = throw e)
      ∨ ∃ x : Sys Response, hp.serveLocked q = withSnapMutex x
        ∧ ∀ h M, hp.controller.Stores h M →
          WithMutex hp.controller pool q (GivesBack hp pool q) none x.run h M := by
  cases q with
  | createSnapshot r =>
      rcases (HostPathController.createSnapshotLocked_cases r :
        (∃ e, hp.controller.createSnapshotLocked r = throw e) ∨ _) with
        ⟨e, he⟩ | ⟨req, info, path, p, rfl, hinfo, hpath, hp', heq⟩
      · refine Or.inl ⟨e, ?_⟩
        rw [HostPath.serveLocked, he]
        rfl
      · obtain ⟨hid, hv, hvd⟩ := hreq req rfl
        refine Or.inr ⟨_, ?_, fun h M hk => withMutex_respond
          (section_createSnapshot hlay hwf hinfo hpath hp' hid hv hvd hk)⟩
        rw [HostPath.serveLocked, heq]
        exact withSnapMutex_respond _ _
  | deleteSnapshot r =>
      cases r with
      | none => exact Or.inl ⟨_, rfl⟩
      | some req =>
          by_cases hid : req.snapshotId = ""
          · refine Or.inl ⟨Err.status Code.invalidArgument "snapshot id missing in request", ?_⟩
            rw [HostPath.serveLocked, HostPathController.deleteSnapshotLocked, if_pos hid]
            rfl
          · refine Or.inr ⟨_, ?_, fun h M hk => withMutex_respond
              (section_deleteSnapshot hlay hwf (hreq req rfl hid) hk)⟩
            rw [HostPath.serveLocked, HostPathController.deleteSnapshotLocked, if_neg hid]
            exact withSnapMutex_respond _ _
  | listSnapshots r =>
      cases r with
      | none => exact Or.inl ⟨_, rfl⟩
      | some req =>
          exact Or.inr ⟨_, withSnapMutex_respond _ _, fun h M hk => withMutex_respond
            (section_listSnapshots hlay hwf (hreq req rfl) hk)⟩
  | _ => exact hq.elim

end Requests

/-! ## Requests that do not use the mutex -/

section Volumes

variable {hp : HostPath} {pool : String → String} {q : Request} {h : Host} {d : Loc}

lemma serveLocked_of_volumes (hq : ¬ q.OfSnapshots) (hreq : q.OnStore pool) :
    hp.serveLocked q = unlocked (hp.serve q) := by
  cases q with
  | createVolume r =>
      rw [HostPath.serveLocked, HostPath.serve, unlocked_bind,
        HostPathController.createVolumeLocked_eq fun req hr => (hreq req hr).2.1]
      rfl
  | createSnapshot r => exact absurd trivial hq
  | deleteSnapshot r => exact absurd trivial hq
  | listSnapshots r => exact absurd trivial hq
  | _ => rfl

lemma Request.OnStore.onVolumes (hreq : q.OnStore pool) (hq : ¬ q.OfSnapshots) :
    q.OnVolumes pool := by
  cases q with
  | createSnapshot r => exact absurd trivial hq
  | deleteSnapshot r => exact absurd trivial hq
  | listSnapshots r => exact absurd trivial hq
  | _ => exact hreq

lemma Request.OnStore.proper (hreq : q.OnStore pool) (hq : ¬ q.OfSnapshots) : q.Proper := by
  cases q with
  | createVolume r => exact fun req hr => (hreq req hr).1
  | createSnapshot r => exact absurd trivial hq
  | deleteSnapshot r => exact absurd trivial hq
  | nodePublishVolume r => exact hreq
  | nodeUnpublishVolume r => exact hreq
  | _ => trivial

/-- What such a request names is a volume. -/
lemma HostPathController.Owns.volume {hpc : HostPathController} (hd : hpc.Owns q d)
    (hq : ¬ q.OfSnapshots) : ∃ a info l n, hpc.cfg.storagePoolInfo.lookup a = some info
      ∧ info.loc = some l ∧ d = l ++ [n] := by
  cases q with
  | createVolume r =>
      obtain ⟨req, info, l, _, ha, hl, rfl⟩ := hd
      exact ⟨_, info, l, _, ha, hl, rfl⟩
  | deleteVolume r =>
      obtain ⟨req, a, info, l, _, ha, hl, rfl⟩ := hd
      exact ⟨a, info, l, _, ha, hl, rfl⟩
  | createSnapshot r => exact absurd trivial hq
  | deleteSnapshot r => exact absurd trivial hq
  | _ => exact hd.elim

/-- **The calls of such a request stay out of the snapshot directories.** -/
lemma spared_of_keeps {hpc : HostPathController} {c : Syscall} (hlay : hpc.cfg.Layout)
    (hu : hpc.cfg.Unmounted h) (hq : ¬ q.OfSnapshots) (hc : c.Keeps (hpc.Owns q)) :
    hpc.Spared h (h.step c).2 := by
  intro a p S L site x hx
  refine (frame_of_keeps hu (fun d hd => hd.object) hc).node x ?_
  rintro ⟨d, hd, hdx⟩
  obtain ⟨b, info, l, n, hb, hl, rfl⟩ := hd.volume hq
  have hap : Apart (l ++ [n]) S :=
    (site.apart_pool hlay hb hl).below (List.prefix_append l _) (List.prefix_refl S)
  rcases hdx with hdx | ⟨hxd, _⟩
  · exact hap.not_below hdx hx
  · exact hap.2 (hx.trans hxd)

end Volumes

/-! ## All together -/

/-- One move of a driver whose requests run at the same time and use the mutex. -/
def HostPath.LockedMoves (hp : HostPath) (pool : String → String) :
    LockedServing → LockedMove → LockedServing → Prop :=
  Mutex.Step step (fun a => (a.1.serveLocked a.2).run) fun _ a =>
    hp.Reorders a.1 ∧ a.2.OnStore pool

/-- What a request does to the map of the volumes when it takes effect. -/
def Request.OnLive (q : Request) (live : GoMap String) (o : StoreAnswer) (live' : GoMap String) :
    Prop :=
  ∃ o', o = StoreAnswer.volume o' ∧ q.onMap live = some (o', live')

/-- One move of the store, on which requests act at once: on the map of the volumes, or on the maps
of the snapshots. -/
def StoreMoves : AtomicObject (GoMap String × SnapshotMaps) (HostPath × Request) StoreAnswer →
    LockedServing × LockedMove →
    AtomicObject (GoMap String × SnapshotMaps) (HostPath × Request) StoreAnswer → Prop :=
  AtomicObject.Step (Mutex.Joint (fun a live o live' => a.2.OnLive live o live')
    fun a live M o M' => a.2.OnSnapshots live M o M') fun a => a.1.Reported a.2

section Main

variable {hp hp' : HostPath} {pool : String → String}

lemma snapTerms_reorders (hre : hp.Reorders hp') :
    hp'.controller.snapTerms pool = hp.controller.snapTerms pool := by
  refine Mutex.Terms.ext ?_ ?_ ?_
  · funext h live
    exact propext (and_congr_left' (Config.Shows.reorders_iff hre.controller))
  · funext h M
    exact propext ⟨fun hk _ _ _ _ site => hk (hre.site site),
      fun hk _ _ _ _ site => hk (hre.symm.site site)⟩
  · funext h h'
    exact propext ⟨fun hs _ _ _ _ site => hs (hre.site site),
      fun hs _ _ _ _ site => hs (hre.symm.site site)⟩

/-- The calls that a request makes without the mutex. -/
def HostPath.FreeCall (hp : HostPath) (a : HostPath × Request) (c : Syscall) : Prop :=
  ¬ a.2.OfSnapshots ∧ c.Keeps (hp.controller.Owns a.2)

/-- **Every request** stays out of the snapshot directories, or works in them with the mutex. -/
lemma outside_serveLocked {a : HostPath × Request} (hre : hp.Reorders a.1)
    (hlay : hp.controller.cfg.Layout) (hwf : hp.controller.WellFormed)
    (hpool : ∀ n, ∃ info, hp.controller.cfg.storagePoolInfo.lookup (pool n) = some info)
    (hreq : a.2.OnStore pool) :
    Mutex.Outside step (hp.controller.snapTerms pool)
      (fun (a : HostPath × Request) live o live' => a.2.OnLive live o live')
      (fun a live M o M' => a.2.OnSnapshots live M o M') (fun a => a.1.Reported a.2) hp.FreeCall
      Admissible a none (a.1.serveLocked a.2).run := by
  obtain ⟨hp', q⟩ := a
  dsimp only at hre hreq ⊢
  have hlay' := hre.controller.layout hlay
  have hwf' := hre.wellFormed hwf
  rw [← snapTerms_reorders hre]
  by_cases hq : q.OfSnapshots
  · rcases section_serve hlay' hwf' hq hreq with ⟨e, he⟩ | ⟨x, heq, hx⟩
    · refine Or.inl ⟨Prog.ret (Except.error e), ?_, HostPath.Reported.refused he, trivial⟩
      rw [he]
      rfl
    · refine Or.inr ⟨x.run, ?_, rfl, hx⟩
      rw [heq]
      rfl
  · refine Or.inl ⟨(hp'.serve q).run, ?_, ?_, ?_⟩
    · rw [serveLocked_of_volumes hq hreq]
      rfl
    · have heff := takesEffect_serve hlay' hwf'
        (fun n => by rw [hre.controller.lookup]; exact hpool n) (hreq.onVolumes hq)
      refine (Commits.imp StoreAnswer.volume heff ?_ ?_ ?_ ?_ :
        Commits _ _ _ _ (Option.map StoreAnswer.volume none) _)
      · exact fun h live hs => hs.1
      · intro h live c live' hs hs'
        refine ⟨hs', fun n => ?_⟩
        rw [step_outcomes]
        exact hs.2 (n + 1)
      · exact fun t o t' ho => ⟨o, rfl, ho⟩
      · exact fun st r hr => HostPath.Reported.volume hq hr
    · have hkeeps := HostPath.keeps_serve hlay' hwf' (hreq.proper hq)
      refine Uses.mono (Uses.imp hkeeps (fun c hc => ⟨hq, ?_⟩) fun _ _ hr => hr) fun _ _ => trivial
      have howns : hp.controller.Owns q = hp'.controller.Owns q :=
        funext fun _ => propext (HostPathController.owns_reorders hre).symm
      rwa [howns]

/-- The requests that run and the store are in corresponding states. -/
abbrev StoreMatches (hp : HostPath) (pool : String → String) (w : LockedServing)
    (A : AtomicObject (GoMap String × SnapshotMaps) (HostPath × Request) StoreAnswer)
    (holder : Option ℕ) : Prop :=
  Mutex.Matches step (hp.controller.snapTerms pool) (fun a live o live' => a.2.OnLive live o live')
    (fun a live M o M' => a.2.OnSnapshots live M o M') (fun a => a.1.Reported a.2) hp.FreeCall
    Admissible w A holder

lemma stores_of_free {w : LockedServing}
    {A : AtomicObject (GoMap String × SnapshotMaps) (HostPath × Request) StoreAnswer}
    {holder : Option ℕ} (hm : StoreMatches hp pool w A holder) (hheld : w.shared.held = false) :
    hp.controller.Stores w.shared.state A.state.2 := by
  have hnone : holder = none := by
    simpa using hm.held.symm.trans hheld
  exact hm.kept hnone

/-- A run of the driver is matched by a run of the store. -/
lemma store_simulates {h₀ : Host} {live : GoMap String} {M : SnapshotMaps} {w : LockedServing}
    {tr : List (LockedServing × LockedMove)} (hlay : hp.controller.cfg.Layout)
    (hwf : hp.controller.WellFormed)
    (hpool : ∀ n, ∃ info, hp.controller.cfg.storagePoolInfo.lookup (pool n) = some info)
    (hs : hp.controller.cfg.Shows pool h₀ live) (hf : h₀.NoFaults) (hk : hp.controller.Stores h₀ M)
    (hr : Run (hp.LockedMoves pool) (Pool.idle ⟨h₀, false⟩) tr w) :
    ∃ tr' A holder, Run StoreMoves (AtomicObject.idle (live, M)) tr' A ∧ tr'.map Prod.snd = tr
      ∧ StoreMatches hp pool w A holder := by
  have hkeep : ∀ (a : HostPath × Request) h live c, (hp.controller.snapTerms pool).shown h live →
      hp.FreeCall a c → Admissible c (step h c).1 ∧ hp.controller.Spared h (step h c).2 :=
    fun a h live c hs hc => ⟨admissible_step h c, spared_of_keeps hlay hs.1.2 hc.1 hc.2⟩
  have hstart := fun (_ : LockedServing) (a : HostPath × Request)
    (ha : hp.Reorders a.1 ∧ a.2.OnStore pool) => outside_serveLocked ha.1 hlay hwf hpool ha.2
  exact Mutex.linearizable hkeep hstart (Mutex.matches_idle ⟨hs, hf⟩ hk) hr

end Main

namespace Sample

/-- The pool holds one volume, of which there is a snapshot. -/
def snappedHost : Host :=
  { host with
    fs := ((host.fs.create ["snapshots", "old", dataPath] fun _ => true).create
      ["snapshots", "old", "vol"] fun _ => true) }

lemma shows_snappedHost :
    driver.controller.cfg.Shows onePool snappedHost (AList.insert "vol" "local" ∅) := by
  refine ⟨⟨fun a info ha => ?_, fun a info l n ha hl => ?_, fun n a hn => ?_,
    fun a info l ha hl => ?_⟩, Config.Unmounted.of_nil rfl⟩
  · obtain ⟨rfl, rfl⟩ := eq_of_lookup ha
    exact ⟨["pool"], by decide, by decide⟩
  · obtain ⟨rfl, rfl⟩ := eq_of_lookup ha
    cases (show pool.loc = some ["pool"] by decide).symm.trans hl
    by_cases hn : n = "vol"
    · subst hn
      decide
    · have hnone : snappedHost.fs.node (["pool"] ++ [n]) = none := by
        by_contra hne
        have hmem := snappedHost.fs.mem_list.mpr hne
        rw [show snappedHost.fs.list ["pool"] = ["vol"] by decide, List.mem_singleton] at hmem
        exact hn hmem
      rw [hnone, AList.lookup_insert_ne hn]
      rfl
  · by_cases hvol : n = "vol"
    · subst hvol
      cases hn
      exact ⟨rfl, pool, rfl⟩
    · rw [AList.lookup_insert_ne hvol] at hn
      cases hn
  · rintro ⟨m, hm, _⟩
    cases hm

/-- There is one snapshot, of that volume. -/
lemma stores_snappedHost :
    driver.controller.Stores snappedHost fun _ => AList.insert "old" "vol" ∅ := by
  intro a p S L site
  obtain ⟨_, rfl, _⟩ := site_eq site
  refine ⟨⟨fun n hn => ?_, fun n v hn => ?_⟩, by decide⟩
  · by_contra hne
    have hmem := snappedHost.fs.mem_list.mpr hne
    rw [show snappedHost.fs.list ["snapshots"] = ["old"] by decide, List.mem_singleton] at hmem
    subst hmem
    cases hn
  · by_cases hold : n = "old"
    · subst hold
      cases hn
      decide
    · rw [AList.lookup_insert_ne hold] at hn
      cases hn

def takeSnap : HostPath × Request := (driver, snapshotRequestFor "snap" "vol")

/-- A snapshot of a volume that is deleted at the same time: the deletion runs after the request for
the snapshot has found the volume and before it copies it. -/
def raced : List (Pool.Choice (HostPath × Request)) :=
  [Pool.Choice.start 0 takeSnap, Pool.Choice.start 1 (deleteVol "vol")]
    ++ List.replicate 4 (Pool.Choice.go 0) ++ List.replicate 3 (Pool.Choice.go 1)
    ++ List.replicate 6 (Pool.Choice.go 0)

lemma eq_of_raced {i : ℕ} {a : HostPath × Request} (h : Pool.Choice.start i a ∈ raced) :
    a = takeSnap ∨ a = deleteVol "vol" := by
  simp only [raced, List.mem_append, List.mem_cons, Pool.Choice.start.injEq, List.mem_replicate,
    reduceCtorEq, List.not_mem_nil, and_false, or_false] at h
  exact h.imp (fun h => h.2) fun h => h.2

lemma run_raced {tr : List (LockedServing × LockedMove)} {w : LockedServing}
    (h : Pool.play (Mutex.step step) (fun a => (a.1.serveLocked a.2).run) raced
      (Pool.idle ⟨snappedHost, false⟩) = some (tr, w)) (hfree : tr.all takesFree = true) :
    Run (driver.LockedMoves onePool) (Pool.idle ⟨snappedHost, false⟩) tr w := by
  refine Mutex.run_of_free (Pool.run_of_play (fun i a ha _ => ?_) h) fun x hx i a r hmv => ?_
  · rcases eq_of_raced ha with rfl | rfl
    · refine ⟨HostPath.Reorders.refl _, ?_⟩
      rintro _ ⟨⟩
      exact ⟨by decide, by decide, by decide⟩
    · exact ⟨HostPath.Reorders.refl _, trivial⟩
  · have hx' := List.all_eq_true.mp hfree x hx
    rw [takesFree, hmv] at hx'
    simpa using hx'

lemma exists_raced : ∃ tr w, Pool.play (Mutex.step step) (fun a => (a.1.serveLocked a.2).run) raced
      (Pool.idle ⟨snappedHost, false⟩) = some (tr, w) ∧ tr.all takesFree = true
    ∧ w.shared.held = false ∧ w.shared.state.fs.node ["snapshots", "snap"] = some Node.dir
    ∧ w.shared.state.fs.node ["pool", "vol"] = none := by
  have hplay : ((Pool.play (Mutex.step step) (fun a => (a.1.serveLocked a.2).run) raced
      (Pool.idle ⟨snappedHost, false⟩)).map fun r => decide (r.1.all takesFree = true
        ∧ r.2.shared.held = false
        ∧ r.2.shared.state.fs.node ["snapshots", "snap"] = some Node.dir
        ∧ r.2.shared.state.fs.node ["pool", "vol"] = none)) = some true := by
    decide +kernel
  obtain ⟨⟨tr, w⟩, hrun, hend⟩ := Option.map_eq_some_iff.mp hplay
  exact ⟨tr, w, hrun, of_decide_eq_true hend⟩

end Sample

/-- The request can put the snapshot `id` of the pool `a` into the maps, if it is not there, or take
it out, if it is. -/
def Request.Turns (a id : String) (x : Option String) : Request → Prop
  | createSnapshot (some req) => x = none ∧ getStoragePoolNameFromMap req.parameters = a
      ∧ req.name = id
  | deleteSnapshot (some req) => x ≠ none ∧ req.snapshotId = id
  | _ => False

section Lasting

variable {hp : HostPath} {pool : String → String} {q : Request} {live : GoMap String}
  {M M' : SnapshotMaps} {o : StoreAnswer} {a b id n v : String} {x : Option String}

lemma lookup_inserted (hx : (M a).lookup id = x) (hM : (M b).lookup n = none)
    (hno : ¬ (x = none ∧ b = a ∧ n = id)) :
    (Function.update M b ((M b).insert n v) a).lookup id = x := by
  by_cases hab : a = b
  · subst hab
    have hne : id ≠ n := by
      rintro rfl
      exact hno ⟨hx.symm.trans hM, rfl, rfl⟩
    rwa [Function.update_self, AList.lookup_insert_ne hne]
  · rwa [Function.update_of_ne hab]

/-- Only a request of that kind changes whether the snapshot is in the maps, and none changes its
source. -/
lemma Request.OnSnapshots.lookup (hq : q.OnSnapshots live M o M') (hx : (M a).lookup id = x)
    (hno : ¬ q.Turns a id x) : (M' a).lookup id = x := by
  cases hq with
  | found _ => exact hx
  | otherSource _ _ => exact hx
  | noVolume _ _ => exact hx
  | listed => exact hx
  | taken hM _ => exact lookup_inserted hx hM hno
  | lost hM _ => exact lookup_inserted hx hM hno
  | @deleted req =>
      by_cases hid : id = req.snapshotId
      · subst hid
        have hnone : x = none := by
          by_contra hne
          exact hno ⟨hne, rfl⟩
        rw [AList.lookup_erase, hnone]
      · rwa [AList.lookup_erase_ne hid]

/-- **Snapshots stay.**  Volumes and snapshots are made and removed at the same time.  A snapshot that
is there is there afterwards, with the same source, unless a deletion of it was started, even if the
volume has been removed; and a snapshot that is not there is not there afterwards, unless a request
for it was started.  The requests are those of `store_linearizable`, with ids that are single path
components: `old/aa` and `x/../old` would name the snapshot `old` too. -/
theorem snapshots_last {h₀ : Host} {w : LockedServing} {tr : List (LockedServing × LockedMove)}
    {p : Reflink} {S L : Loc} (hlay : hp.controller.cfg.Layout) (hwf : hp.controller.WellFormed)
    (hpool : ∀ n, ∃ info, hp.controller.cfg.storagePoolInfo.lookup (pool n) = some info)
    (hs : hp.controller.cfg.Shows pool h₀ live) (hf : h₀.NoFaults) (hk : hp.controller.Stores h₀ M)
    (hr : Run (hp.LockedMoves pool) (Pool.idle ⟨h₀, false⟩) tr w)
    (hx : (M a).lookup id = x)
    (hno : ∀ y ∈ tr, ∀ i b, y.2 = Move.start i b → ¬ b.2.Turns a id x)
    (hfree : w.shared.held = false) (site : hp.controller.Site a p S L) :
    (x = none → w.shared.state.fs.node (S ++ [id]) = none)
      ∧ ∀ v, x = some v → w.shared.state.fs.node (S ++ [id]) = some Node.dir
        ∧ Reflink.sourceOf w.shared.state.fs (S ++ [id]) = some v := by
  obtain ⟨tr', A, holder, hrun, rfl, hm⟩ := store_simulates hlay hwf hpool hs hf hk hr
  have hlast : (A.state.2 a).lookup id = x := by
    refine AtomicObject.holds_along (V := fun b => b.2.Turns a id x)
      (P := fun t => (t.2 a).lookup id = x) ?_ (by simp [AtomicObject.idle]) hx hrun
      fun y hy i b hmv => hno y.2 (List.mem_map_of_mem hy) i b hmv
    rintro b ⟨live, N⟩ o ⟨live', N'⟩ hb (⟨_, heq⟩ | ⟨hq, _⟩) hN
    · exact (congrArg (fun N : SnapshotMaps => (N a).lookup id) heq).trans hN
    · exact hq.lookup hN hb
  obtain ⟨hencodes, _⟩ := stores_of_free hm hfree site
  exact ⟨fun hnone => hencodes.unmapped (hlast.trans hnone),
    fun v hv => hencodes.mapped (hlast.trans hv)⟩

end Lasting

/-- The volume is deleted while a second snapshot of it is taken; the first stays. -/
theorem sample_last :
    ∃ tr w, Run (Sample.driver.LockedMoves Sample.onePool) (Pool.idle ⟨Sample.snappedHost, false⟩) tr w
      ∧ w.shared.state.fs.node ["pool", "vol"] = none
      ∧ w.shared.state.fs.node ["snapshots", "old"] = some Node.dir
      ∧ Reflink.sourceOf w.shared.state.fs ["snapshots", "old"] = some "vol" := by
  obtain ⟨tr, w, hrun, hfree, hheld, _, hvol⟩ := Sample.exists_raced
  have hr := Sample.run_raced hrun hfree
  refine ⟨tr, w, hr, hvol, (snapshots_last Sample.layout Sample.wellFormed Sample.onePool_configured
    Sample.shows_snappedHost (fun _ => rfl) Sample.stores_snappedHost hr
    (show _ = some "vol" from rfl) (fun y hy i b hmv => ?_) hheld Sample.site).2 "vol" rfl⟩
  rcases Sample.eq_of_raced (Pool.start_of_play hrun y hy i b hmv) with rfl | rfl
  · exact fun h => absurd h.1 (by simp)
  · exact fun h => h

end Hostpath
