import Hostpath.Lib.Histories
import Hostpath.Csi.Linearizability

/-!
# Listing the volumes while they change

`ListVolumes` reads one pool after the other, so what it returns need not be what was there at any
one time.  It is what was in each pool at one moment while the request ran: a volume that was there
all the time is listed, and a volume that is listed was there.  This holds whatever else runs, with
any failures; the main result is `listing_sees_each_pool_once`.  That each pool is seen at one moment
rests on `ReadDir` being one step here: the operating system reads a long directory in several calls.
What is proved is that the request reads every pool once and adds and drops nothing.
-/

namespace Hostpath

open Lib FilePath Prog Host

/-! ## What the text says -/

/-- The paths of the directories among the entries of a pool. -/
def dirsAmong (info : StoragePoolInfo) (files : List DirEntry) : List String :=
  (files.filter fun f => f.isDir).map fun f => join [info.path, f.name]

/-- The transcript has a listing of each pool, and `ids` are the names of the directories that were
listed. -/
def ListedFrom (cfg : Config) (t : List (Sigma Reply)) (ids : List String) : Prop :=
  ∃ files : StoragePoolInfo → List DirEntry,
    (∀ info ∈ cfg.pools, (⟨Syscall.readDir info.path, Except.ok (files info)⟩ : Sigma Reply) ∈ t)
      ∧ ∀ n, n ∈ ids ↔ ∃ info ∈ cfg.pools, ∃ d ∈ dirsAmong info (files info), base d = n

section Logs

variable {t : List (Sigma Reply)}

/-- The transcript has one listing for each pool, and the result is made from them. -/
lemma logs_poolDirectories {infos : List StoragePoolInfo} (hnodup : infos.Nodup) :
    Logs (fun _ _ => True) (fun _ _ => True) (fun t' r => t <+: t' ∧ ∀ ds, r = Except.ok ds →
      ∃ files : StoragePoolInfo → List DirEntry,
        (∀ info ∈ infos, (⟨Syscall.readDir info.path, Except.ok (files info)⟩ : Sigma Reply) ∈ t')
          ∧ ds = infos.flatMap fun info => dirsAmong info (files info))
      t (poolDirectories infos).run := by
  induction infos generalizing t with
  | nil => exact ⟨List.prefix_refl t, fun ds hds => ⟨fun _ => [], by simp, by cases hds; rfl⟩⟩
  | cons info infos ih =>
      obtain ⟨hinfo, hrest⟩ := List.nodup_cons.mp hnodup
      refine logs_perform.mpr ⟨trivial, fun rep _ => ?_⟩
      cases rep with
      | error e => exact ⟨List.prefix_append t _, nofun⟩
      | ok fs =>
          refine (logs_pure (a := fs)).mpr (logs_seq.mpr ((ih hrest).mono ?_))
          rintro t' r ⟨hpre, hok⟩
          have ht : t <+: t' := (List.prefix_append t _).trans hpre
          cases r with
          | error e => exact ⟨ht, nofun⟩
          | ok ds =>
              obtain ⟨files, hmem, rfl⟩ := hok ds rfl
              refine ⟨ht, fun ds' hds' => ⟨Function.update files info fs, ?_, ?_⟩⟩
              · refine List.forall_mem_cons.mpr ⟨?_, fun i hi => ?_⟩
                · rw [Function.update_self]
                  exact hpre.subset (List.mem_append_right _ (List.mem_singleton_self _))
                · rw [Function.update_of_ne fun h : i = info => hinfo (h ▸ hi)]
                  exact hmem i hi
              · cases hds'
                rw [List.flatMap_cons, Function.update_self]
                refine congrArg (dirsAmong info fs ++ ·) (List.flatMap_congr fun i hi => ?_)
                rw [Function.update_of_ne fun h : i = info => hinfo (h ▸ hi)]

/-- The entries of a page are for the directories of the page. -/
lemma ensures_volumeEntries (hpc : HostPathController) (caps : GoMap Int64) (page : List String) :
    Ensures (fun _ => True) (fun _ _ => True)
      (fun entries => entries.map VolumeEntry.volumeId = page.map base)
      (hpc.volumeEntries caps page) := by
  induction page with
  | nil => exact Ensures.ret rfl
  | cons d page ih =>
      refine Ensures.bind (Q := fun entry => entry.volumeId = base d) ?_ fun entry hentry => ?_
      · refine Ensures.bind (Q := fun _ => True) ?_ fun _ _ => Ensures.ret rfl
        exact (only_doHealthCheckInControllerSide d).imp (fun _ _ => trivial) fun _ _ _ => trivial
      · refine Ensures.bind ih fun entries hentries => Ensures.ret ?_
        rw [List.map_cons, List.map_cons, hentry, hentries]

/-- A full listing is made from one listing of each pool. -/
lemma logs_listVolumes {hpc : HostPathController} (hlay : hpc.cfg.Layout) :
    Logs (fun _ _ => True) (fun _ _ => True) (fun t' r => ∀ resp, r = Except.ok resp →
        ListedFrom hpc.cfg t' (resp.entries.map VolumeEntry.volumeId))
      [] (hpc.listVolumes (some ⟨0, ""⟩)).run := by
  have hcaps : Ensures (fun _ => True) (fun _ _ => True) (fun _ => True)
      (capacityMap hpc.cfg.pools ∅) :=
    (only_capacityMap hpc.cfg.pools ∅).imp (fun _ _ => trivial) fun _ _ _ => trivial
  refine (logs_pure (a := (⟨0, ""⟩ : ListVolumesRequest))).mpr (logs_seq.mpr ?_)
  refine (logs_of_uses hcaps fun _ _ _ => trivial).mono ?_
  rintro t₁ r₁ -
  cases r₁ with
  | error e => exact nofun
  | ok caps =>
      refine logs_seq.mpr (logs_seq.mpr ((logs_poolDirectories (nodup_pools hlay)).mono ?_))
      rintro t₂ r₂ ⟨-, hok⟩
      cases r₂ with
      | error e => exact nofun
      | ok ds =>
          obtain ⟨files, hmem, rfl⟩ := hok ds rfl
          show Logs _ _ _ t₂ (liftExcept (HostPathController.volumesPage _ _) >>= _).run
          rw [HostPathController.volumesPage_all]
          refine (logs_pure (a := (_, ""))).mpr (logs_seq.mpr ?_)
          refine (logs_of_uses (ensures_volumeEntries hpc caps _) fun _ _ _ => trivial).mono ?_
          rintro t₃ r₃ ⟨hids, u, rfl, -⟩
          cases r₃ with
          | error e => exact nofun
          | ok entries =>
              rintro resp ⟨⟩
              refine ⟨files, fun info hinfo => List.mem_append_left _ (hmem info hinfo), fun n => ?_⟩
              rw [hids entries rfl, List.mem_map]
              simp only [List.mem_insertionSort, List.mem_flatMap]
              constructor
              · rintro ⟨d, ⟨info, hinfo, hd⟩, hb⟩
                exact ⟨info, hinfo, d, hd, hb⟩
              · rintro ⟨info, hinfo, d, hd, hb⟩
                exact ⟨d, ⟨info, hinfo, hd⟩, hb⟩

end Logs

/-! ## What a run does -/

/-- What a listing of a pool tells: the names of the directories that were in it. -/
lemma mem_dirsAmong_entries {h : Host} {info : StoragePoolInfo} {l : Loc} {n : String}
    (hl : info.loc = some l) :
    (∃ d ∈ dirsAmong info (h.entries l), base d = n) ↔ h.fs.node (l ++ [n]) = some Node.dir := by
  rw [dirsAmong, entries_dirs hl]
  constructor
  · rintro ⟨d, hd, hb⟩
    obtain ⟨l', m, hl', hv, hm, rfl⟩ := mem_dirsOf.mp hd
    cases hl.symm.trans hl'
    rw [base_join _ hv] at hb
    rwa [← hb]
  · intro hn
    have hv : ValidName n := h.fs.valid (l := l) (by simp [hn])
    exact ⟨_, mem_dirsOf.mpr ⟨l, n, hl, hv, hn, rfl⟩, base_join _ hv⟩

/-- A full listing. -/
def listAll : Request := Request.listVolumes (some ⟨0, ""⟩)

/-- **A listing sees each pool at one moment while it runs.**  Whatever other requests do in the
meantime, a full listing that succeeds has the names of exactly the directories that were in each
pool at some moment between the start and the end of the request.  A full listing has no token and no
bound on its entries. -/
theorem listing_sees_each_pool_once {hp : HostPath} {may : Serving → HostPath × Request → Prop}
    {w w' : Serving} {tr : List (Serving × Move (HostPath × Request) Syscall Reply)} {i : ℕ}
    {resp : ListVolumesResponse} (hlay : hp.controller.cfg.Layout)
    (hstart : w.threads i = some ((hp, listAll), (hp.serve listAll).run))
    (hr : Run (Pool.Step step (fun a => (a.1.serve a.2).run) may) w tr w')
    (hno : ∀ x ∈ tr, x.2 ≠ Move.finish i)
    (hend : w'.threads i = some ((hp, listAll), Prog.ret (Except.ok (Response.volumes resp)))) :
    ∃ moment : StoragePoolInfo → Serving,
      (∀ info ∈ hp.controller.cfg.pools, ∃ mv, (moment info, mv) ∈ tr)
        ∧ ∀ n, n ∈ resp.entries.map VolumeEntry.volumeId ↔ ∃ info ∈ hp.controller.cfg.pools,
          ∃ l, info.loc = some l ∧ (moment info).shared.fs.node (l ++ [n]) = some Node.dir := by
  have hlogs : Logs (fun _ _ => True) (fun _ _ => True) (fun t r => ∀ resp,
      r = Except.ok (Response.volumes resp) →
        ListedFrom hp.controller.cfg t (resp.entries.map VolumeEntry.volumeId)) []
      (hp.serve listAll).run := by
    refine logs_seq.mpr ((logs_listVolumes hlay).mono fun t r hr => ?_)
    cases r with
    | error e => exact nofun
    | ok resp' =>
        rintro resp ⟨⟩
        exact hr _ rfl
  obtain ⟨p, hthread, hresult⟩ := Pool.logs_of_run hstart hlogs (fun _ _ => trivial) hr hno
  cases hthread.symm.trans hend
  obtain ⟨files, hmem, hids⟩ := hresult resp rfl
  -- the listing of each pool is the reply to a call of the run
  have hread : ∀ info ∈ hp.controller.cfg.pools, ∃ m mv, (m, mv) ∈ tr ∧ ∃ l, info.loc = some l
      ∧ files info = m.shared.entries l := by
    intro info hinfo
    obtain ⟨⟨m, mv⟩, hx, a, hmv⟩ := Pool.exists_of_mem_transcript (hmem info hinfo)
    obtain ⟨m', hs⟩ := hr.steps _ hx
    dsimp only at hmv hs
    subst hmv
    obtain ⟨_, l, hl, _, hfiles⟩ := readDir_ok (Prod.ext hs.reply rfl)
    exact ⟨m, _, hx, l, hl, hfiles⟩
  have : Nonempty Serving := ⟨w⟩
  have : Nonempty (Move (HostPath × Request) Syscall Reply) := ⟨Move.finish i⟩
  choose! moment mv hmoment loc hloc hfiles using hread
  refine ⟨moment, fun info hinfo => ⟨mv info, hmoment info hinfo⟩, fun n => (hids n).trans ?_⟩
  refine exists_congr fun info => and_congr_right fun hinfo => ?_
  rw [hfiles info hinfo, mem_dirsAmong_entries (hloc info hinfo)]
  constructor
  · exact fun hn => ⟨loc info, hloc info hinfo, hn⟩
  · rintro ⟨l, hl, hn⟩
    cases (hloc info hinfo).symm.trans hl
    exact hn

namespace Sample

/-- A listing has just started. -/
def listing : Serving :=
  ⟨emptyHost, Function.update (fun _ => none) 0
    (some ((driver, listAll), (driver.serve listAll).run))⟩

/-- A volume is created after the listing has read the capacities and before it reads the pool. -/
def createdMeanwhile : List (Pool.Choice (HostPath × Request)) :=
  [Pool.Choice.start 1 createVol, Pool.Choice.go 0, Pool.Choice.go 1, Pool.Choice.go 1,
    Pool.Choice.go 1, Pool.Choice.go 0, Pool.Choice.go 0, Pool.Choice.go 0]

/-- The names that the listing has returned. -/
def listedIds (w : Serving) : Option (List String) :=
  match w.threads 0 with
  | some (_, Prog.ret (Except.ok (Response.volumes resp))) =>
      some (resp.entries.map VolumeEntry.volumeId)
  | _ => none

/-- What happened is not the end of the listing. -/
def goesOn (x : Serving × Move (HostPath × Request) Syscall Reply) : Bool :=
  match x.2 with
  | Move.finish i => i ≠ 0
  | _ => true

lemma of_listedIds {w : Serving} {ids : List String} (h : listedIds w = some ids) :
    ∃ a resp, w.threads 0 = some (a, Prog.ret (Except.ok (Response.volumes resp)))
      ∧ resp.entries.map VolumeEntry.volumeId = ids := by
  unfold listedIds at h
  split at h
  · rename_i a resp hw
    exact ⟨a, resp, hw, Option.some.inj h⟩
  · cases h

lemma of_goesOn {x : Serving × Move (HostPath × Request) Syscall Reply} (h : goesOn x = true) :
    x.2 ≠ Move.finish 0 := by
  intro hx
  simp [goesOn, hx] at h

end Sample

/-- A listing that overlaps with a creation returns the volume, and has seen it in its pool. -/
theorem sample_listing :
    ∃ w' tr resp, Run (Pool.Step step (fun a => (a.1.serve a.2).run) fun _ _ => True)
        Sample.listing tr w'
      ∧ w'.threads 0 = some ((Sample.driver, listAll), Prog.ret (Except.ok (Response.volumes resp)))
      ∧ resp.entries.map VolumeEntry.volumeId = ["vol"]
      ∧ ∃ moment : StoragePoolInfo → Serving,
        (∀ info ∈ Sample.driver.controller.cfg.pools, ∃ mv, (moment info, mv) ∈ tr)
          ∧ ∀ n, n ∈ resp.entries.map VolumeEntry.volumeId
            ↔ ∃ info ∈ Sample.driver.controller.cfg.pools, ∃ l, info.loc = some l
              ∧ (moment info).shared.fs.node (l ++ [n]) = some Node.dir := by
  have hplay : ((Pool.play step (fun a => (a.1.serve a.2).run) Sample.createdMeanwhile
      Sample.listing).map fun r =>
        decide (Sample.listedIds r.2 = some ["vol"]) && r.1.all Sample.goesOn) = some true := by
    decide +kernel
  obtain ⟨⟨tr, w'⟩, hrun, hchecks⟩ := Option.map_eq_some_iff.mp hplay
  obtain ⟨hids, hall⟩ := Bool.and_eq_true_iff.mp hchecks
  have hr : Run (Pool.Step step (fun a => (a.1.serve a.2).run) fun _ _ => True) Sample.listing tr w' :=
    Pool.run_of_play (fun _ _ _ _ => trivial) hrun
  have hno : ∀ x ∈ tr, x.2 ≠ Move.finish 0 := fun x hx =>
    Sample.of_goesOn (List.all_eq_true.mp hall x hx)
  obtain ⟨a, resp, hend, hresp⟩ := Sample.of_listedIds (of_decide_eq_true hids)
  have hstart : Sample.listing.threads 0
      = some ((Sample.driver, listAll), (Sample.driver.serve listAll).run) := rfl
  obtain ⟨p, hthread, _⟩ := Pool.logs_of_run hstart (logs_true [] _) (fun _ _ => trivial) hr hno
  cases hthread.symm.trans hend
  exact ⟨w', tr, resp, hr, hend, hresp,
    listing_sees_each_pool_once Sample.layout hstart hr hno hend⟩

end Hostpath
