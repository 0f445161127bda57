import Hostpath.Csi.Controller
import Hostpath.Csi.Storage

/-!
# Listing volumes

What `ListVolumes` and `ControllerGetVolume` return, in terms of the directories that are there.
Both read the capacity of every pool first, so they fail if a pool cannot be looked at; the health
check of a volume reports what is wrong and never fails.
-/

namespace Hostpath

open Lib FilePath Prog Host

variable {h h' : Host}

/-! ## Capacity and health -/

/-- One more entry of a table that is filled with the values of `f`. -/
lemma lookup_insert_filled {V : Type} {f : String → Option V} {m : GoMap V} {k : String} {v : V}
    (hk : f k = some v) (ks : List String) (a : String) :
    (if a ∈ ks then f a else (m.insert k v).lookup a)
      = if a ∈ k :: ks then f a else m.lookup a := by
  by_cases ha : a ∈ ks
  · rw [if_pos ha, if_pos (List.mem_cons_of_mem _ ha)]
  · rw [if_neg ha]
    by_cases hak : a = k
    · subst hak
      rw [AList.lookup_insert, if_pos List.mem_cons_self, hk]
    · rw [AList.lookup_insert_ne hak, if_neg (by simp [hak, ha])]

lemma capacityMap_ok {infos : List StoragePoolInfo} {caps caps' : GoMap Int64}
    (e : h.exec (capacityMap infos caps) = (Except.ok caps', h')) : Quiet h h' := by
  induction infos generalizing h caps with
  | nil =>
      cases e
      exact Quiet.refl _
  | cons info infos ih =>
      obtain ⟨c, m, hc, hk⟩ := exec_bind_eq_ok.mp e
      obtain ⟨rfl, _⟩ := getVolumeDirCapacity_ok hc
      exact (Quiet.tick h).trans (ih hk)

lemma capacityMap_of_noFaults {infos : List StoragePoolInfo} (caps : GoMap Int64)
    (hf : h.NoFaults) (hr : Readable h.fs infos) :
    ∃ caps' m, Quiet h m ∧ h.exec (capacityMap infos caps) = (Except.ok caps', m) := by
  induction infos generalizing h caps with
  | nil => exact ⟨caps, h, Quiet.refl _, rfl⟩
  | cons info infos ih =>
      obtain ⟨l, hl, hdir⟩ := hr info List.mem_cons_self
      obtain ⟨c, hc⟩ := getVolumeDirCapacity_of_noFault (hf 0) hl (by simp [hdir])
      obtain ⟨caps', m, hq, hm⟩ := ih (h := h.tick) (caps.insert info.path c) (fun n => hf (n + 1))
        fun i hi => hr i (List.mem_cons_of_mem _ hi)
      exact ⟨caps', m, (Quiet.tick h).trans hq, exec_bind_eq_ok.mpr ⟨c, _, hc, hm⟩⟩

/-- A health check looks, and always says something. -/
lemma checkIfSpaceAvailable_total {path : String} {r : Except Err (Bool × String)}
    (e : h.exec (checkIfSpaceAvailable path) = (r, h')) : Quiet h h' ∧ r.isOk = true := by
  unfold checkIfSpaceAvailable at e
  rcases hs : h.step (Syscall.statfs path) with ⟨rep, m⟩
  have hm : m = h.tick := (congrArg Prod.snd hs).symm
  have hget : h.exec (getPVStats path) = (Except.ok (rep.map fsInfo), m) :=
    exec_bind_of_ok step (exec_perform_eq.mpr hs)
  replace e := (exec_bind_of_ok step hget).symm.trans e
  subst hm
  split at e
  · cases e
    exact ⟨Quiet.tick h, rfl⟩
  · split_ifs at e <;>
    · cases e
      exact ⟨Quiet.tick h, rfl⟩

lemma doHealthCheckInControllerSide_total {path : String} {r : Except Err (Bool × String)}
    (e : h.exec (doHealthCheckInControllerSide path) = (r, h')) : Quiet h h' ∧ r.isOk = true := by
  unfold doHealthCheckInControllerSide at e
  rcases hc : h.exec (checkPathExist path) with ⟨b, m⟩
  replace e := (exec_bind_of_ok step (exec_attempt_eq.mpr hc)).symm.trans e
  cases b with
  | error err =>
      cases e
      exact ⟨checkPathExist_error hc ▸ Quiet.tick h, rfl⟩
  | ok b =>
      obtain ⟨rfl, _⟩ := checkPathExist_ok hc
      cases b with
      | false =>
          cases e
          exact ⟨Quiet.tick h, rfl⟩
      | true =>
          obtain ⟨hq, hok⟩ := checkIfSpaceAvailable_total e
          exact ⟨(Quiet.tick h).trans hq, hok⟩

namespace HostPathController

variable {hpc : HostPathController}

/-- Every directory gets its entry. -/
lemma volumeEntry_total (hpc : HostPathController) (h : Host) (caps : GoMap Int64)
    (id path : String) :
    ∃ entry m, Quiet h m ∧ entry.volumeId = id
      ∧ h.exec (hpc.volumeEntry caps id path) = (Except.ok entry, m) := by
  rcases hc : h.exec (doHealthCheckInControllerSide path) with ⟨r, m⟩
  obtain ⟨hq, hok⟩ := doHealthCheckInControllerSide_total hc
  cases r with
  | error err => cases hok
  | ok b => exact ⟨_, m, hq, rfl, exec_bind_of_ok step hc⟩

lemma volumeEntries_total (hpc : HostPathController) (h : Host) (caps : GoMap Int64)
    (page : List String) :
    ∃ entries m, Quiet h m ∧ entries.map VolumeEntry.volumeId = page.map base
      ∧ h.exec (hpc.volumeEntries caps page) = (Except.ok entries, m) := by
  induction page generalizing h with
  | nil => exact ⟨[], h, Quiet.refl _, rfl, rfl⟩
  | cons d page ih =>
      obtain ⟨entry, m, hq, hid, he⟩ := hpc.volumeEntry_total h caps (base d) d
      obtain ⟨entries, m', hq', hids, hes⟩ := ih m
      refine ⟨entry :: entries, m', hq.trans hq', by rw [List.map_cons, List.map_cons, hid, hids], ?_⟩
      exact exec_bind_eq_ok.mpr ⟨entry, m, he, exec_bind_eq_ok.mpr ⟨entries, m', hes, rfl⟩⟩

/-! ## The handlers -/

/-- The entries of the directories of a page. -/
def EntriesOf (hpc : HostPathController) (h : Host) (page : List String)
    (entries : List VolumeEntry) : Prop :=
  ∃ caps m m', Quiet h m ∧ m.exec (hpc.volumeEntries caps page) = (Except.ok entries, m')

lemma EntriesOf.ids {page : List String} {entries : List VolumeEntry}
    (he : hpc.EntriesOf h page entries) :
    entries.map VolumeEntry.volumeId = page.map base := by
  obtain ⟨caps, m, m', _, hex⟩ := he
  obtain ⟨entries', m'', _, hids, hex'⟩ := hpc.volumeEntries_total m caps page
  rw [hex] at hex'
  cases hex'
  exact hids

lemma indexOfStartingToken_head (d : String) (ds : List String) :
    indexOfStartingToken (base d) (d :: ds) = some 0 := by
  simp [indexOfStartingToken, List.findIdx?_cons]

/-- A request for everything gets everything. -/
lemma volumesPage_all (ds : List String) : volumesPage ds ⟨0, ""⟩ = Except.ok (ds, "") := by
  cases ds with
  | nil => rfl
  | cons d ds => simp [volumesPage, indexOfStartingToken_head]

/-- A page is a part of the list. -/
lemma mem_of_volumesPage {ds page : List String} {req : ListVolumesRequest} {next d : String}
    (hp : volumesPage ds req = Except.ok (page, next)) (hd : d ∈ page) : d ∈ ds := by
  unfold volumesPage at hp
  split at hp
  · cases hp
  · cases ds with
    | nil =>
        dsimp only at hp
        split_ifs at hp
        cases hp
        exact hd
    | cons first rest =>
        dsimp only at hp
        split at hp
        · cases hp
        · cases hp
          exact List.mem_of_mem_take (List.mem_of_mem_drop hd)

lemma validateListVolumesRequest_ok {r : Option ListVolumesRequest} {req : ListVolumesRequest}
    (hv : validateListVolumesRequest r = Except.ok req) :
    r = some req ∧ ¬ req.maxEntries < 0 := by
  cases r with
  | none => cases hv
  | some q =>
      simp only [validateListVolumesRequest] at hv
      split_ifs at hv with hneg
      cases hv
      exact ⟨rfl, hneg⟩

/-- A listing reads the capacities, then the directories, and then looks at those of the page. -/
lemma listVolumes_steps {r : Option ListVolumesRequest} {res : ListVolumesResponse}
    (e : h.exec (hpc.listVolumes r) = (Except.ok res, h')) :
    Readable h.fs hpc.cfg.pools ∧ ∃ req page caps m₁ m₂, r = some req ∧ ¬ req.maxEntries < 0
      ∧ volumesPage (sortedDirs h.fs hpc.cfg.pools) req = Except.ok (page, res.nextToken)
      ∧ h.exec (capacityMap hpc.cfg.pools ∅) = (Except.ok caps, m₁) ∧ Quiet h m₂
      ∧ m₂.exec (hpc.volumeEntries caps page) = (Except.ok res.entries, h') := by
  obtain ⟨req, m, hv, hk⟩ := exec_bind_eq_ok.mp e
  obtain ⟨hval, rfl⟩ := Prod.mk.inj ((exec_liftExcept h _).symm.trans hv)
  obtain ⟨caps, m₁, hc, hk₁⟩ := exec_bind_eq_ok.mp hk
  have hq₁ := capacityMap_ok hc
  obtain ⟨ds, m₂, hd, hk₂⟩ := exec_bind_eq_ok.mp hk₁
  obtain ⟨hq₂, hr, rfl⟩ := getStoragePoolDataDirectories_ok hd
  obtain ⟨⟨page, next⟩, m₃, hp, hk₃⟩ := exec_bind_eq_ok.mp hk₂
  obtain ⟨hpage, rfl⟩ := Prod.mk.inj ((exec_liftExcept m₂ _).symm.trans hp)
  obtain ⟨entries, m₄, hes, hk₄⟩ := exec_bind_eq_ok.mp hk₃
  cases hk₄
  rw [hq₁.fs] at hr hpage
  obtain ⟨hreq, hmax⟩ := validateListVolumesRequest_ok hval
  exact ⟨hr, req, page, caps, m₁, m₂, hreq, hmax, hpage, hc, hq₁.trans hq₂, hes⟩

lemma listVolumes_ok {r : Option ListVolumesRequest} {res : ListVolumesResponse}
    (e : h.exec (hpc.listVolumes r) = (Except.ok res, h')) :
    Quiet h h' ∧ Readable h.fs hpc.cfg.pools ∧ ∃ req page, r = some req ∧ ¬ req.maxEntries < 0
      ∧ volumesPage (sortedDirs h.fs hpc.cfg.pools) req = Except.ok (page, res.nextToken)
      ∧ hpc.EntriesOf h page res.entries := by
  obtain ⟨hr, req, page, caps, _, m₂, hreq, hmax, hpage, _, hq, hes⟩ := listVolumes_steps e
  obtain ⟨entries', m', hq₃, _, hes'⟩ := hpc.volumeEntries_total m₂ caps page
  have hm' : h' = m' := (Prod.mk.inj (hes.symm.trans hes')).2
  exact ⟨hm' ▸ hq.trans hq₃, hr, req, page, hreq, hmax, hpage, caps, m₂, h', hq, hes⟩

lemma listVolumes_of_noFaults (hpc : HostPathController) {req : ListVolumesRequest}
    {page : List String} {next : String}
    (hf : h.NoFaults) (hr : Readable h.fs hpc.cfg.pools) (hmax : ¬ req.maxEntries < 0)
    (hpage : volumesPage (sortedDirs h.fs hpc.cfg.pools) req = Except.ok (page, next)) :
    ∃ entries m, hpc.EntriesOf h page entries
      ∧ h.exec (hpc.listVolumes (some req)) = (Except.ok ⟨entries, next⟩, m) := by
  have hval : h.exec (liftExcept (validateListVolumesRequest (some req))) = (Except.ok req, h) := by
    rw [exec_liftExcept, validateListVolumesRequest, if_neg hmax]
  obtain ⟨caps, m₁, hq₁, hc⟩ := capacityMap_of_noFaults ∅ hf hr
  rw [← hq₁.fs] at hr hpage
  obtain ⟨m₂, hq₂, hd⟩ := getStoragePoolDataDirectories_of_noFaults (hf.of_exec hc) hr
  obtain ⟨entries, m₃, hq₃, _, hes⟩ := hpc.volumeEntries_total m₂ caps page
  refine ⟨entries, m₃, ⟨caps, m₂, m₃, hq₁.trans hq₂, hes⟩, ?_⟩
  refine exec_bind_eq_ok.mpr ⟨req, h, hval, exec_bind_eq_ok.mpr ⟨caps, m₁, hc,
    exec_bind_eq_ok.mpr ⟨_, m₂, hd, exec_bind_eq_ok.mpr ⟨(page, next), m₂, ?_, ?_⟩⟩⟩⟩
  · exact (exec_liftExcept m₂ _).trans (by rw [hpage])
  · exact exec_bind_eq_ok.mpr ⟨entries, m₃, hes, rfl⟩

/-- A look at one volume reads the capacities, then the directories, and then looks at the last one
of that name. -/
lemma controllerGetVolume_steps {id : String} {entry : VolumeEntry}
    (e : h.exec (hpc.controllerGetVolume (some ⟨id⟩)) = (Except.ok entry, h')) :
    Readable h.fs hpc.cfg.pools ∧ volumePathOf (sortedDirs h.fs hpc.cfg.pools) id ≠ ""
      ∧ ∃ caps m₁ m₂, h.exec (capacityMap hpc.cfg.pools ∅) = (Except.ok caps, m₁) ∧ Quiet h m₂
        ∧ m₂.exec (hpc.volumeEntry caps id (volumePathOf (sortedDirs h.fs hpc.cfg.pools) id))
          = (Except.ok entry, h') := by
  unfold controllerGetVolume at e
  dsimp only at e
  split_ifs at e
  · cases e
  obtain ⟨caps, m₁, hc, hk⟩ := exec_bind_eq_ok.mp e
  have hq₁ := capacityMap_ok hc
  obtain ⟨ds, m₂, hd, hk⟩ := exec_bind_eq_ok.mp hk
  obtain ⟨hq₂, hr, rfl⟩ := getStoragePoolDataDirectories_ok hd
  rw [hq₁.fs] at hr hk
  split_ifs at hk with hp
  · cases hk
  · exact ⟨hr, hp, caps, m₁, m₂, hc, hq₁.trans hq₂, hk⟩

/-- Without failures, a volume is found exactly if some pool has a directory of that name. -/
lemma controllerGetVolume_of_noFaults (hpc : HostPathController) {id : String} (hid : id ≠ "")
    (hf : h.NoFaults) (hr : Readable h.fs hpc.cfg.pools) :
    ∃ m, if volumePathOf (sortedDirs h.fs hpc.cfg.pools) id = "" then
        h.exec (hpc.controllerGetVolume (some ⟨id⟩))
          = (Except.error (Err.status Code.notFound ("volume " ++ id ++ " not found")), m)
      else ∃ entry, entry.volumeId = id
        ∧ h.exec (hpc.controllerGetVolume (some ⟨id⟩)) = (Except.ok entry, m) := by
  obtain ⟨caps, m₁, hq₁, hc⟩ := capacityMap_of_noFaults ∅ hf hr
  rw [← hq₁.fs] at hr
  obtain ⟨m₂, hq₂, hd⟩ := getStoragePoolDataDirectories_of_noFaults (hf.of_exec hc) hr
  obtain ⟨entry, m₃, _, hentry, he⟩ := hpc.volumeEntry_total m₂ caps id
    (volumePathOf (sortedDirs m₁.fs hpc.cfg.pools) id)
  -- the capacities and the listing come first in both cases
  have hrun : h.exec (hpc.controllerGetVolume (some ⟨id⟩))
      = m₂.exec (if volumePathOf (sortedDirs m₁.fs hpc.cfg.pools) id = "" then
          throw (Err.status Code.notFound ("volume " ++ id ++ " not found"))
        else hpc.volumeEntry caps id (volumePathOf (sortedDirs m₁.fs hpc.cfg.pools) id)) := by
    unfold controllerGetVolume
    dsimp only
    rw [if_neg hid]
    exact (exec_bind_of_ok step hc).trans (exec_bind_of_ok step hd)
  rw [hq₁.fs] at hrun he
  split_ifs with hp
  · rw [if_pos hp] at hrun
    exact ⟨m₂, hrun⟩
  · rw [if_neg hp] at hrun
    exact ⟨m₃, entry, hentry, hrun.trans he⟩

end HostPathController

end Hostpath
