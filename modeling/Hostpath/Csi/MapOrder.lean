import Hostpath.Csi.Paging
import Hostpath.Lib.Settled

/-!
# The order of the pools

Every loop over the pools runs over a map, in an order that changes from one loop to the next.  As
long as nobody changes the file systems, the handlers that look for volumes are not affected: the
directories are sorted before they are used, the table of the capacities is read by its keys only,
and which of several directories of one name is taken depends on the sorted list.

Nothing is said about the file systems, except that they stand still: every call that looks is
answered by a table, and the table may as well say that looking at some path fails.
`settled_of_noFaults` is the case of a host on which no call fails.  With a table that fails for
some pools, the order decides which error is reported, so responses are compared up to errors.
-/

namespace Hostpath

open Lib FilePath Prog

/-! ## Calls that look -/

namespace Syscall

/-- The call looks at the file systems and changes nothing. -/
def Looks : Syscall → Prop
  | statfs _ => True
  | stat _ => True
  | readDir _ => True
  | isNotMountPoint _ => True
  | findmnt _ => True
  | _ => False

/-- The path that a call removes. -/
def removes : Syscall → Option String
  | removeAll path => some path
  | _ => none

lemma Looks.removes {c : Syscall} (hc : c.Looks) : c.removes = none := by
  cases c with
  | removeAll path => exact hc.elim
  | _ => rfl

end Syscall

open Syscall (Looks)

/-- The paths that an execution removes. -/
def removals {σ α : Type} (step : σ → (c : Syscall) → Reply c × σ) (x : Sys α) (s : σ) :
    List String :=
  (calls step x.run s).filterMap Syscall.removes

/-- A host without failures, on which the file systems always report the same space, is settled. -/
lemma settled_of_noFaults {h : Host} (hf : h.NoFaults)
    (hspace : ∀ n, (h.outcomes n).space = (h.outcomes 0).space) :
    Settled Host.step Looks (fun c => (h.step c).1) h := by
  refine settled_of_invariant (I := fun m => m.fs = h.fs ∧ m.mounts = h.mounts ∧ m.ctime = h.ctime
    ∧ ∀ n, (m.outcomes n).fault = none ∧ (m.outcomes n).space = (h.outcomes 0).space) ?_
    ⟨rfl, rfl, rfl, fun n => ⟨hf n, hspace n⟩⟩
  rintro ⟨fs, mounts, ctime, now, outcomes⟩ c ⟨rfl, rfl, rfl, hout⟩ hc
  dsimp only at hout
  have hask : ∀ {α : Type} (e : Errno → OsError) (r : Except Errno α),
      (outcomes 0).ask e r = (h.outcomes 0).ask e r := fun e r => by
    simp only [Outcome.ask, (hout 0).1, hf 0]
  have hnext : ∀ n, (outcomes (n + 1)).fault = none
      ∧ (outcomes (n + 1)).space = (h.outcomes 0).space := fun n => hout (n + 1)
  cases c with
  | statfs path =>
      refine ⟨(hask _ _).trans (congrArg ((h.outcomes 0).ask OsError.errno) ?_), rfl, rfl, rfl, hnext⟩
      exact congrArg (fun space => (h.lookup path).map fun x => space x.1) (hout 0).2
  | stat path => exact ⟨hask _ _, rfl, rfl, rfl, hnext⟩
  | readDir path => exact ⟨hask _ _, rfl, rfl, rfl, hnext⟩
  | isNotMountPoint path => exact ⟨hask _ _, rfl, rfl, rfl, hnext⟩
  | findmnt path =>
      refine ⟨?_, rfl, rfl, rfl, hnext⟩
      simp only [Host.step, Host.answer, Host.findmnt, Host.tick, (hout 0).1, hf 0]
  | _ => exact hc.elim

/-! ## Helpers that only look -/

section Looking

lemma only_liftExcept {α : Type} (r : Except Err α) : Only Looks (liftExcept r) := by
  cases r with
  | ok a => exact Only.ret a
  | error e => exact Only.fail e

lemma only_orReturn {α : Type} (r : Except OsError α) : Only Looks (orReturn r) := by
  cases r with
  | ok a => exact Only.ret a
  | error e => exact Only.fail _

lemma only_poolDirectories (infos : List StoragePoolInfo) : Only Looks (poolDirectories infos) := by
  induction infos with
  | nil => exact Only.ret _
  | cons info infos ih =>
      refine Only.bind (Only.perform trivial) fun r => ?_
      refine Only.bind (only_orReturn r) fun files => ?_
      exact Only.bind ih fun _ => Only.ret _

lemma only_getStoragePoolDataDirectories (infos : List StoragePoolInfo) :
    Only Looks (getStoragePoolDataDirectories infos) :=
  Only.bind (only_poolDirectories infos) fun _ => Only.ret _

lemma only_getPVStats (path : String) : Only Looks (getPVStats path) :=
  Only.bind (Only.perform trivial) fun _ => Only.ret _

lemma only_getVolumeDirCapacity (path : String) : Only Looks (getVolumeDirCapacity path) := by
  refine Only.bind (only_getPVStats path) fun r => ?_
  cases r with
  | ok stats => exact Only.ret _
  | error e => exact Only.fail _

lemma only_capacityMap (infos : List StoragePoolInfo) (m : GoMap Int64) :
    Only Looks (capacityMap infos m) := by
  induction infos generalizing m with
  | nil => exact Only.ret m
  | cons info infos ih => exact Only.bind (only_getVolumeDirCapacity _) fun c => ih _

lemma only_checkPathExist (path : String) : Only Looks (checkPathExist path) := by
  refine Only.bind (Only.perform trivial) fun r => ?_
  cases r with
  | ok info => exact Only.ret _
  | error e => exact Only.ite (Only.ret _) (Only.fail _)

lemma only_getSnapshotById (r : Reflink) (id : String) :
    Only Looks (r.getSnapshotById id) := by
  refine Only.bind (Only.perform trivial) fun rep => ?_
  cases rep with
  | error e => exact Only.ite (Only.ret _) (Only.fail _)
  | ok info =>
      refine Only.ite (Only.fail _) (Only.bind (Only.bind (Only.perform trivial) fun rep => ?_)
        fun _ => Only.ret _)
      refine Only.bind (only_orReturn rep) fun es => ?_
      split
      · exact Only.ret _
      · exact Only.fail _

lemma only_createSnapshotFromDir (id v path : String) :
    Only Looks (Reflink.createSnapshotFromDir id v path) := by
  refine Only.bind (Only.bind (Only.perform trivial) fun rep => ?_) fun _ => Only.ret _
  cases rep with
  | ok info => exact Only.ret _
  | error e => exact Only.fail _

lemma only_checkIfSpaceAvailable (path : String) : Only Looks (checkIfSpaceAvailable path) := by
  refine Only.bind (only_getPVStats path) fun r => ?_
  cases r with
  | ok stats => exact Only.ite (Only.ret _) (Only.ite (Only.ret _) (Only.ret _))
  | error e => exact Only.ret _

lemma only_doHealthCheckInControllerSide (path : String) :
    Only Looks (doHealthCheckInControllerSide path) := by
  refine Only.bind (Only.attempt (only_checkPathExist path)) fun r => ?_
  rcases r with e | b
  · exact Only.ret _
  · cases b with
    | false => exact Only.ret _
    | true => exact only_checkIfSpaceAvailable path

lemma only_volumeEntry (hpc : HostPathController) (caps : GoMap Int64) (id path : String) :
    Only Looks (hpc.volumeEntry caps id path) :=
  Only.bind (only_doHealthCheckInControllerSide path) fun _ => Only.ret _

lemma only_volumeEntries (hpc : HostPathController) (caps : GoMap Int64) (page : List String) :
    Only Looks (hpc.volumeEntries caps page) := by
  induction page with
  | nil => exact Only.ret _
  | cons d page ih =>
      exact Only.bind (only_volumeEntry hpc caps _ d) fun _ => Only.bind ih fun _ => Only.ret _

end Looking

/-! ## What the loops compute -/

section Loops

variable (ρ : (c : Syscall) → Reply c)

/-- The directories in a pool. -/
def dirsIn (info : StoragePoolInfo) : Option (List String) :=
  (ρ (Syscall.readDir info.path)).toOption.map fun files =>
    (files.filter fun f => f.isDir).map fun f => join [info.path, f.name]

/-- The capacity reported for a path. -/
def capacityOf (path : String) : Option Int64 := (answer ρ (getVolumeDirCapacity path)).toOption

lemma toOption_bind {ε α β : Type} (x : Except ε α) (f : α → Except ε β) :
    (x.bind f).toOption = x.toOption.bind fun a => (f a).toOption := by
  cases x <;> rfl

lemma answer_poolDirectories (infos : List StoragePoolInfo) :
    (answer ρ (poolDirectories infos)).toOption
      = if ∀ info ∈ infos, (dirsIn ρ info).isSome then
          some (infos.flatMap fun info => (dirsIn ρ info).getD [])
        else none := by
  induction infos with
  | nil => simp [poolDirectories, Except.toOption]
  | cons info infos ih =>
      cases hr : ρ (Syscall.readDir info.path) with
      | error e =>
          have hnone : dirsIn ρ info = none := by simp [dirsIn, hr, Except.toOption]
          rw [if_neg (by simp [hnone])]
          simp [poolDirectories, hr, orReturn, Except.bind, Except.toOption]
      | ok files =>
          have hsome : dirsIn ρ info = some ((files.filter fun f => f.isDir).map fun f =>
              join [info.path, f.name]) := by simp [dirsIn, hr, Except.toOption]
          have hrest : (answer ρ (poolDirectories (info :: infos))).toOption
              = (answer ρ (poolDirectories infos)).toOption.map fun rest =>
                ((files.filter fun f => f.isDir).map fun f => join [info.path, f.name]) ++ rest := by
            simp only [poolDirectories, answer_bind, answer_perform, Except.bind, hr, orReturn,
              answer_pure]
            cases answer ρ (poolDirectories infos) <;> rfl
          rw [hrest, ih]
          simp only [List.forall_mem_cons, hsome, Option.isSome_some, true_and, List.flatMap_cons,
            Option.getD_some]
          split_ifs <;> rfl

/-- The sorted directories are the same in every order. -/
lemma answer_directories_perm {infos infos' : List StoragePoolInfo} (hp : infos'.Perm infos) :
    (answer ρ (getStoragePoolDataDirectories infos')).toOption
      = (answer ρ (getStoragePoolDataDirectories infos)).toOption := by
  simp only [getStoragePoolDataDirectories, answer_bind, answer_pure, toOption_bind,
    answer_poolDirectories, hp.mem_iff]
  split_ifs
  · refine congrArg some (List.Perm.eq_of_pairwise' (List.pairwise_insertionSort _ _)
      (List.pairwise_insertionSort _ _) ?_)
    exact (List.perm_insertionSort _ _).trans
      ((hp.flatMap_right _).trans (List.perm_insertionSort _ _).symm)
  · rfl

/-- The table of the capacities has the paths of the pools, each with its capacity, unless one of
them cannot be read. -/
lemma answer_capacityMap (infos : List StoragePoolInfo) (m : GoMap Int64) :
    (∃ info ∈ infos, capacityOf ρ info.path = none)
        ∧ (answer ρ (capacityMap infos m)).toOption = none
      ∨ (∀ info ∈ infos, capacityOf ρ info.path ≠ none)
        ∧ ∃ m', answer ρ (capacityMap infos m) = Except.ok m' ∧ ∀ a, m'.lookup a
          = if a ∈ infos.map (·.path) then capacityOf ρ a else m.lookup a := by
  induction infos generalizing m with
  | nil => exact Or.inr ⟨nofun, m, rfl, fun a => by simp⟩
  | cons info infos ih =>
      cases hc : answer ρ (getVolumeDirCapacity info.path) with
      | error e =>
          refine Or.inl ⟨⟨info, List.mem_cons_self, by simp [capacityOf, hc, Except.toOption]⟩, ?_⟩
          simp [capacityMap, hc, Except.bind, Except.toOption]
      | ok c =>
          have hcap : capacityOf ρ info.path = some c := by simp [capacityOf, hc, Except.toOption]
          have hrest : answer ρ (capacityMap (info :: infos) m)
              = answer ρ (capacityMap infos (m.insert info.path c)) := by
            simp [capacityMap, hc, Except.bind]
          rw [hrest]
          rcases ih (m.insert info.path c) with ⟨⟨i, hi, hnone⟩, herr⟩ | ⟨hall, m', hm', hlook⟩
          · exact Or.inl ⟨⟨i, List.mem_cons_of_mem _ hi, hnone⟩, herr⟩
          · refine Or.inr ⟨List.forall_mem_cons.mpr ⟨by simp [hcap], hall⟩, m', hm', fun a => ?_⟩
            rw [hlook, List.map_cons]
            exact lookup_insert_filled hcap _ a

/-- What is computed from a table of capacities by its keys is the same in every order. -/
lemma answer_capacityMap_perm {α : Type} {infos infos' : List StoragePoolInfo}
    (hp : infos'.Perm infos) {f f' : GoMap Int64 → Sys α}
    (hf : ∀ m m' : GoMap Int64, (∀ a, m'.lookup a = m.lookup a) →
      (answer ρ (f' m')).toOption = (answer ρ (f m)).toOption) :
    (answer ρ (capacityMap infos' ∅ >>= f')).toOption
      = (answer ρ (capacityMap infos ∅ >>= f)).toOption := by
  rw [answer_bind, answer_bind, toOption_bind, toOption_bind]
  rcases answer_capacityMap ρ infos ∅ with ⟨⟨i, hi, hnone⟩, herr⟩ | ⟨hall, m, hm, hlook⟩
  · rcases answer_capacityMap ρ infos' ∅ with ⟨_, herr'⟩ | ⟨hall', _⟩
    · rw [herr, herr']
      rfl
    · exact absurd hnone (hall' i (hp.mem_iff.mpr hi))
  · rcases answer_capacityMap ρ infos' ∅ with ⟨⟨i, hi, hnone⟩, _⟩ | ⟨_, m', hm', hlook'⟩
    · exact absurd hnone (hall i (hp.mem_iff.mp hi))
    · rw [hm, hm']
      refine hf m m' fun a => ?_
      rw [hlook, hlook']
      exact if_congr (hp.map _).mem_iff rfl rfl

end Loops

/-! ## The handlers -/

namespace HostPathController

/-- `ListVolumes`, with the loop over the capacities in an order of its own. -/
def listVolumesSeeing (hpc : HostPathController) (seen : Config) (r : Option ListVolumesRequest) :
    Sys ListVolumesResponse := do
  let req ← liftExcept (validateListVolumesRequest r)
  let capacities ← capacityMap seen.pools ∅
  let volumeDirs ← hpc.getVolumeDirectories
  let (page, nextToken) ← liftExcept (volumesPage volumeDirs req)
  return ⟨← hpc.volumeEntries capacities page, nextToken⟩

/-- `ControllerGetVolume`, with the loop over the capacities in an order of its own. -/
def controllerGetVolumeSeeing (hpc : HostPathController) (seen : Config)
    (r : Option ControllerGetVolumeRequest) : Sys VolumeEntry :=
  match r with
  | none => throw (Err.status Code.invalidArgument "missing request")
  | some req => do
      if req.volumeId = "" then
        throw (Err.status Code.invalidArgument "volume ID not provided")
      else
        let capacities ← capacityMap seen.pools ∅
        let volumePath := volumePathOf (← hpc.getVolumeDirectories) req.volumeId
        if volumePath = "" then
          throw (Err.status Code.notFound ("volume " ++ req.volumeId ++ " not found"))
        else hpc.volumeEntry capacities req.volumeId volumePath

lemma listVolumesSeeing_self (hpc : HostPathController) :
    hpc.listVolumesSeeing hpc.cfg = hpc.listVolumes := rfl

lemma controllerGetVolumeSeeing_self (hpc : HostPathController)
    (r : Option ControllerGetVolumeRequest) :
    hpc.controllerGetVolumeSeeing hpc.cfg r = hpc.controllerGetVolume r := by
  cases r <;> rfl

lemma only_listVolumesSeeing (hpc : HostPathController) (seen : Config)
    (r : Option ListVolumesRequest) : Only Looks (hpc.listVolumesSeeing seen r) := by
  refine Only.bind (only_liftExcept _) fun req => Only.bind (only_capacityMap _ _) fun caps => ?_
  refine Only.bind (only_getStoragePoolDataDirectories _) fun dirs => ?_
  refine Only.bind (only_liftExcept _) fun page => ?_
  exact Only.bind (only_volumeEntries hpc caps _) fun _ => Only.ret _

lemma only_listVolumes (hpc : HostPathController) (r : Option ListVolumesRequest) :
    Only Looks (hpc.listVolumes r) := by
  rw [← listVolumesSeeing_self]
  exact only_listVolumesSeeing hpc _ r

lemma only_controllerGetVolumeSeeing (hpc : HostPathController) (seen : Config)
    (r : Option ControllerGetVolumeRequest) :
    Only Looks (hpc.controllerGetVolumeSeeing seen r) := by
  cases r with
  | none => exact Only.fail _
  | some req =>
      refine Only.ite (Only.fail _) (Only.bind (only_capacityMap _ _) fun caps => ?_)
      refine Only.bind (only_getStoragePoolDataDirectories _) fun dirs => ?_
      exact Only.ite (Only.fail _) (only_volumeEntry hpc caps _ _)

lemma only_controllerGetVolume (hpc : HostPathController) (r : Option ControllerGetVolumeRequest) :
    Only Looks (hpc.controllerGetVolume r) := by
  rw [← controllerGetVolumeSeeing_self]
  exact only_controllerGetVolumeSeeing hpc _ r

section Orders

variable {hpc hpc' : HostPathController} {caps caps' : GoMap Int64}

/-- An entry depends on the node and on what the table of capacities says of the directory. -/
lemma volumeEntry_congr (hnode : hpc'.cfg.nodeID = hpc.cfg.nodeID)
    (hcaps : ∀ a, caps'.lookup a = caps.lookup a) (id path : String) :
    hpc'.volumeEntry caps' id path = hpc.volumeEntry caps id path := by
  simp only [volumeEntry, hnode, hcaps]

lemma volumeEntries_congr (hnode : hpc'.cfg.nodeID = hpc.cfg.nodeID)
    (hcaps : ∀ a, caps'.lookup a = caps.lookup a) (page : List String) :
    hpc'.volumeEntries caps' page = hpc.volumeEntries caps page := by
  induction page with
  | nil => rfl
  | cons d page ih => simp only [volumeEntries, volumeEntry_congr hnode hcaps, ih]

variable {seen : Config} (hre : hpc.cfg.Reorders hpc'.cfg) (hseen : hpc.cfg.Reorders seen)
  (ρ : (c : Syscall) → Reply c)

include hre in
/-- What is computed from the directories is the same in every order. -/
lemma answer_directories_bind {α : Type} {f f' : List String → Sys α} (hf : ∀ ds, f' ds = f ds) :
    (answer ρ (hpc'.getVolumeDirectories >>= f')).toOption
      = (answer ρ (hpc.getVolumeDirectories >>= f)).toOption := by
  have hdirs := answer_directories_perm ρ (pools_perm hre)
  rw [answer_bind, answer_bind, toOption_bind, toOption_bind]
  unfold getVolumeDirectories
  rw [hdirs, funext hf]

include hre hseen in
lemma answer_listVolumesSeeing (r : Option ListVolumesRequest) :
    (answer ρ (hpc'.listVolumesSeeing seen r)).toOption = (answer ρ (hpc.listVolumes r)).toOption := by
  have hnode : hpc'.cfg.nodeID = hpc.cfg.nodeID := by rw [hre.rest]
  unfold listVolumesSeeing listVolumes
  rw [answer_bind, answer_bind, toOption_bind, toOption_bind]
  refine congrArg _ (funext fun req => answer_capacityMap_perm ρ (pools_perm hseen) ?_)
  intro m m' hm
  refine answer_directories_bind hre ρ fun ds => ?_
  simp only [volumeEntries_congr hnode hm]

include hre hseen in
lemma answer_controllerGetVolumeSeeing (r : Option ControllerGetVolumeRequest) :
    (answer ρ (hpc'.controllerGetVolumeSeeing seen r)).toOption
      = (answer ρ (hpc.controllerGetVolume r)).toOption := by
  have hnode : hpc'.cfg.nodeID = hpc.cfg.nodeID := by rw [hre.rest]
  cases r with
  | none => rfl
  | some req =>
      unfold controllerGetVolumeSeeing controllerGetVolume
      dsimp only
      split_ifs
      · rfl
      · refine answer_capacityMap_perm ρ (pools_perm hseen) fun m m' hm => ?_
        refine answer_directories_bind hre ρ fun ds => ?_
        simp only [volumeEntry_congr hnode hm]

end Orders

end HostPathController

/-! ## Removing by name -/

section Removing

variable {σ : Type} {step : σ → (c : Syscall) → Reply c × σ} {ρ : (c : Syscall) → Reply c} {s : σ}

lemma removals_of_only {α : Type} {x : Sys α} (hx : Only Looks x) (s : σ) :
    removals step x s = [] := by
  unfold removals
  rw [List.filterMap_eq_nil_iff]
  exact fun c hc => (mem_calls_of_uses hx hc).removes

lemma calls_deleteVolume (d n : String) (s : σ) :
    calls step (deleteVolume d n).run s = [Syscall.removeAll (join [d, n])] := by
  have hcalls : calls step (deleteVolume d n).run s
      = [Syscall.removeAll (join [d, n])] ++ _ := calls_of_ok (exec_perform step _ s)
  refine hcalls.trans (congrArg (Syscall.removeAll (join [d, n]) :: ·) ?_)
  cases (step s (Syscall.removeAll (join [d, n]))).1 with
  | ok u => rfl
  | error e =>
      dsimp only
      split_ifs <;> rfl

/-- The directory that is removed by name depends on the sorted directories. -/
lemma removals_removeVolumeNamed (infos : List StoragePoolInfo) (id : String)
    (failed : String → String) (hs : Settled step Looks ρ s) :
    removals step (removeVolumeNamed infos id failed) s
      = (answer ρ (getStoragePoolDataDirectories infos)).toOption.elim [] fun ds =>
          if volumePathOf ds id = "" then [] else [join [dir (volumePathOf ds id), id]] := by
  have honly := only_getStoragePoolDataDirectories infos
  obtain ⟨m, hm, _⟩ := exec_of_settled honly hs
  have hlook : removals step (getStoragePoolDataDirectories infos) s = [] := removals_of_only honly s
  cases hr : answer ρ (getStoragePoolDataDirectories infos) with
  | error e =>
      rw [hr] at hm
      have hcalls : calls step (removeVolumeNamed infos id failed).run s
          = calls step (getStoragePoolDataDirectories infos).run s := calls_of_error hm
      unfold removals at hlook ⊢
      rw [hcalls, hlook]
      rfl
  | ok ds =>
      rw [hr] at hm
      have hcalls : calls step (removeVolumeNamed infos id failed).run s
          = calls step (getStoragePoolDataDirectories infos).run s ++ _ := calls_of_ok hm
      unfold removals at hlook ⊢
      rw [hcalls, List.filterMap_append, hlook, List.nil_append]
      show _ = if volumePathOf ds id = "" then [] else _
      dsimp only
      split_ifs
      · rfl
      · rw [calls_of_ok (exec_attempt step _ m), calls_attempt, calls_deleteVolume]
        cases (exec step (deleteVolume (dir (volumePathOf ds id)) id) m).1 <;> rfl

/-- The directory that is removed by name is the same in every order. -/
lemma removals_perm {infos infos' : List StoragePoolInfo} (hp : infos'.Perm infos) (id : String)
    (failed : String → String) (hs : Settled step Looks ρ s) :
    removals step (removeVolumeNamed infos' id failed) s
      = removals step (removeVolumeNamed infos id failed) s := by
  rw [removals_removeVolumeNamed infos' id failed hs, removals_removeVolumeNamed infos id failed hs,
    answer_directories_perm ρ hp]

lemma removals_deleteVolume {hpc hpc' : HostPathController} (hre : hpc.cfg.Reorders hpc'.cfg)
    (hs : Settled step Looks ρ s) (r : Option DeleteVolumeRequest) :
    removals step (hpc'.deleteVolume r) s = removals step (hpc.deleteVolume r) s := by
  cases hv : validateDeleteVolumeRequest r with
  | error e =>
      have hnone : ∀ c : HostPathController, c.deleteVolume r = throw e := fun c => by
        unfold HostPathController.deleteVolume
        rw [hv]
        rfl
      rw [hnone, hnone]
  | ok req =>
      have hsome : ∀ c : HostPathController, c.deleteVolume r
          = removeVolumeNamed c.cfg.pools req.volumeId fun e =>
            "failed to delete volume " ++ req.volumeId ++ ": " ++ e := fun c => by
        unfold HostPathController.deleteVolume
        rw [hv]
        rfl
      rw [hsome, hsome]
      exact removals_perm (HostPathController.pools_perm hre) _ _ hs

end Removing

/-- **The order of the pools does not matter**: in another order of the maps, and with the capacities
read in a third, the directories are the same list, a listing and a look at one volume return the
same, and the same directory is removed. -/
theorem map_order_irrelevant {σ : Type} {step : σ → (c : Syscall) → Reply c × σ}
    {ρ : (c : Syscall) → Reply c} {s : σ} {hp hp' : HostPath} {seen : Config}
    (hs : Settled step Looks ρ s) (hre : hp.Reorders hp') (hseen : hp.controller.cfg.Reorders seen) :
    ((exec step (getStoragePoolDataDirectories hp'.controller.cfg.pools) s).1.toOption
        = (exec step (getStoragePoolDataDirectories hp.controller.cfg.pools) s).1.toOption)
      ∧ (∀ r, (exec step (hp'.controller.listVolumesSeeing seen r) s).1.toOption
        = (exec step (hp.controller.listVolumes r) s).1.toOption)
      ∧ (∀ r, (exec step (hp'.controller.controllerGetVolumeSeeing seen r) s).1.toOption
        = (exec step (hp.controller.controllerGetVolume r) s).1.toOption)
      ∧ (∀ r, removals step (hp'.controller.deleteVolume r) s
        = removals step (hp.controller.deleteVolume r) s)
      ∧ ∀ id, removals step (hp'.node.removeEphemeralPath id) s
        = removals step (hp.node.removeEphemeralPath id) s := by
  have hexec : ∀ {α : Type} {x : Sys α}, Only Looks x → (exec step x s).1 = answer ρ x := by
    intro α x hx
    obtain ⟨m, hm, _⟩ := exec_of_settled hx hs
    rw [hm]
  refine ⟨?_, fun r => ?_, fun r => ?_, removals_deleteVolume hre.controller hs, fun id => ?_⟩
  · rw [hexec (only_getStoragePoolDataDirectories _), hexec (only_getStoragePoolDataDirectories _)]
    exact answer_directories_perm ρ (HostPathController.pools_perm hre.controller)
  · rw [hexec (HostPathController.only_listVolumesSeeing _ _ r),
      hexec (HostPathController.only_listVolumes _ r)]
    exact HostPathController.answer_listVolumesSeeing hre.controller hseen ρ r
  · rw [hexec (HostPathController.only_controllerGetVolumeSeeing _ _ r),
      hexec (HostPathController.only_controllerGetVolume _ r)]
    exact HostPathController.answer_controllerGetVolumeSeeing hre.controller hseen ρ r
  · exact removals_perm (HostPathController.pools_perm hre.node) id _ hs

namespace TwoPools

/-- The driver with the pools in the other order. -/
def swapped : HostPath :=
  let cfg' := { cfg with
    storagePoolInfo := (AList.singleton "second" second).insert "local" Sample.pool }
  ⟨⟨cfg'⟩, ⟨cfg', controller.snapshotproviders⟩⟩

lemma reorders_swapped : driver.Reorders swapped :=
  ⟨⟨List.Perm.swap _ _ _, rfl⟩, ⟨List.Perm.swap _ _ _, rfl⟩, List.Perm.refl _⟩

/-- A volume of the same name in each pool. -/
def twins : Host :=
  { Sample.emptyHost with
    fs := (FileTree.empty.create ["pool", "vol"] fun _ => true).create ["pool2", "vol"]
      fun _ => true }

end TwoPools

/-- Of two volumes of one name, the same one is deleted in both orders of the pools. -/
theorem twins_order_irrelevant :
    TwoPools.driver.Reorders TwoPools.swapped
      ∧ removals Host.step (TwoPools.swapped.controller.deleteVolume (some ⟨"vol"⟩)) TwoPools.twins
        = removals Host.step (TwoPools.driver.controller.deleteVolume (some ⟨"vol"⟩)) TwoPools.twins :=
  ⟨TwoPools.reorders_swapped, (map_order_irrelevant (settled_of_noFaults (fun _ => rfl) fun _ => rfl)
    TwoPools.reorders_swapped TwoPools.reorders_swapped.controller).2.2.2.1 _⟩

end Hostpath
