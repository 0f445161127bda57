import Hostpath.Lib.Linearizable
import Hostpath.Csi.LiveMap

/-!
# When requests take effect

The handlers that create, delete and look up volumes take no lock, and each makes several calls.
Other requests make theirs in between, and any call can fail.  Still every request acts on the map
of the volumes as if at once:

* `createVolume` takes effect when it finds the directory or makes it, and not at all if it fails;
* `deleteVolume` takes effect when it removes the directory, or when it lists the pool of the volume
  and the volume is not in it;
* a lookup is answered from the moment at which the pool of the volume is read.

Requests about snapshots have no effect on the map: they stay in the snapshot directories.
-/

namespace Hostpath

open Lib FilePath Prog Host

/-! ## What the requests do to the map -/

/-- What a request observes when it takes effect. -/
inductive VolumeAnswer where
  | done
  | found
  | missing
  deriving DecidableEq

/-- What a lookup finds. -/
def lookedUp (live : GoMap String) (n : String) : VolumeAnswer :=
  if live.lookup n = none then VolumeAnswer.missing else VolumeAnswer.found

namespace Request

/-- What a request does to the map when it takes effect, and what it observes.  The others leave
the map alone. -/
def onMap (live : GoMap String) : Request → Option (VolumeAnswer × GoMap String)
  | createVolume (some req) =>
      some (VolumeAnswer.done, live.insert req.name (getStoragePoolNameFromMap req.parameters))
  | deleteVolume (some req) => some (VolumeAnswer.done, live.erase req.volumeId)
  | controllerGetVolume (some req) => some (lookedUp live req.volumeId, live)
  | validateVolumeCapabilities (some req) => some (lookedUp live req.volumeId, live)
  | _ => none

end Request

/-- A creation that succeeds has taken effect, and one that fails has not. -/
def CreationReports {α : Type} (st : Option VolumeAnswer) : Except Err α → Prop
  | Except.ok _ => st = some VolumeAnswer.done
  | Except.error _ => st = none

/-- A deletion that succeeds has taken effect; one that fails may have or not. -/
def DeletionReports {α : Type} (st : Option VolumeAnswer) : Except Err α → Prop
  | Except.ok _ => st = some VolumeAnswer.done
  | Except.error _ => True

/-- A lookup succeeds if it has found the volume, and says that there is none only if it has found
none. -/
def LookupReports {α : Type} (st : Option VolumeAnswer) : Except Err α → Prop
  | Except.ok _ => st = some VolumeAnswer.found
  | Except.error e => ∀ msg, e = Err.status Code.notFound msg → st = some VolumeAnswer.missing

/-- How the response of a request agrees with what the request observed. -/
def Request.Reports : Request → Option VolumeAnswer → Except Err Response → Prop
  | createVolume _ => CreationReports
  | deleteVolume _ => DeletionReports
  | controllerGetVolume _ => LookupReports
  | validateVolumeCapabilities _ => LookupReports
  | _ => fun _ _ => True

/-- The program takes effect on the map at most once, as the request `q` says. -/
abbrev TakesEffect (cfg : Config) (pool : String → String) (q : Request) {α : Type}
    (Q : Option VolumeAnswer → α → Prop) (st : Option VolumeAnswer) (x : Prog Syscall Reply α) :
    Prop :=
  Commits step (cfg.Shows pool) (fun live o live' => q.onMap live = some (o, live')) Q st x

section Looking

variable {cfg : Config} {pool : String → String} {q : Request} {st : Option VolumeAnswer}
  {α β : Type}

lemma takesEffect_of_only {x : Sys α} (hx : Only Syscall.Looks x) :
    TakesEffect cfg pool q (fun st' _ => st' = st) st x.run :=
  (Commits.of_uses (fun _ _ _ hs hc => ⟨trivial, hs.of_looks hc⟩) hx).mono fun _ _ hst => hst.1

lemma takesEffect_liftExcept (r : Except Err α) :
    TakesEffect cfg pool q (fun st' r' => st' = st ∧ r' = r) st (liftExcept r).run := by
  cases r with
  | ok a => exact ⟨rfl, rfl⟩
  | error e => exact ⟨rfl, rfl⟩

/-- A response is made from what the handler returned. -/
lemma takesEffect_respond {Q : Option VolumeAnswer → Except Err β → Prop} {x : Sys α} {f : α → β}
    (hx : TakesEffect cfg pool q (fun st' r => Q st' (r.map f)) st x.run) :
    TakesEffect cfg pool q Q st (x >>= fun a => pure (f a)).run :=
  Commits.bind hx (fun _ _ ha => ha) fun _ _ he => he

lemma once_checkPathExist (p : String) : (checkPathExist p).run.Once := by
  refine ⟨_, _, rfl, fun r => ?_⟩
  cases r with
  | ok info => exact ⟨_, rfl⟩
  | error e =>
      by_cases he : e.isNotExist = true
      · exact ⟨Except.ok false, if_pos he⟩
      · exact ⟨Except.error (Err.plain e.text), if_neg he⟩

lemma once_createVolumeDirectory (d n : String) : (createVolumeDirectory d n).run.Once := by
  refine ⟨_, _, rfl, fun r => ?_⟩
  cases r <;> exact ⟨_, rfl⟩

lemma once_deleteVolume (d n : String) : (deleteVolume d n).run.Once := by
  refine ⟨_, _, rfl, fun r => ?_⟩
  cases r with
  | ok u => exact ⟨_, rfl⟩
  | error e =>
      by_cases he : e.isNotExist = true
      · exact ⟨Except.ok (), if_pos he⟩
      · exact ⟨Except.error (Err.plain e.text), if_neg he⟩

end Looking

/-! ## Creating -/

section Creating

variable {hpc : HostPathController} {pool : String → String} {req : CreateVolumeRequest}
  {info : StoragePoolInfo} {l : Loc} {live : GoMap String} {h h' : Host}

/-- **Making sure that the directory is there** takes effect when it is found or made. -/
lemma takesEffect_ensureVolumeDirectory (hap : hpc.cfg.PoolsApart) (hname : ValidName req.name)
    (hpool : getStoragePoolNameFromMap req.parameters = pool req.name)
    (ha : hpc.cfg.storagePoolInfo.lookup (pool req.name) = some info) :
    TakesEffect hpc.cfg pool (Request.createVolume (some req)) CreationReports none
      (hpc.ensureVolumeDirectory req.name (pool req.name)).run := by
  have hpath : (hpc.cfg.pool (pool req.name)).path = info.path := by rw [pool_of_lookup ha]
  have hcommit : ∀ live : GoMap String, (Request.createVolume (some req)).onMap live
      = some (VolumeAnswer.done, live.insert req.name (pool req.name)) := fun live => by
    rw [Request.onMap, hpool]
  refine Commits.bind (Q := fun st r => st = if r = Except.ok true then some VolumeAnswer.done
    else none) (Commits.of_once (once_checkPathExist _) fun h live hs => ?_) ?_ ?_
  · obtain ⟨l, hl, _⟩ := hs.1.pools ha
    have hloc := locate_join_valid hl hname
    rw [hpath]
    rcases hx : run step (checkPathExist (join [info.path, req.name])).run h with ⟨r, m⟩
    cases r with
    | error e =>
        cases checkPathExist_error hx
        exact Or.inl ⟨hs.of_quiet (Quiet.tick h), by simp⟩
    | ok b =>
        obtain ⟨rfl, rfl⟩ := checkPathExist_ok hx
        cases hat : (h.at? (join [info.path, req.name])).isSome with
        | false => exact Or.inl ⟨hs.of_quiet (Quiet.tick h), by simp⟩
        | true =>
            -- the directory is there, so the map has the volume already
            have hn : h.fs.node (l ++ [req.name]) ≠ none := by
              rw [at?, hloc] at hat
              exact Option.isSome_iff_ne_none.mp hat
            have hlive := hs.1.live_of_node ha hl hn
            refine Or.inr ⟨rfl, _, _, hcommit live, ?_, by simp⟩
            exact hs.insert hap ha hl (Frame.of_quiet (Quiet.tick h)) (hs.1.dir_of_live hlive ha hl)
  · rintro st b hst
    cases b with
    | true => exact hst
    | false =>
        rw [if_neg (by simp)] at hst
        subst hst
        refine Commits.attempt (Q := CreationReports) (Commits.of_once
          (once_createVolumeDirectory _ _) fun h live hs => ?_) fun st r hr => ?_
        · obtain ⟨l, hl, _⟩ := hs.1.pools ha
          have hloc := locate_join_valid hl hname
          have htick := hs.of_quiet (Quiet.tick h)
          rw [hpath]
          rcases hx : run step (createVolumeDirectory info.path req.name).run h with ⟨r, m⟩
          cases r with
          | ok u =>
              obtain ⟨l', hl', hb, rfl⟩ := createVolumeDirectory_ok hx
              cases hloc.symm.trans hl'
              refine Or.inr ⟨rfl, _, _, hcommit live, ?_, rfl⟩
              refine htick.insert hap ha hl (htick.frame_made ha hl _) ?_
              exact h.fs.create_node_on_way hb (locate_valid hloc) (List.prefix_refl _)
          | error e =>
              refine Or.inl ⟨?_, rfl⟩
              rcases createVolumeDirectory_error hx with rfl | ⟨l', reach, hl', hb, rfl⟩
              · exact htick
              · cases hloc.symm.trans hl'
                exact htick.made_failed ha hl reach
        · cases r with
          | ok u => exact hr
          | error e => exact hr
  · rintro st e hst
    exact hst.trans (if_neg (by simp))

/-- **A creation takes effect once if it succeeds, and not at all if it fails.** -/
lemma takesEffect_createVolume (hap : hpc.cfg.PoolsApart) {r : Option CreateVolumeRequest}
    (hr : ∀ req, r = some req → ValidName req.name ∧ req.snapshotSource = none
      ∧ getStoragePoolNameFromMap req.parameters = pool req.name) :
    TakesEffect hpc.cfg pool (Request.createVolume r) CreationReports none
      (hpc.createVolume r).run := by
  refine Commits.bind (takesEffect_liftExcept _) ?_ fun st e he => he.1
  rintro _ req ⟨rfl, hv⟩
  obtain ⟨rfl, _⟩ := HostPathController.validateCreateVolumeRequest_ok hv.symm
  obtain ⟨hname, hsrc, hpool⟩ := hr req rfl
  refine Commits.bind (takesEffect_liftExcept _) ?_ fun st e he => he.1
  rintro _ _ ⟨rfl, _⟩
  dsimp only
  rw [hpool]
  cases ha : hpc.cfg.storagePoolInfo.lookup (pool req.name) with
  | none => exact rfl
  | some info =>
      rw [if_neg (by simp)]
      refine Commits.bind (takesEffect_of_only (only_getVolumeDirCapacity _)) ?_ fun st e he => he
      rintro _ c rfl
      refine Commits.bind (Q := CreationReports) ?_ (fun _ _ hst => hst) fun _ _ hst => hst
      refine Commits.bind (takesEffect_ensureVolumeDirectory hap hname hpool ha) ?_
        fun st e he => he
      intro st u hst
      rw [HostPathController.restoreContent_none hsrc]
      exact hst

end Creating

/-! ## Listing the pools -/

/-- The error does not say that something was not found. -/
def Err.Other (e : Err) : Prop := ∀ msg, e ≠ Err.status Code.notFound msg

section Listing

variable {cfg : Config} {pool : String → String} {q : Request} {st : Option VolumeAnswer}
  {info home : StoragePoolInfo} {infos : List StoragePoolInfo} {n : String} {h : Host}
  {live : GoMap String} {ds rest : List String} {p : String}

/-- Reading one pool after the other: what was listed is what was in the pool at that moment. -/
lemma takesEffect_poolDirectories_cons {Q : Option VolumeAnswer → Except Err (List String) → Prop}
    (herror : ∀ e, Err.Other e → Q st (Except.error e))
    (hread : ∀ h live, cfg.Shows pool h live →
      Advances (cfg.Shows pool) (fun live o live' => q.onMap live = some (o, live')) st live h.tick
        fun st' => TakesEffect cfg pool q (fun st'' r => Q st'' (r.map (dirsOf h.fs info ++ ·))) st'
          (poolDirectories infos).run) :
    TakesEffect cfg pool q Q st (poolDirectories (info :: infos)).run := by
  intro h live hs
  rcases he : h.step (Syscall.readDir info.path) with ⟨rep, m⟩
  cases rep with
  | error e =>
      cases (congrArg Prod.snd he).symm.trans rfl
      exact Or.inl ⟨hs.of_quiet (Quiet.tick h), herror _ nofun⟩
  | ok files =>
      obtain ⟨rfl, l, hl, _, rfl⟩ := readDir_ok he
      refine (hread h live hs).mono fun st' hk => ?_
      rw [← entries_dirs hl] at hk
      exact takesEffect_respond hk

/-- Pools that are not the one of the volume do not list it, and reading them has no effect. -/
lemma takesEffect_others (hsub : ∀ info ∈ infos, info ∈ cfg.pools)
    (hne : ∀ info ∈ infos, cfg.storagePoolInfo.lookup (pool n) ≠ some info) :
    TakesEffect cfg pool q (fun st' r => st' = st ∧ (∀ ds, r = Except.ok ds → NotListed ds n)
      ∧ ∀ e, r = Except.error e → Err.Other e) st (poolDirectories infos).run := by
  induction infos with
  | nil => exact ⟨rfl, by rintro ds ⟨⟩; exact nofun, nofun⟩
  | cons info infos ih =>
      refine takesEffect_poolDirectories_cons (fun e he => ⟨rfl, nofun, ?_⟩) fun h live hs => ?_
      · rintro _ ⟨⟩
        exact he
      · refine Or.inl ⟨hs.of_quiet (Quiet.tick h), ?_⟩
        have hnot := hs.notListed (hsub info List.mem_cons_self) (hne info List.mem_cons_self)
        refine (ih (fun i hi => hsub i (List.mem_cons_of_mem _ hi))
          fun i hi => hne i (List.mem_cons_of_mem _ hi)).mono ?_
        rintro st' r ⟨rfl, hok, herr⟩
        cases r with
        | ok ds => exact ⟨rfl, by rintro _ ⟨⟩; exact hnot.append (hok ds rfl), nofun⟩
        | error e => exact ⟨rfl, nofun, by rintro _ ⟨⟩; exact herr e rfl⟩

/-- **A listing knows of a volume what was so when its pool was read.**  `F` and `M` say what the
request has observed if the volume was there or missing. -/
lemma takesEffect_poolDirectories {F M : Option VolumeAnswer → Prop}
    (ha : cfg.storagePoolInfo.lookup (pool n) = some home) (hnodup : infos.Nodup)
    (hmem : home ∈ infos) (hsub : ∀ info ∈ infos, info ∈ cfg.pools)
    (hread : ∀ h live, cfg.Shows pool h live → Advances (cfg.Shows pool)
      (fun live o live' => q.onMap live = some (o, live')) none live h.tick fun st' =>
        (live.lookup n = none → M st') ∧ (live.lookup n ≠ none → F st')) :
    TakesEffect cfg pool q (fun st' r => (∀ ds, r = Except.ok ds →
        F st' ∧ ListedAt ds n (join [home.path, n]) ∨ M st' ∧ NotListed ds n)
      ∧ ∀ e, r = Except.error e → Err.Other e) none (poolDirectories infos).run := by
  induction infos with
  | nil => cases hmem
  | cons info infos ih =>
      obtain ⟨hinfo, hrest⟩ := List.nodup_cons.mp hnodup
      have hsub' : ∀ i ∈ infos, i ∈ cfg.pools := fun i hi => hsub i (List.mem_cons_of_mem _ hi)
      refine takesEffect_poolDirectories_cons (fun e he => ⟨nofun, ?_⟩) fun h live hs => ?_
      · rintro _ ⟨⟩
        exact he
      by_cases hhome : info = home
      · -- this is the pool of the volume: the rest of the list does not matter
        subst hhome
        refine (hread h live hs).mono fun st' hst' => ?_
        refine (takesEffect_others (n := n) hsub' fun i hi hcon => ?_).mono ?_
        · cases ha.symm.trans hcon
          exact hinfo hi
        · rintro st'' r ⟨rfl, hok, herr⟩
          cases r with
          | error e => exact ⟨nofun, by rintro _ ⟨⟩; exact herr e rfl⟩
          | ok ds =>
              refine ⟨?_, nofun⟩
              rintro _ ⟨⟩
              rcases hs.listed ha with ⟨hnone, hnot⟩ | ⟨hsome, hat⟩
              · exact Or.inr ⟨hst'.1 hnone, hnot.append (hok ds rfl)⟩
              · exact Or.inl ⟨hst'.2 hsome, hat.append_right (hok ds rfl)⟩
      · refine Or.inl ⟨hs.of_quiet (Quiet.tick h), ?_⟩
        have hnot := hs.notListed (n := n) (hsub info List.mem_cons_self) fun hcon =>
          hhome (Option.some.inj (hcon.symm.trans ha))
        refine (ih hrest ((List.mem_cons.mp hmem).resolve_left (Ne.symm hhome)) hsub').mono ?_
        rintro st'' r ⟨hok, herr⟩
        cases r with
        | error e => exact ⟨nofun, by rintro _ ⟨⟩; exact herr e rfl⟩
        | ok ds =>
            refine ⟨?_, nofun⟩
            rintro _ ⟨⟩
            rcases hok ds rfl with ⟨hF, hat⟩ | ⟨hM, hno⟩
            · exact Or.inl ⟨hF, hat.append_left hnot⟩
            · exact Or.inr ⟨hM, hnot.append hno⟩

/-- What the search for a volume by its name finds in all the pools. -/
lemma takesEffect_getVolumeDirectories {hpc : HostPathController}
    {F M : Option VolumeAnswer → Prop} (hlay : hpc.cfg.Layout)
    (ha : hpc.cfg.storagePoolInfo.lookup (pool n) = some home)
    (hread : ∀ h live, hpc.cfg.Shows pool h live → Advances (hpc.cfg.Shows pool)
      (fun live o live' => q.onMap live = some (o, live')) none live h.tick fun st' =>
        (live.lookup n = none → M st') ∧ (live.lookup n ≠ none → F st')) :
    TakesEffect hpc.cfg pool q (fun st' r => (∀ ds, r = Except.ok ds →
        F st' ∧ volumePathOf ds n = join [home.path, n] ∧ join [home.path, n] ≠ "" ∧ ValidName n
          ∨ M st' ∧ volumePathOf ds n = "")
      ∧ ∀ e, r = Except.error e → Err.Other e) none hpc.getVolumeDirectories.run := by
  refine Commits.bind (takesEffect_poolDirectories ha (nodup_pools hlay)
    (Config.mem_pools.mpr ⟨_, ha⟩) (fun _ hi => hi) hread) ?_ fun st e he => ⟨nofun, ?_⟩
  · rintro st ds ⟨hok, _⟩
    refine ⟨?_, nofun⟩
    rintro _ ⟨⟩
    have hperm : (ds.insertionSort (· ≤ ·)).Perm ds := List.perm_insertionSort _ _
    rcases hok ds rfl with ⟨hF, hat⟩ | ⟨hM, hno⟩
    · exact Or.inl ⟨hF, volumePathOf_of_listedAt (hat.of_perm hperm), hat.ne, hat.validName⟩
    · exact Or.inr ⟨hM, volumePathOf_of_notListed (hno.of_perm hperm)⟩
  · rintro _ ⟨⟩
    exact he.2 e rfl

end Listing

/-! ## Deleting -/

section Deleting

variable {hpc : HostPathController} {pool : String → String} {del : DeleteVolumeRequest}
  {home : StoragePoolInfo} {l : Loc} {live : GoMap String} {h h' : Host} {n : String}

/-- **Removing the directory of a volume** takes effect if the directory is gone afterwards. -/
lemma takesEffect_deleteVolumeDirectory (hap : hpc.cfg.PoolsApart)
    (hv : ValidName del.volumeId)
    (ha : hpc.cfg.storagePoolInfo.lookup (pool del.volumeId) = some home) :
    TakesEffect hpc.cfg pool (Request.deleteVolume (some del)) DeletionReports none
      (deleteVolume (dir (join [home.path, del.volumeId])) del.volumeId).run := by
  refine Commits.of_once (once_deleteVolume _ _) fun h live hs => ?_
  obtain ⟨l, hl, _⟩ := hs.1.pools ha
  have hloc := locate_join_valid (locate_dir_join hl hv) hv
  have htick := hs.of_quiet (Quiet.tick h)
  rcases hx : run step (deleteVolume (dir (join [home.path, del.volumeId])) del.volumeId).run h
    with ⟨r, m⟩
  cases r with
  | ok u =>
      rcases deleteVolume_ok hx with ⟨hnone, _⟩ | ⟨l', hl', _, _, rfl⟩
      · cases hloc.symm.trans hnone
      · cases hloc.symm.trans hl'
        refine Or.inr ⟨rfl, _, _, rfl, ?_, rfl⟩
        have hmb := not_mountedBelow_of_below (List.prefix_append l [del.volumeId])
          (htick.1.unmounted ha hl)
        refine htick.erase hap ha hl (Frame.cleared _ hmb fun q hq => hq) ?_
        rw [HostPathController.cleared_volume_node hs.1.unmounted ha hl (Quiet.tick h),
          if_pos (List.prefix_refl _)]
  | error e =>
      rcases deleteVolume_error hx with rfl | ⟨l', gone, hl', rfl⟩
      · exact Or.inl ⟨htick, trivial⟩
      · cases hloc.symm.trans hl'
        rcases htick.cleared hap ha hl gone with hsame | hgone
        · exact Or.inl ⟨hsame, trivial⟩
        · exact Or.inr ⟨rfl, _, _, rfl, hgone, trivial⟩

/-- **A deletion takes effect once if it succeeds, and at most once if it fails.** -/
lemma takesEffect_deleteVolume (hlay : hpc.cfg.Layout) {r : Option DeleteVolumeRequest}
    (hpool : ∀ n, ∃ info, hpc.cfg.storagePoolInfo.lookup (pool n) = some info) :
    TakesEffect hpc.cfg pool (Request.deleteVolume r) DeletionReports none
      (hpc.deleteVolume r).run := by
  refine Commits.bind (takesEffect_liftExcept _) ?_ fun st e he => trivial
  rintro _ del ⟨rfl, hv⟩
  obtain rfl := validateDeleteVolumeRequest_ok hv.symm
  obtain ⟨home, ha⟩ := hpool del.volumeId
  refine Commits.bind (takesEffect_getVolumeDirectories (F := fun st => st = none)
    (M := fun st => st = some VolumeAnswer.done) hlay ha fun h live hs => ?_) ?_ fun st e he => trivial
  · have htick := hs.of_quiet (Quiet.tick h)
    by_cases hn : live.lookup del.volumeId = none
    · exact Or.inr ⟨rfl, _, _, rfl, htick.erase_missing hn, fun _ => rfl, fun h => absurd hn h⟩
    · exact Or.inl ⟨htick, fun h => absurd h hn, fun _ => rfl⟩
  · rintro st ds ⟨hok, _⟩
    dsimp only
    rcases hok ds rfl with ⟨rfl, hpath, hne, hvalid⟩ | ⟨rfl, hpath⟩
    · rw [hpath, if_neg hne]
      refine Commits.attempt (takesEffect_deleteVolumeDirectory hlay.pools hvalid ha)
        fun st r hr => ?_
      cases r with
      | ok u => exact hr
      | error e => exact trivial
    · rw [hpath, if_pos rfl]
      exact rfl

end Deleting

/-! ## Looking up -/

/-- The program only looks, and if it fails it does not say that something was not found. -/
def LooksPlainly {α : Type} (x : Sys α) : Prop :=
  Uses Syscall.Looks (fun _ _ => True) (fun r => ∀ e, r = Except.error e → Err.Other e) x.run

namespace LooksPlainly

variable {α β : Type} {x : Sys α} {f : α → Sys β}

lemma ret (a : α) : LooksPlainly (pure a : Sys α) := nofun

lemma fail {e : Err} (he : Err.Other e) : LooksPlainly (throw e : Sys α) := by
  rintro _ ⟨⟩
  exact he

lemma perform {c : Syscall} (hc : c.Looks) : LooksPlainly (perform c : Sys (Reply c)) :=
  ⟨hc, fun _ _ => nofun⟩

lemma bind (hx : LooksPlainly x) (hf : ∀ a, LooksPlainly (f a)) : LooksPlainly (x >>= f) := by
  refine Uses.bind hx fun r hr => ?_
  cases r with
  | ok a => exact hf a
  | error e =>
      rintro _ ⟨⟩
      exact hr e rfl

/-- What a program fails with does not matter if it is looked at. -/
lemma attempt (hx : Only Syscall.Looks x) : LooksPlainly (attempt x) :=
  Uses.bind hx fun _ _ => nofun

lemma getVolumeDirCapacity (path : String) : LooksPlainly (getVolumeDirCapacity path) := by
  refine bind (bind (perform trivial) fun _ => ret _) fun r => ?_
  cases r with
  | ok stats => exact ret _
  | error e => exact fail nofun

lemma capacityMap (infos : List StoragePoolInfo) (m : GoMap Int64) :
    LooksPlainly (capacityMap infos m) := by
  induction infos generalizing m with
  | nil => exact ret m
  | cons info infos ih => exact bind (getVolumeDirCapacity _) fun c => ih _

lemma checkIfSpaceAvailable (path : String) : LooksPlainly (checkIfSpaceAvailable path) := by
  refine bind (bind (perform trivial) fun _ => ret _) fun r => ?_
  cases r with
  | error e => exact ret _
  | ok stats =>
      dsimp only
      split_ifs <;> exact ret _

lemma volumeEntry (hpc : HostPathController) (caps : GoMap Int64) (id path : String) :
    LooksPlainly (hpc.volumeEntry caps id path) := by
  refine bind (bind (attempt (only_checkPathExist path)) fun r => ?_) fun _ => ret _
  rcases r with e | b
  · exact ret _
  · cases b with
    | false => exact ret _
    | true => exact checkIfSpaceAvailable path

end LooksPlainly

section LookingUp

variable {hpc : HostPathController} {pool : String → String} {q : Request}
  {st : Option VolumeAnswer}

lemma takesEffect_of_looksPlainly {α : Type} {x : Sys α} (hx : LooksPlainly x) :
    TakesEffect hpc.cfg pool q (fun st' r => st' = st ∧ ∀ e, r = Except.error e → Err.Other e) st
      x.run :=
  Commits.of_uses (fun _ _ _ hs hc => ⟨trivial, hs.of_looks hc⟩) hx

/-- An error of another kind says nothing of the volume. -/
lemma lookupReports_of_other {α : Type} {e : Err} (he : Err.Other e) :
    LookupReports st (Except.error e : Except Err α) := fun msg hm => absurd hm (he msg)

/-- **A lookup by id** is answered from the moment at which the pool of the volume is listed. -/
lemma takesEffect_controllerGetVolume (hlay : hpc.cfg.Layout)
    {r : Option ControllerGetVolumeRequest}
    (hpool : ∀ n, ∃ info, hpc.cfg.storagePoolInfo.lookup (pool n) = some info) :
    TakesEffect hpc.cfg pool (Request.controllerGetVolume r) LookupReports none
      (hpc.controllerGetVolume r).run := by
  cases r with
  | none => exact lookupReports_of_other nofun
  | some req =>
      unfold HostPathController.controllerGetVolume
      dsimp only
      split_ifs with hid
      · exact lookupReports_of_other nofun
      obtain ⟨home, ha⟩ := hpool req.volumeId
      refine Commits.bind (takesEffect_of_looksPlainly (LooksPlainly.capacityMap _ _)) ?_
        fun st e he => lookupReports_of_other (he.2 e rfl)
      rintro _ caps ⟨rfl, _⟩
      refine Commits.bind (takesEffect_getVolumeDirectories
        (F := fun st => st = some VolumeAnswer.found)
        (M := fun st => st = some VolumeAnswer.missing) hlay ha fun h live hs => ?_) ?_
        fun st e he => lookupReports_of_other (he.2 e rfl)
      · refine Or.inr ⟨rfl, _, _, rfl, hs.of_quiet (Quiet.tick h), fun hn => ?_, fun hn => ?_⟩
        · rw [lookedUp, if_pos hn]
        · rw [lookedUp, if_neg hn]
      · rintro st ds ⟨hok, _⟩
        rcases hok ds rfl with ⟨rfl, hpath, hne, _⟩ | ⟨rfl, hpath⟩
        · rw [hpath, if_neg hne]
          refine (takesEffect_of_looksPlainly (LooksPlainly.volumeEntry _ _ _ _)).mono ?_
          rintro st r ⟨rfl, herr⟩
          cases r with
          | ok entry => exact rfl
          | error e => exact lookupReports_of_other (herr e rfl)
        · rw [hpath, if_pos rfl]
          exact fun _ _ => rfl

lemma checkPathExist_plain {p : String} {h m : Host} {err : Err}
    (e : run step (checkPathExist p).run h = (Except.error err, m)) : Err.Other err := by
  rcases exec_bind_eq_error.mp e with hs | ⟨r, m', _, hk⟩
  · exact absurd hs exec_perform_ne_error
  · cases r with
    | ok info => cases hk
    | error oe =>
        dsimp only at hk
        split_ifs at hk
        · cases hk
        · cases hk
          exact nofun

/-- **A lookup by parameters** is answered from the moment of its one call. -/
lemma takesEffect_validateVolumeCapabilities {r : Option ValidateVolumeCapabilitiesRequest}
    (hpool : ∀ n, ∃ info, hpc.cfg.storagePoolInfo.lookup (pool n) = some info)
    (hr : ∀ req, r = some req → ValidName req.volumeId
      ∧ getStoragePoolNameFromMap req.parameters = pool req.volumeId) :
    TakesEffect hpc.cfg pool (Request.validateVolumeCapabilities r) LookupReports none
      (hpc.validateVolumeCapabilities r).run := by
  cases r with
  | none => exact lookupReports_of_other nofun
  | some req =>
      obtain ⟨hname, hparams⟩ := hr req rfl
      obtain ⟨home, ha⟩ := hpool req.volumeId
      unfold HostPathController.validateVolumeCapabilities
      dsimp only
      split_ifs
      · exact lookupReports_of_other nofun
      · exact lookupReports_of_other nofun
      · exact lookupReports_of_other nofun
      rw [hparams, pool_of_lookup ha]
      refine Commits.bind (Q := fun st r => (∀ b, r = Except.ok b →
          st = some (if b then VolumeAnswer.found else VolumeAnswer.missing))
        ∧ ∀ e, r = Except.error e → Err.Other e)
        (Commits.of_once (once_checkPathExist _) fun h live hs => ?_) ?_
        fun st e he => lookupReports_of_other (he.2 e rfl)
      · obtain ⟨l, hl, _⟩ := hs.1.pools ha
        rcases hx : run step (checkPathExist (join [home.path, req.volumeId])).run h with ⟨r, m⟩
        cases r with
        | error e =>
            cases checkPathExist_error hx
            refine Or.inl ⟨hs.of_quiet (Quiet.tick h), nofun, ?_⟩
            rintro _ ⟨⟩
            exact checkPathExist_plain hx
        | ok b =>
            obtain ⟨rfl, rfl⟩ := checkPathExist_ok hx
            refine Or.inr ⟨rfl, _, _, rfl, hs.of_quiet (Quiet.tick h), ?_, nofun⟩
            rintro _ ⟨⟩
            have hiff := hs.lookup_iff ha hl
            rw [at?, locate_join_valid hl hname, Option.bind_some, lookedUp]
            by_cases hn : live.lookup req.volumeId = none
            · have hnone : h.fs.node (l ++ [req.volumeId]) = none := by
                by_contra hne
                exact hiff.mpr hne hn
              rw [if_pos hn, hnone]
              rfl
            · rw [if_neg hn, Option.isSome_iff_ne_none.mpr (hiff.mp hn)]
              rfl
      · rintro st b ⟨hok, _⟩
        cases b with
        | true => exact hok true rfl
        | false => exact fun _ _ => hok false rfl

end LookingUp

/-! ## Snapshots -/

section Snapshots

variable {hpc : HostPathController} {pool : String → String} {q : Request}

lemma Config.inSnapshots_join {cfg : Config} (hlay : cfg.Layout) {a p : String}
    {info : StoragePoolInfo} {es : List String} (ha : cfg.storagePoolInfo.lookup a = some info)
    (hp : info.snapshotPath = some p) (hes : Descends es) : cfg.InSnapshots (join (p :: es)) := by
  obtain ⟨r, hr, hd⟩ := hes
  obtain ⟨k, hk⟩ := hlay.snapshot_loc ha hp
  refine ⟨a, info, k, _, ha, ?_, locate_join_of_descend p hr hd, ?_⟩
  · rw [StoragePoolInfo.snapshotLoc, hp]
    exact hk
  · rw [← (locate_eq_some.mp hk).2]
    exact List.prefix_append _ r

/-- A request that stays in the snapshot directories has no effect on the volumes. -/
lemma takesEffect_of_within {α : Type} (hlay : hpc.cfg.Layout) {Q : α → Prop} {x : Sys α}
    (hx : Within hpc.cfg.InSnapshots (fun _ => False) hpc.cfg.InSnapshots Q x) :
    TakesEffect hpc.cfg pool q (fun _ _ => True) none x.run :=
  (Commits.of_uses (fun s _ c hs hc => ⟨admissible_step s c, hs.of_confined hlay hc⟩) hx).mono
    fun _ _ _ => trivial

lemma within_createSnapshot (hlay : hpc.cfg.Layout) (hwf : hpc.WellFormed)
    {r : Option CreateSnapshotRequest} (hr : ∀ req, r = some req →
      Descends [req.name, dataPath] ∧ Descends [req.name, req.sourceVolumeId]) :
    Within hpc.cfg.InSnapshots (fun _ => False) hpc.cfg.InSnapshots (fun _ => True)
      (hpc.createSnapshot r) := by
  refine (Staged.createSnapshotRequest ?_).within
  rintro req _ _ provider rfl _ _ _ _ hprov
  obtain ⟨info, ha, hpath, _⟩ := hwf _ _ hprov
  obtain ⟨hdata, hsource⟩ := hr req rfl
  obtain ⟨k, hk⟩ := hlay.snapshot_loc ha hpath
  refine ⟨⟨_, info, k, k, ha, ?_, hk, List.prefix_refl k⟩, hpc.cfg.inSnapshots_join hlay ha hpath hdata,
    hpc.cfg.inSnapshots_join hlay ha hpath hsource⟩
  rw [StoragePoolInfo.snapshotLoc, hpath]
  exact hk

lemma within_deleteSnapshot (hlay : hpc.cfg.Layout) (hwf : hpc.WellFormed)
    {r : Option DeleteSnapshotRequest} (hr : ∀ req, r = some req → Descends [req.snapshotId]) :
    Within hpc.cfg.InSnapshots (fun _ => False) hpc.cfg.InSnapshots (fun _ => True)
      (hpc.deleteSnapshot r) := by
  refine (Altering.deleteSnapshotRequest ?_).within
  rintro req rfl _ provider hprov
  obtain ⟨⟨a, _⟩, hmem, rfl⟩ := List.mem_map.mp hprov
  obtain ⟨info, ha, hpath, _⟩ := hwf _ _ (AList.mem_lookup_iff.mpr hmem)
  exact hpc.cfg.inSnapshots_join hlay ha hpath (hr req rfl)

lemma only_getAllSnapshots (r : Reflink) : Only Syscall.Looks r.getAllSnapshots := by
  refine Only.bind (Only.perform trivial) fun rep => Only.bind (only_orReturn rep) fun es => ?_
  induction es with
  | nil => exact Only.ret _
  | cons e es ih =>
      refine Only.ite ih (Only.bind (only_getSnapshotById r e.name) fun found => ?_)
      cases found with
      | none => exact Only.fail _
      | some snapshot => exact Only.bind ih fun _ => Only.ret _

lemma only_listSnapshots (r : Option ListSnapshotsRequest) :
    Only Syscall.Looks (hpc.listSnapshots r) := by
  cases r with
  | none => exact Only.fail _
  | some req =>
      refine Only.bind ?_ fun _ => only_liftExcept _
      generalize hpc.providers = ps
      induction ps with
      | nil => exact Only.ret _
      | cons p ps ih =>
          refine Only.bind (Only.ite ?_ (Only.ite ?_ (only_getAllSnapshots p)))
            fun _ => Only.bind ih fun _ => Only.ret _
          · exact Only.bind (only_getSnapshotById p _) fun _ => Only.ret _
          · exact Only.bind (only_getAllSnapshots p) fun _ => Only.ret _

lemma only_validateVolumeCapabilities (r : Option ValidateVolumeCapabilitiesRequest) :
    Only Syscall.Looks (hpc.validateVolumeCapabilities r) := by
  cases r with
  | none => exact Only.fail _
  | some req =>
      refine Only.ite (Only.fail _) (Only.ite (Only.fail _) (Only.ite (Only.fail _) ?_))
      exact Only.bind (only_checkPathExist _) fun _ => Only.ite (Only.ret _) (Only.fail _)

lemma only_getCapacity (r : Option GetCapacityRequest) :
    Only Syscall.Looks (hpc.getCapacity r) := by
  cases r with
  | none => exact Only.fail _
  | some req =>
      refine Only.ite (Only.fail _) (Only.bind (only_getPVStats _) fun stats => ?_)
      exact Only.bind (only_orReturn stats) fun _ => Only.ret _

end Snapshots

end Hostpath
