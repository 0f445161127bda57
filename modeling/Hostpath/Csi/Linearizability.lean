import Hostpath.Csi.VolumeEffects

/-!
# Controller requests at the same time

Any number of controller requests run at the same time, each with the maps in an order of its own,
and any of their calls can fail.  Volumes that are filled from a snapshot are left out, because a
restore that fails removes the volume again, and that is a second effect.  Calls are interleaved, but
each of them is one step, also those that the operating system makes in several (`ReadDir`,
`RemoveAll`, `MkdirAll` and `cp`).

* `volumes_linearizable` — the requests act on the map of the volumes one after the other.
* `acknowledged_requests_last` — a volume whose creation has succeeded is there until a deletion of
  it runs, and a volume whose deletion has succeeded is gone until it is created.
-/

namespace Hostpath

open Lib FilePath Prog Host

/-! ## All together -/

/-- Requests of the controller service other than creations from a snapshot.  Names of volumes are
single path components and each is used with one pool, and names of snapshots do not climb out of
the snapshot directory. -/
def Request.OnVolumes (pool : String → String) : Request → Prop
  | createVolume r => ∀ req, r = some req → ValidName req.name ∧ req.snapshotSource = none
      ∧ getStoragePoolNameFromMap req.parameters = pool req.name
  | validateVolumeCapabilities r => ∀ req, r = some req → ValidName req.volumeId
      ∧ getStoragePoolNameFromMap req.parameters = pool req.volumeId
  | createSnapshot r => ∀ req, r = some req →
      Descends [req.name, dataPath] ∧ Descends [req.name, req.sourceVolumeId]
  | deleteSnapshot r => ∀ req, r = some req → Descends [req.snapshotId]
  | nodePublishVolume _ => False
  | nodeUnpublishVolume _ => False
  | _ => True

/-- The requests that run at the same time, each with the maps in an order of its own. -/
abbrev Serving := Pool Host (HostPath × Request) Syscall Reply (Except Err Response)

/-- One move of a driver whose requests run at the same time. -/
def HostPath.Moves (hp : HostPath) (pool : String → String) :
    Serving → Move (HostPath × Request) Syscall Reply → Serving → Prop :=
  Pool.Step step (fun a => (a.1.serve a.2).run) fun _ a => hp.Reorders a.1 ∧ a.2.OnVolumes pool

/-- One move of the map, on which requests act at once. -/
def MapMoves : AtomicObject (GoMap String) (HostPath × Request) VolumeAnswer →
    Serving × Move (HostPath × Request) Syscall Reply →
    AtomicObject (GoMap String) (HostPath × Request) VolumeAnswer → Prop :=
  AtomicObject.Step (fun a live o live' => a.2.onMap live = some (o, live')) fun a => a.2.Reports

section Main

variable {hp : HostPath} {pool : String → String} {q : Request}

/-- **Every request takes effect at most once**, and as its response says. -/
lemma takesEffect_serve (hlay : hp.controller.cfg.Layout) (hwf : hp.controller.WellFormed)
    (hpool : ∀ n, ∃ info, hp.controller.cfg.storagePoolInfo.lookup (pool n) = some info)
    (hq : q.OnVolumes pool) :
    TakesEffect hp.controller.cfg pool q q.Reports none (hp.serve q).run := by
  have hignored : ∀ {α : Type} {x : Sys α} (f : α → Response),
      TakesEffect hp.controller.cfg pool q (fun _ _ => True) none x.run →
      TakesEffect hp.controller.cfg pool q (fun _ _ => True) none (x >>= fun a => pure (f a)).run :=
    fun f hx => takesEffect_respond hx
  have hlooks : ∀ {α : Type} {x : Sys α}, Only Syscall.Looks x →
      TakesEffect hp.controller.cfg pool q (fun _ _ => True) none x.run :=
    fun hx => (takesEffect_of_only hx).mono fun _ _ _ => trivial
  cases q with
  | createVolume r =>
      refine takesEffect_respond ((takesEffect_createVolume hlay.pools hq).mono ?_)
      intro st res hres
      cases res <;> exact hres
  | deleteVolume r =>
      refine takesEffect_respond (f := fun _ => Response.empty)
        ((takesEffect_deleteVolume hlay hpool).mono ?_)
      intro st res hres
      cases res <;> exact hres
  | validateVolumeCapabilities r =>
      refine takesEffect_respond ((takesEffect_validateVolumeCapabilities hpool hq).mono ?_)
      intro st res hres
      cases res <;> exact hres
  | controllerGetVolume r =>
      refine takesEffect_respond ((takesEffect_controllerGetVolume hlay hpool).mono ?_)
      intro st res hres
      cases res <;> exact hres
  | getCapacity r => exact hignored _ (hlooks (only_getCapacity r))
  | listVolumes r => exact hignored _ (hlooks (HostPathController.only_listVolumes _ r))
  | listSnapshots r => exact hignored _ (hlooks (only_listSnapshots r))
  | createSnapshot r =>
      exact hignored _ (takesEffect_of_within hlay (within_createSnapshot hlay hwf hq))
  | deleteSnapshot r =>
      exact hignored (fun _ => Response.empty)
        (takesEffect_of_within hlay (within_deleteSnapshot hlay hwf hq))
  | nodePublishVolume r => exact hq.elim
  | nodeUnpublishVolume r => exact hq.elim

lemma takesEffect_reordered {hp' : HostPath} (hre : hp.Reorders hp')
    (hlay : hp.controller.cfg.Layout) (hwf : hp.controller.WellFormed)
    (hpool : ∀ n, ∃ info, hp.controller.cfg.storagePoolInfo.lookup (pool n) = some info)
    (hq : q.OnVolumes pool) :
    TakesEffect hp.controller.cfg pool q q.Reports none (hp'.serve q).run := by
  have hshows : hp'.controller.cfg.Shows pool = hp.controller.cfg.Shows pool := by
    funext h live
    exact propext (Config.Shows.reorders_iff hre.controller)
  have heff : TakesEffect hp'.controller.cfg pool q q.Reports none (hp'.serve q).run :=
    takesEffect_serve (hre.controller.layout hlay) (hre.wellFormed hwf)
      (fun n => by rw [hre.controller.lookup]; exact hpool n) hq
  rwa [TakesEffect, hshows] at heff

lemma matches_idle_map {h₀ : Host} {live : GoMap String}
    (hs : hp.controller.cfg.Shows pool h₀ live) :
    Pool.Matches (α := Except Err Response) step (hp.controller.cfg.Shows pool)
      (fun (a : HostPath × Request) live o live' => a.2.onMap live = some (o, live'))
      (fun a => a.2.Reports) (Pool.idle h₀) (AtomicObject.idle live) :=
  Pool.matches_idle hs

end Main

namespace Sample

/-- Every volume is in the one pool. -/
def onePool (_ : String) : String := "local"

lemma onePool_configured (n : String) :
    ∃ info, driver.controller.cfg.storagePoolInfo.lookup (onePool n) = some info :=
  ⟨pool, rfl⟩

lemma shows_emptyHost : driver.controller.cfg.Shows onePool emptyHost ∅ := by
  have hmounts : ∀ l, ¬ emptyHost.MountedBelow l := by
    rintro l ⟨m, hm, _⟩
    cases hm
  exact ⟨Config.Holds.of_emptyPools _ emptyPools, fun _ _ l _ _ => hmounts l,
    fun _ _ => hmounts _⟩

def createVol : HostPath × Request := (driver, Request.createVolume (some (volumeRequest "vol")))

def deleteVol (n : String) : HostPath × Request := (driver, Request.deleteVolume (some ⟨n⟩))

lemma may_createVol : driver.Reorders createVol.1 ∧ createVol.2.OnVolumes onePool := by
  refine ⟨HostPath.Reorders.refl _, ?_⟩
  rintro _ ⟨⟩
  exact ⟨by decide, rfl, by decide⟩

lemma may_deleteVol (n : String) :
    driver.Reorders (deleteVol n).1 ∧ (deleteVol n).2.OnVolumes onePool :=
  ⟨HostPath.Reorders.refl _, trivial⟩

/-- A creation and a deletion of the volume `n` at the same time: the deletion lists the pool after
the creation has looked for the directory and before it makes it. -/
def overlapping (n : String) : List (Pool.Choice (HostPath × Request)) :=
  [Pool.Choice.start 0 createVol, Pool.Choice.start 1 (deleteVol n), Pool.Choice.go 0,
    Pool.Choice.go 0, Pool.Choice.go 1, Pool.Choice.go 0, Pool.Choice.go 1, Pool.Choice.go 0]

lemma eq_of_overlapping {n : String} {i : ℕ} {a : HostPath × Request}
    (h : Pool.Choice.start i a ∈ overlapping n) : a = createVol ∨ a = deleteVol n := by
  simp only [overlapping, List.mem_cons, Pool.Choice.start.injEq, reduceCtorEq, List.not_mem_nil,
    or_false] at h
  exact h.imp (fun h => h.2) fun h => h.2

lemma run_overlapping {n : String} {tr : List (Serving × Move (HostPath × Request) Syscall Reply)}
    {w : Serving} (h : Pool.play step (fun a => (a.1.serve a.2).run) (overlapping n)
      (Pool.idle emptyHost) = some (tr, w)) :
    Run (driver.Moves onePool) (Pool.idle emptyHost) tr w := by
  refine Pool.run_of_play (fun i a ha _ => ?_) h
  rcases eq_of_overlapping ha with rfl | rfl
  · exact may_createVol
  · exact may_deleteVol n

end Sample

section Acknowledged

variable {hp : HostPath} {pool : String → String} {q : Request}

/-- The request makes the volume `n` present, or absent. -/
def Request.Makes (n : String) (present : Bool) : Request → Prop
  | createVolume (some req) => req.name = n ∧ present = true
  | deleteVolume (some req) => req.volumeId = n ∧ present = false
  | _ => False

lemma Request.Makes.onMap {n : String} {present : Bool} {o : VolumeAnswer}
    {live live' : GoMap String} (hq : q.Makes n present) (hm : q.onMap live = some (o, live')) :
    (live'.lookup n).isSome = present := by
  cases q with
  | createVolume r =>
      cases r with
      | none => exact hq.elim
      | some req =>
          obtain ⟨rfl, rfl⟩ := hq
          cases hm
          rw [AList.lookup_insert]
          rfl
  | deleteVolume r =>
      cases r with
      | none => exact hq.elim
      | some req =>
          obtain ⟨rfl, rfl⟩ := hq
          cases hm
          rw [AList.lookup_erase]
          rfl
  | _ => exact hq.elim

/-- A request that does not make a volume absent or present leaves it as it is. -/
lemma Request.onMap_isSome {n : String} {present : Bool} {o : VolumeAnswer}
    {live live' : GoMap String} (hq : ¬ q.Makes n (!present)) (hm : q.onMap live = some (o, live'))
    (hlive : (live.lookup n).isSome = present) : (live'.lookup n).isSome = present := by
  cases q with
  | createVolume r =>
      cases r with
      | none => cases hm
      | some req =>
          cases hm
          by_cases hn : n = req.name
          · subst hn
            rw [AList.lookup_insert]
            by_contra hne
            exact hq ⟨rfl, by simpa using hne⟩
          · rwa [AList.lookup_insert_ne hn]
  | deleteVolume r =>
      cases r with
      | none => cases hm
      | some req =>
          cases hm
          by_cases hn : n = req.volumeId
          · subst hn
            rw [AList.lookup_erase]
            by_contra hne
            exact hq ⟨rfl, by simpa using hne⟩
          · rwa [AList.lookup_erase_ne hn]
  | controllerGetVolume r =>
      cases r with
      | none => cases hm
      | some req =>
          cases hm
          exact hlive
  | validateVolumeCapabilities r =>
      cases r with
      | none => cases hm
      | some req =>
          cases hm
          exact hlive
  | _ => cases hm

/-- **What was acknowledged stays.**  Let a creation of a volume start after a moment at which no
deletion of it runs, and succeed, and let no deletion of it start after that moment.  Then the
directory of the volume is there, whatever else happened at the same time and whichever calls failed;
and the other way round for a deletion.  As in `volumes_linearizable`, no volume is created from a
snapshot: a restore that fails takes a volume away that was there before. -/
theorem acknowledged_requests_last {h₀ : Host} {live : GoMap String} {w₁ w₂ : Serving}
    {tr₁ tr₂ : List (Serving × Move (HostPath × Request) Syscall Reply)} {n : String}
    {present : Bool} {info : StoragePoolInfo} {l : Loc}
    (hlay : hp.controller.cfg.Layout) (hwf : hp.controller.WellFormed)
    (hpool : ∀ n, ∃ info, hp.controller.cfg.storagePoolInfo.lookup (pool n) = some info)
    (hs : hp.controller.cfg.Shows pool h₀ live)
    (hr₁ : Run (hp.Moves pool) (Pool.idle h₀) tr₁ w₁) (hr₂ : Run (hp.Moves pool) w₁ tr₂ w₂)
    (hquiet : ∀ i a p, w₁.threads i = some (a, p) → ¬ a.2.Makes n (!present))
    (hstart : ∀ x ∈ tr₂, ∀ i a, x.2 = Move.start i a → ¬ a.2.Makes n (!present))
    (hfinish : ∃ x ∈ tr₂, ∃ i a r, x.2 = Move.finish i ∧ w₁.threads i = none
      ∧ x.1.threads i = some (a, Prog.ret (Except.ok r)) ∧ a.2.Makes n present)
    (ha : hp.controller.cfg.storagePoolInfo.lookup (pool n) = some info)
    (hl : info.loc = some l) :
    w₂.shared.fs.node (l ++ [n]) = if present then some Node.dir else none := by
  have hlin := fun (w : Serving) (a : HostPath × Request)
    (ha : hp.Reorders a.1 ∧ a.2.OnVolumes pool) =>
    takesEffect_reordered ha.1 hlay hwf hpool ha.2
  obtain ⟨_, A₁, _, _, hm₁⟩ := Pool.linearizable hlin (matches_idle_map hs) hr₁
  obtain ⟨tr', A₂, hrun, hmap, hm₂⟩ := Pool.linearizable hlin hm₁ hr₂
  have hpresent : (A₂.state.lookup n).isSome = present := by
    -- the operations that count are those at places that were free at the moment
    refine AtomicObject.holds_after (K := fun i a => w₁.threads i = none ∧ a.2.Makes n present)
      (V := fun a => a.2.Makes n (!present)) (P := fun live => (live.lookup n).isSome = present)
      (fun i a t o t' hK hm => hK.2.onMap hm) (fun a t o t' hV hm => Request.onMap_isSome hV hm)
      (fun i a st hi => ?_) hrun (fun x hx i a hmv => ?_) ?_
    · obtain ⟨p, hp⟩ := hm₁.thread hi
      refine ⟨fun hK => ?_, hquiet i a p hp⟩
      cases hK.1.symm.trans hp
    · exact hstart x.2 (hmap ▸ List.mem_map_of_mem hx) i a hmv
    · obtain ⟨⟨w, mv⟩, hx, i, a, r, rfl, hidle, hi, hmakes⟩ := hfinish
      obtain ⟨B, st, hmem, hops, hobs⟩ := AtomicObject.observed hrun (hmap ▸ hx) hi
      have hst : st = some VolumeAnswer.done := by
        obtain ⟨hp', q⟩ := a
        cases q with
        | createVolume r => exact hobs
        | deleteVolume r => exact hobs
        | _ => exact hmakes.elim
      exact ⟨_, hmem, i, a, _, rfl, hst ▸ hops, hidle, hmakes⟩
  rw [hm₂.state.1.volumes n ha hl]
  cases hn : A₂.state.lookup n with
  | none =>
      rw [hn] at hpresent
      rw [← hpresent]
      rfl
  | some b =>
      rw [hn] at hpresent
      rw [← hpresent, (hm₂.state.1.names hn).1, if_pos rfl]
      rfl

end Acknowledged

namespace Sample

/-- What happened is the end of the creation, and it has succeeded. -/
def created (x : Serving × Move (HostPath × Request) Syscall Reply) : Bool :=
  match x.2 with
  | Move.finish 0 =>
      match x.1.threads 0 with
      | some ((_, Request.createVolume (some req)), Prog.ret (Except.ok _)) => req.name = "vol"
      | _ => false
  | _ => false

lemma of_created {x : Serving × Move (HostPath × Request) Syscall Reply} (hx : created x = true) :
    ∃ i a r, x.2 = Move.finish i ∧ x.1.threads i = some (a, Prog.ret (Except.ok r))
      ∧ a.2.Makes "vol" true := by
  unfold created at hx
  split at hx
  · rename_i hmv
    split at hx
    · rename_i hi
      exact ⟨0, _, _, hmv, hi, by simpa using hx, rfl⟩
    · cases hx
  · cases hx

end Sample

/-- A creation at the same time as a deletion of another volume: the volume is there afterwards. -/
theorem sample_acknowledged :
    ∃ tr w, Run (Sample.driver.Moves Sample.onePool) (Pool.idle Sample.emptyHost) tr w
      ∧ (∃ x ∈ tr, Sample.created x = true)
      ∧ w.shared.fs.node ["pool", "vol"] = if true then some Node.dir else none := by
  have hplay : ((Pool.play step (fun a => (a.1.serve a.2).run) (Sample.overlapping "other")
      (Pool.idle Sample.emptyHost)).map fun r => r.1.any Sample.created) = some true := by
    decide +kernel
  obtain ⟨⟨tr, w⟩, hrun, hany⟩ := Option.map_eq_some_iff.mp hplay
  have hr := Sample.run_overlapping hrun
  obtain ⟨x, hx, hcreated⟩ := List.any_eq_true.mp hany
  obtain ⟨i, a, r, hfinish, hi, hmakes⟩ := Sample.of_created hcreated
  refine ⟨tr, w, hr, ⟨x, hx, hcreated⟩, ?_⟩
  refine acknowledged_requests_last (l := ["pool"]) Sample.layout Sample.wellFormed
    Sample.onePool_configured Sample.shows_emptyHost Run.nil hr (by simp [Pool.idle])
    (fun y hy i a hmv => ?_) ⟨x, hx, i, a, r, hfinish, rfl, hi, hmakes⟩ rfl (by decide)
  rcases Sample.eq_of_overlapping (Pool.start_of_play hrun y hy i a hmv) with rfl | rfl
  · exact fun h => Bool.noConfusion h.2
  · exact fun h => absurd h.1 (by decide)

end Hostpath
