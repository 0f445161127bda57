import Hostpath.Csi.Publish
import Hostpath.Csi.Runs

/-!
# Which volumes are ephemeral

Publishing takes a volume for ephemeral by its context and makes its directory; unpublishing takes
it for ephemeral by its id and removes the directory.  The two agree as long as the ids of
ephemeral volumes are exactly those that start with `csi` (`unpublish_agrees_run`), and nothing in
the driver makes sure of that (`unpublish_removes_created_volume`).
-/

namespace Hostpath

open Lib FilePath Prog Host

/-! ## Mounts on separate targets -/

/-- The targets are not inside each other, and neither are they and the pools. -/
structure Config.Targets (cfg : Config) (T : Loc → Prop) : Prop where
  apart : ∀ ⦃t t'⦄, T t → T t' → t ≠ t' → Apart t t'
  pools : ∀ ⦃t a info l⦄, T t → cfg.storagePoolInfo.lookup a = some info → info.loc = some l →
    Apart l t

/-- Everything that is mounted is mounted on a target that is there, and no two mounts are on one
target. -/
structure MountsOn (T : Loc → Prop) (h : Host) : Prop where
  target : ∀ x ∈ h.mounts, T x.target
  node : ∀ x ∈ h.mounts, h.fs.node x.target ≠ none
  single : (h.mounts.map Mount.target).Nodup

namespace MountsOn

variable {T S : Loc → Prop} {h m h' : Host} {t : Loc} {cfg : Config}

lemma of_nil (hm : h.mounts = []) : MountsOn T h := by
  constructor <;> simp [hm]

lemma of_quiet (hM : MountsOn T h) (hq : Quiet h h') : MountsOn T h' := by
  obtain ⟨h₁, h₂, h₃⟩ := hM
  constructor <;> simp only [hq.mounts, hq.fs] <;> assumption

lemma of_frame (hM : MountsOn T h) (hf : Frame S h h') (hS : ∀ x ∈ h.mounts, ¬ S x.target) :
    MountsOn T h' := by
  obtain ⟨h₁, h₂, h₃⟩ := hM
  refine ⟨by rwa [hf.mounts], fun x hx => ?_, by rwa [hf.mounts]⟩
  rw [hf.mounts] at hx
  rw [hf.node _ (hS x hx)]
  exact h₂ x hx

/-- Changes to volumes do not reach the targets. -/
lemma of_volumes (hM : MountsOn T h) (hT : cfg.Targets T) (hf : Frame S h h')
    (hS : ∀ q, S q → ∃ a info l, cfg.storagePoolInfo.lookup a = some info ∧ info.loc = some l
      ∧ l <+: q) : MountsOn T h' := by
  refine hM.of_frame hf fun x hx hSx => ?_
  obtain ⟨a, info, l, ha, hl, hlx⟩ := hS _ hSx
  exact (hT.pools (hM.target x hx) ha hl).1 hlx

lemma poolsUnmounted (hM : MountsOn T h) (hT : cfg.Targets T) : cfg.PoolsUnmounted h := by
  rintro a info l ha hl ⟨x, hx, hlx⟩
  exact (hT.pools (hM.target x hx) ha hl).1 hlx

/-- A target that is ready has no mount. -/
lemma free (hM : MountsOn T h) (hr : HostPathNode.TargetReady h t m) :
    ∀ x ∈ h.mounts, x.target ≠ t := by
  rintro x hx rfl
  cases hr with
  | found _ _ htop => exact top_eq_none.mp htop x hx rfl
  | made _ hn => exact hM.node x hx hn

/-- The one mount on a target is the one that is taken off. -/
lemma unmounted (hM : MountsOn T h) (t : Loc) :
    MountsOn T (h.unmounted t) ∧ ∀ x ∈ (h.unmounted t).mounts, x.target ≠ t := by
  have hsub : (h.unmounted t).mounts.Sublist h.mounts := List.eraseP_sublist
  refine ⟨⟨fun x hx => hM.target x (hsub.subset hx), fun x hx => hM.node x (hsub.subset hx),
    hM.single.sublist (hsub.map _)⟩, fun x hx hxt => ?_⟩
  obtain ⟨y, l₁, l₂, hl₁, hy, heq, herase⟩ :=
    List.exists_of_eraseP (hsub.subset hx) (p := fun m : Mount => decide (m.target = t)) (by simpa)
  rw [unmounted_mounts, herase] at hx
  rcases List.mem_append.mp hx with hx | hx
  · exact hl₁ x hx (by simpa)
  · have hnd := hM.single
    rw [heq, List.map_append, List.map_cons] at hnd
    refine (List.nodup_cons.mp (List.nodup_append.mp hnd).2.1).1 ?_
    rw [show y.target = x.target by rw [hxt]; simpa using hy]
    exact List.mem_map_of_mem hx

/-- After unmounting there is no mount on the target, and nothing else changed. -/
lemma unmounting (hM : MountsOn T h) (hu : HostPathNode.Unmounting h t m) :
    MountsOn T m ∧ m.fs = h.fs ∧ ∀ x ∈ m.mounts, x.target ≠ t := by
  cases hu with
  | nothing hq hn =>
      refine ⟨hM.of_quiet hq, hq.fs, fun x hx hxt => ?_⟩
      rw [hq.mounts] at hx
      subst hxt
      rcases hn with hn | htop
      · exact hM.node x hx hn
      · exact top_eq_none.mp htop x hx rfl
  | popped hq htop =>
      obtain ⟨hM', hfree⟩ := (hM.of_quiet hq).unmounted t
      exact ⟨hM', hq.fs, hfree⟩

end MountsOn

/-! ## What one request does -/

namespace HostPathNode

variable {hpn : HostPathNode} {T : Loc → Prop} {h h' : Host}

/-- The pool an ephemeral volume is put in. -/
def ephemeralPool (hpn : HostPathNode) (req : NodePublishVolumeRequest) : String :=
  if (hpn.cfg.pool (getStoragePoolNameFromMap req.volumeContext)).path = "" then
    hpn.cfg.defaultStoragePoolName
  else getStoragePoolNameFromMap req.volumeContext

lemma locate_ephemeral {req : NodePublishVolumeRequest} {info : StoragePoolInfo} {l : Loc}
    (heph : isEphemeralVolumeRequest req = true) (hid : ValidName req.volumeId)
    (ha : hpn.cfg.storagePoolInfo.lookup (hpn.ephemeralPool req) = some info)
    (hl : info.loc = some l) :
    locate (hpn.source req) = some (l ++ [req.volumeId])
      ∧ locate (hpn.ephemeralDir req) = some (l ++ [req.volumeId]) := by
  have hsrc : hpn.source req = join [info.path, req.volumeId] := by
    have hpool : hpn.cfg.pool (hpn.ephemeralPool req) = info := by
      rw [Config.pool, ha]
      rfl
    rw [source, if_pos heph, getEphemeralVolumePath]
    rw [ephemeralPool] at hpool
    split_ifs at hpool ⊢ with hempty <;> rw [hpool]
  rw [ephemeralDir, hsrc]
  exact ⟨locate_join_valid hl hid, locate_join_valid (locate_dir_join hl hid) hid⟩

/-- An ephemeral publish puts its volume in the pool `a`, which is at `l`. -/
structure Placed (hpn : HostPathNode) (req : NodePublishVolumeRequest) (a : String) (l : Loc) :
    Prop where
  name : ValidName req.volumeId
  pool : hpn.ephemeralPool req = a
  configured : ∃ info, hpn.cfg.storagePoolInfo.lookup a = some info ∧ info.loc = some l

/-- **What a publish changes**: the mount on its target, and the directory of its volume if the
volume is ephemeral. -/
lemma publish_changes {req : NodePublishVolumeRequest} {res : Except Err Unit} {a : String}
    (hap : hpn.cfg.PoolsApart) (hT : hpn.cfg.Targets T) (hM : MountsOn T h)
    (htarget : ∀ t, locate req.targetPath = some t → T t)
    (hplace : isEphemeralVolumeRequest req = true → ∃ l, hpn.Placed req a l)
    (e : h.exec (hpn.nodePublishVolume (some req)) = (res, h')) :
    MountsOn T h' ∧ ∀ {b info k n}, hpn.cfg.storagePoolInfo.lookup b = some info →
      info.loc = some k →
      ¬ (isEphemeralVolumeRequest req = true ∧ a = b ∧ req.volumeId = n) →
      Untouched (k ++ [n]) h h' := by
  rcases nodePublishVolume_cases e with ⟨hq, _⟩ | ⟨_, t, m, hreq, ht, hready, hMt⟩
  · exact ⟨hM.of_quiet hq, fun _ _ _ => Untouched.of_quiet hq⟩
  cases hreq
  have hTt := htarget t ht
  have hfree := hM.free hready
  have hm := hready.frame.mounts
  have hapart : EphemeralApart hpn req m t := by
    intro heph
    obtain ⟨l, hid, hpool, info, ha, hl⟩ := hplace heph
    rw [← hpool] at ha
    obtain ⟨hsrc, hdir⟩ := locate_ephemeral heph hid ha hl
    refine ⟨_, hsrc, hdir, ?_, ?_⟩
    · rintro ⟨x, hx, hlx⟩
      rw [hm] at hx
      exact (hT.pools (hM.target x hx) ha hl).1 ((List.prefix_append l _).trans hlx)
    · exact fun hlt => (hT.pools hTt ha hl).1 ((List.prefix_append l _).trans hlt)
  obtain ⟨hnode, hmounts⟩ := hMt.effect ht hapart
  -- the other targets and the other volumes are away from both places
  have hother : ∀ t', T t' → t' ≠ t → h'.fs.node t' = h.fs.node t' := by
    intro t' hT' hne
    rw [hnode t' ?_, hready.frame.node t' (hT.apart hT' hTt hne).1]
    rintro ⟨heph, l', hl', hor⟩
    obtain ⟨l, hid, hpool, info, ha, hl⟩ := hplace heph
    rw [← hpool] at ha
    cases (locate_ephemeral heph hid ha hl).1.symm.trans hl'
    have hlt := hT.pools hT' ha hl
    rcases hor with hp | hp
    · rcases List.prefix_concat_iff.mp hp with rfl | hp
      · exact hlt.1 (List.prefix_append l _)
      · exact hlt.2 hp
    · exact hlt.1 ((List.prefix_append l _).trans hp)
  refine ⟨?_, fun {b info k n} hb hk hne q hq => ?_⟩
  · have hnode' : ∀ x ∈ h.mounts, h'.fs.node x.target ≠ none := by
      intro x hx
      rw [hother _ (hM.target x hx) (hfree x hx)]
      exact hM.node x hx
    rcases hmounts with hms | ⟨s, _, hdir, hms⟩
    · rw [hm] at hms
      exact ⟨by rw [hms]; exact hM.target, by rwa [hms], by rw [hms]; exact hM.single⟩
    · rw [hm] at hms
      refine ⟨?_, ?_, ?_⟩ <;> rw [hms]
      · exact List.forall_mem_cons.mpr ⟨hTt, hM.target⟩
      · exact List.forall_mem_cons.mpr ⟨by simp [hdir], hnode'⟩
      · refine List.nodup_cons.mpr ⟨fun hmem => ?_, hM.single⟩
        obtain ⟨x, hx, hxt⟩ := List.mem_map.mp hmem
        exact hfree x hx hxt
  · rw [hnode q ?_, hready.frame.node q fun hqt => ?_]
    · exact (hT.pools hTt hb hk).1 (((List.prefix_append k _).trans hq).trans hqt)
    · rintro ⟨heph, l', hl', hor⟩
      obtain ⟨l, hid, hpool, info', ha, hl⟩ := hplace heph
      rw [← hpool] at ha
      cases (locate_ephemeral heph hid ha hl).1.symm.trans hl'
      rw [hpool] at ha
      have hab : ¬ (a = b ∧ req.volumeId = n) := fun h' => hne ⟨heph, h'⟩
      have hap' := hap.volumes_apart ha hl hb hk hab
      rcases hor with hp | hp
      · exact hap'.2 (hq.trans hp)
      · exact hap'.not_below hp hq

lemma TargetRemoval.frame {t : Loc} {ok : Bool} (hm : ¬ h.MountedBelow t)
    (hr : TargetRemoval h t ok h') : Frame (t <+: ·) h h' := by
  have htick : ¬ h.tick.MountedBelow t := hm
  cases hr with
  | done _ _ => exact (Frame.of_quiet (Quiet.tick h)).trans (Frame.cleared _ htick fun _ hq => hq)
  | none => exact Frame.of_quiet (Quiet.tick h)
  | cut gone => exact (Frame.of_quiet (Quiet.tick h)).trans (Frame.cleared _ htick fun _ hq => hq)

/-- **What an unpublish changes**: up to the target it does not reach the pools, and only then
does it remove the directory of a volume with an ephemeral id. -/
lemma unpublish_changes {req : NodeUnpublishVolumeRequest} {t : Loc} {ok : Bool}
    (hT : hpn.cfg.Targets T) (hM : MountsOn T h) (ht : T t)
    (hU : Unpublishing hpn req t h ok h') :
    ∃ m, MountsOn T m ∧ (∀ {b info k}, hpn.cfg.storagePoolInfo.lookup b = some info →
        info.loc = some k → Untouched k h m)
      ∧ ((h' = m ∧ (ok = true → isEphemeralVolumeId req.volumeId = false))
        ∨ isEphemeralVolumeId req.volumeId = true
          ∧ ∃ r, m.exec (hpn.removeEphemeralPath req.volumeId) = (r, h') ∧ ok = r.isOk) := by
  have hremove : ∀ {m m' : Host} {ok : Bool}, Unmounting h t m → TargetRemoval m t ok m' →
      MountsOn T m' ∧ ∀ {b info k}, hpn.cfg.storagePoolInfo.lookup b = some info →
        info.loc = some k → Untouched k h m' := by
    intro m m' ok hu hr
    obtain ⟨hMm, hfs, hfree⟩ := hM.unmounting hu
    have haway : ∀ x ∈ m.mounts, ¬ t <+: x.target := fun x hx =>
      (hT.apart (hMm.target x hx) ht (hfree x hx)).2
    have hf := hr.frame fun ⟨x, hx, htx⟩ => haway x hx htx
    refine ⟨hMm.of_frame hf haway, fun {b info k} hb hk q hkq => ?_⟩
    rw [hf.node q ((hT.pools ht hb hk).not_below hkq), hfs]
  cases hU with
  | stopped hq =>
      exact ⟨h', hM.of_quiet hq, fun _ _ => Untouched.of_quiet hq, Or.inl ⟨rfl, nofun⟩⟩
  | targetStays hu hr =>
      obtain ⟨hM', hun⟩ := hremove hu hr
      exact ⟨h', hM', hun, Or.inl ⟨rfl, nofun⟩⟩
  | done hid hu hr =>
      obtain ⟨hM', hun⟩ := hremove hu hr
      exact ⟨h', hM', hun, Or.inl ⟨rfl, fun _ => hid⟩⟩
  | @ephemeral _ m' _ r hid hu hr he =>
      obtain ⟨hM', hun⟩ := hremove hu hr
      exact ⟨m', hM', hun, Or.inr ⟨hid, r, he, rfl⟩⟩

end HostPathNode

/-! ## Runs -/

/-- The history has a publish of the volume as an ephemeral one. -/
def PublishedEphemeral (tr : List (Host × Event)) (id : String) : Prop :=
  ∃ m req res, (m, Event.request (Request.nodePublishVolume (some req)) res) ∈ tr
    ∧ req.volumeId = id ∧ isEphemeralVolumeRequest req = true

/-- Requests about volumes whose names say whether they are ephemeral, with targets in `T`: the
names that are created do not start with `csi`; the ids that are published as ephemeral do, and
each is put in one pool. -/
def AgreedRequest (pool : String → String) (T : Loc → Prop) (hp : HostPath) (_ : Host) :
    Request → Prop
  | Request.createVolume r => ∀ req, r = some req →
      ValidName req.name ∧ isEphemeralVolumeId req.name = false
  | Request.deleteVolume _ => True
  | Request.nodePublishVolume r => ∀ req, r = some req →
      (∀ t, locate req.targetPath = some t → T t)
        ∧ (isEphemeralVolumeRequest req = true → isEphemeralVolumeId req.volumeId = true
          ∧ ∃ l, hp.node.Placed req (pool req.volumeId) l)
  | Request.nodeUnpublishVolume r => ∀ req, r = some req → ∀ t, locate req.targetPath = some t → T t
  | _ => False

/-- What all states of such a run have: mounts on separate targets, and a directory with an
ephemeral name only for a volume that was published as ephemeral, in its pool. -/
structure Agreed (cfg : Config) (pool : String → String) (T : Loc → Prop)
    (tr : List (Host × Event)) (h : Host) : Prop where
  mounts : MountsOn T h
  ephemeral : ∀ ⦃a info l n⦄, cfg.storagePoolInfo.lookup a = some info → info.loc = some l →
    isEphemeralVolumeId n = true → h.fs.node (l ++ [n]) ≠ none →
    a = pool n ∧ PublishedEphemeral tr n

lemma PublishedEphemeral.snoc {tr : List (Host × Event)} {id : String} {x : Host × Event}
    (hp : PublishedEphemeral tr id) : PublishedEphemeral (tr ++ [x]) id := by
  obtain ⟨m, req, res, hmem, hrest⟩ := hp
  exact ⟨m, req, res, List.mem_append_left _ hmem, hrest⟩

lemma Config.Reorders.targets {cfg cfg' : Config} {T : Loc → Prop} (hre : cfg.Reorders cfg')
    (hT : cfg.Targets T) : cfg'.Targets T := by
  obtain ⟨h₁, h₂⟩ := hT
  refine ⟨h₁, ?_⟩
  simp only [hre.lookup]
  exact h₂

namespace Agreed

variable {hp : HostPath} {cfg : Config} {pool : String → String} {T : Loc → Prop}
  {tr : List (Host × Event)} {h h' : Host} {ev : Event} {x : Host × Event}

lemma snoc (hA : Agreed cfg pool T tr h) : Agreed cfg pool T (tr ++ [x]) h := by
  refine ⟨hA.mounts, fun a info l n ha hl hn hne => ?_⟩
  obtain ⟨hpool, hpub⟩ := hA.ephemeral ha hl hn hne
  exact ⟨hpool, hpub.snoc⟩

/-- No directory with an ephemeral name appears. -/
lemma of_node (hA : Agreed cfg pool T tr h) (hM : MountsOn T h')
    (hnode : ∀ {a info l n}, cfg.storagePoolInfo.lookup a = some info → info.loc = some l →
      isEphemeralVolumeId n = true →
      h'.fs.node (l ++ [n]) = h.fs.node (l ++ [n]) ∨ h'.fs.node (l ++ [n]) = none) :
    Agreed cfg pool T tr h' := by
  refine ⟨hM, fun a info l n ha hl hn hne => hA.ephemeral ha hl hn ?_⟩
  rcases hnode ha hl hn with heq | heq
  · rwa [heq] at hne
  · exact absurd heq hne

lemma createVolume {req : CreateVolumeRequest} {hpc : HostPathController} {res : Except Err Volume}
    (hap : hpc.cfg.PoolsApart) (hT : hpc.cfg.Targets T) (hA : Agreed hpc.cfg pool T tr h)
    (hname : ValidName req.name) (hid : isEphemeralVolumeId req.name = false)
    (e : h.exec (hpc.createVolume (some req)) = (res, h')) : Agreed hpc.cfg pool T tr h' := by
  have hf := HostPathController.createVolume_frame (hA.mounts.poolsUnmounted hT) hname e
  refine hA.of_node (hA.mounts.of_volumes hT hf ?_) fun {b info k n} hb hk hn => Or.inl ?_
  · rintro q ⟨l, hl, hlq⟩
    exact ⟨_, _, l, HostPathController.lookup_of_pool_loc hl, hl, (List.prefix_append l _).trans hlq⟩
  · refine hf.node _ ?_
    rintro ⟨l, hl, hlq⟩
    refine hap.volume_not_below (HostPathController.lookup_of_pool_loc hl) hl hb hk ?_ hlq
    rintro ⟨_, rfl⟩
    rw [hid] at hn
    cases hn

lemma removeVolumeNamed {id : String} {failed : String → String} {res : Except Err Unit}
    (hT : cfg.Targets T) (hA : Agreed cfg pool T tr h)
    (e : h.exec (removeVolumeNamed cfg.pools id failed) = (res, h')) :
    Agreed cfg pool T tr h' := by
  have hf := HostPathController.removeVolumeNamed_frame (hA.mounts.poolsUnmounted hT) e
  refine hA.of_node (hA.mounts.of_volumes hT hf ?_) fun _ _ _ =>
    HostPathController.removeVolumeNamed_node_or e _
  rintro q ⟨a, info, l, ha, hl, hlq⟩
  exact ⟨a, info, l, ha, hl, (List.prefix_append l _).trans hlq⟩

/-- What an unpublish of `t` does before it looks at the id of the volume. -/
lemma nodeUnpublishVolume {r : Option NodeUnpublishVolumeRequest} {hpn : HostPathNode}
    {res : Except Err Unit} (hT : hpn.cfg.Targets T) (hA : Agreed hpn.cfg pool T tr h)
    (ht : ∀ req, r = some req → ∀ t, locate req.targetPath = some t → T t)
    (e : h.exec (hpn.nodeUnpublishVolume r) = (res, h')) : Agreed hpn.cfg pool T tr h' := by
  rcases HostPathNode.nodeUnpublishVolume_cases e with ⟨rfl, _⟩ | ⟨req, t, rfl, htl, hU⟩
  · exact hA
  · obtain ⟨m, hM, hun, hend⟩ :=
      HostPathNode.unpublish_changes hT hA.mounts (ht req rfl t htl) hU
    have hAm : Agreed hpn.cfg pool T tr m := hA.of_node hM fun ha hl _ =>
      Or.inl (hun ha hl _ (List.prefix_append _ _))
    rcases hend with ⟨rfl, _⟩ | ⟨_, r, he, _⟩
    · exact hAm
    · exact hAm.removeVolumeNamed hT he

lemma nodePublishVolume {req : NodePublishVolumeRequest} {hpn : HostPathNode}
    {res : Except Err Unit} {g : Host} {res' : Except Err Response} (hap : hpn.cfg.PoolsApart)
    (hT : hpn.cfg.Targets T) (hA : Agreed hpn.cfg pool T tr h)
    (ht : ∀ t, locate req.targetPath = some t → T t)
    (hplace : isEphemeralVolumeRequest req = true → ∃ l, hpn.Placed req (pool req.volumeId) l)
    (e : h.exec (hpn.nodePublishVolume (some req)) = (res, h')) :
    Agreed hpn.cfg pool T
      (tr ++ [(g, Event.request (Request.nodePublishVolume (some req)) res')]) h' := by
  obtain ⟨hM, hun⟩ := HostPathNode.publish_changes hap hT hA.mounts ht hplace e
  refine ⟨hM, fun a info l n ha hl hn hne => ?_⟩
  by_cases hnew : isEphemeralVolumeRequest req = true ∧ pool req.volumeId = a ∧ req.volumeId = n
  · obtain ⟨heph, rfl, rfl⟩ := hnew
    exact ⟨rfl, g, req, res', by simp, rfl, heph⟩
  · rw [hun ha hl hnew _ (List.prefix_refl _)] at hne
    exact hA.snoc.ephemeral ha hl hn hne

lemma reorders {cfg' : Config} (hre : cfg.Reorders cfg') (hA : Agreed cfg pool T tr h) :
    Agreed cfg' pool T tr h := by
  obtain ⟨h₁, h₂⟩ := hA
  refine ⟨h₁, ?_⟩
  simp only [hre.lookup]
  exact h₂

lemma serving {cfg' : Config} (hA : Agreed cfg pool T tr h) (hre : cfg.Reorders cfg')
    (outcomes : ℕ → Outcome) : Agreed cfg' pool T tr { h with outcomes } := by
  obtain ⟨⟨h₁, h₂, h₃⟩, h₄⟩ := hA.reorders hre
  exact ⟨⟨h₁, h₂, h₃⟩, h₄⟩

lemma step (hnode : hp.node.cfg = hp.controller.cfg) (hap : hp.node.cfg.PoolsApart)
    (hT : hp.node.cfg.Targets T) (hA : Agreed hp.node.cfg pool T tr h)
    (hs : hp.Step (AgreedRequest pool T) h ev h') :
    Agreed hp.node.cfg pool T (tr ++ [(h, ev)]) h' := by
  cases hs with
  | write hw =>
      rw [← hnode] at hw
      refine snoc (hA.of_node ?_ fun ha hl _ => Or.inl (hw.volume_node hap ha hl))
      obtain ⟨h₁, h₂, h₃⟩ := hA.mounts
      refine ⟨by rwa [hw.mounts], fun x hx => ?_, by rwa [hw.mounts]⟩
      rw [hw.mounts] at hx
      have hsame := hw.untouched (S := x.target) fun a info l ha hl => hT.pools (h₁ x hx) ha hl
      rw [hsame _ (List.prefix_refl _)]
      exact h₂ x hx
  | @request _ hp' outcomes q res hre hC he =>
      have hrec : hp.node.cfg.Reorders hp'.controller.cfg := hnode ▸ hre.controller
      have hAn := hA.serving hre.node outcomes
      have hAc := hA.serving hrec outcomes
      cases q with
      | createVolume r =>
          obtain ⟨r', hr, rfl⟩ := exec_respond he
          refine snoc (Agreed.reorders hrec.symm ?_)
          cases r with
          | none =>
              cases hr
              exact hAc
          | some req =>
              obtain ⟨hname, hid⟩ := hC req rfl
              exact hAc.createVolume (hrec.poolsApart hap) (hrec.targets hT) hname hid hr
      | deleteVolume r =>
          obtain ⟨r', hr, rfl⟩ := exec_respond he
          refine snoc (Agreed.reorders hrec.symm ?_)
          rcases HostPathController.deleteVolume_cases hr with
            ⟨rfl, _⟩ | ⟨req, failed, rfl, hrm⟩
          · exact hAc
          · exact hAc.removeVolumeNamed (hrec.targets hT) hrm
      | nodePublishVolume r =>
          obtain ⟨r', hr, rfl⟩ := exec_respond he
          refine Agreed.reorders hre.node.symm ?_
          cases r with
          | none =>
              cases hr
              exact hAn.snoc
          | some req =>
              obtain ⟨ht, hplace⟩ := hC req rfl
              exact hAn.nodePublishVolume (hre.node.poolsApart hap) (hre.node.targets hT) ht
                (fun heph => (hplace heph).2) hr
      | nodeUnpublishVolume r =>
          obtain ⟨r', hr, rfl⟩ := exec_respond he
          refine snoc (Agreed.reorders hre.node.symm ?_)
          exact hAn.nodeUnpublishVolume (hre.node.targets hT) hC hr
      | _ => exact absurd hC id

end Agreed

/-- No pool has a directory with an ephemeral name. -/
def Config.NoEphemeral (cfg : Config) (h : Host) : Prop :=
  ∀ ⦃a info l n⦄, cfg.storagePoolInfo.lookup a = some info → info.loc = some l →
    isEphemeralVolumeId n = true → h.fs.node (l ++ [n]) = none

/-- An unpublish of the volume `id` from `h` to `h'` takes the volume for ephemeral exactly if it
was published as ephemeral. -/
structure UnpublishAgrees (cfg : Config) (tr : List (Host × Event)) (id : String) (ok : Bool)
    (h h' : Host) : Prop where
  /-- The directory of an ephemeral volume does not survive. -/
  removed : ok = true → PublishedEphemeral tr id → ∀ ⦃a info l⦄,
    cfg.storagePoolInfo.lookup a = some info → info.loc = some l →
    h'.fs.node (l ++ [id]) ≠ some Node.dir
  /-- For any other volume the pools stay as they are. -/
  kept : ¬ PublishedEphemeral tr id → ∀ ⦃a info l⦄,
    cfg.storagePoolInfo.lookup a = some info → info.loc = some l → Untouched l h h'
  /-- No other volume changes, and no volume that can have been created. -/
  others : ∀ ⦃a info l⦄ n, cfg.storagePoolInfo.lookup a = some info → info.loc = some l →
    n ≠ id ∨ isEphemeralVolumeId n = false → Untouched (l ++ [n]) h h'

section Main

variable {hp : HostPath} {cfg : Config} {pool : String → String} {T : Loc → Prop}
  {tr : List (Host × Event)} {h₀ h m h' : Host}

lemma PublishedEphemeral.id {n : String}
    (hr : Run (hp.Step (AgreedRequest pool T)) h₀ tr h) (hpub : PublishedEphemeral tr n) :
    isEphemeralVolumeId n = true := by
  obtain ⟨m, req, res, hmem, rfl, heph⟩ := hpub
  obtain ⟨m', hs⟩ := hr.steps _ hmem
  cases hs with
  | request hre hC he => exact ((hC req rfl).2 heph).1

lemma Agreed.run (hnode : hp.node.cfg = hp.controller.cfg) (hap : hp.node.cfg.PoolsApart)
    (hT : hp.node.cfg.Targets T) (hM : MountsOn T h₀) (hfresh : hp.node.cfg.NoEphemeral h₀)
    (hr : Run (hp.Step (AgreedRequest pool T)) h₀ tr h) : Agreed hp.node.cfg pool T tr h := by
  refine hr.invariant (I := fun tr m => Agreed hp.node.cfg pool T tr m) ⟨hM, ?_⟩ ?_
  · exact fun a info l n ha hl hn hne => absurd (hfresh ha hl hn) hne
  · exact fun tr m e m' hA hs => Agreed.step hnode hap hT hA hs

/-- The part of an unpublish that looks at the id. -/
lemma removeEphemeralPath_agrees {hpn : HostPathNode} {id : String} {r : Except Err Unit}
    (hap : hpn.cfg.PoolsApart) (hT : hpn.cfg.Targets T) (hA : Agreed hpn.cfg pool T tr m)
    (hid : isEphemeralVolumeId id = true)
    (e : m.exec (hpn.removeEphemeralPath id) = (r, h')) :
    UnpublishAgrees hpn.cfg tr id r.isOk m h' where
  removed hok hpub a info l ha hl := by
    cases r with
    | error err => cases hok
    | ok u =>
        rcases (removeVolumeNamed_ok e).2 with ⟨hq, hno⟩ | ⟨i, hi, k, m', hk, _, hn, hm, hq, rfl⟩
        · rw [hq.fs]
          exact hno info (Config.mem_pools.mpr ⟨a, ha⟩) l hl
        · -- the directory that was removed is the only one of that name
          obtain ⟨b, hb⟩ := Config.mem_pools.mp hi
          have hm' : ¬ m'.MountedBelow (k ++ [id]) := by
            unfold MountedBelow at hm ⊢
            rwa [hq.mounts]
          rw [cleared_fs, removed_node (by simp) hm', hq.fs]
          split_ifs with hpre
          · simp
          · intro hdir
            have hpa := (hA.ephemeral ha hl hid (by simp [hdir])).1
            have hpb := (hA.ephemeral hb hk hid (by simp [hn])).1
            rw [hpa, ← hpb, hb] at ha
            cases ha
            cases hk.symm.trans hl
            exact hpre (List.prefix_refl _)
  kept hnot a info l ha hl := by
    have hnone : ∀ i ∈ hpn.cfg.pools, ∀ k, i.loc = some k → m.fs.node (k ++ [id]) = none := by
      intro i hi k hk
      obtain ⟨b, hb⟩ := Config.mem_pools.mp hi
      by_contra hne
      exact hnot (hA.ephemeral hb hk hid hne).2
    cases r with
    | ok u =>
        rcases (removeVolumeNamed_ok e).2 with ⟨hq, _⟩ | ⟨i, hi, k, _, hk, _, hn, _⟩
        · exact Untouched.of_quiet hq
        · rw [hnone i hi k hk] at hn
          cases hn
    | error err =>
        rcases removeVolumeNamed_error e with hq | ⟨i, hi, k, _, _, hk, _, hn, _⟩
        · exact Untouched.of_quiet hq
        · rw [hnone i hi k hk] at hn
          cases hn
  others a info l n ha hl hor := by
    have hne : id ≠ n := by
      rintro rfl
      rcases hor with hne | hn
      · exact hne rfl
      · rw [hid] at hn
        cases hn
    have hf := HostPathController.removeVolumeNamed_frame (hA.mounts.poolsUnmounted hT) e
    refine Untouched.of_frame hf fun q hq => ?_
    rintro ⟨b, i, k, hb, hk, hkq⟩
    exact (hap.volumes_apart hb hk ha hl fun h => hne h.2).not_below hkq hq

namespace UnpublishAgrees

variable {cfg' : Config} {id : String} {ok : Bool}

lemma reorders (hre : cfg'.Reorders cfg) (ha : UnpublishAgrees cfg tr id ok h h') :
    UnpublishAgrees cfg' tr id ok h h' := by
  obtain ⟨h₁, h₂, h₃⟩ := ha
  constructor <;> simp only [← hre.lookup] <;> assumption

/-- Up to some point the unpublish did not reach the pools. -/
lemma of_untouched (hun : ∀ {a info l}, cfg.storagePoolInfo.lookup a = some info →
      info.loc = some l → Untouched l h m) (ha : UnpublishAgrees cfg tr id ok m h') :
    UnpublishAgrees cfg tr id ok h h' where
  removed := ha.removed
  kept hnot _ _ _ hb hl := (hun hb hl).trans (ha.kept hnot hb hl)
  others _ _ l n hb hl hor :=
    Untouched.trans (fun q hq => hun hb hl q ((List.prefix_append l _).trans hq))
      (ha.others n hb hl hor)

/-- Nothing happened, to a volume that is not ephemeral or without success. -/
lemma refl (hnot : ok = true → ¬ PublishedEphemeral tr id) : UnpublishAgrees cfg tr id ok h h where
  removed hok hpub := absurd hpub (hnot hok)
  kept _ _ _ _ _ _ := Untouched.of_quiet (Quiet.refl h)
  others _ _ _ _ _ _ _ := Untouched.of_quiet (Quiet.refl h)

end UnpublishAgrees

/-- **Publish and unpublish agree on which volumes are ephemeral**, in every run in which the
names agree with it: created names do not start with `csi`, and the ids of ephemeral volumes do,
each in one pool. -/
theorem unpublish_agrees_run {hpc : HostPathController} {req : NodeUnpublishVolumeRequest}
    {res : Except Err Response} (hnew : newHostPathController cfg = Except.ok hpc)
    (hap : cfg.PoolsApart) (hT : cfg.Targets T) (hM : MountsOn T h₀) (hfresh : cfg.NoEphemeral h₀)
    (hr : Run (HostPath.Step ⟨⟨cfg⟩, hpc⟩ (AgreedRequest pool T)) h₀ tr h)
    (hs : HostPath.Step ⟨⟨cfg⟩, hpc⟩ (AgreedRequest pool T) h
      (Event.request (Request.nodeUnpublishVolume (some req)) res) h') :
    UnpublishAgrees cfg tr req.volumeId res.isOk h h' := by
  obtain ⟨rfl, _⟩ := newHostPathController_ok hnew
  have hA := Agreed.run rfl hap hT hM hfresh hr
  cases hs with
  | @request _ hp' outcomes _ _ hre hC he =>
      obtain ⟨r, hex, rfl⟩ := exec_respond he
      have hok : (r.map fun _ => Response.empty).isOk = r.isOk := by
        cases r <;> rfl
      rw [hok]
      have hA' := hA.serving hre.node outcomes
      refine UnpublishAgrees.reorders hre.node ?_
      rcases HostPathNode.nodeUnpublishVolume_cases hex with
        ⟨rfl, hno⟩ | ⟨req', t, hreq, ht, hU⟩
      · rw [hno]
        exact UnpublishAgrees.of_untouched (m := { h with outcomes }) (fun _ _ _ _ => rfl)
          (UnpublishAgrees.refl (by simp))
      · cases hreq
        obtain ⟨m, hMm, hun, hend⟩ := HostPathNode.unpublish_changes (hre.node.targets hT)
          hA'.mounts (hC req rfl t ht) hU
        refine UnpublishAgrees.of_untouched hun ?_
        rcases hend with ⟨rfl, hid⟩ | ⟨hid, r', hrm, hr'⟩
        · refine UnpublishAgrees.refl fun hok hpub => ?_
          rw [hpub.id hr] at hid
          exact absurd (hid hok) (by simp)
        · have hAm : Agreed hp'.node.cfg pool T tr m :=
            hA'.of_node hMm fun ha hl _ => Or.inl (hun ha hl _ (List.prefix_append _ _))
          rw [hr']
          exact removeEphemeralPath_agrees (hre.node.poolsApart hap) (hre.node.targets hT) hAm hid hrm

end Main

/-! ## A node with an ephemeral volume -/

namespace Sample

def ephemeralContext : GoMap String :=
  (AList.singleton storagePoolName "local").insert ephemeralContextKey "true"

def publishRequest (id : String) (context : GoMap String) : NodePublishVolumeRequest :=
  ⟨id, "/pods/a", some ⟨AccessType.mount "" []⟩, false, context⟩

def unpublishRequest (id : String) : Request := Request.nodeUnpublishVolume (some ⟨id, "/pods/a"⟩)

lemma podsTarget : cfg.Targets (· = ["pods", "a"]) where
  apart := by
    rintro t t' rfl rfl hne
    exact absurd rfl hne
  pools := by
    rintro t a info l rfl ha hl
    obtain ⟨rfl, rfl⟩ := eq_of_lookup ha
    cases (show pool.loc = some ["pool"] by decide).symm.trans hl
    exact ⟨by decide, by decide⟩

lemma noEphemeral : cfg.NoEphemeral emptyHost := by
  intro a info l n ha hl _
  obtain ⟨rfl, rfl⟩ := eq_of_lookup ha
  cases (show pool.loc = some ["pool"] by decide).symm.trans hl
  exact emptyHost_volume n

lemma target_of_locate {t : Loc} (ht : locate "/pods/a" = some t) : t = ["pods", "a"] := by
  rw [show locate "/pods/a" = some ["pods", "a"] by decide] at ht
  exact (Option.some.inj ht).symm

/-- The request to publish the ephemeral volume `csi-1`. -/
def ephemeralRequest : Request :=
  Request.nodePublishVolume (some (publishRequest "csi-1" ephemeralContext))

lemma ephemeralRequest_agreed (h : Host) :
    AgreedRequest (fun _ => "local") (· = ["pods", "a"]) driver h ephemeralRequest := by
  rintro req hreq
  cases hreq
  exact ⟨fun t ht => target_of_locate ht, fun _ => ⟨by decide, ["pool"], by decide, by decide,
    pool, by decide, by decide⟩⟩

lemma unpublishRequest_agreed (h : Host) (id : String) :
    AgreedRequest (fun _ => "local") (· = ["pods", "a"]) driver h (unpublishRequest id) := by
  rintro req hreq t ht
  cases hreq
  exact target_of_locate ht

end Sample

/-- An ephemeral volume that is published and unpublished. -/
theorem sample_unpublish_agrees :
    (Sample.result (Sample.after Sample.emptyHost Sample.ephemeralRequest)
        (Sample.unpublishRequest "csi-1")).isOk = true
      ∧ UnpublishAgrees Sample.cfg
        [(Sample.emptyHost, Event.request Sample.ephemeralRequest
          (Sample.result Sample.emptyHost Sample.ephemeralRequest))] "csi-1"
        (Sample.result (Sample.after Sample.emptyHost Sample.ephemeralRequest)
          (Sample.unpublishRequest "csi-1")).isOk
        (Sample.after Sample.emptyHost Sample.ephemeralRequest)
        (Sample.after (Sample.after Sample.emptyHost Sample.ephemeralRequest)
          (Sample.unpublishRequest "csi-1")) :=
  ⟨by decide +kernel, unpublish_agrees_run rfl Sample.layout.pools Sample.podsTarget
    (MountsOn.of_nil rfl) Sample.noEphemeral
    (Run.snoc Run.nil (Sample.step_after (Sample.ephemeralRequest_agreed _)))
    (Sample.step_after (Sample.unpublishRequest_agreed _ "csi-1"))⟩

namespace Sample

/-- The host after a creation of the volume `csi-vol`. -/
def createdHost : Host :=
  after emptyHost (Request.createVolume (some (volumeRequest "csi-vol")))

/-- The host after a publish of the ephemeral volume `eph`. -/
def publishedHost : Host :=
  after emptyHost (Request.nodePublishVolume (some (publishRequest "eph" ephemeralContext)))

end Sample

/-- A created volume whose name starts with `csi` is removed by an unpublish, and the directory of
an ephemeral volume whose name does not is left behind by one. -/
theorem unpublish_removes_created_volume :
    (Sample.createdHost.fs.node ["pool", "csi-vol"] = some Node.dir
        ∧ (Sample.result Sample.createdHost (Sample.unpublishRequest "csi-vol")).isOk = true
        ∧ (Sample.after Sample.createdHost (Sample.unpublishRequest "csi-vol")).fs.node
            ["pool", "csi-vol"] = none)
      ∧ Sample.publishedHost.fs.node ["pool", "eph"] = some Node.dir
        ∧ (Sample.result Sample.publishedHost (Sample.unpublishRequest "eph")).isOk = true
        ∧ (Sample.after Sample.publishedHost (Sample.unpublishRequest "eph")).fs.node
            ["pool", "eph"] = some Node.dir := by
  decide +kernel

end Hostpath
