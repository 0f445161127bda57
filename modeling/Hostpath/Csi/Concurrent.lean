import Hostpath.Lib.Interleave
import Hostpath.Csi.Ephemeral

/-!
# Publishing and unpublishing at the same time

The two handlers of the node service check and then act, without a lock, so requests that run at
the same time see each other's effects between any two calls.  As long as a publish has its target
to itself, a target is removed only when nothing is mounted on it, and no unpublish reaches the
data of a volume (`unpublish_spares_volumes`).  Two publishes of one target can both find it free
and stack their mounts, and the unpublish that takes one off then removes the data of the volume
through the other (`unpublish_removes_data`).
-/

namespace Hostpath

open Lib FilePath Prog Host

/-- A request of the node service. -/
inductive NodeRequest where
  | publish (r : Option NodePublishVolumeRequest)
  | unpublish (r : Option NodeUnpublishVolumeRequest)

namespace NodeRequest

/-- The handler of a request, as the calls it makes. -/
def handler (hpn : HostPathNode) : NodeRequest → Prog Syscall Reply (Except Err Unit)
  | publish r => (hpn.nodePublishVolume r).run
  | unpublish r => (hpn.nodeUnpublishVolume r).run

/-- Where the target of a request is. -/
def target : NodeRequest → Option Loc
  | publish r => r.bind fun req => locate req.targetPath
  | unpublish r => r.bind fun req => locate req.targetPath

def isPublish : NodeRequest → Bool
  | publish _ => true
  | unpublish _ => false

/-- The request is for a volume that is not ephemeral, on one of the targets. -/
def Plain (T : Loc → Prop) : NodeRequest → Prop
  | publish r => ∀ req, r = some req →
      isEphemeralVolumeRequest req = false ∧ ∀ t, locate req.targetPath = some t → T t
  | unpublish r => ∀ req, r = some req →
      isEphemeralVolumeId req.volumeId = false ∧ ∀ t, locate req.targetPath = some t → T t

/-- One of the two publishes on the target of the other. -/
def Conflicts (a b : NodeRequest) : Prop :=
  (a.isPublish = true ∨ b.isPublish = true) ∧ ∃ t, a.target = some t ∧ b.target = some t

end NodeRequest

/-- Requests are for volumes that are not ephemeral, and a publish has its target to itself. -/
def Exclusive (T : Loc → Prop) (w : Pool Host NodeRequest Syscall Reply (Except Err Unit))
    (a : NodeRequest) : Prop :=
  a.Plain T ∧ ∀ i b p, w.threads i = some (b, p) → ¬ a.Conflicts b

/-! ## What the requests rely on and guarantee -/

/-- Mounts stay on separate targets, and where there is none on a target of `S` there is none
afterwards. -/
def KeepsFree (T S : Loc → Prop) (h h' : Host) : Prop :=
  MountsOn T h → MountsOn T h' ∧ ∀ t, S t → h.top t = none → h'.top t = none

namespace KeepsFree

variable {T S S' : Loc → Prop} {h m h' : Host}

lemma refl (T S : Loc → Prop) (h : Host) : KeepsFree T S h h := fun hM => ⟨hM, fun _ _ ht => ht⟩

lemma trans (h₁ : KeepsFree T S h m) (h₂ : KeepsFree T S m h') : KeepsFree T S h h' := fun hM =>
  ⟨(h₂ (h₁ hM).1).1, fun t ht hfree => (h₂ (h₁ hM).1).2 t ht ((h₁ hM).2 t ht hfree)⟩

lemma mono (hS : ∀ t, S t → S' t) (hk : KeepsFree T S' h h') : KeepsFree T S h h' := fun hM =>
  ⟨(hk hM).1, fun t ht => (hk hM).2 t (hS t ht)⟩

lemma of_quiet (hq : Quiet h h') : KeepsFree T S h h' := by
  refine fun hM => ⟨hM.of_quiet hq, fun t _ ht => ?_⟩
  rwa [top, hq.mounts]

end KeepsFree

/-- A call that removes something removes a target on which nothing is mounted. -/
def RemovesFree (T : Loc → Prop) (h : Host) : Syscall → Prop
  | Syscall.removeAll p => ∀ t, locate p = some t → T t ∧ ¬ h.MountedBelow t
  | Syscall.mkdir _ => False
  | Syscall.mkdirAll _ => False
  | Syscall.copyReflink _ _ => False
  | _ => True

/-- A publish mounts on its own target only; an unpublish mounts nothing and removes only what
nothing is mounted on. -/
def NodeRequest.contract (T : Loc → Prop) (a : NodeRequest) : Contract Host Syscall where
  rely := KeepsFree T fun t => a.target = some t
  guar := KeepsFree T fun t => a.isPublish = true → a.target ≠ some t
  calls h c := a.isPublish = false → RemovesFree T h c
  refl := KeepsFree.refl T _
  trans := KeepsFree.trans

lemma NodeRequest.compatible {T : Loc → Prop} {a b : NodeRequest} (h : ¬ a.Conflicts b) :
    Pool.Compatible (NodeRequest.contract T) a b := by
  refine ⟨fun s s' hk => hk.mono fun t ht ha hat => h ⟨Or.inl ha, t, hat, ht⟩,
    fun s s' hk => hk.mono fun t ht hb hbt => h ⟨Or.inr hb, t, ht, hbt⟩⟩

/-! ## The calls of the handlers -/

section Calls

variable {cfg : Config} {T : Loc → Prop} {h h' : Host} {p : String} {t : Loc}

/-- Nothing is mounted in a target that is free. -/
lemma MountsOn.not_mountedBelow (hM : MountsOn T h) (hT : cfg.Targets T) (ht : T t)
    (hfree : h.top t = none) : ¬ h.MountedBelow t := by
  rintro ⟨x, hx, htx⟩
  by_cases hxt : x.target = t
  · exact top_eq_none.mp hfree x hx hxt
  · exact (hT.apart ht (hM.target x hx) (Ne.symm hxt)).1 htx

/-- A target that is not there is free. -/
lemma MountsOn.top_of_missing (hM : MountsOn T h) (hn : h.fs.node t = none) : h.top t = none :=
  top_eq_none.mpr fun x hx hxt => hM.node x hx (hxt ▸ hn)

/-- What a look at the mounts of a target says. -/
lemma isNotMountPoint_free (hM : MountsOn T h) (ht : locate p = some t)
    {r : Except OsError Bool} (e : h.step (Syscall.isNotMountPoint p) = (r, h'))
    (hr : r = Except.ok true ∨ ∃ err, r = Except.error err ∧ err.isNotExist = true) :
    h.top t = none := by
  rcases hr with rfl | ⟨err, rfl, hne⟩
  · obtain ⟨_, l, hl, _, hb⟩ := isNotMountPoint_ok e
    cases ht.symm.trans hl
    exact Option.isNone_iff_eq_none.mp hb.symm
  · have hat := (isNotMountPoint_error e).2 hne
    rw [at?, ht] at hat
    exact hM.top_of_missing hat

/-- A mount on a free target. -/
lemma keepsFree_mount {src : String} {opts : List String} {fsType : String} (ht : ∀ t,
    locate p = some t → T t ∧ h.top t = none) :
    KeepsFree T (fun t => locate p ≠ some t) h (h.step (Syscall.mount src p fsType opts)).2 := by
  intro hM
  rcases hs : h.step (Syscall.mount src p fsType opts) with ⟨rep, m⟩
  rcases mount_cases (h := h.tick) hs with ⟨rfl, _⟩ | ⟨sl, tl, _, htl, _, htd, rfl⟩
  · exact KeepsFree.of_quiet (Quiet.tick h) hM
  · obtain ⟨hTt, hfree⟩ := ht tl htl
    refine ⟨⟨?_, ?_, ?_⟩, fun t' ht' hfree' => ?_⟩
    · exact List.forall_mem_cons.mpr ⟨hTt, hM.target⟩
    · refine List.forall_mem_cons.mpr ⟨?_, hM.node⟩
      rw [mounted_fs, htd]
      simp
    · refine List.nodup_cons.mpr ⟨fun hmem => ?_, hM.single⟩
      obtain ⟨x, hx, hxt⟩ := List.mem_map.mp hmem
      exact top_eq_none.mp hfree x hx hxt
    · refine top_eq_none.mpr (List.forall_mem_cons.mpr ⟨fun heq => ?_, top_eq_none.mp hfree'⟩)
      subst heq
      exact ht' htl

/-- Making a target. -/
lemma keepsFree_mkdir {S : Loc → Prop} : KeepsFree T S h (h.step (Syscall.mkdir p)).2 := by
  intro hM
  rcases hs : h.step (Syscall.mkdir p) with ⟨rep, m⟩
  cases rep with
  | error err =>
      cases mkdir_error (h := h.tick) hs
      exact KeepsFree.of_quiet (Quiet.tick h) hM
  | ok u =>
      obtain ⟨l, _, hn, _, _, rfl⟩ := mkdir_ok (h := h.tick) hs
      refine ⟨⟨hM.target, fun x hx => ?_, hM.single⟩, fun t _ ht => ht⟩
      have hframe : Frame (fun q => h.fs.node q = none) h.tick (h.tick.made l fun _ => true) :=
        Frame.made _ fun q _ hq => hq
      rw [hframe.node x.target (hM.node x hx)]
      exact hM.node x hx

/-- Unmounting. -/
lemma keepsFree_unmount {S : Loc → Prop} : KeepsFree T S h (h.step (Syscall.unmount p)).2 := by
  intro hM
  rcases hs : h.step (Syscall.unmount p) with ⟨rep, m⟩
  cases rep with
  | error err =>
      cases unmount_error (h := h.tick) hs
      exact KeepsFree.of_quiet (Quiet.tick h) hM
  | ok u =>
      obtain ⟨l, _, _, rfl⟩ := unmount_ok (h := h.tick) hs
      refine ⟨((hM.of_quiet (Quiet.tick h)).unmounted l).1, fun t _ ht => ?_⟩
      have hsub : (h.tick.unmounted l).mounts.Sublist h.mounts := List.eraseP_sublist
      exact top_eq_none.mpr fun x hx => top_eq_none.mp ht x (hsub.subset hx)

/-- Removing a target on which nothing is mounted. -/
lemma keepsFree_removeAll {S : Loc → Prop} (hT : cfg.Targets T)
    (ht : ∀ t, locate p = some t → T t ∧ h.top t = none) :
    KeepsFree T S h (h.step (Syscall.removeAll p)).2 := by
  intro hM
  rcases hs : h.step (Syscall.removeAll p) with ⟨rep, m⟩
  rcases removeAll_cases (h := h.tick) hs with rfl | ⟨l, gone, hl, rfl, _⟩
  · exact KeepsFree.of_quiet (Quiet.tick h) hM
  · obtain ⟨hTl, hfree⟩ := ht l hl
    have hmb := hM.not_mountedBelow hT hTl hfree
    have hframe : Frame (fun q => l <+: q) h.tick (h.tick.cleared l gone) :=
      Frame.cleared gone hmb fun q hq => hq
    exact ⟨(hM.of_quiet (Quiet.tick h)).of_frame hframe fun x hx hlx => hmb ⟨x, hx, hlx⟩,
      fun t _ ht => ht⟩

end Calls

/-! ## The handlers -/

section Handlers

variable {cfg : Config} {hpn : HostPathNode} {T : Loc → Prop} {h : Host}

lemma keeps_liftExcept {α : Type} {K : Contract Host Syscall} (r : Except Err α) :
    Keeps step K (fun a m => r = Except.ok a ∧ m = h) (liftExcept r) h := by
  cases r with
  | ok a => exact Keeps.ret ⟨rfl, rfl⟩
  | error e => exact Keeps.fail e

/-- A publish that goes on to mount has found its target free. -/
lemma keeps_canMountVolume {r : Option NodePublishVolumeRequest} {p : String}
    (htarget : (NodeRequest.publish r).target = locate p) (hM : MountsOn T h) :
    Keeps step (NodeRequest.contract T (NodeRequest.publish r))
      (fun b h => b = true → MountsOn T h ∧ ∀ t, locate p = some t → h.top t = none)
      (HostPathNode.canMountVolume p) h := by
  refine Keeps.bind (Q := fun rep h => MountsOn T h ∧ ((rep = Except.ok true
    ∨ ∃ err, rep = Except.error err ∧ err.isNotExist = true) →
      ∀ t, locate p = some t → h.top t = none)) (Keeps.perform fun m hm => ?_) ?_
  · have hMm := (hm hM).1
    refine ⟨nofun, KeepsFree.of_quiet (Quiet.tick m), hMm.of_quiet (Quiet.tick m), ?_⟩
    exact fun hrep t ht => isNotMountPoint_free (h := m) hMm ht rfl hrep
  · rintro rep m ⟨hMm, hfree⟩
    cases rep with
    | ok b =>
        refine Keeps.ret fun hb => ⟨hMm, hfree (Or.inl ?_)⟩
        rw [hb]
    | error err =>
        dsimp only
        split_ifs with hne
        · refine Keeps.bind (Q := fun _ h => MountsOn T h ∧ ∀ t, locate p = some t → h.top t = none)
            (Keeps.perform fun m' hm' => ?_) ?_
          · refine ⟨nofun, keepsFree_mkdir, ?_⟩
            obtain ⟨hMm', hstill⟩ := hm' hMm
            obtain ⟨hM'', hstill'⟩ := keepsFree_mkdir (S := fun _ => True) (p := p) hMm'
            refine ⟨hM'', fun t ht => hstill' t trivial (hstill t (htarget.trans ht) ?_)⟩
            exact hfree (Or.inr ⟨err, rfl, hne⟩) t ht
          · rintro rep m' hfree'
            cases rep with
            | ok u => exact Keeps.ret fun _ => hfree'
            | error e => exact Keeps.fail _
        · exact Keeps.fail _

/-- **A publish with its target to itself** mounts on it only while it is free. -/
lemma guarded_publish {r : Option NodePublishVolumeRequest}
    (hplain : (NodeRequest.publish r).Plain T) (hM : MountsOn T h) :
    Guarded step (NodeRequest.contract T (NodeRequest.publish r)) (fun _ _ => True)
      (hpn.nodePublishVolume r).run h := by
  refine Guarded.mono (Q := fun x h => ∀ u, x = Except.ok u → True) ?_ fun _ _ _ => trivial
  refine Keeps.bind (keeps_liftExcept _) fun x m hx => ?_
  obtain ⟨hv, rfl⟩ := hx
  obtain ⟨req, c⟩ := x
  obtain ⟨rfl, _⟩ := validateNodePublishRequest_ok hv
  obtain ⟨hne, hTt⟩ := hplain req rfl
  have hne' : ¬ isEphemeralVolumeRequest req = true := by simp [hne]
  refine Keeps.bind (keeps_canMountVolume rfl hM) fun b m' hb => ?_
  split_ifs with hmount
  · obtain ⟨hMm, hfree⟩ := hb hmount
    refine Keeps.bind (Q := fun _ h => h = m') ?_ fun path m'' hm'' => ?_
    · unfold HostPathNode.volumeSource
      dsimp only
      rw [if_neg hne']
      exact Keeps.ret rfl
    subst hm''
    refine Keeps.bind (Q := fun _ _ => True) (Keeps.perform fun n hn => ?_) ?_
    · obtain ⟨hMn, hstill⟩ := hn hMm
      refine ⟨nofun, ?_, trivial⟩
      refine (keepsFree_mount fun t ht => ⟨hTt t ht, hstill t ht (hfree t ht)⟩).mono ?_
      exact fun t ht => ht rfl
    · rintro rep n _
      cases rep with
      | ok u => exact Keeps.ret trivial
      | error e =>
          refine Keeps.bind (Q := fun _ _ => True) (Keeps.perform fun n' _ => ?_) ?_
          · exact ⟨nofun, KeepsFree.of_quiet (Quiet.tick n'), trivial⟩
          · rintro rep' n' _
            cases rep' with
            | error e' => exact Keeps.fail _
            | ok info =>
                dsimp only
                rw [if_neg hne']
                exact Keeps.fail _
  · exact Keeps.ret trivial

/-- Once an unpublish has taken the mount off, its target is free. -/
lemma keeps_unmountTarget {r : Option NodeUnpublishVolumeRequest} {p : String}
    (hM : MountsOn T h) :
    Keeps step (NodeRequest.contract T (NodeRequest.unpublish r))
      (fun _ h => MountsOn T h ∧ ∀ t, locate p = some t → h.top t = none)
      (HostPathNode.unmountTarget p) h := by
  refine Keeps.bind (Q := fun rep h => MountsOn T h ∧ ((rep = Except.ok true
    ∨ ∃ err, rep = Except.error err ∧ err.isNotExist = true) →
      ∀ t, locate p = some t → h.top t = none)) (Keeps.perform fun m hm => ?_) ?_
  · have hMm := (hm hM).1
    refine ⟨fun _ => trivial, KeepsFree.of_quiet (Quiet.tick m), hMm.of_quiet (Quiet.tick m), ?_⟩
    exact fun hrep t ht => isNotMountPoint_free (h := m) hMm ht rfl hrep
  · rintro rep m ⟨hMm, hfree⟩
    cases rep with
    | error err =>
        dsimp only
        split_ifs with hne
        · exact Keeps.ret ⟨hMm, hfree (Or.inr ⟨err, rfl, hne⟩)⟩
        · exact Keeps.fail _
    | ok b =>
        cases b with
        | true => exact Keeps.ret ⟨hMm, hfree (Or.inl rfl)⟩
        | false =>
            refine Keeps.bind (Q := fun rep h => MountsOn T h ∧ (∀ u, rep = Except.ok u →
              ∀ t, locate p = some t → h.top t = none)) (Keeps.perform fun m' hm' => ?_) ?_
            · obtain ⟨hMm', _⟩ := hm' hMm
              refine ⟨fun _ => trivial, keepsFree_unmount,
                (keepsFree_unmount (S := fun _ => True) hMm').1, fun u hu t ht => ?_⟩
              obtain ⟨l, hl, _, heq⟩ := unmount_ok (h := m'.tick) (Prod.ext hu rfl)
              cases ht.symm.trans hl
              have hfree' := ((hMm'.of_quiet (Quiet.tick m')).unmounted t).2
              have heq' : (m'.step (Syscall.unmount p)).2 = m'.tick.unmounted t := heq
              rw [heq']
              exact top_eq_none.mpr hfree'
            · rintro rep m' ⟨hMm', hfree'⟩
              cases rep with
              | ok u => exact Keeps.ret ⟨hMm', hfree' u rfl⟩
              | error e => exact Keeps.fail _

/-- **An unpublish without a publish of its target** removes the target only while it is free. -/
lemma guarded_unpublish {r : Option NodeUnpublishVolumeRequest} (hT : cfg.Targets T)
    (hplain : (NodeRequest.unpublish r).Plain T) (hM : MountsOn T h) :
    Guarded step (NodeRequest.contract T (NodeRequest.unpublish r)) (fun _ _ => True)
      (hpn.nodeUnpublishVolume r).run h := by
  refine Guarded.mono (Q := fun x h => ∀ u, x = Except.ok u → True) ?_ fun _ _ _ => trivial
  refine Keeps.bind (keeps_liftExcept _) fun req m hx => ?_
  obtain ⟨hv, rfl⟩ := hx
  obtain ⟨rfl, _⟩ := validateNodeUnpublishRequest_ok hv
  obtain ⟨hne, hTt⟩ := hplain req rfl
  refine Keeps.bind (keeps_unmountTarget hM) fun _ m' hm' => ?_
  obtain ⟨hMm, hfree⟩ := hm'
  refine Keeps.bind (Q := fun _ _ => True) ?_ fun _ _ _ => ?_
  · refine Keeps.bind (Q := fun _ _ => True) (Keeps.perform fun n hn => ?_) ?_
    · obtain ⟨hMn, hstill⟩ := hn hMm
      have ht : ∀ t, locate req.targetPath = some t → T t ∧ n.top t = none := fun t ht =>
        ⟨hTt t ht, hstill t ht (hfree t ht)⟩
      refine ⟨fun _ t hloc => ?_, keepsFree_removeAll hT ht, trivial⟩
      exact ⟨(ht t hloc).1, hMn.not_mountedBelow hT (ht t hloc).1 (ht t hloc).2⟩
    · rintro rep n _
      cases rep with
      | ok u => exact Keeps.ret trivial
      | error e => exact Keeps.fail _
  · rw [if_neg (by simp [hne])]
    exact Keeps.ret trivial

end Handlers

/-! ## All interleavings -/

/-- A call that removes only free targets does not reach the pools. -/
lemma RemovesFree.node {cfg : Config} {T : Loc → Prop} {h : Host} {c : Syscall}
    (hc : RemovesFree T h c) (hT : cfg.Targets T) {a : String} {info : StoragePoolInfo} {l q : Loc}
    (ha : cfg.storagePoolInfo.lookup a = some info) (hl : info.loc = some l) (hq : l <+: q) :
    (h.step c).2.fs.node q = h.fs.node q := by
  cases c with
  | removeAll p =>
      rcases hs : h.step (Syscall.removeAll p) with ⟨rep, m⟩
      rcases removeAll_cases (h := h.tick) hs with rfl | ⟨t, gone, ht, rfl, _⟩
      · rfl
      · obtain ⟨hTt, hmb⟩ := hc t ht
        have hframe : Frame (fun q => t <+: q) h.tick (h.tick.cleared t gone) :=
          Frame.cleared gone hmb fun q hq => hq
        exact hframe.node q ((hT.pools hTt ha hl).not_below hq)
  | mount s t fsType opts =>
      rcases hs : h.step (Syscall.mount s t fsType opts) with ⟨rep, m⟩
      rcases mount_cases (h := h.tick) hs with ⟨rfl, _⟩ | ⟨_, _, _, _, _, _, rfl⟩ <;> rfl
  | unmount t =>
      rcases hs : h.step (Syscall.unmount t) with ⟨rep, m⟩
      cases rep with
      | error err =>
          cases unmount_error (h := h.tick) hs
          rfl
      | ok u =>
          obtain ⟨_, _, _, rfl⟩ := unmount_ok (h := h.tick) hs
          rfl
  | mkdir p => exact hc.elim
  | mkdirAll p => exact hc.elim
  | copyReflink s d => exact hc.elim
  | _ => rfl

/-- **Unpublishing spares the volumes.**  However publishes and unpublishes interleave and whatever
calls fail, as long as a publish has its target to itself: a target is removed only when nothing
is mounted on it, and no call of an unpublish changes anything in a pool. -/
theorem unpublish_spares_volumes {hpn : HostPathNode} {T : Loc → Prop} {h : Host}
    {tr : List (Pool Host NodeRequest Syscall Reply (Except Err Unit)
      × Move NodeRequest Syscall Reply)}
    {w : Pool Host NodeRequest Syscall Reply (Except Err Unit)}
    (hT : hpn.cfg.Targets T) (hM : MountsOn T h)
    (hr : Run (Pool.Step step (NodeRequest.handler hpn) (Exclusive T)) (Pool.idle h) tr w) :
    ∀ x ∈ tr, ∀ i r c rep, x.2 = Move.call i (NodeRequest.unpublish r) c rep →
      (∀ p t, c = Syscall.removeAll p → locate p = some t → ¬ x.1.shared.MountedBelow t)
        ∧ ∀ a info l q, hpn.cfg.storagePoolInfo.lookup a = some info → info.loc = some l →
          l <+: q → (x.1.shared.step c).2.fs.node q = x.1.shared.fs.node q := by
  intro x hx i r c rep hmv
  have hcalls := (Pool.calls_satisfy (K := NodeRequest.contract T) (I := MountsOn T)
    (fun a s s' hg hI => (hg hI).1) ?_ hr (Pool.sound_idle hM) x hx).2 i _ c rep hmv rfl
  · refine ⟨fun p t hc ht => ?_, fun a info l q ha hl hq => hcalls.node hT ha hl hq⟩
    subst hc
    exact (hcalls t ht).2
  · rintro w a hI ⟨hplain, hno⟩
    refine ⟨fun j b p hj => NodeRequest.compatible (hno j b p hj), ?_⟩
    cases a with
    | publish r => exact guarded_publish hplain hI
    | unpublish r => exact guarded_unpublish hT hplain hI

namespace Sample

def node : HostPathNode := ⟨cfg⟩

/-- The pool holds the volume `vol` with one file, and there is a place for targets. -/
def nodeHost : Host := { host with fs := host.fs.create ["pods"] fun _ => true }

/-- A publish of `vol`, which is not ephemeral, and the unpublish that goes with it. -/
def publishVol : NodeRequest :=
  NodeRequest.publish (some (publishRequest "vol" (AList.singleton storagePoolName "local")))

def unpublishVol : NodeRequest := NodeRequest.unpublish (some ⟨"vol", "/pods/a"⟩)

lemma plain_publishVol : publishVol.Plain (· = ["pods", "a"]) := by
  rintro req hreq
  cases hreq
  exact ⟨by decide, fun t ht => target_of_locate ht⟩

lemma plain_unpublishVol : unpublishVol.Plain (· = ["pods", "a"]) := by
  rintro req hreq
  cases hreq
  exact ⟨by decide, fun t ht => target_of_locate ht⟩

/-- The volume is mounted on its target. -/
def mountedHost : Host :=
  { nodeHost with
    fs := nodeHost.fs.create ["pods", "a"] fun _ => true
    mounts := [⟨["pods", "a"], ["pool", "vol"], ["bind"]⟩] }

lemma mountsOn_mountedHost : MountsOn (· = ["pods", "a"]) mountedHost where
  target := by decide
  node := by
    have hdir : mountedHost.fs.node ["pods", "a"] ≠ none := by decide +kernel
    exact List.forall_mem_singleton.mpr hdir
  single := by decide

/-- The unpublish alone. -/
def alone : Pool Host NodeRequest Syscall Reply (Except Err Unit) :=
  ⟨mountedHost, Function.update (fun _ => none) 0 (some (unpublishVol, unpublishVol.handler node))⟩

/-- The call removes the target. -/
def removesTarget (x : Pool Host NodeRequest Syscall Reply (Except Err Unit)
    × Move NodeRequest Syscall Reply) : Bool :=
  match x.2 with
  | Move.call _ (NodeRequest.unpublish _) c _ => c = Syscall.removeAll "/pods/a"
  | _ => false

end Sample

/-- An unpublish of a volume that is mounted once runs to the removal of its target, and spares
the volume. -/
theorem sample_unpublish_spares :
    ∃ tr w, Run (Pool.Step step (NodeRequest.handler Sample.node) (Exclusive (· = ["pods", "a"])))
        (Pool.idle Sample.mountedHost) tr w
      ∧ (∃ x ∈ tr, Sample.removesTarget x = true)
      ∧ ∀ x ∈ tr, ∀ i r c rep, x.2 = Move.call i (NodeRequest.unpublish r) c rep →
        (∀ p t, c = Syscall.removeAll p → locate p = some t → ¬ x.1.shared.MountedBelow t)
          ∧ ∀ a info l q, Sample.node.cfg.storagePoolInfo.lookup a = some info →
            info.loc = some l → l <+: q →
            (x.1.shared.step c).2.fs.node q = x.1.shared.fs.node q := by
  have hplay : ((Pool.play step (NodeRequest.handler Sample.node)
      [Pool.Choice.go 0, Pool.Choice.go 0, Pool.Choice.go 0] Sample.alone).map
        fun r => r.1.any Sample.removesTarget) = some true := by
    decide +kernel
  obtain ⟨⟨tr, w⟩, hrun, hany⟩ := Option.map_eq_some_iff.mp hplay
  have hstart : Pool.Step step (NodeRequest.handler Sample.node) (Exclusive (· = ["pods", "a"]))
      (Pool.idle Sample.mountedHost) (Move.start 0 Sample.unpublishVol) Sample.alone :=
    Pool.Step.start rfl ⟨Sample.plain_unpublishVol, nofun⟩
  have hr := Run.trans (Run.snoc Run.nil hstart) (Pool.run_of_play (by simp) hrun)
  obtain ⟨x, hx, hrem⟩ := List.any_eq_true.mp hany
  exact ⟨_, w, hr, ⟨x, List.mem_append_right _ hx, hrem⟩,
    unpublish_spares_volumes Sample.podsTarget Sample.mountsOn_mountedHost hr⟩

namespace Sample

/-- Both publishes find the target free before either mounts, and the unpublish takes off the
mount of one of them. -/
def stacked : List (Pool.Choice NodeRequest) :=
  [Pool.Choice.start 0 publishVol, Pool.Choice.start 1 publishVol,
    Pool.Choice.go 0, Pool.Choice.go 0, Pool.Choice.go 1, Pool.Choice.go 0, Pool.Choice.go 1,
    Pool.Choice.start 2 unpublishVol, Pool.Choice.go 2, Pool.Choice.go 2, Pool.Choice.go 2]

/-- The call removes the file of the volume through a mount. -/
def removesData (x : Pool Host NodeRequest Syscall Reply (Except Err Unit)
    × Move NodeRequest Syscall Reply) : Bool :=
  match x.2 with
  | Move.call _ (NodeRequest.unpublish _) c _ =>
      c = Syscall.removeAll "/pods/a" && x.1.shared.MountedBelow ["pods", "a"]
        && x.1.shared.fs.node ["pool", "vol", "f"] = some (Node.file "old")
        && (x.1.shared.step c).2.fs.node ["pool", "vol", "f"] = none
  | _ => false

end Sample

/-- Two publishes that run at the same time, and then an unpublish: it removes the target with one
mount still on it, and with it the data of the volume. -/
theorem unpublish_removes_data :
    ∃ tr w, Run (Pool.Step step (NodeRequest.handler Sample.node)
        fun _ a => a.Plain (· = ["pods", "a"])) (Pool.idle Sample.nodeHost) tr w
      ∧ ∃ x ∈ tr, Sample.removesData x = true := by
  have hplay : ((Pool.play step (NodeRequest.handler Sample.node) Sample.stacked
      (Pool.idle Sample.nodeHost)).map fun r => r.1.any Sample.removesData) = some true := by
    decide +kernel
  obtain ⟨⟨tr, w⟩, hrun, hany⟩ := Option.map_eq_some_iff.mp hplay
  refine ⟨tr, w, Pool.run_of_play ?_ hrun, List.any_eq_true.mp hany⟩
  intro i a ha _
  simp only [Sample.stacked, List.mem_cons, Pool.Choice.start.injEq, reduceCtorEq, List.not_mem_nil,
    or_false, false_or] at ha
  rcases ha with ⟨_, rfl⟩ | ⟨_, rfl⟩ | ⟨_, rfl⟩
  · exact Sample.plain_publishVol
  · exact Sample.plain_publishVol
  · exact Sample.plain_unpublishVol

end Hostpath
