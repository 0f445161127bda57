import Hostpath.Host.Frame
import Hostpath.Host.Mounts
import Hostpath.Csi.Node

/-!
# What publishing and unpublishing do

The node handlers read off their executions.  `nodePublishVolume_cases` and `mountVolume_effect`
say that a publish makes at most the target and the directory of an ephemeral volume and puts at
most one mount on the target, a target that had none.  `nodeUnpublishVolume_cases` lists the ends
of an unpublish: stopped before anything was removed, stopped at the target, or past it.
-/

namespace Hostpath

open Lib FilePath Prog Host

/-! ## Request checks -/

lemma validateNodePublishRequest_ok {r : Option NodePublishVolumeRequest}
    {x : NodePublishVolumeRequest × VolumeCapability}
    (e : validateNodePublishRequest r = Except.ok x) :
    r = some x.1 ∧ x.1.volumeId ≠ "" ∧ x.1.targetPath ≠ "" ∧ x.1.volumeCapability = some x.2
      ∧ x.2.hasBlock = false ∧ x.2.hasMount = true := by
  unfold validateNodePublishRequest validateRequestCapabilties at e
  cases r with
  | none => cases e
  | some req =>
      dsimp only at e
      by_cases hid : req.volumeId = ""
      · simp [hid] at e
      by_cases ht : req.targetPath = ""
      · simp [hid, ht] at e
      cases hc : req.volumeCapability with
      | none => simp [hid, ht, hc] at e
      | some c =>
          simp only [if_neg hid, if_neg ht, hc] at e
          split_ifs at e with hb hm; cases e
          exact ⟨rfl, hid, ht, hc, by simpa using hb, by simpa using hm⟩

lemma validateNodeUnpublishRequest_ok {r : Option NodeUnpublishVolumeRequest}
    {req : NodeUnpublishVolumeRequest} (e : validateNodeUnpublishRequest r = Except.ok req) :
    r = some req ∧ req.volumeId ≠ "" ∧ req.targetPath ≠ "" := by
  unfold validateNodeUnpublishRequest at e
  cases r with
  | none => cases e
  | some x =>
      dsimp only at e
      split_ifs at e with hid ht; cases e
      exact ⟨rfl, hid, ht⟩

namespace HostPathNode

variable {hpn : HostPathNode} {h h' : Host}

/-! ## The target -/

/-- The target is a place where nothing is mounted, made now if there was none. -/
inductive TargetReady (h : Host) (t : Loc) : Host → Prop
  | found {m : Host} (hq : Quiet h m) (hn : h.fs.node t ≠ none) (htop : h.top t = none) :
      TargetReady h t m
  | made {m : Host} (hq : Quiet h m) (hn : h.fs.node t = none) (hb : h.fs.blocked t = false) :
      TargetReady h t (m.made t fun _ => true)

lemma TargetReady.frame {t : Loc} (hr : TargetReady h t h') : Frame (· <+: t) h h' := by
  cases hr with
  | found hq => exact Frame.of_quiet hq
  | made hq => exact (Frame.of_quiet hq).trans (Frame.made _ fun q hqt _ => hqt)

lemma canMountVolume_cases {p : String} {r : Except Err Bool}
    (e : h.exec (canMountVolume p) = (r, h')) :
    (Quiet h h' ∧ r ≠ Except.ok true
        ∧ (r = Except.ok false → ∃ t, locate p = some t ∧ h.top t ≠ none))
      ∨ (r = Except.ok true ∧ ∃ t, locate p = some t ∧ TargetReady h t h') := by
  cases hs : h.step (Syscall.isNotMountPoint p) with
  | mk rep m =>
      replace e := (exec_bind_of_ok step (exec_perform_eq.mpr hs)).symm.trans e
      cases rep with
      | ok b =>
          obtain ⟨rfl, t, ht, hn, rfl⟩ := isNotMountPoint_ok hs
          obtain ⟨rfl, rfl⟩ := Prod.mk.inj e
          cases htop : h.top t with
          | none => exact Or.inr ⟨rfl, t, ht, TargetReady.found (Quiet.tick h) hn htop⟩
          | some x =>
              refine Or.inl ⟨Quiet.tick h, ?_, fun _ => ⟨t, ht, by simp [htop]⟩⟩
              simp
      | error oe =>
          obtain ⟨rfl, hno⟩ := isNotMountPoint_error hs
          dsimp only at e
          split_ifs at e with hne
          · cases hk : h.tick.step (Syscall.mkdir p) with
            | mk rep₂ m₂ =>
                replace e := (exec_bind_of_ok step (exec_perform_eq.mpr hk)).symm.trans e
                cases rep₂ with
                | ok u =>
                    obtain ⟨rfl, rfl⟩ := Prod.mk.inj e
                    obtain ⟨t, ht, hn, hb, _, rfl⟩ := mkdir_ok hk
                    exact Or.inr ⟨rfl, t, ht,
                      TargetReady.made ((Quiet.tick h).trans (Quiet.tick _)) hn hb⟩
                | error oe₂ =>
                    obtain ⟨rfl, rfl⟩ := Prod.mk.inj e
                    cases mkdir_error hk
                    exact Or.inl ⟨(Quiet.tick h).trans (Quiet.tick _), nofun, nofun⟩
          · obtain ⟨rfl, rfl⟩ := Prod.mk.inj e
            exact Or.inl ⟨Quiet.tick h, nofun, nofun⟩

/-! ## The mount -/

/-- The directory a publish mounts. -/
def source (hpn : HostPathNode) (req : NodePublishVolumeRequest) : String :=
  if isEphemeralVolumeRequest req then
    hpn.getEphemeralVolumePath (getStoragePoolNameFromMap req.volumeContext) req.volumeId
  else join [(hpn.cfg.pool (getStoragePoolNameFromMap req.volumeContext)).path, req.volumeId]

/-- Where a publish makes the directory of an ephemeral volume. -/
def ephemeralDir (hpn : HostPathNode) (req : NodePublishVolumeRequest) : String :=
  join [dir (hpn.source req), req.volumeId]

/-- Looking up what to mount makes the directory of an ephemeral volume, or a part of the way to
it, and nothing else. -/
lemma volumeSource_cases {req : NodePublishVolumeRequest} {r : Except Err String}
    (e : h.exec (hpn.volumeSource req) = (r, h')) :
    (∀ p, r = Except.ok p → p = hpn.source req) ∧ (Quiet h h'
      ∨ isEphemeralVolumeRequest req = true ∧ ∃ l m keep, locate (hpn.ephemeralDir req) = some l
        ∧ Quiet h m ∧ h' = m.made l keep) := by
  unfold volumeSource at e
  by_cases heph : isEphemeralVolumeRequest req = true
  · have hsrc : hpn.source req = hpn.getEphemeralVolumePath
        (getStoragePoolNameFromMap req.volumeContext) req.volumeId := if_pos heph
    rw [if_pos heph, ← hsrc] at e
    rcases hc : h.exec (createVolumeDirectory (dir (hpn.source req)) req.volumeId) with ⟨rep, m⟩
    replace e := (exec_bind_of_ok step (exec_attempt_eq.mpr hc)).symm.trans e
    cases rep with
    | ok u =>
        cases e
        obtain ⟨l, hl, _, rfl⟩ := createVolumeDirectory_ok hc
        refine ⟨fun p hp => (Except.ok.inj hp).symm, Or.inr ⟨heph, l, h.tick, _, hl, Quiet.tick h, rfl⟩⟩
    | error err =>
        cases e
        refine ⟨nofun, ?_⟩
        rcases createVolumeDirectory_error hc with rfl | ⟨l, reach, hl, _, rfl⟩
        · exact Or.inl (Quiet.tick h)
        · exact Or.inr ⟨heph, l, h.tick, _, hl, Quiet.tick h, rfl⟩
  · have hsrc : hpn.source req = join [(hpn.cfg.pool
        (getStoragePoolNameFromMap req.volumeContext)).path, req.volumeId] := if_neg heph
    rw [if_neg heph, ← hsrc] at e
    cases e
    exact ⟨fun p hp => (Except.ok.inj hp).symm, Or.inl (Quiet.refl h)⟩

/-- Cleaning up after a failed mount never ends well, and removes at most the directory of an
ephemeral volume. -/
lemma mountFailed_cases {req : NodePublishVolumeRequest} {p : String} {oe : OsError}
    {r : Except Err Unit} (e : h.exec (mountFailed req p oe) = (r, h')) :
    r.isOk = false ∧ (Quiet h h' ∨ isEphemeralVolumeRequest req = true ∧ ∃ l m gone,
      locate p = some l ∧ Quiet h m ∧ h' = m.cleared l gone) := by
  cases hs : h.step (Syscall.stat req.targetPath) with
  | mk rep m =>
      replace e := (exec_bind_of_ok step (exec_perform_eq.mpr hs)).symm.trans e
      have hm : m = h.tick := (congrArg Prod.snd hs).symm
      subst hm
      cases rep with
      | error oe' =>
          cases e
          exact ⟨rfl, Or.inl (Quiet.tick h)⟩
      | ok fi =>
          dsimp only at e
          split_ifs at e with heph
          · cases hk : h.tick.step (Syscall.removeAll p) with
            | mk rep₂ m₂ =>
                replace e := (exec_bind_of_ok step (exec_perform_eq.mpr hk)).symm.trans e
                have hq : Quiet h h.tick.tick := (Quiet.tick h).trans (Quiet.tick _)
                cases rep₂ with
                | ok u =>
                    cases e
                    refine ⟨rfl, ?_⟩
                    rcases removeAll_ok hk with ⟨_, rfl⟩ | ⟨l, hl, _, _, _, rfl⟩
                    · exact Or.inl hq
                    · exact Or.inr ⟨heph, l, _, _, hl, hq, rfl⟩
                | error rmErr =>
                    cases e
                    refine ⟨rfl, ?_⟩
                    rcases (removeAll_error hk).2 with rfl | ⟨l, gone, hl, rfl⟩
                    · exact Or.inl hq
                    · exact Or.inr ⟨heph, l, _, _, hl, hq, rfl⟩
          · cases e
            exact ⟨rfl, Or.inl (Quiet.tick h)⟩

def mountOptions (req : NodePublishVolumeRequest) : List String :=
  if req.readonly then ["bind", "ro"] else ["bind"]

section Mounting

variable (hpn : HostPathNode) (req : NodePublishVolumeRequest)

/-- The directory of an ephemeral volume was made, or as much of the way to it as succeeded. -/
def SourceMade (h m : Host) : Prop :=
  Quiet h m ∨ isEphemeralVolumeRequest req = true ∧ ∃ l m₀ keep,
    locate (hpn.ephemeralDir req) = some l ∧ Quiet h m₀ ∧ m = m₀.made l keep

/-- The volume was mounted on the target, which had to be a directory. -/
def Bound (ok : Bool) (h h' : Host) : Prop :=
  ∃ s t, locate (hpn.source req) = some s ∧ locate req.targetPath = some t
    ∧ h.fs.node s = some Node.dir ∧ h.fs.node t = some Node.dir
    ∧ h' = h.tick.mounted ⟨t, s, bindOptions (mountOptions req) ok⟩

/-- The directory of an ephemeral volume was removed, or as much of it as succeeded. -/
def CleanedUp (h h' : Host) : Prop :=
  Quiet h h' ∨ isEphemeralVolumeRequest req = true ∧ ∃ l m gone,
    locate (hpn.source req) = some l ∧ Quiet h m ∧ h' = m.cleared l gone

/-- The ends of a mount, with whether it succeeded.  A mount that failed may still be in place. -/
inductive Mounting (h : Host) : Bool → Host → Prop
  | noSource {h' : Host} (hs : SourceMade hpn req h h') : Mounting h false h'
  | failed {m m' h' : Host} (hs : SourceMade hpn req h m)
      (hb : Quiet m m' ∨ Bound hpn req false m m') (hc : CleanedUp hpn req m' h') : Mounting h false h'
  | bound {m h' : Host} (hs : SourceMade hpn req h m) (hb : Bound hpn req true m h') :
      Mounting h true h'

end Mounting

lemma mountVolume_cases {req : NodePublishVolumeRequest} {c : VolumeCapability}
    {r : Except Err Unit} (e : h.exec (hpn.mountVolume req c) = (r, h')) :
    Mounting hpn req h r.isOk h' := by
  rcases hv : h.exec (hpn.volumeSource req) with ⟨rs, m⟩
  obtain ⟨hsrc, hmade⟩ := volumeSource_cases hv
  cases rs with
  | error err =>
      cases (exec_bind_of_error step hv).symm.trans e
      exact Mounting.noSource hmade
  | ok p =>
      cases hsrc p rfl
      replace e := (exec_bind_of_ok step hv).symm.trans e
      cases hs : m.step (Syscall.mount (hpn.source req) req.targetPath c.fsType
          (mountOptions req)) with
      | mk rep m' =>
          replace e := (exec_bind_of_ok step (exec_perform_eq.mpr hs)).symm.trans e
          have hb : (Quiet m m' ∧ rep.isOk = false) ∨ Bound hpn req rep.isOk m m' := by
            rcases mount_cases hs with ⟨rfl, hr⟩ | ⟨s, t, hsl, ht, hsd, htd, rfl⟩
            · exact Or.inl ⟨Quiet.tick m, hr⟩
            · exact Or.inr ⟨s, t, hsl, ht, hsd, htd, rfl⟩
          cases rep with
          | ok u =>
              cases e
              rcases hb with ⟨_, hr⟩ | hb
              · cases hr
              · exact Mounting.bound hmade hb
          | error oe =>
              obtain ⟨hr, hc⟩ := mountFailed_cases e
              rw [hr]
              exact Mounting.failed hmade (hb.imp_left fun hq => hq.1) hc

/-- A mount puts the source of the request on the target, or nothing. -/
lemma Mounting.mounts {req : NodePublishVolumeRequest} {ok : Bool} {t : Loc}
    (ht : locate req.targetPath = some t) (hM : Mounting hpn req h ok h') :
    (h'.mounts = h.mounts ∧ ok = false) ∨ ∃ s, locate (hpn.source req) = some s
      ∧ h'.mounts = ⟨t, s, bindOptions (mountOptions req) ok⟩ :: h.mounts := by
  have hmade : ∀ {m : Host}, SourceMade hpn req h m → m.mounts = h.mounts := by
    rintro m (hq | ⟨_, l, m₀, keep, _, hq, rfl⟩)
    · exact hq.mounts
    · exact hq.mounts
  have hbound : ∀ {m m' : Host} {ok : Bool}, SourceMade hpn req h m → Bound hpn req ok m m' →
      ∃ s, locate (hpn.source req) = some s
        ∧ m'.mounts = ⟨t, s, bindOptions (mountOptions req) ok⟩ :: h.mounts := by
    rintro m m' ok hs ⟨s, t', hsl, ht', _, _, rfl⟩
    cases ht.symm.trans ht'
    exact ⟨s, hsl, by rw [mounted_mounts, tick_mounts, hmade hs]⟩
  cases hM with
  | noSource hs => exact Or.inl ⟨hmade hs, rfl⟩
  | bound hs hb => exact Or.inr (hbound hs hb)
  | @failed m m' _ hs hb hc =>
      have hclean : h'.mounts = m'.mounts := by
        rcases hc with hq | ⟨_, l, m₀, gone, _, hq, rfl⟩
        · exact hq.mounts
        · exact hq.mounts
      rw [hclean]
      rcases hb with hq | hb
      · exact Or.inl ⟨hq.mounts.trans (hmade hs), rfl⟩
      · exact Or.inr (hbound hs hb)

/-- The directory of an ephemeral volume, what is below it and what is on the way to it. -/
def EphemeralArea (hpn : HostPathNode) (req : NodePublishVolumeRequest) (q : Loc) : Prop :=
  isEphemeralVolumeRequest req = true
    ∧ ∃ l, locate (hpn.source req) = some l ∧ (q <+: l ∨ l <+: q)

/-- The directory of an ephemeral volume is where its parent says, nothing is mounted in it, and
the target is not in it. -/
def EphemeralApart (hpn : HostPathNode) (req : NodePublishVolumeRequest) (h : Host) (t : Loc) :
    Prop :=
  isEphemeralVolumeRequest req = true → ∃ l, locate (hpn.source req) = some l
    ∧ locate (hpn.ephemeralDir req) = some l ∧ ¬ h.MountedBelow l ∧ ¬ l <+: t

/-- **Effect of a mount.**  Files change in the directory of an ephemeral volume only, and at most
one mount comes on top of the target. -/
lemma Mounting.effect {req : NodePublishVolumeRequest} {ok : Bool} {t : Loc}
    (ht : locate req.targetPath = some t) (heph : EphemeralApart hpn req h t)
    (hM : Mounting hpn req h ok h') :
    (∀ q, ¬ EphemeralArea hpn req q → h'.fs.node q = h.fs.node q)
      ∧ (h'.mounts = h.mounts ∨ ∃ s, locate (hpn.source req) = some s
        ∧ h'.fs.node t = some Node.dir
        ∧ h'.mounts = ⟨t, s, bindOptions (mountOptions req) ok⟩ :: h.mounts) := by
  have hmade : ∀ {m : Host}, SourceMade hpn req h m → Frame (EphemeralArea hpn req) h m := by
    rintro m (hq | ⟨he, l, m₀, keep, hl, hq, rfl⟩)
    · exact Frame.of_quiet hq
    · obtain ⟨l', hsrc, hdir, _⟩ := heph he
      cases hdir.symm.trans hl
      exact (Frame.of_quiet hq).trans (Frame.made _ fun q hq' _ => ⟨he, _, hsrc, Or.inl hq'⟩)
  cases hM with
  | noSource hs => exact ⟨(hmade hs).node, Or.inl (hmade hs).mounts⟩
  | bound hs hb =>
      obtain ⟨s, t', hsl, ht', _, htd, rfl⟩ := hb
      cases ht.symm.trans ht'
      refine ⟨(hmade hs).node, Or.inr ⟨s, hsl, htd, ?_⟩⟩
      rw [mounted_mounts, tick_mounts, (hmade hs).mounts]
  | @failed m m' _ hs hb hc =>
      have hfs : m'.fs = m.fs := by
        rcases hb with hq | ⟨s, t', _, _, _, _, rfl⟩
        · exact hq.fs
        · rfl
      have hbound : m'.mounts = h.mounts ∨ ∃ s, locate (hpn.source req) = some s
          ∧ m'.fs.node t = some Node.dir
          ∧ m'.mounts = ⟨t, s, bindOptions (mountOptions req) false⟩ :: h.mounts := by
        rcases hb with hq | ⟨s, t', hsl, ht', _, htd, rfl⟩
        · exact Or.inl (hq.mounts.trans (hmade hs).mounts)
        · cases ht.symm.trans ht'
          refine Or.inr ⟨s, hsl, htd, ?_⟩
          rw [mounted_mounts, tick_mounts, (hmade hs).mounts]
      have hclean : h'.mounts = m'.mounts ∧ ∀ q, (¬ EphemeralArea hpn req q ∨ q = t) →
          h'.fs.node q = m'.fs.node q := by
        rcases hc with hq | ⟨he, l, m₀, gone, hl, hq, rfl⟩
        · exact ⟨hq.mounts, fun q _ => by rw [hq.fs]⟩
        · obtain ⟨_, hsrc, _, hm, hlt⟩ := heph he
          cases hsrc.symm.trans hl
          have hm₀ : ¬ m₀.MountedBelow l := by
            rintro ⟨x, hx, hlx⟩
            rw [hq.mounts] at hx
            rcases hbound with hms | ⟨s, _, _, hms⟩ <;> rw [hms] at hx
            · exact hm ⟨x, hx, hlx⟩
            · rcases List.mem_cons.mp hx with rfl | hx
              · exact hlt hlx
              · exact hm ⟨x, hx, hlx⟩
          have hf := Frame.cleared (S := fun q => l <+: q) gone hm₀ fun q hq => hq
          refine ⟨hq.mounts, fun q hor => ?_⟩
          refine (hf.node q fun hlq => ?_).trans (by rw [hq.fs])
          rcases hor with hna | rfl
          · exact hna ⟨he, l, hl, Or.inr hlq⟩
          · exact hlt hlq
      refine ⟨fun q hq => ?_, ?_⟩
      · rw [hclean.2 q (Or.inl hq), hfs, (hmade hs).node q hq]
      · rw [hclean.1, hclean.2 t (Or.inr rfl)]
        exact hbound

/-! ## Publishing -/

/-- A publish stops before it mounts, or mounts on a target that had no mount. -/
lemma nodePublishVolume_cases {r : Option NodePublishVolumeRequest} {res : Except Err Unit}
    (e : h.exec (hpn.nodePublishVolume r) = (res, h')) :
    (Quiet h h' ∧ (res.isOk = true → ∃ req t, r = some req ∧ locate req.targetPath = some t
        ∧ h.top t ≠ none))
      ∨ ∃ req t m, r = some req ∧ locate req.targetPath = some t ∧ TargetReady h t m
        ∧ Mounting hpn req m res.isOk h' := by
  unfold nodePublishVolume at e
  cases hv : validateNodePublishRequest r with
  | error err =>
      cases (exec_bind_of_error step ((exec_liftExcept h _).trans (by rw [hv]))).symm.trans e
      exact Or.inl ⟨Quiet.refl h, nofun⟩
  | ok x =>
      obtain ⟨req, c⟩ := x
      obtain ⟨rfl, -⟩ := validateNodePublishRequest_ok hv
      replace e := (exec_bind_of_ok step ((exec_liftExcept h _).trans (by rw [hv]))).symm.trans e
      rcases hc : h.exec (canMountVolume req.targetPath) with ⟨rc, m⟩
      rcases canMountVolume_cases hc with ⟨hq, hne, htop⟩ | ⟨rfl, t, ht, hready⟩
      · cases rc with
        | error err =>
            cases (exec_bind_of_error step hc).symm.trans e
            exact Or.inl ⟨hq, nofun⟩
        | ok b =>
            cases b with
            | true => exact absurd rfl hne
            | false =>
                cases (exec_bind_of_ok step hc).symm.trans e
                obtain ⟨t, ht, hmt⟩ := htop rfl
                exact Or.inl ⟨hq, fun _ => ⟨req, t, rfl, ht, hmt⟩⟩
      · replace e := (exec_bind_of_ok step hc).symm.trans e
        exact Or.inr ⟨req, t, m, rfl, ht, hready, mountVolume_cases e⟩

/-- Without failures, a volume whose directory is there is mounted on any target that has no mount
and is a directory or can be made one. -/
lemma nodePublishVolume_of_noFaults {req : NodePublishVolumeRequest} {c : VolumeCapability}
    {s t : Loc} (hv : validateNodePublishRequest (some req) = Except.ok (req, c))
    (hne : isEphemeralVolumeRequest req = false) (hf : h.NoFaults)
    (hs : locate (hpn.source req) = some s) (hsd : h.fs.node s = some Node.dir)
    (ht : locate req.targetPath = some t)
    (hready : (h.fs.node t = some Node.dir ∧ h.top t = none)
      ∨ h.fs.node t = none ∧ h.fs.blocked t = false ∧ h.fs.node t.dropLast ≠ none) :
    ∃ m, h.exec (hpn.nodePublishVolume (some req)) = (Except.ok (), m)
      ∧ m.mounts = ⟨t, s, mountOptions req⟩ :: h.mounts := by
  have hsrc : hpn.source req = join [(hpn.cfg.pool
      (getStoragePoolNameFromMap req.volumeContext)).path, req.volumeId] := by
    rw [source, hne]
    rfl
  -- the mount itself, once the target is there
  have hmount : ∀ m : Host, m.NoFaults → m.mounts = h.mounts → m.fs.node s = some Node.dir →
      m.fs.node t = some Node.dir → ∃ m', m.exec (hpn.mountVolume req c) = (Except.ok (), m')
        ∧ m'.mounts = ⟨t, s, mountOptions req⟩ :: h.mounts := by
    intro m hfm hms hns hnt
    refine ⟨m.tick.mounted ⟨t, s, mountOptions req⟩, ?_, by rw [mounted_mounts, tick_mounts, hms]⟩
    have hvs : m.exec (hpn.volumeSource req) = (Except.ok (hpn.source req), m) := by
      rw [volumeSource, hne, hsrc]
      rfl
    have hstep : m.step (Syscall.mount (hpn.source req) req.targetPath c.fsType
        (mountOptions req)) = (Except.ok (), m.tick.mounted ⟨t, s, mountOptions req⟩) :=
      mount_of_noFault (hfm 0) hs ht hns hnt
    refine (exec_bind_of_ok step hvs).trans ?_
    exact (exec_bind_of_ok step (exec_perform_eq.mpr hstep)).trans rfl
  have hcheck : ∃ m, h.exec (canMountVolume req.targetPath) = (Except.ok true, m)
      ∧ m.mounts = h.mounts ∧ m.fs.node s = some Node.dir ∧ m.fs.node t = some Node.dir := by
    rcases hready with ⟨hnt, htop⟩ | ⟨hnt, hb, hpar⟩
    · have hstep := isNotMountPoint_of_noFault (hf 0) ht (by simp [hnt])
      refine ⟨h.tick, (exec_bind_of_ok step (exec_perform_eq.mpr hstep)).trans ?_, rfl, hsd, hnt⟩
      rw [htop]
      rfl
    · have hstep := isNotMountPoint_of_missing (hf 0) ht hnt hb
      have hmk : h.tick.step (Syscall.mkdir req.targetPath)
          = (Except.ok (), h.tick.tick.made t fun _ => true) :=
        mkdir_of_noFault (hf 1) ht hnt hb hpar
      refine ⟨_, (exec_bind_of_ok step (exec_perform_eq.mpr hstep)).trans
        ((exec_bind_of_ok step (exec_perform_eq.mpr hmk)).trans rfl), rfl, ?_, ?_⟩
      · have hfr := Frame.made (S := fun q => h.fs.node q = none) (h := h) (l := t)
          (fun _ => true) fun q _ hq => hq
        exact (hfr.node s (by simp [hsd])).trans hsd
      · exact h.fs.create_node_on_way hb (locate_valid ht) (List.prefix_refl t)
  obtain ⟨m, hm, hms, hns, hnt⟩ := hcheck
  obtain ⟨m', hm', hms'⟩ := hmount m (hf.of_exec hm) hms hns hnt
  refine ⟨m', ?_, hms'⟩
  refine (exec_bind_of_ok step ((exec_liftExcept h _).trans (by rw [hv]))).trans ?_
  exact (exec_bind_of_ok step hm).trans hm'

/-! ## Unpublishing -/

/-- Nothing was mounted on the target, or the newest mount was taken off. -/
inductive Unmounting (h : Host) (t : Loc) : Host → Prop
  | nothing {m : Host} (hq : Quiet h m) (hn : h.fs.node t = none ∨ h.top t = none) :
      Unmounting h t m
  | popped {m : Host} (hq : Quiet h m) (htop : h.top t ≠ none) : Unmounting h t (m.unmounted t)

lemma unmountTarget_cases {p : String} {t : Loc} {r : Except Err Unit} (ht : locate p = some t)
    (e : h.exec (unmountTarget p) = (r, h')) :
    (Quiet h h' ∧ r.isOk = false) ∨ r.isOk = true ∧ Unmounting h t h' := by
  cases hs : h.step (Syscall.isNotMountPoint p) with
  | mk rep m =>
      replace e := (exec_bind_of_ok step (exec_perform_eq.mpr hs)).symm.trans e
      cases rep with
      | error oe =>
          obtain ⟨rfl, hno⟩ := isNotMountPoint_error hs
          dsimp only at e
          split_ifs at e with hne
          · cases e
            have hn : h.fs.node t = none := by
              have := hno hne
              rwa [at?, ht] at this
            exact Or.inr ⟨rfl, Unmounting.nothing (Quiet.tick h) (Or.inl hn)⟩
          · cases e
            exact Or.inl ⟨Quiet.tick h, rfl⟩
      | ok b =>
          obtain ⟨rfl, t', ht', hn, rfl⟩ := isNotMountPoint_ok hs
          cases ht.symm.trans ht'
          cases htop : h.top t with
          | none =>
              rw [htop] at e
              cases e
              exact Or.inr ⟨rfl, Unmounting.nothing (Quiet.tick h) (Or.inr htop)⟩
          | some x =>
              rw [htop] at e
              have hq : Quiet h h.tick.tick := (Quiet.tick h).trans (Quiet.tick _)
              cases hk : h.tick.step (Syscall.unmount p) with
              | mk rep₂ m₂ =>
                  replace e := (exec_bind_of_ok step (exec_perform_eq.mpr hk)).symm.trans e
                  cases rep₂ with
                  | ok u =>
                      cases e
                      obtain ⟨t', ht', _, rfl⟩ := unmount_ok hk
                      cases ht.symm.trans ht'
                      exact Or.inr ⟨rfl, Unmounting.popped hq (by simp [htop])⟩
                  | error oe =>
                      cases e
                      rw [unmount_error hk]
                      exact Or.inl ⟨hq, rfl⟩

/-- The target was removed, or as much of it as succeeded. -/
inductive TargetRemoval (h : Host) (t : Loc) : Bool → Host → Prop
  | done (ht : t ≠ []) (hm : ¬ h.MountedBelow t) :
      TargetRemoval h t true (h.tick.cleared t fun _ => true)
  | none : TargetRemoval h t false h.tick
  | cut (gone : Loc → Bool) : TargetRemoval h t false (h.tick.cleared t gone)

lemma removeTarget_cases {p : String} {t : Loc} {r : Except Err Unit} (ht : locate p = some t)
    (e : h.exec (removeTarget p) = (r, h')) : TargetRemoval h t r.isOk h' := by
  cases hs : h.step (Syscall.removeAll p) with
  | mk rep m =>
      replace e := (exec_bind_of_ok step (exec_perform_eq.mpr hs)).symm.trans e
      cases rep with
      | ok u =>
          cases e
          rcases removeAll_ok hs with ⟨hno, _⟩ | ⟨t', ht', hne, hm, _, rfl⟩
          · rw [ht] at hno
            cases hno
          · cases ht.symm.trans ht'
            exact TargetRemoval.done hne hm
      | error oe =>
          cases e
          rcases (removeAll_error hs).2 with rfl | ⟨t', gone, ht', rfl⟩
          · exact TargetRemoval.none
          · cases ht.symm.trans ht'
            exact TargetRemoval.cut gone

/-- The ends of an unpublish, with whether it succeeded: stopped at the mount, stopped at the
target, or past both; the directory of a volume with an ephemeral id goes last. -/
inductive Unpublishing (hpn : HostPathNode) (req : NodeUnpublishVolumeRequest) (t : Loc)
    (h : Host) : Bool → Host → Prop
  | stopped {h' : Host} (hq : Quiet h h') : Unpublishing hpn req t h false h'
  | targetStays {m h' : Host} (hu : Unmounting h t m) (hr : TargetRemoval m t false h') :
      Unpublishing hpn req t h false h'
  | done {m h' : Host} (hid : isEphemeralVolumeId req.volumeId = false) (hu : Unmounting h t m)
      (hr : TargetRemoval m t true h') : Unpublishing hpn req t h true h'
  | ephemeral {m m' h' : Host} {r : Except Err Unit}
      (hid : isEphemeralVolumeId req.volumeId = true) (hu : Unmounting h t m)
      (hr : TargetRemoval m t true m')
      (he : m'.exec (hpn.removeEphemeralPath req.volumeId) = (r, h')) :
      Unpublishing hpn req t h r.isOk h'

lemma nodeUnpublishVolume_cases {r : Option NodeUnpublishVolumeRequest} {res : Except Err Unit}
    (e : h.exec (hpn.nodeUnpublishVolume r) = (res, h')) :
    (h' = h ∧ res.isOk = false) ∨ ∃ req t, r = some req ∧ locate req.targetPath = some t
      ∧ Unpublishing hpn req t h res.isOk h' := by
  unfold nodeUnpublishVolume at e
  cases hv : validateNodeUnpublishRequest r with
  | error err =>
      cases (exec_bind_of_error step ((exec_liftExcept h _).trans (by rw [hv]))).symm.trans e
      exact Or.inl ⟨rfl, rfl⟩
  | ok req =>
      obtain ⟨rfl, _, hne⟩ := validateNodeUnpublishRequest_ok hv
      obtain ⟨t, ht⟩ : ∃ t, locate req.targetPath = some t := ⟨_, locate_eq_some.mpr ⟨hne, rfl⟩⟩
      refine Or.inr ⟨req, t, rfl, ht, ?_⟩
      replace e := (exec_bind_of_ok step ((exec_liftExcept h _).trans (by rw [hv]))).symm.trans e
      rcases hu : h.exec (unmountTarget req.targetPath) with ⟨ru, m⟩
      rcases unmountTarget_cases ht hu with ⟨hq, hru⟩ | ⟨hru, hm⟩
      · cases ru with
        | ok u => cases hru
        | error err =>
            cases (exec_bind_of_error step hu).symm.trans e
            exact Unpublishing.stopped hq
      · cases ru with
        | error err => cases hru
        | ok u =>
            replace e := (exec_bind_of_ok step hu).symm.trans e
            rcases hr : m.exec (removeTarget req.targetPath) with ⟨rr, m'⟩
            have hrem := removeTarget_cases ht hr
            cases rr with
            | error err =>
                cases (exec_bind_of_error step hr).symm.trans e
                exact Unpublishing.targetStays hm hrem
            | ok u =>
                replace e := (exec_bind_of_ok step hr).symm.trans e
                split_ifs at e with hid
                · rcases he : m'.exec (hpn.removeEphemeralPath req.volumeId) with ⟨re, m''⟩
                  replace e := (exec_bind_of_ok step (exec_attempt_eq.mpr he)).symm.trans e
                  cases re with
                  | ok u =>
                      cases e
                      exact Unpublishing.ephemeral hid hm hrem he
                  | error err =>
                      cases e
                      exact Unpublishing.ephemeral (r := Except.error err) hid hm hrem he
                · cases e
                  exact Unpublishing.done (by simpa using hid) hm hrem

end HostPathNode

end Hostpath
