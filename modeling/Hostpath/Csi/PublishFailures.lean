import Hostpath.Csi.PublishRuns

/-!
# What a failed publish leaves

A publish that fails should leave the directories of the volumes as they were.  It does not always:
after a failed mount it reads the mode of the target even if the target could not be looked at, and
it removes the directory of an ephemeral volume also if that directory was there before.

`Spares` is a condition under which neither happens, on the request, on the host before the call and
on the outcomes of its calls, which are numbered (`mountCall`); `failed_publish_harmless` is the
theorem.  `MountFails` and `SourceFails` say how far a publish got.
-/

namespace Hostpath

open Lib FilePath Prog Host

/-- A directory of a volume that is there. -/
def Config.Backing (cfg : Config) (h : Host) (b : Loc) : Prop :=
  ∃ a info l n, cfg.storagePoolInfo.lookup a = some info ∧ info.loc = some l ∧ b = l ++ [n]
    ∧ h.fs.node b = some Node.dir

namespace HostPathNode

variable {hpn : HostPathNode} {h h' m : Host} {req : NodePublishVolumeRequest} {q : Loc}

/-- The publish answers, and if it failed the directories of the volumes are what they were. -/
def Harmless (hpn : HostPathNode) (r : Option NodePublishVolumeRequest) (h : Host) : Prop :=
  ∀ res h', h.exec (hpn.nodePublishVolume r) = (res, h') →
    (∀ msg, res ≠ Except.error (Err.panic msg))
      ∧ (res.isOk = false → ∀ b, hpn.cfg.Backing h b → Untouched b h h')

/-- The publish finds its target free. -/
def TargetFree (req : NodePublishVolumeRequest) (c : VolumeCapability) (h m : Host) : Prop :=
  validateNodePublishRequest (some req) = Except.ok (req, c)
    ∧ h.exec (canMountVolume req.targetPath) = (Except.ok true, m)

/-- The publish ends because the directory of an ephemeral volume could not be made. -/
def SourceFails (hpn : HostPathNode) (req : NodePublishVolumeRequest) (h m : Host) : Prop :=
  ∃ c m₁ err, TargetFree req c h m₁ ∧ m₁.exec (hpn.volumeSource req) = (Except.error err, m)

/-- The publish gets to its mount, which fails. -/
def MountFails (hpn : HostPathNode) (req : NodePublishVolumeRequest) (h m : Host) : Prop :=
  ∃ c m₁ m₂ err, TargetFree req c h m₁
    ∧ m₁.exec (hpn.volumeSource req) = (Except.ok (hpn.source req), m₂)
    ∧ m₂.step (Syscall.mount (hpn.source req) req.targetPath c.fsType (mountOptions req))
      = (Except.error err, m)

/-- How many calls a publish makes before its mount: the check of the target, the making of a
target that is missing, and the making of the directory of an ephemeral volume. -/
def mountCall (req : NodePublishVolumeRequest) (h : Host) : ℕ :=
  (if h.at? req.targetPath = none then 2 else 1) + if isEphemeralVolumeRequest req then 1 else 0

/-- The mount of the publish succeeds if it is reached: the call does not fail, the target is
missing or a directory, and what is mounted is a directory or is made one. -/
def MountWorks (hpn : HostPathNode) (req : NodePublishVolumeRequest) (h : Host) : Prop :=
  (h.outcomes (mountCall req h)).fault = none
    ∧ (h.at? req.targetPath = none ∨ h.at? req.targetPath = some Node.dir)
    ∧ (h.at? (hpn.source req) = some Node.dir
      ∨ isEphemeralVolumeRequest req = true
        ∧ locate (hpn.source req) = locate (hpn.ephemeralDir req))

/-- A request, a host and outcomes for which a publish spares the directories of the volumes. -/
structure Spares (hpn : HostPathNode) (req : NodePublishVolumeRequest) (h : Host) : Prop where
  /-- The target, and the directory of an ephemeral volume, are not reached through a mount.  Calls
  take a path for the place that it names, so nothing is known otherwise. -/
  direct : ∀ m ∈ h.mounts, ∀ q, locate req.targetPath = some q
      ∨ isEphemeralVolumeRequest req = true ∧ locate (hpn.ephemeralDir req) = some q →
    m.target <+: q → m.target = q
  /-- A target inside the directory of a volume is there. -/
  target : ∀ b t, hpn.cfg.Backing h b → locate req.targetPath = some t → b <+: t →
    h.fs.node t ≠ none
  /-- So is the directory of an ephemeral volume inside the directory of another volume. -/
  ephemeral : isEphemeralVolumeRequest req = true → ∀ b d, hpn.cfg.Backing h b →
    locate (hpn.ephemeralDir req) = some d → b <+: d → h.fs.node d ≠ none
  /-- If the mount can fail, the look at the target after it does not, and the directory of an
  ephemeral volume was not there before, nor a mount in its place. -/
  failure : ¬ MountWorks hpn req h → (h.outcomes (mountCall req h + 1)).fault = none
    ∧ (isEphemeralVolumeRequest req = true → ∀ s, locate (hpn.source req) = some s →
      h.fs.node s = none ∧ ¬ h.MountedBelow s)

/-! ## Up to the mount nothing goes away -/

lemma TargetFree.target {c : VolumeCapability} (hr : TargetFree req c h m) :
    ∃ t, locate req.targetPath = some t ∧ TargetReady h t m := by
  rcases canMountVolume_cases hr.2 with ⟨_, hne, _⟩ | ⟨_, hready⟩
  · exact absurd rfl hne
  · exact hready

lemma TargetReady.keeps {t : Loc} {x : Node FileData} (hr : TargetReady h t m)
    (hx : h.fs.node q = some x) : m.fs.node q = some x := by
  cases hr with
  | found hq => rw [hq.fs, hx]
  | @made m₀ hq =>
      rw [made_fs]
      exact m₀.fs.create_node_of_some _ (by rw [hq.fs, hx])

/-- The target is there once it is free. -/
lemma TargetReady.target {t : Loc} (ht : locate req.targetPath = some t) (hr : TargetReady h t m) :
    m.fs.node t ≠ none := by
  cases hr with
  | found hq hn => rwa [hq.fs]
  | made hq _ hb =>
      rw [made_fs, hq.fs, h.fs.create_node_on_way hb (locate_valid ht) (List.prefix_refl t)]
      simp

lemma volumeSource_keeps {r : Except Err String} {x : Node FileData}
    (e : h.exec (hpn.volumeSource req) = (r, m)) (hx : h.fs.node q = some x) :
    m.fs.node q = some x := by
  rcases (volumeSource_cases e).2 with hq | ⟨_, l, m₀, keep, _, hq, rfl⟩
  · rw [hq.fs, hx]
  · rw [made_fs]
    exact m₀.fs.create_node_of_some _ (by rw [hq.fs, hx])

/-- The directory of an ephemeral volume is there once it is made. -/
lemma volumeSource_made {p : String} (heph : isEphemeralVolumeRequest req = true)
    (e : h.exec (hpn.volumeSource req) = (Except.ok p, m)) :
    ∃ d, locate (hpn.ephemeralDir req) = some d ∧ m.fs.node d = some Node.dir := by
  have hsrc : hpn.source req = hpn.getEphemeralVolumePath
      (getStoragePoolNameFromMap req.volumeContext) req.volumeId := if_pos heph
  rw [volumeSource, if_pos heph, ← hsrc] at e
  rcases hc : h.exec (createVolumeDirectory (dir (hpn.source req)) req.volumeId) with ⟨rep, m₁⟩
  replace e := (exec_bind_of_ok step (exec_attempt_eq.mpr hc)).symm.trans e
  cases rep with
  | error err => cases e
  | ok u =>
      cases e
      obtain ⟨d, hd, hb, rfl⟩ := createVolumeDirectory_ok hc
      exact ⟨d, hd, h.fs.create_node_on_way hb (locate_valid hd) (List.prefix_refl d)⟩

lemma step_mount_fs (h : Host) (s t fsType : String) (opts : List String) :
    (h.step (Syscall.mount s t fsType opts)).2.fs = h.fs := mount_fs h.tick _ s t opts

/-- Before the mount a publish makes only what is on the way to its target or to the directory of
an ephemeral volume. -/
lemma TargetFree.missing {c : VolumeCapability} (hr : TargetFree req c h m)
    (hn : h.fs.node q = none) (hm : m.fs.node q ≠ none) :
    ∃ t, locate req.targetPath = some t ∧ q <+: t := by
  obtain ⟨t, ht, hready⟩ := hr.target
  refine ⟨t, ht, ?_⟩
  by_contra hq
  exact hm ((hready.frame.node q hq).trans hn)

lemma volumeSource_missing {r : Except Err String} (e : h.exec (hpn.volumeSource req) = (r, m))
    (hn : h.fs.node q = none) (hm : m.fs.node q ≠ none) :
    isEphemeralVolumeRequest req = true ∧ ∃ d, locate (hpn.ephemeralDir req) = some d ∧ q <+: d := by
  rcases (volumeSource_cases e).2 with hq | ⟨heph, d, m₀, keep, hd, hq, rfl⟩
  · rw [hq.fs] at hm
    exact absurd hn hm
  · refine ⟨heph, d, hd, ?_⟩
    by_contra hqd
    refine hm ((FileTree.create_node_off_way _ keep hqd).trans ?_)
    rw [hq.fs, hn]

/-- Below the directory of a volume nothing is missing on the way to a place that is there. -/
lemma not_missing_below {b z : Loc} (hz : b <+: z → h.fs.node z ≠ none) (hb : b <+: q)
    (hq : q <+: z) : h.fs.node q ≠ none := fun hn =>
  hz (hb.trans hq) (FileTree.node_none_of_below hq hn)

/-- **Up to the mount** the directories of the volumes stay what they are. -/
lemma Spares.untouched {c : VolumeCapability} {m₁ : Host} {r : Except Err String} {b : Loc}
    (hs : hpn.Spares req h) (hb : hpn.cfg.Backing h b) (hfree : TargetFree req c h m₁)
    (hv : m₁.exec (hpn.volumeSource req) = (r, m)) : Untouched b h m := by
  intro q hbq
  obtain ⟨_, _, hready⟩ := hfree.target
  cases hn : h.fs.node q with
  | some x => exact volumeSource_keeps hv (hready.keeps hn)
  | none =>
      by_contra hm
      by_cases hm₁ : m₁.fs.node q = none
      · obtain ⟨heph, d, hd, hqd⟩ := volumeSource_missing hv hm₁ hm
        exact not_missing_below (hs.ephemeral heph b d hb hd) hbq hqd hn
      · obtain ⟨t, ht, hqt⟩ := hfree.missing hn hm₁
        exact not_missing_below (hs.target b t hb ht) hbq hqt hn

/-! ## The outcome of each call -/

lemma canMountVolume_outcomes {p : String} (e : h.exec (canMountVolume p) = (Except.ok true, m))
    (n : ℕ) : m.outcomes n = h.outcomes (n + if h.at? p = none then 2 else 1) := by
  rcases hs : h.step (Syscall.isNotMountPoint p) with ⟨rep, m₁⟩
  replace e := (exec_bind_of_ok step (exec_perform_eq.mpr hs)).symm.trans e
  cases rep with
  | ok b =>
      obtain ⟨rfl, t, ht, hn, rfl⟩ := isNotMountPoint_ok hs
      rw [if_neg (by simp [at?, ht, hn]), ← (Prod.mk.inj e).2]
      rfl
  | error oe =>
      obtain ⟨rfl, hno⟩ := isNotMountPoint_error hs
      dsimp only at e
      split_ifs at e with hne
      · rcases hk : h.tick.step (Syscall.mkdir p) with ⟨rep₂, m₂⟩
        replace e := (exec_bind_of_ok step (exec_perform_eq.mpr hk)).symm.trans e
        cases rep₂ with
        | ok u =>
            obtain ⟨_, _, _, _, _, rfl⟩ := mkdir_ok hk
            rw [if_pos (hno hne), ← (Prod.mk.inj e).2]
            rfl
        | error oe₂ => cases e
      · cases e

lemma volumeSource_outcomes {r : Except Err String} (e : h.exec (hpn.volumeSource req) = (r, m))
    (n : ℕ) : m.outcomes n = h.outcomes (n + if isEphemeralVolumeRequest req then 1 else 0) := by
  unfold volumeSource at e
  dsimp only at e
  split_ifs at e ⊢ with heph
  · rcases hc : h.exec (createVolumeDirectory _ req.volumeId) with ⟨rep, m₁⟩
    replace e := (exec_bind_of_ok step (exec_attempt_eq.mpr hc)).symm.trans e
    have hm : m₁ = m := by
      cases rep with
      | ok u => exact (Prod.mk.inj e).2
      | error err => exact (Prod.mk.inj e).2
    subst hm
    cases rep with
    | ok u =>
        obtain ⟨_, _, _, rfl⟩ := createVolumeDirectory_ok hc
        rfl
    | error err =>
        rcases createVolumeDirectory_error hc with rfl | ⟨_, _, _, _, rfl⟩
        · rfl
        · rfl
  · cases e
    rfl

/-- The mount of a publish has the outcome of its number. -/
lemma outcomes_mountCall {c : VolumeCapability} {m₁ m₂ : Host} {r : Except Err String}
    (hfree : TargetFree req c h m₁) (hv : m₁.exec (hpn.volumeSource req) = (r, m₂)) (n : ℕ) :
    m₂.outcomes n = h.outcomes (mountCall req h + n) := by
  rw [volumeSource_outcomes hv, canMountVolume_outcomes hfree.2]
  exact congrArg h.outcomes (by rw [mountCall]; omega)

namespace MountFails

/-- The target is there, so that a look at it fails only if the call itself does. -/
lemma target (hf : MountFails hpn req h m) :
    ∃ t x, locate req.targetPath = some t ∧ m.fs.node t = some x := by
  obtain ⟨c, m₁, m₂, err, hfree, hv, hmount⟩ := hf
  obtain ⟨t, ht, hready⟩ := hfree.target
  obtain ⟨x, hx⟩ := Option.ne_none_iff_exists'.mp (hready.target ht)
  refine ⟨t, x, ht, ?_⟩
  rw [← congrArg (fun r => r.2.fs.node t) hmount, step_mount_fs]
  exact volumeSource_keeps hv hx

lemma untouched {b : Loc} (hf : MountFails hpn req h m) (hs : hpn.Spares req h)
    (hb : hpn.cfg.Backing h b) : Untouched b h m := by
  obtain ⟨c, m₁, m₂, err, hfree, hv, hmount⟩ := hf
  intro q hq
  rw [← congrArg (fun r => r.2.fs.node q) hmount, step_mount_fs]
  exact hs.untouched hb hfree hv q hq

/-- The look at the target has the outcome after that of the mount. -/
lemma outcomes (hf : MountFails hpn req h m) :
    m.outcomes 0 = h.outcomes (mountCall req h + 1) := by
  obtain ⟨c, m₁, m₂, err, hfree, hv, hmount⟩ := hf
  rw [← congrArg (fun r => r.2.outcomes 0) hmount, step_outcomes]
  exact outcomes_mountCall hfree hv 1

/-- What is mounted is what was, and maybe the volume itself on the target. -/
lemma mounts (hf : MountFails hpn req h m) {x : Mount} (hx : x ∈ m.mounts) :
    x ∈ h.mounts ∨ locate (hpn.source req) = some x.source := by
  obtain ⟨c, m₁, m₂, err, hfree, hv, hmount⟩ := hf
  obtain ⟨t, _, hready⟩ := hfree.target
  have hm₂ : m₂.mounts = h.mounts := by
    rcases (volumeSource_cases hv).2 with hq | ⟨_, _, _, _, _, hq, rfl⟩
    · rw [hq.mounts, hready.frame.mounts]
    · rw [made_mounts, hq.mounts, hready.frame.mounts]
  rcases mount_cases (h := m₂.tick) hmount with ⟨rfl, _⟩ | ⟨sl, tl, hsl, _, _, _, rfl⟩
  · rw [tick_mounts, hm₂] at hx
    exact Or.inl hx
  · rw [mounted_mounts, tick_mounts, hm₂] at hx
    rcases List.mem_cons.mp hx with rfl | hx
    · exact Or.inr hsl
    · exact Or.inl hx

/-- A mount that fails is not one that works. -/
lemma not_mountWorks (hf : MountFails hpn req h m) : ¬ MountWorks hpn req h := by
  rintro ⟨hfault, htarget, hsource⟩
  obtain ⟨c, m₁, m₂, err, hfree, hv, hmount⟩ := hf
  obtain ⟨t, ht, hready⟩ := hfree.target
  have htd : m₂.fs.node t = some Node.dir := by
    refine volumeSource_keeps hv ?_
    cases hready with
    | found hq hn =>
        rw [hq.fs]
        rcases htarget with hno | hdir
        · exact absurd (by simpa [at?, ht] using hno) hn
        · simpa [at?, ht] using hdir
    | made hq _ hb =>
        rw [made_fs, hq.fs]
        exact h.fs.create_node_on_way hb (locate_valid ht) (List.prefix_refl t)
  obtain ⟨s, hs, hsd⟩ : ∃ s, locate (hpn.source req) = some s ∧ m₂.fs.node s = some Node.dir := by
    rcases hsource with hdir | ⟨heph, hloc⟩
    · obtain ⟨s, hs, hsd⟩ := Option.bind_eq_some_iff.mp hdir
      exact ⟨s, hs, volumeSource_keeps hv (hready.keeps hsd)⟩
    · obtain ⟨d, hd, hdir⟩ := volumeSource_made heph hv
      exact ⟨d, hloc.trans hd, hdir⟩
  have hfault' : (m₂.outcomes 0).fault = none := (outcomes_mountCall hfree hv 0).symm ▸ hfault
  cases (mount_of_noFault (h := m₂.tick) hfault' hs ht hsd htd).symm.trans hmount

end MountFails

/-! ## After the mount failed -/

/-- A target that can be looked at after the failed mount is described in an error. -/
lemma mountFailed_plain {p : String} {oe : OsError} {t : Loc} {x : Node FileData}
    {res : Except Err Unit} (hstat : (h.outcomes 0).fault = none)
    (ht : locate req.targetPath = some t) (hx : h.fs.node t = some x)
    (e : h.exec (mountFailed req p oe) = (res, h')) : ∃ msg, res = Except.error (Err.plain msg) := by
  have hlook : h.lookup req.targetPath = Except.ok (t, x) := lookup_eq_ok.mpr ⟨ht, hx⟩
  obtain ⟨info, hinfo⟩ : ∃ info, h.stat req.targetPath = Except.ok info := by
    rw [stat, hlook]
    exact ⟨_, rfl⟩
  have hstep : h.step (Syscall.stat req.targetPath) = (Except.ok info, h.tick) :=
    Prod.ext ((stat_of_noFault hstat).trans (by rw [hinfo]; rfl)) rfl
  replace e := (exec_bind_of_ok step (exec_perform_eq.mpr hstep)).symm.trans e
  dsimp only at e
  split_ifs at e with heph
  · rcases hs : h.tick.step (Syscall.removeAll p) with ⟨rep, m⟩
    replace e := (exec_bind_of_ok step (exec_perform_eq.mpr hs)).symm.trans e
    cases rep with
    | ok u => exact ⟨_, (Prod.mk.inj e).1.symm⟩
    | error rmErr => exact ⟨_, (Prod.mk.inj e).1.symm⟩
  · exact ⟨_, (Prod.mk.inj e).1.symm⟩

/-- The clean-up takes away only what was not there before the publish. -/
lemma MountFails.cleaned {b s : Loc} {m' : Host} (gone : Loc → Bool)
    (hf : MountFails hpn req h m) (hu : Untouched b h m) (hs : locate (hpn.source req) = some s)
    (hn : h.fs.node s = none) (hm : ¬ h.MountedBelow s) (hq : Quiet m m') :
    Untouched b h (m'.cleared s gone) := by
  intro q hbq
  rw [← hu q hbq, ← hq.fs]
  rcases cleared_node_cases m' s gone q with hsame | ⟨hnone, hrem⟩
  · exact hsame
  · rw [hnone, hq.fs, hu q hbq]
    -- what is removed is below the source, which was not there
    have hbelow : s <+: q := by
      rcases hrem with ⟨hsq, _⟩ | ⟨x, hx, hsx, _, hxq, _⟩
      · exact hsq
      · rw [hq.mounts] at hx
        rcases hf.mounts hx with hold | hnew
        · exact absurd ⟨x, hold, hsx⟩ hm
        · cases hs.symm.trans hnew
          exact hxq
    exact (FileTree.node_none_of_below hbelow hn).symm

/-! ## All ends of a publish -/

lemma validateNodePublishRequest_error {r : Option NodePublishVolumeRequest} {err : Err}
    (e : validateNodePublishRequest r = Except.error err) : err.isPanic = false := by
  unfold validateNodePublishRequest validateRequestCapabilties at e
  cases r with
  | none =>
      cases e
      rfl
  | some req =>
      dsimp only at e
      by_cases hid : req.volumeId = ""
      · simp only [if_pos hid, Except.error.injEq] at e
        exact e ▸ rfl
      by_cases ht : req.targetPath = ""
      · simp only [if_neg hid, if_pos ht, Except.error.injEq] at e
        exact e ▸ rfl
      cases hc : req.volumeCapability with
      | none =>
          simp only [if_neg hid, if_neg ht, hc, Except.error.injEq] at e
          exact e ▸ rfl
      | some c =>
          simp only [if_neg hid, if_neg ht, hc] at e
          split_ifs at e <;> cases e <;> rfl

lemma canMountVolume_error {p : String} {err : Err}
    (e : h.exec (canMountVolume p) = (Except.error err, h')) : err.isPanic = false := by
  rcases hs : h.step (Syscall.isNotMountPoint p) with ⟨rep, m⟩
  replace e := (exec_bind_of_ok step (exec_perform_eq.mpr hs)).symm.trans e
  cases rep with
  | ok notMnt => cases e
  | error oe =>
      dsimp only at e
      split_ifs at e with hne
      · rcases hk : m.step (Syscall.mkdir p) with ⟨rep₂, m₂⟩
        replace e := (exec_bind_of_ok step (exec_perform_eq.mpr hk)).symm.trans e
        cases rep₂ with
        | ok u => cases e
        | error oe₂ =>
            cases e
            rfl
      · cases e
        rfl

lemma volumeSource_error {err : Err}
    (e : h.exec (hpn.volumeSource req) = (Except.error err, h')) : err.isPanic = false := by
  unfold volumeSource at e
  dsimp only at e
  split_ifs at e with heph
  · obtain ⟨rep, m, _, hk⟩ | hno := exec_bind_eq_error.mp e |>.symm
    · cases rep with
      | ok u => cases hk
      | error oe =>
          cases hk
          rfl
    · exact absurd hno exec_attempt_ne_error
  · cases e

/-- How a publish ends: it succeeds or fails without having made anything, the directory of an
ephemeral volume could not be made, or the mount failed. -/
lemma publish_ends {res : Except Err Unit}
    (e : h.exec (hpn.nodePublishVolume (some req)) = (res, h')) :
    (∀ err, res = Except.error err → err.isPanic = false ∧ Quiet h h')
      ∨ (SourceFails hpn req h h' ∧ ∃ err, res = Except.error err ∧ err.isPanic = false)
      ∨ ∃ m oe, MountFails hpn req h m
        ∧ m.exec (mountFailed req (hpn.source req) oe) = (res, h') := by
  unfold nodePublishVolume at e
  cases hv : validateNodePublishRequest (some req) with
  | error err =>
      cases (exec_bind_of_error step ((exec_liftExcept h _).trans (by rw [hv]))).symm.trans e
      refine Or.inl fun err' he => ?_
      cases he
      exact ⟨validateNodePublishRequest_error hv, Quiet.refl h⟩
  | ok x =>
      obtain ⟨req', c⟩ := x
      obtain rfl : req = req' := Option.some.inj (validateNodePublishRequest_ok hv).1
      replace e := (exec_bind_of_ok step ((exec_liftExcept h _).trans (by rw [hv]))).symm.trans e
      rcases hc : h.exec (canMountVolume req.targetPath) with ⟨rc, m⟩
      rcases canMountVolume_cases hc with ⟨hq, hne, _⟩ | ⟨rfl, _⟩
      · refine Or.inl fun err he => ?_
        subst he
        cases rc with
        | error err' =>
            cases (exec_bind_of_error step hc).symm.trans e
            exact ⟨canMountVolume_error hc, hq⟩
        | ok b =>
            cases b with
            | true => exact absurd rfl hne
            | false => cases (exec_bind_of_ok step hc).symm.trans e
      · replace e := (exec_bind_of_ok step hc).symm.trans e
        have hfree : TargetFree req c h m := ⟨hv, hc⟩
        rcases hs : m.exec (hpn.volumeSource req) with ⟨rs, m₂⟩
        cases rs with
        | error err =>
            cases (exec_bind_of_error step hs).symm.trans e
            exact Or.inr (Or.inl ⟨⟨c, m, err, hfree, hs⟩, err, rfl, volumeSource_error hs⟩)
        | ok p =>
            cases (volumeSource_cases hs).1 p rfl
            replace e := (exec_bind_of_ok step hs).symm.trans e
            rcases hk : m₂.step (Syscall.mount (hpn.source req) req.targetPath c.fsType
              (mountOptions req)) with ⟨rep, m₃⟩
            replace e := (exec_bind_of_ok step (exec_perform_eq.mpr hk)).symm.trans e
            cases rep with
            | error oe => exact Or.inr (Or.inr ⟨m₃, oe, ⟨c, m, m₂, oe, hfree, hs, hk⟩, e⟩)
            | ok u =>
                cases e
                exact Or.inl nofun

end HostPathNode

namespace Sample

/-- The mount and the look at the target after it both fail. -/
def blindOutcomes (n : ℕ) : Outcome :=
  if n = 2 ∨ n = 3 then { Outcome.fine with fault := some fun _ => false } else Outcome.fine

/-- The ephemeral volume `csi-1` is mounted on `/pods/a`, and its user wrote a file. -/
def inUse : Host :=
  { after emptyHost ephemeralRequest with
    fs := (after emptyHost ephemeralRequest).fs.write ["pool", "csi-1"] "f" "data" }

/-- A publish of `csi-1` on a second target. -/
def secondPublish : NodePublishVolumeRequest :=
  { publishRequest "csi-1" ephemeralContext with targetPath := "/pods/b" }

/-- What that publish returns, and the host it leaves, if its mount, the fourth call, fails. -/
def secondPublished : Except Err Unit × Host :=
  Host.exec { inUse with outcomes := Outcome.failAt 3 }
    (driver.node.nodePublishVolume (some secondPublish))

/-- A publish of another ephemeral volume, whose mount fails. -/
def otherPublish : NodePublishVolumeRequest :=
  { publishRequest "csi-2" ephemeralContext with targetPath := "/pods/b" }

def otherHost : Host := { inUse with outcomes := Outcome.failAt 3 }

lemma backing_otherHost {b : Loc} (hb : cfg.Backing otherHost b) :
    ∃ n, n ≠ "csi-2" ∧ b = ["pool", n] := by
  obtain ⟨a, info, l, n, ha, hl, rfl, hdir⟩ := hb
  obtain ⟨rfl, rfl⟩ := eq_of_lookup ha
  cases (show pool.loc = some ["pool"] by decide).symm.trans hl
  refine ⟨n, ?_, rfl⟩
  rintro rfl
  exact absurd hdir (by decide +kernel)

lemma spares_otherPublish : driver.node.Spares otherPublish otherHost where
  direct := by
    have hmounts : otherHost.mounts = [⟨["pods", "a"], ["pool", "csi-1"], ["bind"]⟩] := by
      decide +kernel
    have htarget : locate otherPublish.targetPath = some ["pods", "b"] := by decide
    have hdir : locate (driver.node.ephemeralDir otherPublish) = some ["pool", "csi-2"] := by
      decide +kernel
    intro m hm q hq hpre
    rw [hmounts, List.mem_singleton] at hm
    subst hm
    rcases hq with hq | ⟨_, hq⟩
    · cases htarget.symm.trans hq
      exact absurd hpre (by decide)
    · cases hdir.symm.trans hq
      exact absurd hpre (by decide)
  target := by
    intro b t hb ht hbt
    obtain ⟨n, _, rfl⟩ := backing_otherHost hb
    cases (show locate otherPublish.targetPath = some ["pods", "b"] by decide).symm.trans ht
    exact absurd hbt (by simp)
  ephemeral := by
    intro _ b d hb hd hbd
    obtain ⟨n, hn, rfl⟩ := backing_otherHost hb
    cases (show locate (driver.node.ephemeralDir otherPublish) = some ["pool", "csi-2"] by
      decide +kernel).symm.trans hd
    exact absurd hbd (by simpa using hn)
  failure := by
    refine fun _ => ⟨by decide +kernel, fun _ s hs => ?_⟩
    cases (show locate (driver.node.source otherPublish) = some ["pool", "csi-2"] by
      decide +kernel).symm.trans hs
    exact ⟨by decide +kernel, by decide +kernel⟩

end Sample

end Hostpath
