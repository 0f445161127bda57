import Hostpath.Csi.Ephemeral

/-!
# What a published target shows

A publish finds out whether something is mounted on its target, and if so it succeeds without a
look at what is mounted there.  A publish that succeeds therefore shows the volume it was asked for
only if whatever was mounted on the target before was that volume, with the same read-only flag.

**One step.**  `publish_shows` is about a publish that succeeds, `Step.keeps` about any step
after it that does not unpublish the target.

**Runs.**  `published_shows_run` puts them together: in a run in which no publish finds anything
else on its target, a successful publish shows the volume until its target is unpublished.

What a failed mount leaves counts: the bind mount may be in place without its `ro` option, and a
second attempt then succeeds on a target that can be written to (`publish_shows_other`).
-/

namespace Hostpath

open Lib FilePath Prog Host

namespace HostPathNode

variable {hpn : HostPathNode} {h h' : Host} {req : NodePublishVolumeRequest} {x : Mount} {t : Loc}

/-- The mount binds the directory of the volume, read-only if and only if that was asked for. -/
structure AsRequested (hpn : HostPathNode) (req : NodePublishVolumeRequest) (x : Mount) : Prop where
  source : locate (hpn.source req) = some x.source
  bind : "bind" ∈ x.options
  readonly : "ro" ∈ x.options ↔ req.readonly = true

/-- The mount that is visible on the target of the request is the one the request asks for. -/
def Shows (hpn : HostPathNode) (req : NodePublishVolumeRequest) (h : Host) : Prop :=
  ∃ t x, locate req.targetPath = some t ∧ h.top t = some x ∧ hpn.AsRequested req x

/-- What is mounted on the target of a publish is what the publish asks for.  A target that
something is mounted on is there. -/
def FindsOwn (hpn : HostPathNode) (req : NodePublishVolumeRequest) (h : Host) : Prop :=
  ∀ t x, locate req.targetPath = some t → h.top t = some x →
    h.fs.node t ≠ none ∧ hpn.AsRequested req x

lemma asRequested_of_bound {s : Loc} (hs : locate (hpn.source req) = some s) :
    hpn.AsRequested req ⟨t, s, mountOptions req⟩ := by
  refine ⟨hs, ?_, ?_⟩
  · unfold mountOptions
    split_ifs <;> simp
  · unfold mountOptions
    split_ifs with hro <;> simp [hro]

/-! ## One step -/

/-- **A publish that succeeds shows the volume**, unless it found something else. -/
lemma publish_shows {u : Unit} (hown : hpn.FindsOwn req h)
    (e : h.exec (hpn.nodePublishVolume (some req)) = (Except.ok u, h')) : hpn.Shows req h' := by
  rcases nodePublishVolume_cases e with ⟨hq, hfound⟩ | ⟨_, t, m, hreq, ht, hready, hM⟩
  · obtain ⟨_, t, hreq, ht, htop⟩ := hfound rfl
    cases hreq
    obtain ⟨x, hx⟩ := Option.ne_none_iff_exists'.mp htop
    exact ⟨t, x, ht, (top_congr hq.mounts).trans hx, (hown t x ht hx).2⟩
  · cases hreq
    rcases hM.mounts ht with ⟨_, hno⟩ | ⟨s, hs, hms⟩
    · cases hno
    · refine ⟨t, _, ht, (top_cons hms).trans (if_pos rfl), ?_⟩
      exact asRequested_of_bound hs

/-- A publish changes what is on top of a target only if nothing was mounted there. -/
lemma publish_keeps_top {pub : NodePublishVolumeRequest} {res : Except Err Unit}
    (hown : hpn.FindsOwn pub h) (htop : h.top t = some x)
    (e : h.exec (hpn.nodePublishVolume (some pub)) = (res, h')) : h'.top t = some x := by
  rcases nodePublishVolume_cases e with ⟨hq, _⟩ | ⟨_, t', m, hreq, ht', hready, hM⟩
  · exact (top_congr hq.mounts).trans htop
  · cases hreq
    have hne : t' ≠ t := by
      rintro rfl
      cases hready with
      | found hq hn hfree => cases hfree.symm.trans htop
      | made hq hn hb => exact (hown t' x ht' htop).1 hn
    have hm : m.top t = some x := (top_congr hready.frame.mounts).trans htop
    rcases hM.mounts ht' with ⟨hms, _⟩ | ⟨s, _, hms⟩
    · exact (top_congr hms).trans hm
    · exact (top_cons hms).trans ((if_neg hne).trans hm)

/-- An unpublish takes a mount off its own target only. -/
lemma unpublish_keeps_top {r : Option NodeUnpublishVolumeRequest} {res : Except Err Unit}
    (hne : ∀ un, r = some un → locate un.targetPath ≠ some t)
    (e : h.exec (hpn.nodeUnpublishVolume r) = (res, h')) : h'.top t = h.top t := by
  rcases nodeUnpublishVolume_cases e with ⟨rfl, _⟩ | ⟨un, t', rfl, ht', hU⟩
  · rfl
  have htt : t ≠ t' := fun heq => hne un rfl (heq ▸ ht')
  have hunmount : ∀ {m : Host}, Unmounting h t' m → m.top t = h.top t := by
    intro m hu
    cases hu with
    | nothing hq => exact top_congr hq.mounts
    | @popped m₀ hq _ => exact (top_eraseP (unmounted_mounts m₀ t') htt).trans (top_congr hq.mounts)
  have hremove : ∀ {m m' : Host} {ok : Bool}, TargetRemoval m t' ok m' → m'.top t = m.top t := by
    intro m m' ok hr
    cases hr <;> exact top_congr rfl
  generalize res.isOk = ok at hU
  cases hU with
  | stopped hq => exact top_congr hq.mounts
  | targetStays hu hr => exact (hremove hr).trans (hunmount hu)
  | done _ hu hr => exact (hremove hr).trans (hunmount hu)
  | @ephemeral _ m' _ r' _ hu hr he =>
      refine Eq.trans (top_congr ?_) ((hremove hr).trans (hunmount hu))
      cases r' with
      | ok u =>
          rcases (removeVolumeNamed_ok he).2 with ⟨hq, _⟩ | ⟨_, _, l, m, _, _, _, _, hq, rfl⟩
          · exact hq.mounts
          · exact hq.mounts
      | error err =>
          rcases removeVolumeNamed_error he with hq | ⟨_, _, l, m, gone, _, _, _, hq, rfl⟩
          · exact hq.mounts
          · exact hq.mounts

lemma Shows.of_top (hs : hpn.Shows req h) (htop : ∀ t x, locate req.targetPath = some t →
    h.top t = some x → h'.top t = some x) : hpn.Shows req h' := by
  obtain ⟨t, x, ht, hx, hreq⟩ := hs
  exact ⟨t, x, ht, htop t x ht hx, hreq⟩

/-- The directory of a volume does not depend on the order of the pools. -/
lemma source_reorders {hpn' : HostPathNode} (hre : hpn.cfg.Reorders hpn'.cfg)
    (req : NodePublishVolumeRequest) : hpn'.source req = hpn.source req := by
  unfold source getEphemeralVolumePath
  rw [hre.pool, hre.pool, hre.rest]

lemma Shows.reorders {hpn' : HostPathNode} (hre : hpn.cfg.Reorders hpn'.cfg) :
    hpn'.Shows req h ↔ hpn.Shows req h := by
  constructor <;> rintro ⟨t, x, ht, hx, hsrc, hbind, hro⟩ <;>
    refine ⟨t, x, ht, hx, ?_, hbind, hro⟩
  · rwa [← source_reorders hre]
  · rwa [source_reorders hre]

end HostPathNode

/-! ## Runs -/

/-- Publishes and unpublishes, in which no publish finds anything but its own volume mounted on its
target. -/
def FindsOwnRequest (hp : HostPath) (h : Host) : Request → Prop
  | Request.nodePublishVolume r => ∀ req, r = some req → hp.node.FindsOwn req h
  | Request.nodeUnpublishVolume _ => True
  | _ => False

/-- The event is an unpublish of the place a path leads to. -/
def Event.Unpublishes (path : String) : Event → Prop
  | Event.request (Request.nodeUnpublishVolume (some un)) _ => locate un.targetPath = locate path
  | _ => False

/-- The request to publish succeeded, and its target was not unpublished since then. -/
def Published (tr : List (Host × Event)) (req : NodePublishVolumeRequest) : Prop :=
  ∃ tr₁ m res tr₂,
    tr = tr₁ ++ (m, Event.request (Request.nodePublishVolume (some req)) (Except.ok res)) :: tr₂
      ∧ ∀ y ∈ tr₂, ¬ y.2.Unpublishes req.targetPath

section Main

variable {hp : HostPath} {h h' h₀ : Host} {e : Event} {tr : List (Host × Event)}
  {req : NodePublishVolumeRequest}

/-- The last event is the publish, or it came after it. -/
lemma Published.of_snoc (hp : Published (tr ++ [(h, e)]) req) :
    (∃ res, e = Event.request (Request.nodePublishVolume (some req)) (Except.ok res))
      ∨ Published tr req ∧ ¬ e.Unpublishes req.targetPath := by
  obtain ⟨tr₁, m, res, tr₂, heq, hno⟩ := hp
  rcases List.eq_nil_or_concat tr₂ with rfl | ⟨tr₂, y, rfl⟩
  · obtain ⟨_, hlast⟩ := List.append_inj' heq rfl
    cases hlast
    exact Or.inl ⟨res, rfl⟩
  · simp only [List.concat_eq_append] at heq hno
    rw [← List.cons_append, ← List.append_assoc] at heq
    obtain ⟨htr, hlast⟩ := List.append_inj' heq rfl
    cases hlast
    refine Or.inr ⟨⟨tr₁, m, res, tr₂, htr, fun z hz => hno z (List.mem_append_left _ hz)⟩, ?_⟩
    exact hno (h, e) (List.mem_append_right _ (List.mem_singleton_self _))

/-- A step that does not unpublish the target leaves what it shows. -/
lemma HostPath.Step.keeps (hs : hp.Step FindsOwnRequest h e h') (hshow : hp.node.Shows req h)
    (hno : ¬ e.Unpublishes req.targetPath) : hp.node.Shows req h' := by
  refine hshow.of_top fun t x ht hx => ?_
  cases hs with
  | write hw => exact (top_congr hw.mounts).trans hx
  | @request _ hp' outcomes q res hre hC he =>
      cases q with
      | nodePublishVolume r =>
          obtain ⟨_, hex, _⟩ := exec_respond he
          cases r with
          | none =>
              rcases HostPathNode.nodePublishVolume_cases hex with ⟨hq, _⟩ | ⟨_, _, _, hnone, _⟩
              · exact (top_congr hq.mounts).trans hx
              · cases hnone
          | some pub => exact HostPathNode.publish_keeps_top (hC pub rfl) hx hex
      | nodeUnpublishVolume r =>
          obtain ⟨_, hex, _⟩ := exec_respond he
          refine (HostPathNode.unpublish_keeps_top (t := t) (fun un hun htt => ?_) hex).trans hx
          subst hun
          exact hno (htt.trans ht.symm)
      | _ => cases hC

/-- **A successful publish means that the volume is mounted as requested**, from then on until the
target is unpublished, in every run in which no publish finds anything else on its target. -/
theorem published_shows_run (hr : Run (hp.Step FindsOwnRequest) h₀ tr h)
    (hpub : Published tr req) : hp.node.Shows req h := by
  -- the invariant speaks of every request at once, since the last event may be any of them
  have hall : ∀ req, Published tr req → hp.node.Shows req h := by
    refine hr.invariant (I := fun tr m => ∀ req, Published tr req → hp.node.Shows req m) ?_ ?_
    · rintro req ⟨tr₁, m, res, tr₂, hnil, _⟩
      simp at hnil
    · intro tr m e m' ih hs req hpub
      rcases hpub.of_snoc with ⟨res, rfl⟩ | ⟨hbefore, hno⟩
      · cases hs with
        | @request _ hp' outcomes _ _ hre hC he =>
            obtain ⟨r, hex, hres⟩ := exec_respond he
            cases r with
            | error err => cases hres
            | ok u =>
                rw [← HostPathNode.Shows.reorders hre.node]
                exact HostPathNode.publish_shows (hC req rfl) hex
      · exact hs.keeps (ih req hbefore) hno
  exact hall req hpub

end Main

/-! ## Volumes that are not shown -/

namespace Sample

/-- The pool has the volumes `vol` and `other`, and there is a place for targets. -/
def twoVolumes : Host :=
  { emptyHost with
    fs := (emptyHost.fs.create ["pool", "vol"] fun _ => true).create ["pool", "other"]
      fun _ => true }

def publishAt (id : String) (readonly : Bool) : NodePublishVolumeRequest :=
  ⟨id, "/pods/a", some ⟨AccessType.mount "" []⟩, readonly,
    AList.singleton storagePoolName "local"⟩

/-- What a publish returns, and the host it leaves, with the given outcomes of its calls. -/
def published (h : Host) (req : NodePublishVolumeRequest) (outcomes : ℕ → Outcome) :
    Except Err Response × Host :=
  Host.exec { h with outcomes } (driver.serve (Request.nodePublishVolume (some req)))

lemma step_published {C : HostPath → Host → Request → Prop} {h : Host}
    {req : NodePublishVolumeRequest} {outcomes : ℕ → Outcome}
    (hC : C driver { h with outcomes } (Request.nodePublishVolume (some req))) :
    driver.Step C h (Event.request (Request.nodePublishVolume (some req))
      (published h req outcomes).1) (published h req outcomes).2 :=
  HostPath.Step.serve outcomes hC

/-- A request that succeeded is in the history. -/
lemma exists_run_published {C : HostPath → Host → Request → Prop} {h₀ h : Host}
    {tr : List (Host × Event)} (hr : Run (driver.Step C) h₀ tr h)
    (req : NodePublishVolumeRequest) (outcomes : ℕ → Outcome)
    (hC : C driver { h with outcomes } (Request.nodePublishVolume (some req)))
    (hok : (published h req outcomes).1.toOption.isSome = true) :
    ∃ tr', Run (driver.Step C) h₀ tr' (published h req outcomes).2 ∧ Published tr' req := by
  have hstep := step_published hC
  cases hres : (published h req outcomes).1 with
  | error err =>
      rw [hres] at hok
      cases hok
  | ok res =>
      rw [hres] at hstep
      exact ⟨_, hr.snoc hstep, tr, h, res, [], rfl, by simp⟩

/-- The host after a publish of `vol`. -/
def shownHost : Host := (published twoVolumes (publishAt "vol" false) fun _ => Outcome.fine).2

/-- The host after a read-only publish of `vol` whose mount, the third call, failed. -/
def halfMounted : Host := (published twoVolumes (publishAt "vol" true) (Outcome.failAt 2)).2

end Sample

/-- A publish on a target that had no mount. -/
theorem sample_publish_shows :
    Sample.driver.node.Shows (Sample.publishAt "vol" false) Sample.shownHost := by
  have hown : FindsOwnRequest Sample.driver { Sample.twoVolumes with outcomes := fun _ => Outcome.fine }
      (Request.nodePublishVolume (some (Sample.publishAt "vol" false))) := by
    intro req _ t x _ hx
    cases hx
  obtain ⟨tr, hr, hpub⟩ := Sample.exists_run_published Run.nil _ _ hown (by decide +kernel)
  exact published_shows_run hr hpub

namespace Sample

/-- The target of a repeated publish shows `vol`, without options beyond `bind`. -/
lemma top_again : (published shownHost (publishAt "other" false) fun _ => Outcome.fine).2.top
      ["pods", "a"] = some ⟨["pods", "a"], ["pool", "vol"], ["bind"]⟩
    ∧ (published halfMounted (publishAt "vol" true) fun _ => Outcome.fine).2.top ["pods", "a"]
      = some ⟨["pods", "a"], ["pool", "vol"], ["bind"]⟩ := by
  decide +kernel

lemma target_publishAt {id : String} {readonly : Bool} {t : Loc}
    (ht : locate (publishAt id readonly).targetPath = some t) : t = ["pods", "a"] :=
  target_of_locate ht

end Sample

/-- A publish of another volume on a target that is in use succeeds and shows the first volume.  A
read-only publish whose mount fails after the bind succeeds when it is repeated, and the target can
be written to. -/
theorem publish_shows_other :
    (∃ tr h, Run (Sample.driver.Step fun _ _ _ => True) Sample.twoVolumes tr h
        ∧ Published tr (Sample.publishAt "other" false)
        ∧ ¬ Sample.driver.node.Shows (Sample.publishAt "other" false) h)
      ∧ ∃ tr h, Run (Sample.driver.Step fun _ _ _ => True) Sample.twoVolumes tr h
        ∧ Published tr (Sample.publishAt "vol" true)
        ∧ ¬ Sample.driver.node.Shows (Sample.publishAt "vol" true) h := by
  obtain ⟨htop, htop'⟩ := Sample.top_again
  constructor
  · have hfirst : Run (Sample.driver.Step fun _ _ _ => True) Sample.twoVolumes _ Sample.shownHost :=
      Run.snoc Run.nil (Sample.step_published trivial)
    obtain ⟨tr, hr, hpub⟩ := Sample.exists_run_published hfirst (Sample.publishAt "other" false)
      (fun _ => Outcome.fine) trivial (by decide +kernel)
    refine ⟨tr, _, hr, hpub, ?_⟩
    rintro ⟨t, x, ht, hx, hown⟩
    cases Sample.target_publishAt ht
    cases hx.symm.trans htop
    exact absurd hown.source (by decide)
  · have hfirst : Run (Sample.driver.Step fun _ _ _ => True) Sample.twoVolumes _ Sample.halfMounted :=
      Run.snoc Run.nil (Sample.step_published trivial)
    obtain ⟨tr, hr, hpub⟩ := Sample.exists_run_published hfirst (Sample.publishAt "vol" true)
      (fun _ => Outcome.fine) trivial (by decide +kernel)
    refine ⟨tr, _, hr, hpub, ?_⟩
    rintro ⟨t, x, ht, hx, hown⟩
    cases Sample.target_publishAt ht
    cases hx.symm.trans htop'
    exact absurd (hown.readonly.mpr rfl) (by decide)

end Hostpath
