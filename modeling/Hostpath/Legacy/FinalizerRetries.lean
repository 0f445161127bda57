import Hostpath.Lib.Run
import Hostpath.Legacy.DeletedObject

/-!
# Retrying the removal of the finalizer

An object with finalizers is not removed when it is deleted, it gets a deletion timestamp.  After it
deleted the object, the controller takes its own finalizer off, and if a call for that fails, a later
sync should do it.

It does not: for a version from 1.9 on, `shouldDelete` refuses every object with a deletion
timestamp, whether the finalizer is there or not, so that such an object stays as it is
(`syncVolume_of_halfDeleted`).  Hence the finalizer is taken off after every run exactly if no sync of the
run leaves the object half deleted, and `retried_iff` says which syncs do.
-/

namespace Hostpath.Legacy

open Lib Prog

/-- What is stored is being deleted, and the finalizer of the controller is still there. -/
def HalfDeleted (v : Option PersistentVolume) : Prop :=
  ∃ o, v = some o ∧ o.deletionTimestamp = true ∧ finalizerPV ∈ o.finalizers

instance (v : Option PersistentVolume) : Decidable (HalfDeleted v) :=
  match v with
  | none => isFalse nofun
  | some o => decidable_of_iff (o.deletionTimestamp = true ∧ finalizerPV ∈ o.finalizers)
      ⟨fun h => ⟨o, rfl, h⟩, fun ⟨_, ho, h⟩ => Option.some.inj ho ▸ h⟩

/-- No call fails. -/
def Cluster.NoFaults (w : Cluster) : Prop := (∀ n, w.fault n = none) ∧ ∀ node, (w.hosts node).NoFaults

namespace ProvisionController

/-- If the object is being deleted and has the finalizer, then a sync takes it off, at any time at
which the object is still the same and no call fails. -/
def Retried (ctrl : ProvisionController NodeReply) (name : String) (w : Cluster) : Prop :=
  ∀ o, w.api.volumes name = some o → o.deletionTimestamp = true → finalizerPV ∈ o.finalizers →
    ∀ w' : Cluster, w'.api.volumes name = some o → w'.NoFaults →
      ¬ HalfDeleted ((w'.exec (ctrl.syncVolume o)).2.api.volumes name)

/-- A sync of the volume `name` with the cached copy `e.2`, which may be of any age.  Up to the sync,
which starts in `e.1`, anything but the object may have changed. -/
def SyncStep (ctrl : ProvisionController NodeReply) (name : String) (w : Cluster)
    (e : Cluster × PersistentVolume) (w' : Cluster) : Prop :=
  e.1.api.volumes name = w.api.volumes name ∧ e.2.name = name
    ∧ w' = (e.1.exec (ctrl.syncVolume e.2)).2

/-- The sync of the cached copy comes to the point where it deletes the object `o`. -/
structure Deletes (ctrl : ProvisionController NodeReply) (p : HostPathProvisioner) (w : Cluster)
    (volume o : PersistentVolume) (path : String) : Prop where
  cached : ctrl.deletable volume = true
  read : w.fault 0 = none
  stored : w.api.volumes volume.name = some o
  deletable : ctrl.deletable o = true
  removes : p.Removes volume path
  removed : ((w.hosts p.nodeName).step (Syscall.removeAll path)).1 = Except.ok ()

/-- If the sync deletes an object with the finalizer, then either the deletion has no effect, or it
is answered, the object is then read, and the update has its effect. -/
def Unhindered (ctrl : ProvisionController NodeReply) (p : HostPathProvisioner)
    (e : Cluster × PersistentVolume) : Prop :=
  ∀ o path, ctrl.Deletes p e.1 e.2 o path → finalizerPV ∈ o.finalizers →
    e.1.fault 1 = some false
      ∨ e.1.fault 1 = none ∧ e.1.fault 2 = none ∧ e.1.fault 3 ≠ some false

variable {ctrl : ProvisionController NodeReply} {p : HostPathProvisioner}
  {volume o : PersistentVolume} {w : Cluster} {name path : String}

/-- From 1.9 on, an object with a deletion timestamp is never deleted. -/
lemma deletable_not_marked (h19 : ctrl.kubeVersion.atLeast ⟨1, 9, 0⟩ = true)
    (h : ctrl.deletable o = true) : o.deletionTimestamp = false := by
  by_contra hmarked
  rw [Bool.not_eq_false] at hmarked
  simp [deletable, h19, hmarked] at h

/-! ## What one sync does -/

/-- The cluster after the object was read and the directory removed. -/
def afterRemoval (p : HostPathProvisioner) (w : Cluster) (path : String) : Cluster where
  api := w.api.tick
  hosts := Function.update w.hosts p.nodeName
    ((w.hosts p.nodeName).step (Syscall.removeAll path)).2

/-- Once the object is read and is to be deleted, it is the provisioner's turn. -/
lemma exec_deleteVolumeOperation (hp : ctrl.provisioner = p.provisioner) (hread : w.fault 0 = none)
    (hstored : w.api.volumes volume.name = some o) (hdel : ctrl.deletable o = true) :
    w.exec (ctrl.deleteVolumeOperation volume)
      = Cluster.exec { w with api := w.api.tick } (p.delete volume >>=
        ctrl.deleteObject volume.name o) := by
  have hdelete : ctrl.provisioner.delete volume = p.delete volume := by rw [hp]; rfl
  have hget : (w.step (Call.getVolume volume.name)).1 = Except.ok o :=
    Cluster.step_getVolume_eq_ok.mpr ⟨hread, hstored⟩
  rw [deleteVolumeOperation, hdelete]
  simp only [shouldDelete_eq hp]
  rw [Cluster.exec_perform_eq, hget]
  have hshould : ∀ w' : Cluster, w'.exec (pure (ctrl.deletable o) : Ctl NodeReply Bool)
      = (Except.ok true, w') := by
    intro w'
    rw [hdel]
    rfl
  exact exec_bind_of_ok Cluster.step (hshould _)

lemma exec_of_deletes (hp : ctrl.provisioner = p.provisioner)
    (h : ctrl.Deletes p w volume o path) :
    w.exec (ctrl.syncVolume volume)
      = (afterRemoval p w path).exec (ctrl.deleteObject volume.name o none) := by
  rw [syncVolume_eq hp, if_pos h.cached,
    exec_deleteVolumeOperation hp h.read h.stored h.deletable]
  refine exec_bind_of_ok Cluster.step ((p.exec_delete_of_removes h.removes).trans ?_)
  rw [h.removed]
  rfl

/-- A sync that does not come so far leaves the stored objects alone. -/
lemma volumes_of_not_deletes (hp : ctrl.provisioner = p.provisioner)
    (h : ∀ o path, ¬ ctrl.Deletes p w volume o path) :
    (w.exec (ctrl.syncVolume volume)).2.api.volumes = w.api.volumes := by
  rw [syncVolume_eq hp]
  by_cases hcached : ctrl.deletable volume = true
  swap
  · rw [if_neg hcached]
    rfl
  rw [if_pos hcached]
  by_cases hread : ∃ o, w.fault 0 = none ∧ w.api.volumes volume.name = some o
      ∧ ctrl.deletable o = true
  · obtain ⟨o, hfault, hstored, hdel⟩ := hread
    rw [exec_deleteVolumeOperation hp hfault hstored hdel]
    by_cases hremoves : ∃ path, p.Removes volume path
    · obtain ⟨path, hremoves⟩ := hremoves
      cases hr : ((w.hosts p.nodeName).step (Syscall.removeAll path)).1 with
      | ok u => exact absurd ⟨hcached, hfault, hstored, hdel, hremoves, hr⟩ (h o path)
      | error e =>
          have hfail := (p.exec_delete_of_removes (w := { w with api := w.api.tick }) hremoves)
          rw [hr] at hfail
          rw [Cluster.exec, exec_bind_of_ok Cluster.step hfail]
          rfl
    · obtain ⟨r, hr, hne⟩ := p.exec_delete_of_not_removes (w := { w with api := w.api.tick })
        fun path hpath => hremoves ⟨path, hpath⟩
      match r, hr, hne with
      | Except.error e, hr, _ =>
          rw [Cluster.exec, exec_bind_of_error Cluster.step hr]
          rfl
      | Except.ok none, _, hne => exact absurd rfl hne
      | Except.ok (some e), hr, _ =>
          rw [Cluster.exec, exec_bind_of_ok Cluster.step hr]
          cases e <;> rfl
  · rw [deleteVolumeOperation, Cluster.exec_perform_eq]
    simp only [shouldDelete_eq hp]
    cases hget : (w.step (Call.getVolume volume.name)).1 with
    | error e => rfl
    | ok o =>
        obtain ⟨hfault, hstored⟩ := Cluster.step_getVolume_eq_ok.mp hget
        have hshould : ∀ w' : Cluster, w'.exec (pure (ctrl.deletable o) : Ctl NodeReply Bool)
            = (Except.ok false, w') := by
          intro w'
          rw [Bool.eq_false_iff.mpr fun hdel => hread ⟨o, hfault, hstored, hdel⟩]
          rfl
        rw [Cluster.exec]
        dsimp only
        rw [exec_bind_of_ok Cluster.step (hshould _)]
        rfl

/-! ## What is stored after the object was deleted -/

/-- What a deletion leaves of an object. -/
def marked (o : PersistentVolume) : Option PersistentVolume :=
  if o.finalizers.isEmpty then none else some { o with deletionTimestamp := true }

/-- What is left of a deleted object after the controller took its finalizer off. -/
def stripped (o : PersistentVolume) : Option PersistentVolume :=
  marked { o with finalizers := o.finalizers.filter fun f => f ≠ finalizerPV }

lemma deleted_volumes (s : Api) (hstored : s.volumes o.name = some o) :
    (s.delete o.name).2.volumes o.name = marked o
      ∧ (s.delete o.name).2.outcomes = s.outcomes := by
  unfold Api.delete marked
  by_cases hfin : o.finalizers.isEmpty = true
  · simp [hstored, hfin, Api.remove]
  · simp [hstored, hfin, Api.put]

lemma answered_delete (s : Api) (hstored : s.volumes o.name = some o) :
    (s.delete o.name).1 = Except.ok () := by
  unfold Api.delete
  by_cases hfin : o.finalizers.isEmpty = true <;> simp [hstored, hfin]

lemma stripped_of_gone (h : marked o = none) : stripped o = none := by
  unfold marked at h
  split_ifs at h with hfin
  simp [stripped, marked, List.isEmpty_iff.mp hfin]

/-- Writing the object without the finalizer. -/
lemma updated_volumes (s : Api) (hstored : s.volumes o.name = some o)
    (hmark : o.deletionTimestamp = true) :
    (s.update { o with finalizers := o.finalizers.filter fun f => f ≠ finalizerPV }).2.volumes
      o.name = stripped o := by
  unfold Api.update stripped marked
  by_cases hfin : (o.finalizers.filter fun f => f ≠ finalizerPV).isEmpty = true
  · simp only [hstored, hmark, hfin, Bool.and_self, if_true, Api.remove, Function.update_self]
  · simp only [hstored, hmark, hfin, Bool.and_false, Bool.false_eq_true, if_false, Api.put,
      Function.update_self]

/-- Without the finalizer nothing is to be taken off. -/
lemma stripped_of_length (hmark : o.deletionTimestamp = true) (hfin : o.finalizers ≠ [])
    (h : (o.finalizers.filter fun f => f ≠ finalizerPV).length = o.finalizers.length) :
    stripped o = some o := by
  have hsame : (o.finalizers.filter fun f => f ≠ finalizerPV) = o.finalizers :=
    List.filter_eq_self.mpr (List.length_filter_eq_length_iff.mp h)
  rw [stripped, hsame, marked, if_neg (by simpa using hfin), ← hmark]

/-- Taking the finalizer off an object that has been deleted. -/
lemma volumes_removeFinalizer {u : Cluster} (hstored : u.api.volumes o.name = some o)
    (hmark : o.deletionTimestamp = true) (hfin : o.finalizers ≠ []) :
    (u.exec (removeFinalizer o.name)).2.api.volumes o.name
      = if u.fault 0 ≠ none ∨ u.fault 1 = some false then some o else stripped o := by
  rw [removeFinalizer, Cluster.exec_perform_eq]
  by_cases hfault : u.fault 0 = none
  swap
  · cases hget : (u.step (Call.getVolume o.name)).1 with
    | ok v => exact absurd (Cluster.step_getVolume_eq_ok.mp hget).1 hfault
    | error e =>
        rw [if_pos (Or.inl hfault), ← hstored]
        dsimp only
        split_ifs <;> rfl
  rw [Cluster.step_getVolume_eq_ok.mpr ⟨hfault, hstored⟩]
  dsimp only
  by_cases hlength : (o.finalizers.filter fun f => f ≠ finalizerPV).length = o.finalizers.length
  · rw [if_neg (not_not.mpr hlength), stripped_of_length hmark hfin hlength, ite_self]
    exact hstored
  rw [if_pos hlength, Cluster.exec_perform_eq]
  set v : PersistentVolume :=
    { o with finalizers := o.finalizers.filter fun f => f ≠ finalizerPV } with hv
  have hafter : ((u.step (Call.getVolume o.name)).2.step (Call.updateVolume v)).2.api.volumes o.name
      = if u.fault 0 ≠ none ∨ u.fault 1 = some false then some o else stripped o := by
    have hupdated := updated_volumes u.api.tick.tick hstored hmark
    rw [← hv] at hupdated
    have hstep : ((u.step (Call.getVolume o.name)).2.step (Call.updateVolume v)).2.api
        = (u.api.tick.tick.change (u.fault 1) (u.api.tick.tick.update v)).2 := rfl
    rw [hstep, hfault]
    rcases u.fault 1 with _ | _ | _
    · simpa [Api.change] using hupdated
    · simpa [Api.change] using hstored
    · simpa [Api.change] using hupdated
  -- whatever the update is answered, nothing more is done
  cases ((u.step (Call.getVolume o.name)).2.step (Call.updateVolume v)).1 with
  | ok _ => exact hafter
  | error e =>
      dsimp only
      split_ifs at hafter ⊢ <;> exact hafter

lemma volumes_deleteObject {u : Cluster} (hadd : ctrl.addFinalizer = true)
    (hstored : u.api.volumes o.name = some o) :
    (u.exec (ctrl.deleteObject o.name o none)).2.api.volumes o.name =
      if u.fault 0 = some false then some o
      else if u.fault 0 = some true ∨ u.fault 1 ≠ none ∨ u.fault 2 = some false then marked o
      else stripped o := by
  have hdel := deleted_volumes u.api.tick hstored
  rw [deleteObject, Cluster.exec_perform_eq]
  cases hfault : u.fault 0 with
  | some b =>
      have hf : (u.api.outcomes 0).fault = some b := hfault
      cases b with
      | false => simpa [Cluster.step, Api.change, hf] using hstored
      | true => simpa [Cluster.step, Api.change, hf] using hdel.1
  | none =>
      have hf : (u.api.outcomes 0).fault = none := hfault
      have hstep : u.step (Call.deleteVolume o.name)
          = (Except.ok (), { u with api := (u.api.tick.delete o.name).2 }) := by
        simp only [Cluster.step, Api.change, hf, Prod.mk.injEq, and_true]
        exact answered_delete _ hstored
      rw [hstep]
      by_cases hfin : o.finalizers = []
      · have hgone : marked o = none := by simp [marked, hfin]
        simp [hadd, hfin, hdel.1, hgone, stripped_of_gone hgone]
      · have hmarked : marked o = some { o with deletionTimestamp := true } := by
          simp [marked, hfin]
        rw [hmarked] at hdel ⊢
        have hpos : (ctrl.addFinalizer && decide (0 < o.finalizers.length)) = true := by
          simp [hadd, List.length_pos_iff.mpr hfin]
        dsimp only
        rw [if_pos hpos]
        refine (volumes_removeFinalizer (o := { o with deletionTimestamp := true })
          hdel.1 rfl hfin).trans ?_
        simp [Cluster.fault, hdel.2]
        rfl

/-! ## What a sync leaves behind -/

lemma halfDeleted_marked : HalfDeleted (marked o) ↔ finalizerPV ∈ o.finalizers := by
  unfold HalfDeleted marked
  by_cases hfin : o.finalizers = [] <;> simp [hfin]

lemma not_halfDeleted_stripped : ¬ HalfDeleted (stripped o) := by
  rw [stripped, halfDeleted_marked]
  simp

/-- The object stored under a name has that name. -/
def Named (name : String) (w : Cluster) : Prop := ∀ o, w.api.volumes name = some o → o.name = name

lemma Deletes.unique {o' : PersistentVolume} {path' : String} (h : ctrl.Deletes p w volume o path)
    (h' : ctrl.Deletes p w volume o' path') : o = o' :=
  Option.some.inj (h.stored.symm.trans h'.stored)

/-- What is stored after a sync that deletes the object. -/
lemma volumes_of_deletes (hp : ctrl.provisioner = p.provisioner) (hadd : ctrl.addFinalizer = true)
    (hname : o.name = volume.name) (h : ctrl.Deletes p w volume o path) :
    (w.exec (ctrl.syncVolume volume)).2.api.volumes volume.name =
      if w.fault 1 = some false then some o
      else if w.fault 1 = some true ∨ w.fault 2 ≠ none ∨ w.fault 3 = some false then marked o
      else stripped o := by
  rw [exec_of_deletes hp h, ← hname]
  exact volumes_deleteObject hadd (by rw [hname]; exact h.stored)

lemma named_sync (hp : ctrl.provisioner = p.provisioner) (hadd : ctrl.addFinalizer = true)
    (hw : Named volume.name w) : Named volume.name (w.exec (ctrl.syncVolume volume)).2 := by
  by_cases h : ∃ o path, ctrl.Deletes p w volume o path
  · obtain ⟨o, path, h⟩ := h
    have hname := hw o h.stored
    intro v hv
    rw [volumes_of_deletes hp hadd hname h] at hv
    unfold stripped marked at hv
    split_ifs at hv <;> rw [← hname, ← Option.some.inj hv]
  · intro v hv
    rw [volumes_of_not_deletes hp fun o path hd => h ⟨o, path, hd⟩] at hv
    exact hw v hv

/-- **A half deleted object stays as it is**, whichever copy of it is synced. -/
lemma syncVolume_of_halfDeleted (hp : ctrl.provisioner = p.provisioner)
    (h19 : ctrl.kubeVersion.atLeast ⟨1, 9, 0⟩ = true)
    (hw : HalfDeleted (w.api.volumes volume.name)) :
    (w.exec (ctrl.syncVolume volume)).2.api.volumes = w.api.volumes := by
  refine volumes_of_not_deletes hp fun o path hd => ?_
  obtain ⟨v, hv, hmark, -⟩ := hw
  obtain rfl : o = v := Option.some.inj (hd.stored.symm.trans hv)
  rw [deletable_not_marked h19 hd.deletable] at hmark
  cases hmark

/-- **The step lemma**: a sync leaves the object half deleted exactly if it is hindered. -/
lemma halfDeleted_sync_iff (hp : ctrl.provisioner = p.provisioner) (hadd : ctrl.addFinalizer = true)
    (hw : Named volume.name w) (hnot : ¬ HalfDeleted (w.api.volumes volume.name)) :
    ¬ HalfDeleted ((w.exec (ctrl.syncVolume volume)).2.api.volumes volume.name)
      ↔ ctrl.Unhindered p (w, volume) := by
  by_cases h : ∃ o path, ctrl.Deletes p w volume o path
  · obtain ⟨o, path, h⟩ := h
    have hnew : ¬ HalfDeleted (some o) := by
      rwa [h.stored] at hnot
    have hun : ctrl.Unhindered p (w, volume) ↔ (finalizerPV ∈ o.finalizers →
        w.fault 1 = some false ∨ w.fault 1 = none ∧ w.fault 2 = none ∧ w.fault 3 ≠ some false) := by
      constructor
      · exact fun hall => hall o path h
      · intro hone o' path' h' hfin
        exact hone (by rwa [h.unique h'])
    rw [volumes_of_deletes hp hadd (hw o h.stored) h, hun]
    split_ifs with hlost hstuck
    · exact iff_of_true hnew fun _ => Or.inl hlost
    · have hhindered : ¬ (w.fault 1 = some false
          ∨ w.fault 1 = none ∧ w.fault 2 = none ∧ w.fault 3 ≠ some false) := by
        rintro (hone | ⟨hone, htwo, hthree⟩)
        · exact hlost hone
        · rcases hstuck with hs | hs | hs
          · rw [hone] at hs
            cases hs
          · exact hs htwo
          · exact hthree hs
      rw [halfDeleted_marked, imp_iff_not hhindered]
    · push Not at hstuck
      have hone : w.fault 1 = none := by
        rcases hf : w.fault 1 with _ | _ | _
        · rfl
        · exact absurd hf hlost
        · exact absurd hf hstuck.1
      exact iff_of_true not_halfDeleted_stripped fun _ => Or.inr ⟨hone, hstuck.2⟩
  · have hnone : ∀ o path, ¬ ctrl.Deletes p w volume o path := fun o path hd => h ⟨o, path, hd⟩
    rw [volumes_of_not_deletes hp hnone]
    exact iff_of_true hnot fun o path hd => absurd hd (hnone o path)

/-! ## Runs -/

/-- The cluster, with nothing failing from now on. -/
def healthy (w : Cluster) : Cluster where
  api := { w.api with outcomes := fun n => { w.api.outcomes n with fault := none } }
  hosts := fun node => { w.hosts node with outcomes := fun _ => Outcome.fine }

lemma retried_iff_not_halfDeleted (hp : ctrl.provisioner = p.provisioner)
    (h19 : ctrl.kubeVersion.atLeast ⟨1, 9, 0⟩ = true) (hw : Named name w) :
    ctrl.Retried name w ↔ ¬ HalfDeleted (w.api.volumes name) := by
  constructor
  · rintro hretried ⟨o, ho, hmark, hfin⟩
    obtain rfl := hw o ho
    have hhealthy : (healthy w).NoFaults := ⟨fun _ => rfl, fun _ _ => rfl⟩
    refine hretried o ho hmark hfin (healthy w) ho hhealthy ?_
    have hhalf : HalfDeleted ((healthy w).api.volumes o.name) := ⟨o, ho, hmark, hfin⟩
    rwa [syncVolume_of_halfDeleted hp h19 hhalf]
  · intro hnot o ho hmark hfin
    exact absurd ⟨o, ho, hmark, hfin⟩ hnot

/-- In every state of the run the removal of the finalizer is retried. -/
def RetriedAlong (ctrl : ProvisionController NodeReply) (name : String)
    (tr : List (Cluster × Cluster × PersistentVolume)) (w' : Cluster) : Prop :=
  (∀ x ∈ tr, ctrl.Retried name x.1) ∧ ctrl.Retried name w'

/--
  **When the removal of the finalizer is retried until it works**: in every state of a run exactly
  if no sync of the run is hindered after it deleted the object.
-/
theorem retried_iff (hp : ctrl.provisioner = p.provisioner) (hadd : ctrl.addFinalizer = true)
    (h19 : ctrl.kubeVersion.atLeast ⟨1, 9, 0⟩ = true) (ho : w.api.volumes o.name = some o)
    (hdel : ctrl.deletable o = true) {tr : List (Cluster × Cluster × PersistentVolume)}
    {w' : Cluster} (hr : Run (ctrl.SyncStep o.name) w tr w') :
    ctrl.RetriedAlong o.name tr w' ↔ ∀ x ∈ tr, ctrl.Unhindered p x.2 := by
  have hnamed₀ : Named o.name w := fun v hv => by rw [Option.some.inj (hv.symm.trans ho)]
  suffices hboth : Named o.name w'
      ∧ (ctrl.RetriedAlong o.name tr w' ↔ ∀ x ∈ tr, ctrl.Unhindered p x.2) from hboth.2
  induction hr with
  | nil =>
      refine ⟨hnamed₀, iff_of_true ⟨by simp, ?_⟩ (by simp)⟩
      rw [retried_iff_not_halfDeleted hp h19 hnamed₀]
      rintro ⟨v, hv, hmark, -⟩
      obtain rfl : v = o := Option.some.inj (hv.symm.trans ho)
      rw [deletable_not_marked h19 hdel] at hmark
      cases hmark
  | @snoc tr m m' e _ hs ih =>
      obtain ⟨hnamed, ih⟩ := ih
      obtain ⟨u, volume⟩ := e
      obtain ⟨hsame, hname, rfl⟩ := hs
      dsimp only at hsame hname
      have hnamed_u : Named volume.name u := by
        rw [hname]
        intro v hv
        exact hnamed v (hsame.symm.trans hv)
      have hnamed' := named_sync hp hadd hnamed_u
      have hsplit : ctrl.RetriedAlong o.name (tr ++ [(m, u, volume)])
            (u.exec (ctrl.syncVolume volume)).2
          ↔ ctrl.RetriedAlong o.name tr m
            ∧ ctrl.Retried o.name (u.exec (ctrl.syncVolume volume)).2 := by
        simp [RetriedAlong, or_imp, forall_and, and_assoc]
      rw [hname] at hnamed'
      refine ⟨hnamed', hsplit.trans ?_⟩
      rw [List.forall_mem_append, List.forall_mem_singleton, ← ih]
      refine and_congr_right fun hretried => ?_
      -- the object was not half deleted before the sync, so the step lemma applies
      have hnot : ¬ HalfDeleted (u.api.volumes volume.name) := by
        rw [hname, hsame]
        exact (retried_iff_not_halfDeleted hp h19 hnamed).mp hretried.2
      rw [retried_iff_not_halfDeleted hp h19 hnamed', ← hname]
      exact halfDeleted_sync_iff hp hadd hnamed_u hnot

end ProvisionController

namespace Sample

/-- The volume as a controller with finalizers stored it, after its claim is gone. -/
def finalized : PersistentVolume :=
  { (controller true).completeVolume claim volume with phase := PersistentVolumePhase.released }

/-- The volume is stored, and the calls to the API server fail as given. -/
def deleting (fault : ℕ → Option Bool) : Cluster where
  api := (cluster fault).api.put finalized
  hosts := fun _ => host

/-- The cluster after a sync. -/
def synced (fault : ℕ → Option Bool) : Cluster :=
  ((deleting fault).exec ((controller true).syncVolume finalized)).2

lemma run (fault : ℕ → Option Bool) : Run ((controller true).SyncStep "pvc-1") (deleting fault)
    [(deleting fault, deleting fault, finalized)] (synced fault) :=
  Run.snoc Run.nil ⟨rfl, rfl, rfl⟩

end Sample

/-- A sync in which no call fails. -/
theorem sample_retried :
    (Sample.controller true).RetriedAlong "pvc-1"
      [(Sample.deleting fun _ => none, Sample.deleting fun _ => none, Sample.finalized)]
      (Sample.synced fun _ => none) := by
  refine Iff.mpr (ProvisionController.retried_iff (o := Sample.finalized) (p := Sample.provisioner)
    rfl rfl (by decide) rfl (by decide) (Sample.run fun _ => none)) ?_
  intro x hx o path _ _
  rw [List.mem_singleton.mp hx]
  exact Or.inr ⟨rfl, rfl, by decide⟩

/-- The deletion of the object is answered, and then it cannot be read.  A sync in which all calls
succeed leaves the finalizer where it is. -/
theorem finalizer_left_behind :
    Run ((Sample.controller true).SyncStep "pvc-1")
        (Sample.deleting fun n => if n = 2 then some false else none)
        [(Sample.deleting fun n => if n = 2 then some false else none,
          Sample.deleting fun n => if n = 2 then some false else none, Sample.finalized)]
        (Sample.synced fun n => if n = 2 then some false else none)
      ∧ ¬ (Sample.controller true).Retried "pvc-1"
        (Sample.synced fun n => if n = 2 then some false else none) := by
  have hnamed : ProvisionController.Named Sample.finalized.name
      (Sample.deleting fun n => if n = 2 then some false else none) := by
    intro o ho
    rw [← Option.some.inj ho]
  have hsynced : ProvisionController.Named Sample.finalized.name
      (Sample.synced fun n => if n = 2 then some false else none) :=
    ProvisionController.named_sync (p := Sample.provisioner) rfl rfl hnamed
  refine ⟨Sample.run _, fun h => ?_⟩
  exact (ProvisionController.retried_iff_not_halfDeleted (p := Sample.provisioner) rfl (by decide)
    hsynced).mp h (by decide +kernel)

end Hostpath.Legacy
