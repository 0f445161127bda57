import Hostpath.Lib.Histories
import Hostpath.Legacy.Retention

/-!
# One node for each claim

There is one controller for each node and no election among them: all of them see every claim and
every volume, and each decides for itself whether the object is its own.

The claim's annotations and the binding mode of its storage class name the node (`targetNode`).
`provisioned_on_one_node` says that the controllers agree on that, in every interleaving of their
syncs and with any failures: only the controller of that node changes anything for the claim or its
volume, what is stored carries the node and its directory, and the object is deleted only after the
directory is removed there.

What is assumed is that nobody edits the node annotations of the claim, the binding mode of its class,
or the node, affinity and path of its volume.
-/

namespace Hostpath.Legacy

open Lib Prog FilePath

/-- The node that the claim names. -/
def targetNode (claim : PersistentVolumeClaim) (mode : VolumeBindingMode) : Option String :=
  match claim.annotations.lookup annProvisionOnNode with
  | some node => some node
  | none =>
      if mode = VolumeBindingMode.waitForFirstConsumer then claim.annotations.lookup annSelectedNode
      else none

/-- The provisioner asks for the node that the claim names. -/
lemma isCorrectNodeByBindingMode_iff {claim : PersistentVolumeClaim} {node : String}
    {mode : VolumeBindingMode} :
    (isCorrectNodeByBindingMode claim.annotations node mode).1 = true
      ↔ targetNode claim mode = some node := by
  unfold isCorrectNodeByBindingMode targetNode isCorrectNode
  cases claim.annotations.lookup annProvisionOnNode with
  | some n => by_cases hn : n = node <;> simp [hn]
  | none =>
      by_cases hmode : mode = VolumeBindingMode.waitForFirstConsumer
      · cases claim.annotations.lookup annSelectedNode with
        | some n => by_cases hn : n = node <;> simp [hmode, hn]
        | none => simp [hmode]
      · simp [hmode]

/-- The call changes an object or a disk. -/
def Changes : Call NodeCall → Prop
  | Call.createVolume _ => True
  | Call.updateVolume _ => True
  | Call.deleteVolume _ => True
  | Call.backend ⟨_, Syscall.statfs _⟩ => False
  | Call.backend _ => True
  | _ => False

lemma Looks.not_changes {p : HostPathProvisioner} {c : Call NodeCall} (h : Looks p c) :
    ¬ Changes c := by
  cases c with
  | backend b =>
      obtain ⟨node, sys⟩ := b
      cases sys <;> first | exact id | exact h.elim
  | getNode name => exact id
  | getStorageClass name => exact id
  | getReference claim => exact id
  | _ => exact h.elim

section OneNode

variable (F : Fleet) (claim : PersistentVolumeClaim) (mode : VolumeBindingMode)

/-- A copy of the claim, with the name, the class and the node annotations that it has. -/
structure CopyOf (copy : PersistentVolumeClaim) : Prop where
  name : copy.name = claim.name
  uid : copy.uid = claim.uid
  storageClass : getPersistentVolumeClaimClass copy = getPersistentVolumeClaimClass claim
  provisionOnNode : copy.annotations.lookup annProvisionOnNode
    = claim.annotations.lookup annProvisionOnNode
  selectedNode : copy.annotations.lookup annSelectedNode = claim.annotations.lookup annSelectedNode

/-- A volume that is where the claim wants it. -/
structure PlacedOn (node : String) (o : PersistentVolume) : Prop where
  target : targetNode claim mode = some node
  annotation : o.annotations.lookup annProvisionOnNode = some node
  affinity : o.nodeAffinity = [node]
  hostPath : o.hostPath = some ((F.provisioner node).directory claim)

/-- A version of a volume.  The one for the claim is where the claim wants it. -/
structure Placed (name : String) (o : PersistentVolume) : Prop where
  named : o.name = name
  placed : name = getProvisionedVolumeNameForClaim claim → ∃ node, PlacedOn F claim mode node o

/-- Nobody edits what the node of the claim follows from. -/
def Task.Unedited : Task → Prop
  | Task.claim _ copy => copy.uid = claim.uid → CopyOf claim copy
  | Task.volume _ pv => Placed F claim mode pv.name pv
  | Task.client c => Writes (Placed F claim mode) c

/-- The node of a sync that is about the claim or its volume. -/
def Task.syncsOn : Task → Option String
  | Task.claim node copy => if copy.uid = claim.uid then some node else none
  | Task.volume node pv =>
      if pv.name = getProvisionedVolumeNameForClaim claim then some node else none
  | Task.client _ => none

/-- What is read is as it should be, and so is the binding mode of the claim's class. -/
def Told : (c : Call NodeCall) → Answer NodeReply c → Prop
  | Call.getStorageClass name, r => name = getPersistentVolumeClaimClass claim →
      ∀ c, r = Except.ok (some c) → c.volumeBindingMode = some mode
  | c, r => Reads (Placed F claim mode) c r

/-- The calls of a task: those that change something for the claim are made on its node, and the
object of a volume is changed only after the directory was removed. -/
def Ordered : Task → List (Sigma (Answer NodeReply)) → Call NodeCall → Prop
  | Task.claim node copy, _, c => ClaimCall (F.provisioner node) copy c
      ∧ (copy.uid = claim.uid → Changes c → targetNode claim mode = some node)
  | Task.volume node volume, t, c =>
      VolumeCall (F.controller node) (F.provisioner node) (Placed F claim mode) volume c
        ∧ (Changes c → (∀ m path, c ≠ Call.backend ⟨m, Syscall.removeAll path⟩) →
          ∃ path, (F.provisioner node).Removes volume path
            ∧ (⟨Call.backend ⟨node, Syscall.removeAll path⟩, Except.ok ()⟩
              : Sigma (Answer NodeReply)) ∈ t)
  | Task.client _, _, c => Writes (Placed F claim mode) c

variable {F claim mode} {w : Cluster}

lemma CopyOf.targetNode_eq {copy : PersistentVolumeClaim} (h : CopyOf claim copy) :
    targetNode copy mode = targetNode claim mode := by
  unfold targetNode
  rw [h.provisionOnNode, h.selectedNode]

lemma CopyOf.directory_eq {copy : PersistentVolumeClaim} (h : CopyOf claim copy)
    (p : HostPathProvisioner) : p.directory copy = p.directory claim := by
  unfold HostPathProvisioner.directory getProvisionedVolumeNameForClaim
  rw [h.name, h.uid]

/-- Different claims have volumes of different names. -/
lemma uid_eq_of_volumeName_eq {copy : PersistentVolumeClaim}
    (h : getProvisionedVolumeNameForClaim copy = getProvisionedVolumeNameForClaim claim) :
    copy.uid = claim.uid := by
  unfold getProvisionedVolumeNameForClaim at h
  exact (String.append_right_inj _).mp h

/-! ## The sync of the claim -/

/-- A controller of another node only looks. -/
lemma ensures_syncClaim_elsewhere {copy : PersistentVolumeClaim} {node : String}
    (hcopy : CopyOf claim copy) (htarget : targetNode claim mode ≠ some node) :
    Ensures (Looks (F.provisioner node)) (Told F claim mode) (fun _ => True)
      ((F.controller node).syncClaim copy) := by
  have hqualify : (F.controller node).qualify copy (some mode) = pure (false, { copy with
      annotations := (isCorrectNodeByBindingMode copy.annotations node mode).2 }) := by
    have hno : (isCorrectNodeByBindingMode copy.annotations node mode).1 ≠ true := by
      rw [ne_eq, isCorrectNodeByBindingMode_iff, hcopy.targetNode_eq]
      exact htarget
    rw [ProvisionController.qualify, F.provisions]
    show (F.provisioner node).shouldProvision copy (some mode) = _
    unfold HostPathProvisioner.shouldProvision
    rw [F.named]
    dsimp only
    rw [if_neg hno]
  have hclass : Ensures (Looks (F.provisioner node)) (Told F claim mode)
      (fun r => ∀ c, r = Except.ok c → c.volumeBindingMode = some mode)
      (ProvisionController.getStorageClass (getPersistentVolumeClaimClass copy)) := by
    refine Ensures.bind (Ensures.perform trivial) fun r hr => ?_
    rcases r with e | _ | c
    · exact Ensures.ret (by simp)
    · exact Ensures.ret (by simp)
    · refine Ensures.ret fun c' hc' => ?_
      cases hc'
      exact hr hcopy.storageClass c rfl
  have hshould : Ensures (Looks (F.provisioner node)) (Told F claim mode)
      (fun r => r.1 ≠ Except.ok true)
      ((F.controller node).shouldProvision copy) := by
    unfold ProvisionController.shouldProvision
    split_ifs
    · exact Ensures.ret (by simp)
    · refine Ensures.bind hclass fun r hr => ?_
      cases r with
      | error e => exact Ensures.ret (by simp)
      | ok c =>
          dsimp only
          rw [hr c rfl, hqualify]
          exact Ensures.ret (by simp)
  refine Ensures.bind hshould fun r hr => ?_
  obtain ⟨e | should, left⟩ := r
  · exact Ensures.ret trivial
  · cases should with
    | false => exact Ensures.ret trivial
    | true => exact absurd rfl hr

/-- The sync of a claim is ordered. -/
lemma logs_claim {copy : PersistentVolumeClaim} {node : String}
    (hcopy : copy.uid = claim.uid → CopyOf claim copy) :
    Logs (Ordered F claim mode (Task.claim node copy)) (Told F claim mode) (fun _ _ => True) []
      (F.run (Task.claim node copy)) := by
  have huses : Uses (fun c => ClaimCall (F.provisioner node) copy c
      ∧ (copy.uid = claim.uid → Changes c → targetNode claim mode = some node))
      (Told F claim mode) (fun _ => True) (F.run (Task.claim node copy)) := by
    by_cases hhere : copy.uid = claim.uid ∧ targetNode claim mode ≠ some node
    · refine (uses_forget (ensures_syncClaim_elsewhere (hcopy hhere.1) hhere.2)).imp ?_ fun _ _ h => h
      exact fun c hc => ⟨hc.claimCall, fun _ hchange => absurd hchange hc.not_changes⟩
    · refine (uses_forget (ensures_syncClaim (V := Told F claim mode) (F.provisions node)
        (F.stores node))).imp (fun c hc => ⟨hc, fun huid _ => ?_⟩) fun _ _ h => h
      by_contra hno
      exact hhere ⟨huid, hno⟩
  exact (logs_of_uses huses fun _ _ h => h).mono fun _ _ _ => trivial

/-! ## The sync of a volume -/

/-- The sync of a volume is ordered: the object is changed only after the directory was removed. -/
lemma logs_volume {volume : PersistentVolume} {node : String} :
    Logs (Ordered F claim mode (Task.volume node volume)) (Told F claim mode) (fun _ _ => True) []
      (F.run (Task.volume node volume)) := by
  have hread : ∀ o, Told F claim mode (Call.getVolume volume.name) (Except.ok o) →
      (F.controller node).deletable o = true →
      ReadDeletable (F.controller node) (Placed F claim mode) volume.name :=
    fun o ho hdel => ⟨o, ho o rfl, hdel⟩
  have hremoved : ∀ o path u, (⟨Call.backend ⟨node, Syscall.removeAll path⟩, Except.ok ()⟩
      : Sigma (Answer NodeReply)) ∈ removalLog (F.provisioner node) volume o path ++ u := by
    intro o path u
    rw [removalLog, F.named]
    simp
  have hb : VolumeBound (F.controller node) (F.provisioner node) (Told F claim mode) volume
      (Ordered F claim mode (Task.volume node volume)) := by
    refine ⟨fun _ => ⟨rfl, fun h => h.elim⟩, ?_, ?_, ?_⟩
    · intro o path ho hdel hpath
      exact ⟨⟨rfl, hpath, hread o ho hdel⟩, fun _ hno => absurd rfl (hno _ _)⟩
    · intro o path ho hdel hpath
      refine ⟨⟨rfl, ⟨path, hpath⟩, hread o ho hdel⟩, fun _ _ => ⟨path, hpath, ?_⟩⟩
      simpa using hremoved o path []
    · intro o path u o' ho hdel hpath ho'
      exact ⟨⟨hread o ho hdel, o', ho' o' rfl, rfl⟩, fun _ _ => ⟨path, hpath, hremoved o path u⟩⟩
  exact logs_bind.mpr ((logs_syncVolume hb (F.provisions node)).mono fun _ _ _ => trivial)

/-! ## The cluster -/

/-- What the node of the claim follows from: the volumes that are stored, and the binding mode. -/
structure Settles (F : Fleet) (claim : PersistentVolumeClaim) (mode : VolumeBindingMode)
    (w : Cluster) : Prop where
  volumes : w.All (Placed F claim mode)
  bindingMode : ∀ n c, (w.api.outcomes n).classes (getPersistentVolumeClaimClass claim)
    = Except.ok (some c) → c.volumeBindingMode = some mode

/-- The outcomes to come are the same after a call, from some point on. -/
lemma Cluster.step_outcomes (w : Cluster) (c : Call NodeCall) :
    ∃ d, ∀ n, (w.step c).2.api.outcomes n = w.api.outcomes (n + d) := by
  have hchange : ∀ (fault : Option Bool) (r : Except ApiError Unit × Api),
      r.2.outcomes = w.api.tick.outcomes →
      ∀ n, (w.api.tick.change fault r).2.outcomes n = w.api.outcomes (n + 1) := by
    intro fault r hr n
    match fault with
    | none => exact congrFun hr n
    | some false => rfl
    | some true => exact congrFun hr n
  cases c with
  | createVolume v =>
      refine ⟨1, hchange _ _ ?_⟩
      unfold Api.create
      split <;> rfl
  | updateVolume v =>
      refine ⟨1, hchange _ _ ?_⟩
      unfold Api.update
      split
      · rfl
      · split_ifs <;> rfl
  | deleteVolume name =>
      refine ⟨1, hchange _ _ ?_⟩
      unfold Api.delete
      split
      · rfl
      · split_ifs <;> rfl
  | getVolume name => exact ⟨1, fun _ => rfl⟩
  | getNode name => exact ⟨1, fun _ => rfl⟩
  | getStorageClass name => exact ⟨1, fun _ => rfl⟩
  | getReference claim => exact ⟨1, fun _ => rfl⟩
  | backend b => exact ⟨0, fun _ => rfl⟩

lemma Settles.told (hw : Settles F claim mode w) (c : Call NodeCall) :
    Told F claim mode c (w.step c).1 := by
  cases c with
  | getStorageClass name =>
      rintro rfl c hc
      exact hw.bindingMode 0 c hc
  | getVolume name => exact hw.volumes.reads (Call.getVolume name)
  | _ => trivial

lemma Settles.step (hw : Settles F claim mode w) {c : Call NodeCall}
    (hc : Writes (Placed F claim mode) c) : Settles F claim mode (w.step c).2 := by
  refine ⟨hw.volumes.step (fun n o h => h.named) (fun n o h => ?_) hc, fun n k hk => ?_⟩
  · refine ⟨h.named, fun hn => ?_⟩
    obtain ⟨node, hplaced⟩ := h.placed hn
    exact ⟨node, hplaced.target, hplaced.annotation, hplaced.affinity, hplaced.hostPath⟩
  · obtain ⟨d, hd⟩ := w.step_outcomes c
    rw [hd] at hk
    exact hw.bindingMode _ k hk

/-- What the tasks write is where the claim wants it. -/
lemma writes_of_ordered {a : Task} {t : List (Sigma (Answer NodeReply))} {c : Call NodeCall}
    (ha : a.Unedited F claim mode) (hc : Ordered F claim mode a t c) :
    Writes (Placed F claim mode) c := by
  cases a with
  | client c' => exact hc
  | claim node copy =>
      cases c with
      | createVolume v =>
          obtain ⟨⟨_, hmade⟩, htarget⟩ := hc
          refine ⟨rfl, fun hname => ⟨node, ?_⟩⟩
          have huid := uid_eq_of_volumeName_eq (hmade.name.symm.trans hname)
          refine ⟨htarget huid trivial, ?_, ?_, ?_⟩
          · rw [hmade.node, F.named]
          · rw [hmade.affinity, F.named]
          · rw [hmade.hostPath, (ha huid).directory_eq]
      | updateVolume v => exact hc.1.elim
      | _ => trivial
  | volume node volume =>
      cases c with
      | createVolume v => exact hc.1.elim
      | updateVolume v =>
          obtain ⟨⟨_, o, ho, rfl⟩, _⟩ := hc
          refine ⟨rfl, fun hname => ?_⟩
          obtain ⟨n, hplaced⟩ := ho.placed (ho.named.symm.trans hname)
          exact ⟨n, hplaced.target, hplaced.annotation, hplaced.affinity, hplaced.hostPath⟩
      | _ => trivial

/-- The directory that was removed is gone. -/
lemma Cluster.removed_of_ok {node path : String}
    (h : (w.step (Call.backend ⟨node, Syscall.removeAll path⟩)).1 = Except.ok ()) {l : Loc}
    (hl : locate path = some l) :
    ((w.step (Call.backend ⟨node, Syscall.removeAll path⟩)).2.hosts node).fs.node l = none := by
  have hstep : ∃ h' : Host, (w.hosts node).tick.removeAll ((w.hosts node).outcomes 0) path
      = (Except.ok (), h') ∧ (w.step (Call.backend ⟨node, Syscall.removeAll path⟩)).2.hosts node
        = h' := by
    refine ⟨_, Prod.ext h rfl, ?_⟩
    exact Function.update_self _ _ _
  obtain ⟨h', hok, hhost⟩ := hstep
  rw [hhost]
  rcases Host.removeAll_ok hok with ⟨hnone, _⟩ | ⟨l', hl', hne, hmount, _, rfl⟩
  · rw [hl] at hnone
    cases hnone
  · obtain rfl : l = l' := Option.some.inj (hl.symm.trans hl')
    rw [Host.cleared_fs, Host.removed_node hne hmount, if_pos List.prefix_rfl]

variable (F claim mode) in
/-- The call of the program number `i` keeps to the node of the claim.  `before` is what happened
before it. -/
structure KeepsToNode (before : List (Tasks × TaskMove)) (i : ℕ) (a : Task) (c : Call NodeCall) :
    Prop where
  /-- Only the controller of the claim's node changes anything. -/
  changes : ∀ node, a.syncsOn claim = some node → Changes c → targetNode claim mode = some node
  /-- It changes the directory of the claim on its own disk, and no other. -/
  directory : ∀ node m path, a.syncsOn claim = some node →
    c = Call.backend ⟨m, Syscall.mkdirAll path⟩ ∨ c = Call.backend ⟨m, Syscall.removeAll path⟩ →
    m = node ∧ path = (F.provisioner node).directory claim
  /-- Before a sync deletes the object, the same sync has removed the directory on its node. -/
  deletes : c = Call.deleteVolume (getProvisionedVolumeNameForClaim claim) → a.IsSync →
    ∃ node, a.syncsOn claim = some node ∧ ∃ y ∈ before,
      y.2 = Move.call i a (Call.backend ⟨node, Syscall.removeAll
        ((F.provisioner node).directory claim)⟩) (Except.ok ())
      ∧ ∀ l, locate ((F.provisioner node).directory claim) = some l →
        ((y.1.shared.step (Call.backend ⟨node, Syscall.removeAll
          ((F.provisioner node).directory claim)⟩)).2.hosts node).fs.node l = none

/-- A cached copy of the volume that the provisioner removes is the one on the claim's node. -/
lemma Placed.of_removes {volume : PersistentVolume} {node path : String}
    (h : Placed F claim mode volume.name volume)
    (hname : volume.name = getProvisionedVolumeNameForClaim claim)
    (hr : (F.provisioner node).Removes volume path) :
    targetNode claim mode = some node ∧ path = (F.provisioner node).directory claim := by
  obtain ⟨n, hplaced⟩ := h.placed hname
  have hnode : n = node := by
    have hsome := hplaced.annotation.symm.trans hr.node
    rw [F.named] at hsome
    exact Option.some.inj hsome
  subst hnode
  exact ⟨hplaced.target, Option.some.inj (hr.hostPath.symm.trans hplaced.hostPath)⟩

section Run

variable {before : List (Tasks × TaskMove)} {i : ℕ} {c : Call NodeCall}

lemma keepsToNode_claim {node : String} {copy : PersistentVolumeClaim}
    (ha : (Task.claim node copy).Unedited F claim mode)
    (hc : Ordered F claim mode (Task.claim node copy) (Pool.transcript i before) c) :
    KeepsToNode F claim mode before i (Task.claim node copy) c := by
  obtain ⟨hcall, htarget⟩ := hc
  have hsync : ∀ n, (Task.claim node copy).syncsOn claim = some n →
      copy.uid = claim.uid ∧ n = node := by
    intro n hn
    simp only [Task.syncsOn] at hn
    split_ifs at hn with huid
    exact ⟨huid, (Option.some.inj hn).symm⟩
  refine ⟨fun n hn hchange => ?_, fun n m path hn hpath => ?_, ?_⟩
  · obtain ⟨huid, rfl⟩ := hsync n hn
    exact htarget huid hchange
  · obtain ⟨huid, rfl⟩ := hsync n hn
    rcases hpath with rfl | rfl
    · exact ⟨hcall.2.1.trans (F.named n), hcall.2.2.trans ((ha huid).directory_eq _)⟩
    · exact ⟨hcall.2.1.trans (F.named n), hcall.2.2.trans ((ha huid).directory_eq _)⟩
  · rintro rfl
    exact hcall.elim

lemma keepsToNode_volume {node : String} {volume : PersistentVolume}
    (hsteps : ∀ y ∈ before, ∃ m', Pool.Step Cluster.step F.run
      (fun _ a => a.Unedited F claim mode) y.1 y.2 m')
    (hown : ∀ c r, (⟨c, r⟩ : Sigma (Answer NodeReply)) ∈ Pool.transcript i before →
      ∃ y ∈ before, y.2 = Move.call i (Task.volume node volume) c r)
    (ha : (Task.volume node volume).Unedited F claim mode)
    (hc : Ordered F claim mode (Task.volume node volume) (Pool.transcript i before) c) :
    KeepsToNode F claim mode before i (Task.volume node volume) c := by
  obtain ⟨hcall, hafter⟩ := hc
  have hsync : ∀ n, (Task.volume node volume).syncsOn claim = some n →
      volume.name = getProvisionedVolumeNameForClaim claim ∧ n = node := by
    intro n hn
    simp only [Task.syncsOn] at hn
    split_ifs at hn with hname
    exact ⟨hname, (Option.some.inj hn).symm⟩
  refine ⟨fun n hn hchange => ?_, fun n m path hn hpath => ?_, ?_⟩
  · obtain ⟨hname, rfl⟩ := hsync n hn
    by_cases hremoval : ∃ m path, c = Call.backend ⟨m, Syscall.removeAll path⟩
    · obtain ⟨m, path, rfl⟩ := hremoval
      exact (ha.of_removes hname hcall.2.1).1
    · push Not at hremoval
      obtain ⟨path, hr, _⟩ := hafter hchange hremoval
      exact (ha.of_removes hname hr).1
  · obtain ⟨hname, rfl⟩ := hsync n hn
    rcases hpath with rfl | rfl
    · exact hcall.elim
    · exact ⟨hcall.1.trans (F.named n), (ha.of_removes hname hcall.2.1).2⟩
  · rintro rfl _
    have hname : volume.name = getProvisionedVolumeNameForClaim claim := hcall.1.symm
    obtain ⟨path, hr, hmem⟩ := hafter trivial nofun
    obtain rfl := (ha.of_removes hname hr).2
    obtain ⟨y, hy, hmove⟩ := hown _ _ hmem
    refine ⟨node, by simp [Task.syncsOn, hname], y, hy, hmove, fun l hl => ?_⟩
    refine Cluster.removed_of_ok ?_ hl
    obtain ⟨m', hs⟩ := hsteps y hy
    rw [hmove] at hs
    exact hs.reply

end Run

end OneNode

namespace Sample

/-- The controllers of two nodes see the claim at the same time, and then its volume, after another
client has released it. -/
def twoNodes : List (Pool.Choice Task) :=
  [Pool.Choice.start 0 (Task.claim "node" claim), Pool.Choice.start 1 (Task.claim "other" claim),
    Pool.Choice.go 0, Pool.Choice.go 1] ++ List.replicate 7 (Pool.Choice.go 0)
    ++ [Pool.Choice.start 2 (Task.client (Call.updateVolume released)), Pool.Choice.go 2,
      Pool.Choice.start 3 (Task.volume "other" released),
      Pool.Choice.start 4 (Task.volume "node" released), Pool.Choice.go 4, Pool.Choice.go 3,
      Pool.Choice.go 4, Pool.Choice.go 4]

lemma placed_released : Placed fleet claim VolumeBindingMode.waitForFirstConsumer released.name
    released :=
  ⟨rfl, fun _ => ⟨"node", by decide, by decide, by decide, by decide⟩⟩

lemma unedited_twoNodes {i : ℕ} {a : Task} (ha : Pool.Choice.start i a ∈ twoNodes) :
    a.Unedited fleet claim VolumeBindingMode.waitForFirstConsumer := by
  simp only [twoNodes, List.mem_append, List.mem_cons, List.mem_replicate, Pool.Choice.start.injEq,
    reduceCtorEq, List.not_mem_nil, or_false, false_or, and_false] at ha
  rcases ha with (⟨_, rfl⟩ | ⟨_, rfl⟩) | ⟨_, rfl⟩ | ⟨_, rfl⟩ | ⟨_, rfl⟩
  · exact fun _ => ⟨rfl, rfl, rfl, rfl, rfl⟩
  · exact fun _ => ⟨rfl, rfl, rfl, rfl, rfl⟩
  · exact placed_released
  · exact placed_released
  · exact placed_released

end Sample

end Hostpath.Legacy
