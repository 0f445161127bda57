import Hostpath.Lib.Interleave
import Hostpath.Lib.Transcript
import Hostpath.Legacy.Controller

/-!
# The controllers of a cluster

Each node has its own controller, and each of them may work on several claims and volumes at the same
time.  Other clients of the API server, among them the one that binds and releases volumes, change
objects at any time.  All of them are programs in a `Pool`, so that between two calls of one of them
any number of calls of the others can happen.

This file says for each task which calls it can make, whatever it is told.  `logs_syncClaim` and
`logs_syncVolume` go through the two kinds of syncs once, for any bound that may look at what the sync
was told before (`ClaimBound`, `VolumeBound`).  What holds of all calls of all tasks in a run follows
from these.
-/

namespace Hostpath.Legacy

open Lib Prog FilePath

/-- One controller for each node, with the host path provisioner of the node. -/
structure Fleet where
  provisioner : String → HostPathProvisioner
  named : ∀ node, (provisioner node).nodeName = node
  controller : String → ProvisionController NodeReply
  provisions : ∀ node, (controller node).provisioner = (provisioner node).provisioner
  backoff : String → Backoff
  stores : ∀ node, (controller node).volumeStore
    = BackoffStore.storeVolume (backoff node) (provisioner node).provisioner

/-- What runs: a controller syncs a claim or a volume, both as its cache has them, or some other
client makes a call. -/
inductive Task where
  | claim (node : String) (claim : PersistentVolumeClaim)
  | volume (node : String) (volume : PersistentVolume)
  | client (c : Call NodeCall)

/-- Run a program for its effects. -/
def forget {α : Type} (x : Ctl NodeReply α) : Prog (Call NodeCall) (Answer NodeReply) Unit :=
  Prog.bind x.run fun _ => Prog.ret ()

def Fleet.run (F : Fleet) : Task → Prog (Call NodeCall) (Answer NodeReply) Unit
  | Task.claim node claim => forget ((F.controller node).syncClaim claim)
  | Task.volume node volume => forget ((F.controller node).syncVolume volume)
  | Task.client c => forget (perform c)

/-- A cluster with the tasks that run in it. -/
abbrev Tasks := Pool Cluster Task (Call NodeCall) (Answer NodeReply) Unit

abbrev TaskMove := Move Task (Call NodeCall) (Answer NodeReply)

lemma uses_forget {α : Type} {P : Call NodeCall → Prop}
    {V : (c : Call NodeCall) → Answer NodeReply c → Prop} {Q : α → Prop} {x : Ctl NodeReply α}
    (hx : Ensures P V Q x) : Uses P V (fun _ => True) (forget x) :=
  Uses.bind hx fun _ _ => trivial

/-! ## The calls for a claim -/

/-- The directory of the claim's volume. -/
def HostPathProvisioner.directory (p : HostPathProvisioner) (claim : PersistentVolumeClaim) :
    String :=
  if p.useNamingPrefix then
    join [p.pvDir, claim.name ++ "-" ++ getProvisionedVolumeNameForClaim claim]
  else join [p.pvDir, getProvisionedVolumeNameForClaim claim]

/-- The claim is for the node, if the storage class has some binding mode. -/
def ForNode (claim : PersistentVolumeClaim) (node : String) : Prop :=
  ∃ mode, (isCorrectNodeByBindingMode claim.annotations node mode).1 = true

/-- The storage class of a volume. -/
def getPersistentVolumeClass (volume : PersistentVolume) : String :=
  match volume.annotations.lookup annClass with
  | some name => name
  | none => volume.storageClassName

/-- The object that is stored for a claim. -/
structure MadeFor (p : HostPathProvisioner) (claim : PersistentVolumeClaim)
    (volume : PersistentVolume) : Prop where
  name : volume.name = getProvisionedVolumeNameForClaim claim
  identity : volume.annotations.lookup annIdentity = some p.identity
  node : volume.annotations.lookup annProvisionOnNode = some p.nodeName
  hostPath : volume.hostPath = some (p.directory claim)
  storageClass : getPersistentVolumeClass volume = getPersistentVolumeClaimClass claim
  affinity : volume.nodeAffinity = [p.nodeName]
  reclaimPolicy : volume.reclaimPolicy = PersistentVolumeReclaimPolicy.delete
  phase : volume.phase = PersistentVolumePhase.pending

/-- The calls that a sync of a claim can make.  Those that change something are made only on the
node that the claim is for. -/
def ClaimCall (p : HostPathProvisioner) (claim : PersistentVolumeClaim) : Call NodeCall → Prop
  | Call.createVolume volume => ForNode claim p.nodeName ∧ MadeFor p claim volume
  | Call.updateVolume _ => False
  | Call.deleteVolume _ => False
  | Call.backend ⟨node, Syscall.mkdirAll path⟩ =>
      ForNode claim p.nodeName ∧ node = p.nodeName ∧ path = p.directory claim
  | Call.backend ⟨node, Syscall.removeAll path⟩ =>
      ForNode claim p.nodeName ∧ node = p.nodeName ∧ path = p.directory claim
  | Call.backend ⟨node, Syscall.statfs _⟩ => node = p.nodeName
  | Call.backend _ => False
  | Call.getVolume _ => True
  | Call.getNode _ => True
  | Call.getStorageClass _ => True
  | Call.getReference _ => True

/-- The calls that only look, at an object or at the disk of the node. -/
def Looks (p : HostPathProvisioner) : Call NodeCall → Prop
  | Call.backend ⟨node, Syscall.statfs _⟩ => node = p.nodeName
  | Call.getNode _ => True
  | Call.getStorageClass _ => True
  | Call.getReference _ => True
  | _ => False

lemma Looks.claimCall {p : HostPathProvisioner} {claim : PersistentVolumeClaim} {c : Call NodeCall}
    (h : Looks p c) : ClaimCall p claim c := by
  cases c with
  | backend b =>
      obtain ⟨node, sys⟩ := b
      cases sys <;> first | exact h | exact h.elim
  | getNode name => trivial
  | getStorageClass name => trivial
  | getReference claim => trivial
  | _ => exact h.elim

/-- What a sync leaves of a claim: only the annotation for the provisioner may be new. -/
structure Leaves (claim claim' : PersistentVolumeClaim) : Prop where
  name : claim'.name = claim.name
  uid : claim'.uid = claim.uid
  storageClass : getPersistentVolumeClaimClass claim' = getPersistentVolumeClaimClass claim

lemma leaves_refl (claim : PersistentVolumeClaim) : Leaves claim claim := ⟨rfl, rfl, rfl⟩

lemma leaves_isCorrectNode (claim : PersistentVolumeClaim) (node : String)
    (mode : VolumeBindingMode) : Leaves claim
      { claim with annotations := (isCorrectNodeByBindingMode claim.annotations node mode).2 } := by
  refine ⟨rfl, rfl, ?_⟩
  have hlookup : (isCorrectNodeByBindingMode claim.annotations node mode).2.lookup annClass
      = claim.annotations.lookup annClass := by
    unfold isCorrectNodeByBindingMode
    split_ifs
    · exact AList.lookup_insert_ne (by decide)
    all_goals rfl
  unfold getPersistentVolumeClaimClass
  rw [hlookup]

lemma vPath_eq_directory {p : HostPathProvisioner} {claim claim' : PersistentVolumeClaim}
    (h : Leaves claim claim') (c : StorageClass) (node : Option String) :
    p.vPath ⟨c, getProvisionedVolumeNameForClaim claim', claim', node⟩ = p.directory claim := by
  unfold HostPathProvisioner.vPath HostPathProvisioner.directory getProvisionedVolumeNameForClaim
  rw [h.name, h.uid]

/-- What the controller stores is made for the claim. -/
lemma madeFor_completeVolume (ctrl : ProvisionController NodeReply) {p : HostPathProvisioner}
    {claim claim' : PersistentVolumeClaim} (h : Leaves claim claim') (c : StorageClass)
    (node : Option String) (capacity : Int64) :
    MadeFor p claim (ctrl.completeVolume claim' (p.newVolume
      ⟨c, getProvisionedVolumeNameForClaim claim', claim', node⟩ capacity)) := by
  have hpath := vPath_eq_directory (p := p) h c node
  have hname : getProvisionedVolumeNameForClaim claim' = getProvisionedVolumeNameForClaim claim := by
    rw [getProvisionedVolumeNameForClaim, h.uid, getProvisionedVolumeNameForClaim]
  have hidentity : (AList.singleton annIdentity p.identity : GoMap String).lookup annIdentity
      = some p.identity := List.dlookup_cons_eq _ _ _
  have hclass : (AList.singleton annIdentity p.identity : GoMap String).lookup annClass = none :=
    List.dlookup_cons_ne _ _ (show annClass ≠ annIdentity by decide)
  unfold annIdentity at hidentity
  unfold annIdentity annClass at hclass
  unfold ProvisionController.completeVolume HostPathProvisioner.newVolume
  rw [hpath, h.storageClass]
  by_cases hfin : ctrl.addFinalizer = true <;>
    by_cases hversion : ctrl.kubeVersion.atLeast ⟨1, 6, 0⟩ = true <;>
    constructor <;>
    simp [hfin, hversion, hname, checkFinalizer, getPersistentVolumeClass, AList.lookup_insert_ne,
      annIdentity, annProvisionOnNode, annDynamicallyProvisioned, annClass, hidentity, hclass]

section Claim

variable {p : HostPathProvisioner} {claim claim' : PersistentVolumeClaim}
  {V : (c : Call NodeCall) → Answer NodeReply c → Prop}

lemma ensures_calculatePvCapacity (path : String) :
    Ensures (Looks p) V (fun _ => True) (p.calculatePvCapacity path) := by
  refine Ensures.bind (Ensures.perform rfl) fun r _ => ?_
  cases r with
  | error e => exact Ensures.ret trivial
  | ok s => exact Ensures.ret trivial

lemma ensures_qualifier (mode : Option VolumeBindingMode) :
    Ensures (Looks p) V
      (fun r => Leaves claim r.2 ∧ (r.1 = true → ForNode claim p.nodeName))
      (p.shouldProvision claim mode) := by
  cases mode with
  | none => exact Ensures.fail _
  | some mode =>
      have hleaves := leaves_isCorrectNode claim p.nodeName mode
      unfold HostPathProvisioner.shouldProvision
      dsimp only
      split_ifs with hnode
      · refine Ensures.bind (ensures_calculatePvCapacity _) fun r _ => ?_
        cases r with
        | error e => exact Ensures.ret ⟨hleaves, nofun⟩
        | ok capacity => exact Ensures.ret ⟨hleaves, fun _ => ⟨mode, hnode⟩⟩
      · exact Ensures.ret ⟨hleaves, nofun⟩

lemma ensures_getStorageClass (name : String) :
    Ensures (Looks p) V (fun _ => True)
      (ProvisionController.getStorageClass name : Ctl NodeReply _) := by
  refine Ensures.bind (Ensures.perform trivial) fun r _ => ?_
  match r with
  | Except.error e => exact Ensures.ret trivial
  | Except.ok none => exact Ensures.ret trivial
  | Except.ok (some c) => exact Ensures.ret trivial

variable {ctrl : ProvisionController NodeReply}

lemma ensures_shouldProvision (hp : ctrl.provisioner = p.provisioner) :
    Ensures (Looks p) V
      (fun r => Leaves claim r.2 ∧ (r.1 = Except.ok true → ForNode claim p.nodeName))
      (ctrl.shouldProvision claim) := by
  have hqualify : ∀ mode, ctrl.qualify claim mode = p.shouldProvision claim mode := by
    intro mode
    rw [ProvisionController.qualify, hp]
    rfl
  unfold ProvisionController.shouldProvision
  split_ifs with hname
  · exact Ensures.ret ⟨leaves_refl claim, nofun⟩
  · refine Ensures.bind (ensures_getStorageClass _) fun r _ => ?_
    cases r with
    | error e => exact Ensures.ret ⟨leaves_refl claim, nofun⟩
    | ok c =>
        dsimp only
        rw [hqualify]
        refine Ensures.bind (ensures_qualifier _) fun r hr => ?_
        obtain ⟨qualified, left⟩ := r
        dsimp only
        split_ifs with hq
        · exact Ensures.ret ⟨hr.1, fun _ => hr.2 hq⟩
        · exact Ensures.ret ⟨hr.1, nofun⟩

lemma ensures_getSelectedNode :
    Ensures (Looks p) V (fun _ => True) (ctrl.getSelectedNode claim') := by
  unfold ProvisionController.getSelectedNode
  split_ifs
  · cases claim'.annotations.lookup annSelectedNode with
    | none => exact Ensures.ret trivial
    | some node =>
        refine Ensures.bind (Ensures.perform trivial) fun r _ => ?_
        cases r with
        | error e => exact Ensures.ret trivial
        | ok u => exact Ensures.ret trivial
  · exact Ensures.ret trivial

lemma ensures_provision {P : Call NodeCall → Prop} {options : ProvisionOptions}
    (hlooks : ∀ c, Looks p c → P c)
    (hmkdir : P (Call.backend ⟨p.nodeName, Syscall.mkdirAll (p.vPath options)⟩)) :
    Ensures P V (fun r => ∀ v, r = Except.ok v → ∃ capacity, v = p.newVolume options capacity)
      (p.provision options) := by
  refine Ensures.bind ((ensures_calculatePvCapacity _).imp hlooks fun _ _ h => h) fun r _ => ?_
  cases r with
  | error e => exact Ensures.ret nofun
  | ok capacity =>
      refine Ensures.bind (Ensures.perform hmkdir) fun r _ => ?_
      cases r with
      | error e => exact Ensures.ret nofun
      | ok u =>
          refine Ensures.ret fun v hv => ⟨capacity, ?_⟩
          cases hv
          rfl

/-- A bound that the sync of a claim keeps to.  What `missing` says is known once the object was not
found, as long as no attempt to store it succeeds. -/
structure ClaimBound (p : HostPathProvisioner) (claim : PersistentVolumeClaim)
    (P : List (Sigma (Answer NodeReply)) → Call NodeCall → Prop)
    (missing : List (Sigma (Answer NodeReply)) → Prop) : Prop where
  looks : ∀ t c, Looks p c → P t c
  get : ∀ t, P t (Call.getVolume (getProvisionedVolumeNameForClaim claim))
  mkdir : ForNode claim p.nodeName →
    ∀ t, P t (Call.backend ⟨p.nodeName, Syscall.mkdirAll (p.directory claim)⟩)
  create : ForNode claim p.nodeName → ∀ t v, MadeFor p claim v → P t (Call.createVolume v)
  remove : ForNode claim p.nodeName → ∀ t, missing t →
    P t (Call.backend ⟨p.nodeName, Syscall.removeAll (p.directory claim)⟩)
  notFound : ∀ t e, (∀ s ∈ t, Looks p s.1) →
    missing (t ++ [⟨Call.getVolume (getProvisionedVolumeNameForClaim claim), Except.error e⟩])
  notStored : ∀ t v e, missing t → missing (t ++ [⟨Call.createVolume v, Except.error e⟩])
  keeps : ∀ t s, missing t → Looks p s.1 ∨ (∃ b, s.1 = Call.backend b) → missing (t ++ [s])

section Bound

variable {P : List (Sigma (Answer NodeReply)) → Call NodeCall → Prop}
  {missing : List (Sigma (Answer NodeReply)) → Prop} {t : List (Sigma (Answer NodeReply))}

lemma ClaimBound.keeps_all (hb : ClaimBound p claim P missing) {u : List (Sigma (Answer NodeReply))}
    (ht : missing t) (hu : ∀ s ∈ u, Looks p s.1 ∨ ∃ b, s.1 = Call.backend b) :
    missing (t ++ u) := by
  induction u generalizing t with
  | nil => simpa using ht
  | cons s u ih =>
      have hnext := ih (hb.keeps t s ht (hu s List.mem_cons_self))
        fun s' hs' => hu s' (List.mem_cons_of_mem s hs')
      simpa using hnext

/-- What a loop knows as long as its condition does not hold. -/
lemma logs_backoff {S : Type} {condition : S → Ctl NodeReply (Bool × S)}
    (h : ∀ t last, missing t → Logs P V
      (fun t r => ∀ x, r = Except.ok x → x.1 = false → missing t) t (condition last).run) :
    ∀ (fuel : ℕ) (b : Backoff) (last : S) (t : List (Sigma (Answer NodeReply))), missing t →
      Logs P V (fun t r => ∀ x, r = Except.ok x → x.1 = false → missing t) t
        (exponentialBackoff condition fuel b last).run := by
  intro fuel
  induction fuel with
  | zero => exact fun b last t ht _ _ _ => ht
  | succ n ih =>
      intro b last t ht
      rw [exponentialBackoff]
      refine logs_ite.mpr ⟨fun _ => logs_seq.mpr ((h t last ht).mono ?_), fun _ _ _ _ => ht⟩
      intro t' r hr
      match r, hr with
      | Except.error e, _ => exact nofun
      | Except.ok (true, last'), _ => exact fun x hx => by cases hx; exact nofun
      | Except.ok (false, last'), hr =>
          have ht' : missing t' := hr (false, last') rfl rfl
          refine logs_ite.mpr ⟨nofun, fun _ => ?_⟩
          exact logs_ite.mpr ⟨fun _ _ _ _ => ht', fun _ => ih b.step last' t' ht'⟩

/-- The attempts to store the object, and after them the attempts to remove the directory. -/
lemma logs_storeVolume (hb : ClaimBound p claim P missing) {b : Backoff} {volume : PersistentVolume}
    (hnode : ForNode claim p.nodeName) (hmade : MadeFor p claim volume) (ht : missing t) :
    Logs P V (fun _ _ => True) t (BackoffStore.storeVolume b p.provisioner volume).run := by
  have hsave : ∀ t last, missing t → Logs P V
      (fun t r => ∀ x, r = Except.ok x → x.1 = false → missing t) t (trySave volume last).run := by
    intro t last ht
    refine logs_perform.mpr ⟨hb.create hnode t volume hmade, fun r _ => ?_⟩
    cases r with
    | ok u => exact fun x hx => by cases hx; exact nofun
    | error e =>
        refine logs_ite.mpr ⟨fun _ x hx => ?_, fun _ x hx _ => hb.notStored t volume e ht⟩
        cases hx
        exact nofun
  have hremoves : p.Removes volume (p.directory claim) :=
    ⟨hmade.identity, hmade.node, hmade.hostPath⟩
  have hdelete : ∀ t last, missing t → Logs P V
      (fun t r => ∀ x, r = Except.ok x → x.1 = false → missing t) t
      (tryDelete p.provisioner volume last).run := by
    intro t last ht
    have hcall : p.provisioner.delete volume = p.delete volume := rfl
    rw [tryDelete, hcall, p.delete_of_removes hremoves]
    refine logs_perform.mpr ⟨hb.remove hnode t ht, fun r _ => ?_⟩
    have hkept : missing (t ++ [⟨Call.backend ⟨p.nodeName, Syscall.removeAll (p.directory claim)⟩,
        r⟩]) := hb.keeps t _ ht (Or.inr ⟨_, rfl⟩)
    cases r with
    | error e => exact fun _ _ _ => hkept
    | ok u => exact fun _ _ _ => hkept
  refine logs_seq.mpr ((logs_backoff hsave _ _ _ t ht).mono ?_)
  intro t' r hr
  match r, hr with
  | Except.error e, _ => trivial
  | Except.ok (true, last), _ => trivial
  | Except.ok (false, last), hr =>
      refine logs_seq.mpr ((logs_backoff hdelete _ _ _ t' (hr _ rfl rfl)).mono ?_)
      intro t'' r _
      cases r <;> trivial

lemma logs_provisionAndStore (hb : ClaimBound p claim P missing) {b : Backoff}
    (hp : ctrl.provisioner = p.provisioner)
    (hstore : ctrl.volumeStore = BackoffStore.storeVolume b p.provisioner)
    (hnode : ForNode claim p.nodeName) (hleaves : Leaves claim claim') (c : StorageClass)
    (node : Option String) (ht : missing t) :
    Logs P V (fun _ _ => True) t (ctrl.provisionAndStore claim'
      ⟨c, getProvisionedVolumeNameForClaim claim', claim', node⟩).run := by
  set options : ProvisionOptions := ⟨c, getProvisionedVolumeNameForClaim claim', claim', node⟩
  have hcall : ctrl.callProvision options
      = (do return (← p.provision options, ProvisioningState.finished)) := by
    rw [ProvisionController.callProvision, hp]
    rfl
  have hpath : p.vPath options = p.directory claim := vPath_eq_directory hleaves c node
  unfold ProvisionController.provisionAndStore
  rw [hcall, hstore]
  have hprovision : Ensures (fun c => Looks p c
        ∨ c = Call.backend ⟨p.nodeName, Syscall.mkdirAll (p.directory claim)⟩) V
      (fun r => ∀ v, r.1 = Except.ok v → ∃ capacity, v = p.newVolume options capacity)
      (do return (← p.provision options, ProvisioningState.finished)) :=
    Ensures.bind (ensures_provision (fun _ h => Or.inl h) (Or.inr (by rw [hpath])))
      fun r hr => Ensures.ret hr
  refine logs_ensures hprovision ?_ fun u hu r hr => ?_
  · rintro t c (hc | rfl)
    · exact hb.looks t c hc
    · exact hb.mkdir hnode t
  · have hkept : missing (t ++ u) := hb.keeps_all ht fun s hs => (hu s hs).imp_right fun h => ⟨_, h⟩
    match r, hr with
    | (Except.error (GoError.ignored m), st), _ => trivial
    | (Except.error (GoError.plain m), st), _ => trivial
    | (Except.ok v, st), hr =>
        obtain ⟨capacity, rfl⟩ := hr v rfl
        refine logs_seq.mpr ((logs_storeVolume hb hnode
          (madeFor_completeVolume ctrl hleaves c node capacity) hkept).mono ?_)
        intro t' r _
        cases r <;> trivial

lemma logs_provisionClaimOperation (hb : ClaimBound p claim P missing) {b : Backoff}
    (hp : ctrl.provisioner = p.provisioner)
    (hstore : ctrl.volumeStore = BackoffStore.storeVolume b p.provisioner)
    (hnode : ForNode claim p.nodeName) (hleaves : Leaves claim claim')
    (ht : ∀ s ∈ t, Looks p s.1) :
    Logs P V (fun _ _ => True) t (ctrl.provisionClaimOperation claim').run := by
  have hname : getProvisionedVolumeNameForClaim claim' = getProvisionedVolumeNameForClaim claim := by
    rw [getProvisionedVolumeNameForClaim, hleaves.uid, getProvisionedVolumeNameForClaim]
  refine logs_perform.mpr ⟨by rw [hname]; exact hb.get t, fun r _ => ?_⟩
  cases r with
  | ok v => trivial
  | error e =>
  have hmissing := hb.notFound t e ht
  rw [← hname] at hmissing
  refine logs_ensures (Ensures.perform (P := Looks p) trivial) hb.looks fun u hu r _ => ?_
  have hmissing' := hb.keeps_all hmissing fun s hs => Or.inl (hu s hs)
  cases r with
  | error e => trivial
  | ok u =>
  dsimp only
  cases ctrl.canProvision claim' with
  | some err => trivial
  | none =>
  refine logs_ensures (ensures_getStorageClass _) hb.looks fun u hu r _ => ?_
  have hmissing'' := hb.keeps_all hmissing' fun s hs => Or.inl (hu s hs)
  cases r with
  | error e => trivial
  | ok c =>
  refine logs_ite.mpr ⟨fun _ => trivial, fun _ => ?_⟩
  refine logs_ensures ensures_getSelectedNode hb.looks fun u hu r _ => ?_
  cases r with
  | error e => trivial
  | ok node =>
      exact logs_provisionAndStore hb hp hstore hnode hleaves c node
        (hb.keeps_all hmissing'' fun s hs => Or.inl (hu s hs))

/-- **The calls of a sync of a claim**, with what it knows when it makes them. -/
lemma logs_syncClaim (hb : ClaimBound p claim P missing) {b : Backoff}
    (hp : ctrl.provisioner = p.provisioner)
    (hstore : ctrl.volumeStore = BackoffStore.storeVolume b p.provisioner) :
    Logs P V (fun _ _ => True) [] (ctrl.syncClaim claim).run := by
  refine logs_ensures (ensures_shouldProvision hp) hb.looks fun u hu r hr => ?_
  match r, hr with
  | (Except.error e, left), _ => trivial
  | (Except.ok false, left), _ => trivial
  | (Except.ok true, left), hr =>
      refine logs_seq.mpr ((logs_provisionClaimOperation hb hp hstore (hr.2 rfl) hr.1 hu).mono ?_)
      intro t' r _
      cases r <;> trivial

/-- **The calls of a sync of a claim.** -/
lemma ensures_syncClaim {b : Backoff} (hp : ctrl.provisioner = p.provisioner)
    (hstore : ctrl.volumeStore = BackoffStore.storeVolume b p.provisioner) :
    Ensures (ClaimCall p claim) V (fun _ => True) (ctrl.syncClaim claim) := by
  have hb : ClaimBound p claim (fun _ c => ClaimCall p claim c) (fun _ => True) :=
    ⟨fun _ _ h => h.claimCall, fun _ => trivial, fun h _ => ⟨h, rfl, rfl⟩,
      fun h _ _ hv => ⟨h, hv⟩, fun h _ _ => ⟨h, rfl, rfl⟩, fun _ _ _ => trivial,
      fun _ _ _ _ => trivial, fun _ _ _ _ => trivial⟩
  refine uses_of_logs ((logs_syncClaim hb hp hstore).mono (S := fun _ _ => ∀ a, _ → True) ?_)
  exact fun _ _ _ _ _ => trivial

end Bound

end Claim

/-! ## The calls for a volume -/

/-- What is read of a volume satisfies `G`. -/
def Reads (G : String → PersistentVolume → Prop) : (c : Call NodeCall) → Answer NodeReply c → Prop
  | Call.getVolume name, r => ∀ o, r = Except.ok o → G name o
  | _, _ => True

/-- The object was read, and it is to be deleted. -/
def ReadDeletable (ctrl : ProvisionController NodeReply) (G : String → PersistentVolume → Prop)
    (name : String) : Prop :=
  ∃ o, G name o ∧ ctrl.deletable o = true

/-- The calls that a sync of a volume can make, if what is read satisfies `G`.  What is removed is the
directory of the cached copy. -/
def VolumeCall (ctrl : ProvisionController NodeReply) (p : HostPathProvisioner)
    (G : String → PersistentVolume → Prop) (volume : PersistentVolume) : Call NodeCall → Prop
  | Call.getVolume name => name = volume.name
  | Call.deleteVolume name => name = volume.name ∧ (∃ path, p.Removes volume path)
      ∧ ReadDeletable ctrl G volume.name
  | Call.updateVolume v => ReadDeletable ctrl G volume.name ∧ ∃ o, G volume.name o
      ∧ v = { o with finalizers := o.finalizers.filter fun f => f ≠ finalizerPV }
  | Call.backend ⟨node, Syscall.removeAll path⟩ => node = p.nodeName ∧ p.Removes volume path
      ∧ ReadDeletable ctrl G volume.name
  | _ => False

section Volume

variable {p : HostPathProvisioner} {ctrl : ProvisionController NodeReply}
  {G : String → PersistentVolume → Prop} {volume : PersistentVolume}

/-- What was called when the directory is removed: the object was read. -/
def readLog (volume o : PersistentVolume) : List (Sigma (Answer NodeReply)) :=
  [⟨Call.getVolume volume.name, Except.ok o⟩]

/-- What was called when the object is deleted: it was read, and the directory was removed. -/
def removalLog (p : HostPathProvisioner) (volume o : PersistentVolume) (path : String) :
    List (Sigma (Answer NodeReply)) :=
  readLog volume o ++ [⟨Call.backend ⟨p.nodeName, Syscall.removeAll path⟩, Except.ok ()⟩]

/-- A bound that the sync of a volume keeps to, where `o` is the object that it has read and `path`
the directory of the cached copy. -/
structure VolumeBound (ctrl : ProvisionController NodeReply) (p : HostPathProvisioner)
    (V : (c : Call NodeCall) → Answer NodeReply c → Prop) (volume : PersistentVolume)
    (P : List (Sigma (Answer NodeReply)) → Call NodeCall → Prop) : Prop where
  get : ∀ t, P t (Call.getVolume volume.name)
  remove : ∀ o path, V (Call.getVolume volume.name) (Except.ok o) → ctrl.deletable o = true →
    p.Removes volume path →
    P (readLog volume o) (Call.backend ⟨p.nodeName, Syscall.removeAll path⟩)
  delete : ∀ o path, V (Call.getVolume volume.name) (Except.ok o) → ctrl.deletable o = true →
    p.Removes volume path → P (removalLog p volume o path) (Call.deleteVolume volume.name)
  update : ∀ o path u o', V (Call.getVolume volume.name) (Except.ok o) →
    ctrl.deletable o = true → p.Removes volume path →
    V (Call.getVolume volume.name) (Except.ok o') →
    P (removalLog p volume o path ++ u) (Call.updateVolume
      { o' with finalizers := o'.finalizers.filter fun f => f ≠ finalizerPV })

section Bound

variable {P : List (Sigma (Answer NodeReply)) → Call NodeCall → Prop}
  {V : (c : Call NodeCall) → Answer NodeReply c → Prop}

/-- The part after the provisioner has answered. -/
lemma logs_deleteObject (hb : VolumeBound ctrl p V volume P) {o : PersistentVolume} {path : String}
    (ho : V (Call.getVolume volume.name) (Except.ok o)) (hdel : ctrl.deletable o = true)
    (hpath : p.Removes volume path) :
    Logs P V (fun _ _ => True) (removalLog p volume o path)
      (ctrl.deleteObject volume.name o none).run := by
  refine logs_perform.mpr ⟨hb.delete o path ho hdel hpath, fun r _ => ?_⟩
  cases r with
  | error e => trivial
  | ok u =>
  refine logs_ite.mpr ⟨fun _ => ?_, fun _ => trivial⟩
  refine logs_perform.mpr ⟨hb.get _, fun r hr => ?_⟩
  cases r with
  | error e => exact logs_ite.mpr ⟨fun _ => trivial, fun _ => trivial⟩
  | ok o' =>
  refine logs_ite.mpr ⟨fun _ => ?_, fun _ => trivial⟩
  refine logs_perform.mpr ⟨?_, fun r _ => ?_⟩
  · rw [List.append_assoc]
    exact hb.update o path _ o' ho hdel hpath hr
  · cases r with
    | error e => exact logs_ite.mpr ⟨fun _ => trivial, fun _ => trivial⟩
    | ok u => trivial

/-- **The calls of a sync of a volume**, with what it was told before. -/
lemma logs_syncVolume (hb : VolumeBound ctrl p V volume P) (hp : ctrl.provisioner = p.provisioner) :
    Logs P V (fun _ _ => True) [] (ctrl.syncVolume volume).run := by
  rw [ProvisionController.syncVolume_eq hp]
  refine logs_ite.mpr ⟨fun _ => ?_, fun _ => trivial⟩
  have hdelete : ctrl.provisioner.delete volume = p.delete volume := by rw [hp]; rfl
  rw [ProvisionController.deleteVolumeOperation, hdelete]
  simp only [ProvisionController.shouldDelete_eq hp]
  refine logs_perform.mpr ⟨hb.get [], fun r hr => ?_⟩
  cases r with
  | error e => trivial
  | ok o =>
  refine logs_ite.mpr ⟨fun _ => trivial, fun hstay => ?_⟩
  have hdel : ctrl.deletable o = true := by simpa using hstay
  by_cases hremoves : ∃ path, p.Removes volume path
  · obtain ⟨path, hpath⟩ := hremoves
    rw [p.delete_of_removes hpath]
    refine logs_perform.mpr ⟨hb.remove o path hr hdel hpath, fun r _ => ?_⟩
    cases r with
    | error e => trivial
    | ok u => exact logs_deleteObject hb hr hdel hpath
  · rcases p.delete_of_not_removes fun path hpath => hremoves ⟨path, hpath⟩ with ⟨e, he⟩ | ⟨e, he⟩
    · rw [he]
      cases e <;> trivial
    · rw [he]
      trivial

end Bound

end Volume

/-! ## What is stored -/

/-- Every stored object satisfies `G`. -/
def Cluster.All (w : Cluster) (G : String → PersistentVolume → Prop) : Prop :=
  ∀ name o, w.api.volumes name = some o → G name o

/-- What the call writes satisfies `G`. -/
def Writes (G : String → PersistentVolume → Prop) : Call NodeCall → Prop
  | Call.createVolume v => G v.name v
  | Call.updateVolume v => G v.name v
  | _ => True

section Stored

variable {G : String → PersistentVolume → Prop} {w : Cluster} {s : Api}

lemma all_put {v : PersistentVolume} (hs : ∀ name o, s.volumes name = some o → G name o)
    (hv : G v.name v) : ∀ name o, (s.put v).volumes name = some o → G name o := by
  intro name o ho
  by_cases hname : name = v.name
  · subst hname
    obtain rfl : v = o := by simpa [Api.put] using ho
    exact hv
  · exact hs name o (by simpa [Api.put, hname] using ho)

lemma all_remove {n : String} (hs : ∀ name o, s.volumes name = some o → G name o) :
    ∀ name o, (s.remove n).volumes name = some o → G name o := by
  intro name o ho
  by_cases hname : name = n
  · subst hname
    simp [Api.remove] at ho
  · exact hs name o (by simpa [Api.remove, hname] using ho)

lemma all_change {fault : Option Bool} {r : Except ApiError Unit × Api}
    (hs : ∀ name o, s.volumes name = some o → G name o)
    (hr : ∀ name o, r.2.volumes name = some o → G name o) :
    ∀ name o, (s.change fault r).2.volumes name = some o → G name o := by
  match fault with
  | none => exact hr
  | some false => exact hs
  | some true => exact hr

/-- **What is stored stays as it should be** if what is written is; an object that is marked as being
deleted counts as the object it was. -/
lemma Cluster.All.step (hw : w.All G) (hname : ∀ n o, G n o → o.name = n)
    (hmark : ∀ n o, G n o → G n { o with deletionTimestamp := true }) {c : Call NodeCall}
    (hc : Writes G c) : (w.step c).2.All G := by
  cases c with
  | createVolume v =>
      refine all_change hw ?_
      unfold Api.create
      split
      · exact hw
      · exact all_put hw hc
  | updateVolume v =>
      refine all_change hw ?_
      unfold Api.update
      split
      · exact hw
      · split_ifs
        · exact all_remove hw
        · exact all_put hw hc
  | deleteVolume name =>
      refine all_change hw ?_
      unfold Api.delete
      split
      · exact hw
      · rename_i o ho
        split_ifs
        · exact all_remove hw
        · have hG := hw name o ho
          obtain rfl := hname name o hG
          exact all_put hw (hmark o.name o hG)
  | getVolume name => exact hw
  | getNode name => exact hw
  | getStorageClass name => exact hw
  | getReference claim => exact hw
  | backend b => exact hw

/-- What is read is what is stored. -/
lemma Cluster.All.reads (hw : w.All G) (c : Call NodeCall) : Reads G c (w.step c).1 := by
  cases c with
  | getVolume name => exact fun o ho => hw name o (Cluster.step_getVolume_eq_ok.mp ho).2
  | _ => trivial

end Stored

/-! ## The calls of a task -/

/-- The calls of a task, if what is read of a volume satisfies `G` and other clients make calls as
`other` allows. -/
def Fleet.MayCall (F : Fleet) (G : String → PersistentVolume → Prop) (other : Call NodeCall → Prop) :
    Task → Call NodeCall → Prop
  | Task.claim node claim => ClaimCall (F.provisioner node) claim
  | Task.volume node volume => VolumeCall (F.controller node) (F.provisioner node) G volume
  | Task.client _ => other

end Hostpath.Legacy
