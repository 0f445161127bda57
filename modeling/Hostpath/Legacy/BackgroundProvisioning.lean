import Hostpath.Lib.Run
import Hostpath.Legacy.StoreTruth
import Hostpath.Legacy.Controller

/-!
# Provisioning in the background

A provisioner may say of a claim that its volume is being made in the background.  The controller
then keeps the claim in `claimsInProgress`, so that it asks again even if the claim is gone.  Whether
the claim is kept is decided from what `syncClaim` returns, and several of its exits make the
controller forget the claim without having asked the provisioner.

The provisioner is arbitrary here.  What it replies to each question, and what the API server and
the caches reply, is given for each sync by `Replies`.

* `next` — what a sync does to the entry of the claim in `claimsInProgress`.
* `pending` — whether something may be going on in the background, as far as the replies tell.
* `kept_iff` — the claim is kept along a run exactly if the controller comes to ask the provisioner
  in every sync in which it should.
-/

namespace Hostpath.Legacy

open Lib Prog

/-! ## An arbitrary provisioner -/

/-- What a provisioner and a volume store are asked. -/
inductive ExtCall where
  | provisionExt (options : ProvisionOptions)
  | shouldProvision (claim : PersistentVolumeClaim) (bindingMode : Option VolumeBindingMode)
  | storeVolume (volume : PersistentVolume)

@[reducible] def ExtReply : ExtCall → Type
  | ExtCall.provisionExt _ => Except GoError PersistentVolume × ProvisioningState
  | ExtCall.shouldProvision _ _ => Bool × PersistentVolumeClaim
  | ExtCall.storeVolume _ => Option GoError

/-- All replies in one sync.  Only the storage class is asked for twice. -/
structure Replies where
  class₁ : Except String (Option StorageClass)
  qualify : PersistentVolumeClaim → Option VolumeBindingMode → Bool × PersistentVolumeClaim
  volume : Except ApiError PersistentVolume
  reference : Except String Unit
  class₂ : Except String (Option StorageClass)
  node : Except ApiError Unit
  ext : Except GoError PersistentVolume × ProvisioningState
  store : Option GoError

/-- The surroundings of a sync: the replies, whether the storage class was asked for before, and
whether `ProvisionExt` was called. -/
structure Surroundings where
  replies : Replies
  looked : Bool
  asked : Bool

namespace Surroundings

def step (s : Surroundings) : (c : Call ExtCall) → Answer ExtReply c × Surroundings
  | Call.getVolume _ => (s.replies.volume, s)
  | Call.createVolume _ => (Except.ok (), s)
  | Call.updateVolume _ => (Except.ok (), s)
  | Call.deleteVolume _ => (Except.ok (), s)
  | Call.getNode _ => (s.replies.node, s)
  | Call.getStorageClass _ =>
      (if s.looked then s.replies.class₂ else s.replies.class₁, { s with looked := true })
  | Call.getReference _ => (s.replies.reference, s)
  | Call.backend (ExtCall.provisionExt _) => (s.replies.ext, { s with asked := true })
  | Call.backend (ExtCall.shouldProvision claim bindingMode) =>
      (s.replies.qualify claim bindingMode, s)
  | Call.backend (ExtCall.storeVolume _) => (s.replies.store, s)

def exec {α : Type} (s : Surroundings) (x : Ctl ExtReply α) : Except String α × Surroundings :=
  Prog.exec step x s

lemma exec_perform_eq {α : Type} {s : Surroundings} {c : Call ExtCall}
    {k : Answer ExtReply c → Ctl ExtReply α} :
    s.exec (perform c >>= k) = (s.step c).2.exec (k (s.step c).1) := rfl

@[simp] lemma exec_pure {α : Type} {s : Surroundings} {a : α} :
    s.exec (pure a : Ctl ExtReply α) = (Except.ok a, s) := rfl

end Surroundings

/-- One sync: what the cache has, how often the claim was requeued, all replies, and whether a
volume for the claim exists, which it does if it is found. -/
structure Sync where
  objs : Except String (Option PersistentVolumeClaim)
  numRequeues : ℕ
  replies : Replies
  provisioned : Bool
  found : ∀ v, replies.volume = Except.ok v → provisioned = true

/-- The claim that is synced, if the entry in `claimsInProgress` is `s`. -/
def Sync.claim (e : Sync) (s : Option PersistentVolumeClaim) : Option PersistentVolumeClaim :=
  match e.objs with
  | Except.ok cached => cached.or s
  | Except.error _ => none

namespace ProvisionController

/-- The provisioner is a `ProvisionerExt`, possibly a `Qualifier`. -/
structure AsksExt (ctrl : ProvisionController ExtReply) : Prop where
  provisionExt : ctrl.provisioner.provisionExt
    = some fun options => perform (Call.backend (ExtCall.provisionExt options))
  qualifier : ctrl.provisioner.shouldProvision = none ∨ ctrl.provisioner.shouldProvision
    = some fun claim mode => perform (Call.backend (ExtCall.shouldProvision claim mode))
  store : ctrl.volumeStore = fun v => perform (Call.backend (ExtCall.storeVolume v))

variable (ctrl : ProvisionController ExtReply)

/-- The sync, with what becomes of the entry in `claimsInProgress` up to the end of
`syncClaimHandler`. -/
def handled (s : Option PersistentVolumeClaim) (e : Sync) :
    Except String ((ProvisioningState × Option GoError) × Option PersistentVolumeClaim)
      × Surroundings :=
  Surroundings.exec ⟨e.replies, false, false⟩ (ctrl.syncClaimHandler e.objs s)

/-- The error that the sync ends with. -/
def syncError (s : Option PersistentVolumeClaim) (e : Sync) : Option GoError :=
  match (ctrl.handled s e).1 with
  | Except.ok r => r.1.2
  | Except.error _ => none

/-- The entry in `claimsInProgress` after the sync. -/
def next (s : Option PersistentVolumeClaim) (e : Sync) : Option PersistentVolumeClaim :=
  match (ctrl.handled s e).1 with
  | Except.ok r => ctrl.finishClaim e.numRequeues r.1.2 r.2
  | Except.error _ => s

/-- `ProvisionExt` was called in the sync. -/
def asked (s : Option PersistentVolumeClaim) (e : Sync) : Bool := (ctrl.handled s e).2.asked

/-- `ProvisionExt` said that the volume is being made in the background. -/
def InBackground (s : Option PersistentVolumeClaim) (e : Sync) : Prop :=
  ctrl.asked s e = true ∧ (∃ err, e.replies.ext.1 = Except.error err)
    ∧ e.replies.ext.2 = ProvisioningState.inBackground

/-- The failure threshold is reached. -/
def Reached (e : Sync) : Prop :=
  ctrl.failedProvisionThreshold ≠ 0 ∧ ctrl.failedProvisionThreshold ≤ e.numRequeues

/-- The controller may forget the claim: the provisioner is done with it, or a volume exists, or the
claim has one, or the sync failed and the claim was requeued too often. -/
def Ended (s : Option PersistentVolumeClaim) (e : Sync) : Prop :=
  (ctrl.asked s e = true
    ∧ ((∃ v, e.replies.ext.1 = Except.ok v) ∨ e.replies.ext.2 = ProvisioningState.finished))
  ∨ e.provisioned = true
  ∨ (∃ claim, e.claim s = some claim ∧ claim.volumeName ≠ "")
  ∨ (ctrl.syncError s e ≠ none ∧ ctrl.Reached e)

/-- After these syncs something may be going on in the background. -/
def Pending (tr : List (Option PersistentVolumeClaim × Sync)) : Prop :=
  tr.foldl (fun pending x => (pending ∨ ctrl.InBackground x.1 x.2) ∧ ¬ ctrl.Ended x.1 x.2) False

/-! ## When the provisioner is asked -/

/-- What a qualifier leaves of the claim, and whether it wants the claim. -/
def qualified (claim : PersistentVolumeClaim) (mode : Option VolumeBindingMode) (r : Replies) :
    Bool × PersistentVolumeClaim :=
  if ctrl.provisioner.shouldProvision.isSome then r.qualify claim mode else (true, claim)

/-- The claim asks for a volume of this provisioner, and is left as `claim'`. -/
def Wants (claim : PersistentVolumeClaim) (r : Replies) (claim' : PersistentVolumeClaim) : Prop :=
  ∃ c, r.class₁ = Except.ok (some c)
    ∧ ctrl.qualified claim c.volumeBindingMode r = (true, claim')
    ∧ ctrl.requested claim' c = true

/-- Nothing that is looked up before the provisioner is asked is missing. -/
def Admits (claim : PersistentVolumeClaim) (r : Replies) : Prop :=
  r.reference = Except.ok () ∧ ctrl.canProvision claim = none
    ∧ ∃ c, r.class₂ = Except.ok (some c) ∧ ctrl.knownProvisioner c.provisioner = true

/-- The selected node cannot be read. -/
def NodeLost (claim : PersistentVolumeClaim) (r : Replies) : Prop :=
  ctrl.kubeVersion.atLeast ⟨1, 11, 0⟩ = true ∧ claim.annotations.lookup annSelectedNode ≠ none
    ∧ ∃ e, r.node = Except.error e

/-- The provisioner is asked and does not ignore the question, unless it is for the selected node
that it is not asked. -/
def Consults (s : Option PersistentVolumeClaim) (e : Sync) : Prop :=
  ∀ claim, e.claim s = some claim → ∃ claim', ctrl.Wants claim e.replies claim'
    ∧ ctrl.Admits claim' e.replies
    ∧ (ctrl.NodeLost claim' e.replies ∨ ∀ m, e.replies.ext.1 ≠ Except.error (GoError.ignored m))

variable {ctrl} {claim claim' : PersistentVolumeClaim} {r : Replies} {b : Bool}

lemma exec_qualify (h : ctrl.AsksExt) (mode : Option VolumeBindingMode) :
    Surroundings.exec ⟨r, b, false⟩ (ctrl.qualify claim mode)
      = (Except.ok (ctrl.qualified claim mode r), ⟨r, b, false⟩) := by
  unfold qualify qualified
  rcases h.qualifier with hq | hq <;> rw [hq] <;> rfl

/-- The class that is found, the first or the second time. -/
def classReply (r : Replies) (looked : Bool) : Except String (Option StorageClass) :=
  if looked then r.class₂ else r.class₁

lemma exec_getStorageClass (name : String) {c : StorageClass}
    (hclass : classReply r b = Except.ok (some c)) :
    Surroundings.exec ⟨r, b, false⟩ (getStorageClass name)
      = (Except.ok (Except.ok c), ⟨r, true, false⟩) := by
  rw [getStorageClass, Surroundings.exec_perform_eq]
  have hreply : (Surroundings.step ⟨r, b, false⟩ (Call.getStorageClass name)).1
      = Except.ok (some c) := hclass
  rw [hreply]
  rfl

lemma exec_getStorageClass_missing (name : String)
    (hclass : ∀ c, classReply r b ≠ Except.ok (some c)) :
    ∃ e, Surroundings.exec ⟨r, b, false⟩ (getStorageClass name)
      = (Except.ok (Except.error e), ⟨r, true, false⟩) := by
  rw [getStorageClass, Surroundings.exec_perform_eq]
  have hreply : (Surroundings.step ⟨r, b, false⟩ (Call.getStorageClass name)).1
      = classReply r b := rfl
  rw [hreply]
  match h : classReply r b with
  | Except.error e => exact ⟨_, rfl⟩
  | Except.ok none => exact ⟨_, rfl⟩
  | Except.ok (some c) => exact absurd h (hclass c)

lemma exec_shouldProvision (h : ctrl.AsksExt) (hw : ctrl.Wants claim r claim')
    (hname : claim.volumeName = "") :
    Surroundings.exec ⟨r, false, false⟩ (ctrl.shouldProvision claim)
      = (Except.ok (Except.ok true, claim'), ⟨r, true, false⟩) := by
  obtain ⟨c, hclass, hqual, hreq⟩ := hw
  rw [shouldProvision, if_neg (not_not.mpr hname)]
  refine (exec_bind_of_ok Surroundings.step
    (exec_getStorageClass (r := r) (b := false) _ hclass)).trans ?_
  refine (exec_bind_of_ok Surroundings.step (exec_qualify h _)).trans ?_
  rw [hqual]
  exact congrArg (fun a => (Except.ok (Except.ok a, claim'), _)) hreq

/-- If the claim does not want a volume, it is not provisioned. -/
lemma exec_shouldProvision_not (h : ctrl.AsksExt) (hw : ∀ claim', ¬ ctrl.Wants claim r claim')
    (hname : claim.volumeName = "") :
    ∃ should claim', Surroundings.exec ⟨r, false, false⟩ (ctrl.shouldProvision claim)
      = (Except.ok (should, claim'), ⟨r, true, false⟩) ∧ should ≠ Except.ok true := by
  rw [shouldProvision, if_neg (not_not.mpr hname)]
  by_cases hclass : ∃ c, r.class₁ = Except.ok (some c)
  · obtain ⟨c, hclass⟩ := hclass
    rw [Surroundings.exec,
      exec_bind_of_ok Surroundings.step (exec_getStorageClass (r := r) (b := false) _ hclass)]
    dsimp only
    rw [exec_bind_of_ok Surroundings.step (exec_qualify h _)]
    rcases hqual : ctrl.qualified claim c.volumeBindingMode r with ⟨q, left⟩
    cases q with
    | false => exact ⟨_, _, rfl, nofun⟩
    | true =>
        refine ⟨Except.ok (ctrl.requested left c), left, rfl, fun hreq => ?_⟩
        exact hw left ⟨c, hclass, hqual, Except.ok.inj hreq⟩
  · obtain ⟨e, he⟩ := exec_getStorageClass_missing (r := r) (b := false)
      (getPersistentVolumeClaimClass claim) fun c hc => hclass ⟨c, hc⟩
    refine ⟨Except.error e, claim, ?_, nofun⟩
    exact exec_bind_of_ok Surroundings.step he

/-! ## What `provisionClaimOperation` does -/

lemma exec_getSelectedNode_lost (h : ctrl.NodeLost claim r) :
    ∃ e, Surroundings.exec ⟨r, b, false⟩ (ctrl.getSelectedNode claim)
      = (Except.ok (Except.error e), ⟨r, b, false⟩) := by
  obtain ⟨hversion, hnode, e, he⟩ := h
  obtain ⟨node, hnode⟩ := Option.ne_none_iff_exists'.mp hnode
  rw [getSelectedNode, if_pos hversion, hnode]
  dsimp only
  rw [Surroundings.exec_perform_eq]
  have hreply : (Surroundings.step ⟨r, b, false⟩ (Call.getNode node)).1 = Except.error e := he
  rw [hreply]
  exact ⟨_, rfl⟩

lemma exec_getSelectedNode (h : ¬ ctrl.NodeLost claim r) :
    ∃ node, Surroundings.exec ⟨r, b, false⟩ (ctrl.getSelectedNode claim)
      = (Except.ok (Except.ok node), ⟨r, b, false⟩) := by
  rw [getSelectedNode]
  split_ifs with hversion
  · cases hnode : claim.annotations.lookup annSelectedNode with
    | none => exact ⟨_, rfl⟩
    | some node =>
        dsimp only
        rw [Surroundings.exec_perform_eq]
        have hreply : (Surroundings.step ⟨r, b, false⟩ (Call.getNode node)).1 = r.node := rfl
        rw [hreply]
        cases he : r.node with
        | ok u => exact ⟨_, rfl⟩
        | error e => exact absurd ⟨hversion, by simp [hnode], e, he⟩ h
  · exact ⟨_, rfl⟩

/-- What `provisionAndStore` makes of the provisioner's reply. -/
def provisioned (r : Replies) (message : String → String) : ProvisioningState × Option GoError :=
  match r.ext with
  | (Except.error (GoError.ignored _), _) => (ProvisioningState.finished, none)
  | (Except.error (GoError.plain m), result) => (result, some (GoError.plain (message m)))
  | (Except.ok _, _) => (ProvisioningState.finished, r.store)

lemma exec_provisionAndStore (h : ctrl.AsksExt) (claim : PersistentVolumeClaim) (options : ProvisionOptions) :
    ∃ message, Surroundings.exec ⟨r, b, false⟩ (ctrl.provisionAndStore claim options)
      = (Except.ok (provisioned r message), ⟨r, b, true⟩) := by
  refine ⟨fun m => "failed to provision volume with StorageClass \""
    ++ getPersistentVolumeClaimClass claim ++ "\": " ++ m, ?_⟩
  have hcall : Surroundings.exec ⟨r, b, false⟩ (ctrl.callProvision options)
      = (Except.ok r.ext, ⟨r, b, true⟩) := by
    rw [callProvision, h.provisionExt]
    rfl
  rw [provisionAndStore, h.store]
  refine (exec_bind_of_ok Surroundings.step hcall).trans ?_
  unfold provisioned
  rcases r.ext with ⟨_ | _, result⟩
  · rename_i e
    cases e <;> rfl
  · rfl

/-- **The exits of `provisionClaimOperation`** for a volume that is not found.  If something is
missing, it ends without an error or as finished, and otherwise it asks the provisioner, unless the
selected node cannot be read. -/
lemma provisionClaimOperation_cases (h : ctrl.AsksExt) (claim : PersistentVolumeClaim) {e : ApiError}
    (hvolume : r.volume = Except.error e) :
    ∃ res asked, Surroundings.exec ⟨r, true, false⟩ (ctrl.provisionClaimOperation claim)
        = (Except.ok res, ⟨r, true, asked⟩)
      ∧ (¬ ctrl.Admits claim r ∧ (res.2 = none ∨ res.1 = ProvisioningState.finished)
          ∧ asked = false
        ∨ ctrl.Admits claim r ∧ ctrl.NodeLost claim r
          ∧ (∃ err, res = (ProvisioningState.noChange, some err)) ∧ asked = false
        ∨ ctrl.Admits claim r ∧ ¬ ctrl.NodeLost claim r ∧ (∃ message, res = provisioned r message)
          ∧ asked = true) := by
  rw [provisionClaimOperation, Surroundings.exec_perform_eq]
  have hget : (Surroundings.step ⟨r, true, false⟩
      (Call.getVolume (getProvisionedVolumeNameForClaim claim))).1 = Except.error e := hvolume
  rw [hget]
  dsimp only
  rw [Surroundings.exec_perform_eq]
  have hreference : (Surroundings.step (Surroundings.step ⟨r, true, false⟩
      (Call.getVolume (getProvisionedVolumeNameForClaim claim))).2 (Call.getReference claim)).1
      = r.reference := rfl
  rw [hreference]
  cases href : r.reference with
  | error m =>
      refine ⟨_, false, rfl, Or.inl ⟨fun hadm => ?_, Or.inl rfl, rfl⟩⟩
      rw [hadm.1] at href
      cases href
  | ok u =>
  cases hcan : ctrl.canProvision claim with
  | some err =>
      refine ⟨_, false, rfl, Or.inl ⟨fun hadm => ?_, Or.inl rfl, rfl⟩⟩
      rw [hadm.2.1] at hcan
      cases hcan
  | none =>
  by_cases hclass : ∃ c, r.class₂ = Except.ok (some c)
  swap
  · obtain ⟨err, herr⟩ := exec_getStorageClass_missing (r := r) (b := true)
      (getPersistentVolumeClaimClass claim) fun c hc => hclass ⟨c, hc⟩
    refine ⟨(ProvisioningState.finished, some err), false,
      exec_bind_of_ok Surroundings.step herr, Or.inl ⟨fun hadm => ?_, Or.inr rfl, rfl⟩⟩
    obtain ⟨c, hc, -⟩ := hadm.2.2
    exact hclass ⟨c, hc⟩
  obtain ⟨c, hclass⟩ := hclass
  have hget₂ := exec_getStorageClass (r := r) (b := true) (getPersistentVolumeClaimClass claim) hclass
  by_cases hknown : ctrl.knownProvisioner c.provisioner = true
  swap
  · refine ⟨(ProvisioningState.finished, none), false,
      (exec_bind_of_ok Surroundings.step hget₂).trans ?_,
      Or.inl ⟨fun hadm => ?_, Or.inl rfl, rfl⟩⟩
    · dsimp only
      rw [if_pos (by simp [hknown])]
      rfl
    · obtain ⟨c', hc', hknown'⟩ := hadm.2.2
      cases hclass.symm.trans hc'
      exact hknown hknown'
  have hadm : ctrl.Admits claim r := ⟨href, hcan, c, hclass, hknown⟩
  by_cases hlost : ctrl.NodeLost claim r
  · obtain ⟨err, herr⟩ := exec_getSelectedNode_lost (b := true) hlost
    refine ⟨(ProvisioningState.noChange, some err), false,
      (exec_bind_of_ok Surroundings.step hget₂).trans ?_,
      Or.inr (Or.inl ⟨hadm, hlost, ⟨err, rfl⟩, rfl⟩)⟩
    dsimp only
    rw [if_neg (by simp [hknown]), exec_bind_of_ok Surroundings.step herr]
    rfl
  · obtain ⟨node, hnode⟩ := exec_getSelectedNode (b := true) hlost
    obtain ⟨message, hmessage⟩ := exec_provisionAndStore (r := r) (b := true) h claim
      ⟨c, getProvisionedVolumeNameForClaim claim, claim, node⟩
    refine ⟨provisioned r message, true, (exec_bind_of_ok Surroundings.step hget₂).trans ?_,
      Or.inr (Or.inr ⟨hadm, hlost, ⟨message, rfl⟩, rfl⟩)⟩
    dsimp only
    rw [if_neg (by simp [hknown]), exec_bind_of_ok Surroundings.step hnode]
    exact hmessage

lemma Wants.unique {claim'' : PersistentVolumeClaim} (h : ctrl.Wants claim r claim')
    (h' : ctrl.Wants claim r claim'') : claim' = claim'' := by
  obtain ⟨c, hclass, hqual, -⟩ := h
  obtain ⟨c', hclass', hqual', -⟩ := h'
  cases hclass.symm.trans hclass'
  exact congrArg Prod.snd (hqual.symm.trans hqual')

/-- **The exits of `syncClaim`** for a claim without a volume. -/
lemma syncClaim_cases (h : ctrl.AsksExt) (hname : claim.volumeName = "") {e : ApiError}
    (hvolume : r.volume = Except.error e) :
    ∃ res claim' asked, Surroundings.exec ⟨r, false, false⟩ (ctrl.syncClaim claim)
        = (Except.ok (res, claim'), ⟨r, true, asked⟩)
      ∧ ((∀ claim', ctrl.Wants claim r claim' → ¬ ctrl.Admits claim' r)
          ∧ (res.2 = none ∨ res.1 = ProvisioningState.finished) ∧ asked = false
        ∨ ctrl.Wants claim r claim' ∧ ctrl.Admits claim' r
          ∧ (ctrl.NodeLost claim' r ∧ (∃ err, res = (ProvisioningState.noChange, some err))
              ∧ asked = false
            ∨ ¬ ctrl.NodeLost claim' r ∧ (∃ message, res = provisioned r message)
              ∧ asked = true)) := by
  by_cases hwants : ∃ claim', ctrl.Wants claim r claim'
  · obtain ⟨claim', hwants⟩ := hwants
    obtain ⟨res, asked, hexec, hcases⟩ := provisionClaimOperation_cases h claim' hvolume
    refine ⟨res, claim', asked, ?_, ?_⟩
    · refine (exec_bind_of_ok Surroundings.step (exec_shouldProvision h hwants hname)).trans ?_
      exact exec_bind_of_ok Surroundings.step hexec
    · rcases hcases with ⟨hadm, hres⟩ | ⟨hadm, hlost, hres⟩ | ⟨hadm, hlost, hres⟩
      · refine Or.inl ⟨fun other hother => ?_, hres⟩
        rwa [← hwants.unique hother]
      · exact Or.inr ⟨hwants, hadm, Or.inl ⟨hlost, hres⟩⟩
      · exact Or.inr ⟨hwants, hadm, Or.inr ⟨hlost, hres⟩⟩
  · have hnone : ∀ claim', ¬ ctrl.Wants claim r claim' := fun claim' hw => hwants ⟨claim', hw⟩
    obtain ⟨should, left, hexec, hne⟩ := exec_shouldProvision_not h hnone hname
    match should, hexec, hne with
    | Except.error err, hexec, _ =>
        exact ⟨(ProvisioningState.finished, some err), left, false,
          exec_bind_of_ok Surroundings.step hexec,
          Or.inl ⟨fun claim' hw => absurd hw (hnone claim'), Or.inr rfl, rfl⟩⟩
    | Except.ok false, hexec, _ =>
        exact ⟨(ProvisioningState.finished, none), left, false,
          exec_bind_of_ok Surroundings.step hexec,
          Or.inl ⟨fun claim' hw => absurd hw (hnone claim'), Or.inl rfl, rfl⟩⟩
    | Except.ok true, _, hne => exact absurd rfl hne

/-! ## What a sync does to the entry -/

variable {s cached : Option PersistentVolumeClaim} {e : Sync}

lemma handled_of_claim (hobjs : e.objs = Except.ok cached) (hclaim : cached.or s = some claim)
    {res : ProvisioningState × Option GoError} {env : Surroundings}
    (hsync : Surroundings.exec ⟨e.replies, false, false⟩ (ctrl.syncClaim claim)
      = (Except.ok (res, claim'), env)) :
    ctrl.handled s e = (Except.ok (res,
      if res.2 = none ∨ res.1 = ProvisioningState.finished then none
      else if res.1 = ProvisioningState.inBackground then some claim'
      else if cached.isSome then s else some claim'), env) := by
  unfold handled syncClaimHandler
  rw [hobjs]
  dsimp only
  rw [hclaim]
  refine (exec_bind_of_ok Surroundings.step hsync).trans ?_
  dsimp only
  split_ifs <;> rfl

lemma finishClaim_of_error {err : GoError} (h : ¬ ctrl.Reached e) :
    ctrl.finishClaim e.numRequeues (some err) s = s := by
  unfold finishClaim
  by_cases hzero : ctrl.failedProvisionThreshold = 0
  · simp [hzero]
  · have hlt : (e.numRequeues : ℤ) < ctrl.failedProvisionThreshold :=
      not_le.mp fun hle => h ⟨hzero, hle⟩
    simp [hlt]

lemma finishClaim_of_dropped {n : ℕ} {err : Option GoError} : ctrl.finishClaim n err none = none := by
  unfold finishClaim
  split_ifs <;> rfl

/-- While the claim may not be forgotten, a sync that fails before it has a claim keeps it. -/
lemma next_of_cache_error {m : String} (hobjs : e.objs = Except.error m)
    (hpending : s.isSome ∨ ctrl.InBackground s e) (hend : ¬ ctrl.Ended s e) :
    (ctrl.next s e).isSome := by
  have hh : ctrl.handled s e = (Except.ok ((ProvisioningState.finished, some (GoError.plain m)), s),
      ⟨e.replies, false, false⟩) := by
    unfold handled syncClaimHandler
    rw [hobjs]
    rfl
  have hreached : ¬ ctrl.Reached e := fun hr =>
    hend (Or.inr (Or.inr (Or.inr ⟨by simp [syncError, hh], hr⟩)))
  rw [next, hh]
  dsimp only
  rw [finishClaim_of_error hreached]
  exact hpending.resolve_right fun hb => by simpa [asked, hh] using hb.1

/-- While the claim may not be forgotten, there is one. -/
lemma exists_claim (hobjs : e.objs = Except.ok cached)
    (hpending : s.isSome ∨ ctrl.InBackground s e) : ∃ claim, cached.or s = some claim := by
  cases hclaim : cached.or s with
  | some claim => exact ⟨claim, rfl⟩
  | none =>
      obtain ⟨rfl, rfl⟩ := Option.or_eq_none_iff.mp hclaim
      have hh : ctrl.handled none e = (Except.ok ((ProvisioningState.finished, none), none),
          ⟨e.replies, false, false⟩) := by
        unfold handled syncClaimHandler
        rw [hobjs]
        rfl
      rcases hpending with hs | hb
      · cases hs
      · simpa [asked, hh] using hb.1

/-- The provisioner is asked, and the claim is forgotten only if it ignores the question. -/
lemma next_isSome_of_asked {message : String → String} {kept : Option PersistentVolumeClaim}
    (hsynced : e.claim s = some claim) (hwants : ctrl.Wants claim e.replies claim')
    (hadm : ctrl.Admits claim' e.replies) (hlost : ¬ ctrl.NodeLost claim' e.replies)
    (hasks : ctrl.asked s e = true) (hpending : s.isSome ∨ ctrl.InBackground s e)
    (hend : ¬ ctrl.Ended s e)
    (hreached : (provisioned e.replies message).2 ≠ none → ¬ ctrl.Reached e)
    (hkept : s.isSome → kept.isSome = true) :
    (ctrl.finishClaim e.numRequeues (provisioned e.replies message).2
      (if (provisioned e.replies message).2 = none
          ∨ (provisioned e.replies message).1 = ProvisioningState.finished then none
      else if (provisioned e.replies message).1 = ProvisioningState.inBackground then some claim'
      else kept)).isSome ↔ ctrl.Consults s e := by
  have hopen : ¬ ((∃ v, e.replies.ext.1 = Except.ok v)
      ∨ e.replies.ext.2 = ProvisioningState.finished) := fun hdone => hend (Or.inl ⟨hasks, hdone⟩)
  have hback : e.replies.ext.2 ≠ ProvisioningState.inBackground → s.isSome := fun hst =>
    hpending.resolve_right fun hb => hst hb.2.2
  rcases hext : e.replies.ext with ⟨x, st⟩
  rw [hext] at hopen hback
  match x with
  | Except.ok v => exact absurd (Or.inl ⟨v, rfl⟩) hopen
  | Except.error (GoError.ignored m) =>
      have hres : provisioned e.replies message = (ProvisioningState.finished, none) := by
        simp [provisioned, hext]
      rw [hres, if_pos (Or.inl rfl), finishClaim_of_dropped]
      refine iff_of_false nofun fun hconsults => ?_
      obtain ⟨other, hw, -, hl | hignored⟩ := hconsults claim hsynced
      · rw [← hwants.unique hw] at hl
        exact hlost hl
      · exact hignored m (by rw [hext])
  | Except.error (GoError.plain m) =>
      have hres : provisioned e.replies message = (st, some (GoError.plain (message m))) := by
        simp [provisioned, hext]
      rw [hres] at hreached ⊢
      rw [finishClaim_of_error (hreached (by simp))]
      have hconsults : ctrl.Consults s e := by
        intro other hother
        cases hsynced.symm.trans hother
        exact ⟨claim', hwants, hadm, Or.inr fun m' hm' => by simp [hext] at hm'⟩
      refine iff_of_true ?_ hconsults
      cases st with
      | finished => exact absurd (Or.inr rfl) hopen
      | inBackground => simp
      | noChange => simpa using hkept (hback (by simp))

/-- **The step lemma**: while something may be going on in the background, the claim is kept exactly
if the provisioner is asked. -/
lemma next_isSome_iff (h : ctrl.AsksExt) (hpending : s.isSome ∨ ctrl.InBackground s e)
    (hend : ¬ ctrl.Ended s e) : (ctrl.next s e).isSome ↔ ctrl.Consults s e := by
  cases hobjs : e.objs with
  | error m =>
      refine iff_of_true (next_of_cache_error hobjs hpending hend) fun claim hclaim => ?_
      simp [Sync.claim, hobjs] at hclaim
  | ok cached =>
      obtain ⟨claim, hclaim⟩ := exists_claim hobjs hpending
      have hsynced : e.claim s = some claim := by simp [Sync.claim, hobjs, hclaim]
      have hname : claim.volumeName = "" := by
        by_contra hname
        exact hend (Or.inr (Or.inr (Or.inl ⟨claim, hsynced, hname⟩)))
      obtain ⟨err, hvolume⟩ : ∃ err, e.replies.volume = Except.error err := by
        cases hv : e.replies.volume with
        | error err => exact ⟨err, rfl⟩
        | ok v => exact absurd (Or.inr (Or.inl (e.found v hv))) hend
      obtain ⟨res, claim', asked, hexec, hcases⟩ := syncClaim_cases h hname hvolume
      have hh := handled_of_claim hobjs hclaim hexec
      have hnext : ctrl.next s e = ctrl.finishClaim e.numRequeues res.2
          (if res.2 = none ∨ res.1 = ProvisioningState.finished then none
          else if res.1 = ProvisioningState.inBackground then some claim'
          else if cached.isSome then s else some claim') := by
        rw [next, hh]
      rw [hnext]
      rcases hcases with ⟨hmissing, hdrop, rfl⟩ | ⟨hwants, hadm, hcases⟩
      · -- something is missing, and the claim is forgotten
        rw [if_pos hdrop, finishClaim_of_dropped]
        refine iff_of_false nofun fun hconsults => ?_
        obtain ⟨other, hw, ha, -⟩ := hconsults claim hsynced
        exact hmissing other hw ha
      have hasks : ctrl.asked s e = asked := by rw [ProvisionController.asked, hh]
      have hreached : res.2 ≠ none → ¬ ctrl.Reached e := fun herr hr =>
        hend (Or.inr (Or.inr (Or.inr ⟨by rwa [syncError, hh], hr⟩)))
      have hkept : s.isSome → (if cached.isSome then s else some claim').isSome = true := by
        intro hs
        split_ifs
        · exact hs
        · rfl
      rcases hcases with ⟨hlost, ⟨err, rfl⟩, rfl⟩ | ⟨hlost, ⟨message, rfl⟩, rfl⟩
      · -- the node is lost, and nothing changes
        have hs : s.isSome := hpending.resolve_right fun hb => by simpa [hasks] using hb.1
        rw [finishClaim_of_error (hreached (by simp))]
        refine iff_of_true (by simpa using hkept hs) fun other hother => ?_
        cases hsynced.symm.trans hother
        exact ⟨claim', hwants, hadm, Or.inl hlost⟩
      · exact next_isSome_of_asked hsynced hwants hadm hlost hasks hpending hend hreached hkept

/-! ## Runs -/

lemma pending_snoc {tr : List (Option PersistentVolumeClaim × Sync)} :
    ctrl.Pending (tr ++ [(s, e)])
      ↔ (ctrl.Pending tr ∨ ctrl.InBackground s e) ∧ ¬ ctrl.Ended s e := by
  simp [Pending]

/-- As long as something may be going on in the background, the claim is in `claimsInProgress`: in
each state of the run, and at its end. -/
def Kept (ctrl : ProvisionController ExtReply) (tr : List (Option PersistentVolumeClaim × Sync))
    (s' : Option PersistentVolumeClaim) : Prop :=
  Each (fun before x => ctrl.Pending before → x.1.isSome) [] tr ∧ (ctrl.Pending tr → s'.isSome)

/--
  **When background provisioning is not forgotten**: along every run of syncs of a claim exactly if
  each sync after which something may still be going on comes to ask the provisioner.
-/
theorem kept_iff (h : ctrl.AsksExt) {s₀ s' : Option PersistentVolumeClaim}
    {tr : List (Option PersistentVolumeClaim × Sync)}
    (hr : Run (fun s e s' => s' = ctrl.next s e) s₀ tr s') :
    ctrl.Kept tr s'
      ↔ Each (fun before x => ctrl.Pending (before ++ [x]) → ctrl.Consults x.1 x.2) [] tr := by
  induction hr with
  | nil => exact iff_of_true ⟨trivial, nofun⟩ trivial
  | @snoc tr m m' e _ hs ih =>
      have hsplit : ctrl.Kept (tr ++ [(m, e)]) m'
          ↔ ctrl.Kept tr m ∧ (ctrl.Pending (tr ++ [(m, e)]) → m'.isSome) := by
        rw [Kept, each_snoc, List.nil_append, Kept]
      rw [hsplit, each_snoc, List.nil_append, ← ih]
      refine and_congr_right fun hkept => imp_congr_right fun hpending => ?_
      obtain ⟨hopen, hend⟩ := pending_snoc.mp hpending
      rw [hs]
      exact next_isSome_iff h (hopen.imp_left hkept.2) hend

end ProvisionController

namespace Sample

/-- A controller with the default options and an arbitrary provisioner. -/
def extController : ProvisionController ExtReply where
  provisionerName := defaultProvisionerName
  additionalProvisionerNames := []
  provisioner :=
    { provision := fun _ => throw "not called"
      provisionExt := some fun options => perform (Call.backend (ExtCall.provisionExt options))
      delete := fun _ => pure none
      shouldProvision := none
      shouldDelete := none
      supportsBlock := none }
  kubeVersion := ⟨1, 20, 0⟩
  addFinalizer := false
  failedProvisionThreshold := 15
  volumeStore := fun v => perform (Call.backend (ExtCall.storeVolume v))

def extClaim : PersistentVolumeClaim :=
  { claim with annotations := AList.singleton annStorageProvisioner defaultProvisionerName }

/-- The volume is being made in the background, and nothing else goes wrong, except that the storage
class may be missing or the reference cannot be built. -/
def replies (found : Option StorageClass) (reference : Except String Unit) : Replies where
  class₁ := Except.ok found
  qualify := fun claim _ => (true, claim)
  volume := Except.error (Api.notFound "pvc-1")
  reference := reference
  class₂ := Except.ok found
  node := Except.ok ()
  ext := (Except.error (GoError.plain "timeout"), ProvisioningState.inBackground)
  store := none

def sync (cached : Option PersistentVolumeClaim) (found : Option StorageClass)
    (reference : Except String Unit) : Sync where
  objs := Except.ok cached
  numRequeues := 0
  replies := replies found reference
  provisioned := false
  found := fun _ h => by cases h

def started : Sync := sync (some extClaim) (some storageClass) (Except.ok ())

/-- The provisioner is asked, and then the claim leaves the cache and is synced once more. -/
lemma run_syncs (e : Sync) : Run (fun s e s' => s' = extController.next s e) none
    [(none, started), (extController.next none started, e)]
    (extController.next (extController.next none started) e) :=
  Run.snoc (Run.snoc Run.nil rfl) rfl

lemma asksExt : extController.AsksExt := ⟨rfl, Or.inl rfl, rfl⟩

/-- A sync with these replies does not end anything unless it asks and is told so. -/
lemma not_ended {s cached : Option PersistentVolumeClaim} {found : Option StorageClass}
    {reference : Except String Unit} (hclaim : ∀ c, cached.or s = some c → c.volumeName = "") :
    ¬ extController.Ended s (sync cached found reference) := by
  rintro (⟨-, ⟨v, hv⟩ | hst⟩ | hprov | ⟨c, hc, hne⟩ | ⟨-, -, hle⟩)
  · cases hv
  · cases hst
  · cases hprov
  · exact hne (hclaim c hc)
  · exact absurd hle (by simp [extController, sync])

lemma next_started : extController.next none started = some extClaim := rfl

/-- After the first sync the volume is being made, and the second does not end that. -/
lemma pending_syncs (found : Option StorageClass) (reference : Except String Unit) :
    extController.Pending
      [(none, started), (extController.next none started, sync none found reference)] := by
  have hfirst : extController.Pending ([] ++ [(none, started)]) := by
    refine ProvisionController.pending_snoc.mpr ⟨Or.inr ⟨rfl, ⟨_, rfl⟩, rfl⟩, not_ended ?_⟩
    rintro c hc
    cases hc
    rfl
  rw [← List.singleton_append]
  refine ProvisionController.pending_snoc.mpr ⟨Or.inl hfirst, not_ended ?_⟩
  rw [next_started]
  rintro c hc
  cases hc
  rfl

end Sample

/-- The provisioner is asked twice. -/
theorem sample_kept :
    Sample.extController.Kept [(none, Sample.started), (Sample.extController.next none Sample.started,
        Sample.sync none (some Sample.storageClass) (Except.ok ()))]
      (Sample.extController.next (Sample.extController.next none Sample.started)
        (Sample.sync none (some Sample.storageClass) (Except.ok ()))) := by
  refine Iff.mpr (ProvisionController.kept_iff Sample.asksExt (Sample.run_syncs _)) ?_
  have hconsults : ∀ s cached, Option.or cached s = some Sample.extClaim →
      Sample.extController.Consults s
        (Sample.sync cached (some Sample.storageClass) (Except.ok ())) := by
    intro s cached hclaim c hc
    cases hclaim.symm.trans hc
    exact ⟨Sample.extClaim, ⟨Sample.storageClass, rfl, rfl, by decide⟩,
      ⟨rfl, by decide, Sample.storageClass, rfl, by decide⟩, Or.inr nofun⟩
  exact ⟨fun _ => hconsults _ _ rfl, fun _ => hconsults _ _ rfl, trivial⟩

/-- The volume is being made in the background and the claim leaves the cache.  If then the storage
class is missing, or the reference to the claim cannot be built, the claim is forgotten. -/
theorem background_forgotten :
    ¬ Sample.extController.Kept [(none, Sample.started),
          (Sample.extController.next none Sample.started, Sample.sync none none (Except.ok ()))]
        (Sample.extController.next (Sample.extController.next none Sample.started)
          (Sample.sync none none (Except.ok ())))
      ∧ ¬ Sample.extController.Kept [(none, Sample.started),
          (Sample.extController.next none Sample.started,
            Sample.sync none (some Sample.storageClass) (Except.error "no kind is registered"))]
        (Sample.extController.next (Sample.extController.next none Sample.started)
          (Sample.sync none (some Sample.storageClass) (Except.error "no kind is registered"))) := by
  constructor
  · intro hkept
    exact absurd (hkept.2 (Sample.pending_syncs _ _)) (by decide +kernel)
  · intro hkept
    exact absurd (hkept.2 (Sample.pending_syncs _ _)) (by decide +kernel)

end Hostpath.Legacy
