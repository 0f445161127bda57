import Hostpath.Lib.Histories
import Hostpath.Legacy.Fleet

/-!
# When a controller removes a directory

A controller removes a directory in two places: when it deletes a released volume, and when a store
gives up and cleans up after itself.  Before either it has looked for the object of the volume, and
counts on what it was told.

`Task.Misses` and `Task.Condemns` say what a sync was told before it removes a directory, and
`logs_removing` that it removes none otherwise.  Whether it is right to count on that depends on the
API server and on the others: `Undisturbed` is about the answers and about what is written between the
look and the removal, and under it every sync is right whenever it makes a call (`calls_right`).  What
may be removed is a parameter, since released volumes and volumes that are not to be retained are
asked about separately.

A name stands for one volume: all objects of a name are on the same node, have the same directory and
the same class.
-/

namespace Hostpath.Legacy

open Lib Prog FilePath

/-- What the name of a volume stands for. -/
structure Identity where
  node : Option String
  hostPath : Option String
  storageClass : String
  deriving DecidableEq

def PersistentVolume.identity (o : PersistentVolume) : Identity :=
  ⟨o.annotations.lookup annProvisionOnNode, o.hostPath, getPersistentVolumeClass o⟩

/-- Removing the one path removes the other. -/
def Covers (path path' : String) : Prop :=
  ∃ l l', locate path = some l ∧ locate path' = some l' ∧ l <+: l'

section Proper

variable (retains : String → Prop) (ident : String → Identity)

/-- A version of the volume that its name stands for.  If the volume is retained, it is not released
with the policy to delete it. -/
structure Proper (name : String) (o : PersistentVolume) : Prop where
  named : o.name = name
  identity : o.identity = ident name
  policy : retains (getPersistentVolumeClass o) →
    o.reclaimPolicy = PersistentVolumeReclaimPolicy.delete →
    o.phase ≠ PersistentVolumePhase.released ∧ o.phase ≠ PersistentVolumePhase.failed

/-- What is synced, and what others do, agrees with what the names stand for. -/
def Task.Proper (F : Fleet) : Task → Prop
  | Task.claim node pvc => ForNode pvc node → ident (getProvisionedVolumeNameForClaim pvc)
      = ⟨some node, some ((F.provisioner node).directory pvc), getPersistentVolumeClaimClass pvc⟩
  | Task.volume _ pv => pv.identity = ident pv.name
  | Task.client c => Writes (Legacy.Proper retains ident) c

/-- The directory of a retained volume is in no directory of another volume. -/
def Separate : Prop :=
  ∀ a b path path', a ≠ b → retains (ident a).storageClass → (ident b).node = (ident a).node →
    (ident b).hostPath = some path → (ident a).hostPath = some path' → ¬ Covers path path'

/-- A sync of a controller, and not another client. -/
def Task.IsSync : Task → Prop
  | Task.client _ => False
  | _ => True

/-- The volume that a sync is about. -/
def Task.volumeName : Task → Option String
  | Task.claim _ pvc => some (getProvisionedVolumeNameForClaim pvc)
  | Task.volume _ pv => some pv.name
  | Task.client _ => none

variable {retains ident} {F : Fleet} {w : Cluster} {name : String} {o : PersistentVolume}

lemma Proper.retained (h : Proper retains ident name o) :
    retains (getPersistentVolumeClass o) ↔ retains (ident name).storageClass := by
  rw [← h.identity]
  rfl

/-- What is deleted is released, with the policy to delete it. -/
lemma deletable_released {ctrl : ProvisionController NodeReply} (h : ctrl.deletable o = true) :
    o.reclaimPolicy = PersistentVolumeReclaimPolicy.delete
      ∧ (o.phase = PersistentVolumePhase.released ∨ o.phase = PersistentVolumePhase.failed) := by
  unfold ProvisionController.deletable at h
  split_ifs at h with _ _ hnew hold hpolicy
  refine ⟨not_not.mp hpolicy, ?_⟩
  cases hversion : ctrl.kubeVersion.atLeast ⟨1, 5, 0⟩ with
  | true =>
      rw [hversion] at hnew
      exact Or.inl (by simpa using hnew)
  | false =>
      rw [hversion] at hold
      by_contra hphase
      push Not at hphase
      exact hold (by simp [hphase])

/-! ## The stored objects stay proper -/

/-- What the controller makes for a claim is not released yet. -/
lemma proper_madeFor {node : String} {claim : PersistentVolumeClaim}
    (ha : (Task.claim node claim).Proper retains ident F) (hnode : ForNode claim node)
    (h : MadeFor (F.provisioner node) claim o) : Proper retains ident o.name o := by
  refine ⟨rfl, ?_, fun _ _ => by rw [h.phase]; exact ⟨nofun, nofun⟩⟩
  rw [h.name, ha hnode, PersistentVolume.identity, h.node, h.hostPath, h.storageClass, F.named]

/-- Every task writes proper objects. -/
lemma writes_of_mayCall {a : Task} {c : Call NodeCall} (ha : a.Proper retains ident F)
    (hc : F.MayCall (Proper retains ident) (Writes (Proper retains ident)) a c) :
    Writes (Proper retains ident) c := by
  cases a with
  | client c' => exact hc
  | claim node claim =>
      cases c with
      | createVolume v =>
          have hnode := hc.1
          rw [F.named] at hnode
          exact proper_madeFor ha hnode hc.2
      | updateVolume v => exact hc.elim
      | _ => trivial
  | volume node volume =>
      cases c with
      | createVolume v => exact hc.elim
      | updateVolume v =>
          obtain ⟨-, o, ho, rfl⟩ := hc
          exact ⟨rfl, ho.identity.trans (by rw [← ho.named]), ho.policy⟩
      | _ => trivial

end Proper

/-! ## What a sync counts on -/

/-- After the calls `t`, the sync of a claim counts on it that there is no object: it was not found,
and it is not stored since. -/
def Task.Misses : Task → List (Sigma (Answer NodeReply)) → Prop
  | Task.claim _ pvc, t =>
      (∃ e, (⟨Call.getVolume (getProvisionedVolumeNameForClaim pvc), Except.error e⟩
        : Sigma (Answer NodeReply)) ∈ t)
      ∧ ∀ v, (⟨Call.createVolume v, Except.ok ()⟩ : Sigma (Answer NodeReply)) ∉ t
  | _, _ => False

/-- After the calls `t`, the sync counts on it that the directory may go: the object of the claim was
not found and is not stored since, or the object of the volume was read and is to be deleted. -/
def Task.Condemns (F : Fleet) : Task → List (Sigma (Answer NodeReply)) → Prop
  | Task.claim node pvc, t => (Task.claim node pvc).Misses t
  | Task.volume node pv, t => ∃ o, t = readLog pv o ∧ (F.controller node).deletable o = true
  | Task.client _, _ => False

/-- The version of a volume that a call writes. -/
def written : Call NodeCall → Option PersistentVolume
  | Call.createVolume v => some v
  | Call.updateVolume v => some v
  | _ => none

/-- When the sync of a claim is told that there is no object, there is none that has to stay. -/
def FailsTruly (may : PersistentVolume → Prop) (w : Cluster) :
    Task → (c : Call NodeCall) → Answer NodeReply c → Prop
  | Task.claim _ _, Call.getVolume name, Except.error _ => ∀ o, w.api.volumes name = some o → may o
  | _, _, _ => True

/-- A call in a history, with what happened before it, that misleads no sync: a look that fails does
so while the object may go, a creation that fails stores nothing, and no version that has to stay is
written while another sync counts on it that the directory may go. -/
def Undisturbed (may : PersistentVolume → Prop)
    (counts : Task → List (Sigma (Answer NodeReply)) → Prop) (before : List (Tasks × TaskMove))
    (x : Tasks × TaskMove) : Prop :=
  ∀ i a c r, x.2 = Move.call i a c r →
    FailsTruly may x.1.shared a c r
    ∧ (∀ v, c = Call.createVolume v → x.1.shared.fault 0 ≠ some true)
    ∧ ∀ v j b p, written c = some v → j ≠ i → x.1.threads j = some (b, p) →
      counts b (Pool.transcript j before) → b.volumeName = some v.name → may v

/-- The sync is right about the object. -/
def Task.Right (may : PersistentVolume → Prop)
    (counts : Task → List (Sigma (Answer NodeReply)) → Prop) (a : Task)
    (t : List (Sigma (Answer NodeReply))) (w : Cluster) : Prop :=
  counts a t → ∀ name o, a.volumeName = some name → w.api.volumes name = some o → may o

section Right

variable {may : PersistentVolume → Prop} {counts : Task → List (Sigma (Answer NodeReply)) → Prop}
  {F : Fleet} {w : Cluster} {a : Task} {c : Call NodeCall} {t : List (Sigma (Answer NodeReply))}

lemma misses_snoc {node : String} {pvc : PersistentVolumeClaim} {s : Sigma (Answer NodeReply)}
    (h : (Task.claim node pvc).Misses (t ++ [s])) : (Task.claim node pvc).Misses t
      ∨ ∃ e, s = ⟨Call.getVolume (getProvisionedVolumeNameForClaim pvc), Except.error e⟩ := by
  obtain ⟨⟨e, he⟩, hno⟩ := h
  rcases List.mem_append.mp he with he | he
  · exact Or.inl ⟨⟨e, he⟩, fun v hv => hno v (List.mem_append_left _ hv)⟩
  · exact Or.inr ⟨e, (List.mem_singleton.mp he).symm⟩

/-- A creation that fails stores nothing. -/
lemma volumes_of_create_error {v : PersistentVolume}
    (h : (w.step (Call.createVolume v)).1 ≠ Except.ok ()) (hfault : w.fault 0 ≠ some true) :
    (w.step (Call.createVolume v)).2.api.volumes = w.api.volumes := by
  unfold Cluster.fault at hfault
  rcases hf : (w.api.outcomes 0).fault with _ | _ | _
  · cases hs : w.api.volumes v.name with
    | some o => simp [Cluster.step, Api.change, hf, Api.create, hs]
    | none => simp [Cluster.step, Api.change, hf, Api.create, hs] at h
  · simp [Cluster.step, Api.change, hf]
  · exact absurd hf hfault

/-- Nothing that the sync of a claim does stores an object, except a creation that is answered. -/
lemma volumes_of_claimCall {p : HostPathProvisioner} {pvc : PersistentVolumeClaim}
    (hc : ClaimCall p pvc c) (hcreate : ∀ v, c = Call.createVolume v →
      (w.step (Call.createVolume v)).1 ≠ Except.ok () ∧ w.fault 0 ≠ some true) :
    (w.step c).2.api.volumes = w.api.volumes := by
  cases c with
  | createVolume v => exact volumes_of_create_error (hcreate v rfl).1 (hcreate v rfl).2
  | updateVolume v => exact hc.elim
  | deleteVolume name => exact hc.elim
  | _ => rfl

/-- A call of the sync of a claim leaves it right. -/
lemma right_claim {node : String} {pvc : PersistentVolumeClaim}
    (hcounts : ∀ t, counts (Task.claim node pvc) t ↔ (Task.claim node pvc).Misses t)
    (hc : ClaimCall (F.provisioner node) pvc c) (hright : (Task.claim node pvc).Right may counts t w)
    (htrue : FailsTruly may w (Task.claim node pvc) c (w.step c).1)
    (hfault : ∀ v, c = Call.createVolume v → w.fault 0 ≠ some true) :
    (Task.claim node pvc).Right may counts (t ++ [⟨c, (w.step c).1⟩]) (w.step c).2 := by
  intro hcond name o hname ho
  have hmisses := (hcounts _).mp hcond
  have hsame : (w.step c).2.api.volumes = w.api.volumes := by
    refine volumes_of_claimCall hc fun v hv => ⟨fun hok => ?_, hfault v hv⟩
    subst hv
    refine hmisses.2 v (List.mem_append_right _ (List.mem_singleton.mpr ?_))
    rw [hok]
  rw [hsame] at ho
  rcases misses_snoc hmisses with hbefore | ⟨e, he⟩
  · exact hright ((hcounts t).mpr hbefore) name o hname ho
  · obtain ⟨rfl, hreply⟩ := Sigma.mk.inj he
    rw [eq_of_heq hreply] at htrue
    obtain rfl : getProvisionedVolumeNameForClaim pvc = name := Option.some.inj hname
    exact htrue o ho

/-- A call of another program leaves a sync right. -/
lemma right_other {b : Task} (hnamed : ∀ n o, w.api.volumes n = some o → o.name = n)
    (hmark : ∀ o, may o → may { o with deletionTimestamp := true })
    (hright : b.Right may counts t w)
    (hwritten : ∀ v, written c = some v → counts b t → b.volumeName = some v.name → may v) :
    b.Right may counts t (w.step c).2 := by
  intro hcond name o hname ho
  have hall : w.All fun n o => o.name = n ∧ (b.volumeName = some n → may o) :=
    fun n o ho => ⟨hnamed n o ho, fun hn => hright hcond n o hn ho⟩
  have hwrites : Writes (fun n o => o.name = n ∧ (b.volumeName = some n → may o)) c := by
    cases c with
    | createVolume v => exact ⟨rfl, hwritten v rfl hcond⟩
    | updateVolume v => exact ⟨rfl, hwritten v rfl hcond⟩
    | _ => trivial
  exact (hall.step (fun _ _ h => h.1) (fun _ _ h => ⟨h.1, fun hn => hmark _ (h.2 hn)⟩) hwrites
    name o ho).2 hname

end Right

/-! ## What a sync does -/

section Removing

variable {retains : String → Prop} {ident : String → Identity} {may : PersistentVolume → Prop}
  {counts : Task → List (Sigma (Answer NodeReply)) → Prop} {F : Fleet} {w : Cluster} {a : Task}
  {c : Call NodeCall} {t : List (Sigma (Answer NodeReply))}

/-- A directory is removed only by a sync that counts on it that the directory may go. -/
def Removing (retains : String → Prop) (ident : String → Identity) (F : Fleet) (a : Task)
    (t : List (Sigma (Answer NodeReply))) (c : Call NodeCall) : Prop :=
  F.MayCall (Proper retains ident) (Writes (Proper retains ident)) a c
    ∧ (a.IsSync → ∀ m path, c = Call.backend ⟨m, Syscall.removeAll path⟩ → a.Condemns F t)

lemma logs_removing_claim {node : String} {pvc : PersistentVolumeClaim} :
    Logs (Removing retains ident F (Task.claim node pvc)) (Reads (Proper retains ident)) (fun _ _ => True) []
      (F.run (Task.claim node pvc)) := by
  have hb : ClaimBound (F.provisioner node) pvc (Removing retains ident F (Task.claim node pvc))
      ((Task.claim node pvc).Condemns F) := by
    refine ⟨fun t c hc => ⟨hc.claimCall, ?_⟩, fun t => ⟨trivial, fun _ _ _ => nofun⟩,
      fun hn t => ⟨⟨hn, rfl, rfl⟩, fun _ _ _ => nofun⟩,
      fun hn t v hv => ⟨⟨hn, hv⟩, fun _ _ _ => nofun⟩,
      fun hn t ht => ⟨⟨hn, rfl, rfl⟩, fun _ _ _ _ => ht⟩, ?_, ?_, ?_⟩
    · rintro _ m path rfl
      exact hc.elim
    · intro t e ht
      refine ⟨⟨e, List.mem_append_right _ (List.mem_singleton_self _)⟩, fun v hv => ?_⟩
      rcases List.mem_append.mp hv with hv | hv
      · exact (ht _ hv).elim
      · cases List.mem_singleton.mp hv
    · rintro t v e ⟨⟨e', he'⟩, hno⟩
      refine ⟨⟨e', List.mem_append_left _ he'⟩, fun v' hv' => ?_⟩
      rcases List.mem_append.mp hv' with hv' | hv'
      · exact hno v' hv'
      · cases List.mem_singleton.mp hv'
    · rintro t s ⟨⟨e', he'⟩, hno⟩ hs
      refine ⟨⟨e', List.mem_append_left _ he'⟩, fun v' hv' => ?_⟩
      rcases List.mem_append.mp hv' with hv' | hv'
      · exact hno v' hv'
      · rw [← List.mem_singleton.mp hv'] at hs
        rcases hs with hs | ⟨b, hs⟩
        · exact hs.elim
        · cases hs
  exact logs_bind.mpr ((logs_syncClaim hb (F.provisions node) (F.stores node)).mono
    fun _ _ _ => trivial)

lemma logs_removing_volume {node : String} {pv : PersistentVolume} :
    Logs (Removing retains ident F (Task.volume node pv)) (Reads (Proper retains ident)) (fun _ _ => True) []
      (F.run (Task.volume node pv)) := by
  have hread : ∀ o, Reads (Proper retains ident) (Call.getVolume pv.name) (Except.ok o) →
      (F.controller node).deletable o = true →
      ReadDeletable (F.controller node) (Proper retains ident) pv.name := fun o ho hdel => ⟨o, ho o rfl, hdel⟩
  have hb : VolumeBound (F.controller node) (F.provisioner node) (Reads (Proper retains ident)) pv
      (Removing retains ident F (Task.volume node pv)) :=
    ⟨fun _ => ⟨rfl, fun _ _ _ => nofun⟩,
      fun o path ho hdel hpath => ⟨⟨rfl, hpath, hread o ho hdel⟩, fun _ _ _ _ => ⟨o, rfl, hdel⟩⟩,
      fun o path ho hdel hpath => ⟨⟨rfl, ⟨path, hpath⟩, hread o ho hdel⟩, fun _ _ _ => nofun⟩,
      fun o path _ o' ho hdel _ ho' => ⟨⟨hread o ho hdel, o', ho' o' rfl, rfl⟩,
        fun _ _ _ => nofun⟩⟩
  exact logs_bind.mpr ((logs_syncVolume hb (F.provisions node)).mono fun _ _ _ => trivial)

lemma logs_removing (ha : a.Proper retains ident F) :
    Logs (Removing retains ident F a) (Reads (Proper retains ident)) (fun _ _ => True) [] (F.run a) := by
  cases a with
  | claim node pvc => exact logs_removing_claim
  | volume node pv => exact logs_removing_volume
  | client c => exact ⟨⟨ha, fun h => h.elim⟩, fun _ _ => trivial⟩

/-- What a sync removes is the directory of its volume. -/
lemma removed_own {m path : String} (ha : a.Proper retains ident F) (hsync : a.IsSync)
    (hc : Removing retains ident F a t (Call.backend ⟨m, Syscall.removeAll path⟩)) :
    ∃ name, a.volumeName = some name ∧ (ident name).node = some m
      ∧ (ident name).hostPath = some path := by
  cases a with
  | client c' => exact hsync.elim
  | claim node pvc =>
      obtain ⟨hnode, rfl, rfl⟩ := hc.1
      rw [F.named] at hnode
      refine ⟨_, rfl, ?_⟩
      rw [ha hnode, F.named]
      exact ⟨rfl, rfl⟩
  | volume node pv =>
      obtain ⟨rfl, hremoves, _⟩ := hc.1
      refine ⟨_, rfl, ?_⟩
      rw [← (ha : pv.identity = ident pv.name)]
      exact ⟨hremoves.node, hremoves.hostPath⟩

/-- **All calls of a run**, in any interleaving: what is stored is proper, each call is one that its
task can make given what it was told, and the task is right about the object of its volume. -/
lemma calls_right
    (hclaim : ∀ node pvc t, counts (Task.claim node pvc) t ↔ (Task.claim node pvc).Misses t)
    (hnil : ∀ a, ¬ counts a []) (hclient : ∀ c t, ¬ counts (Task.client c) t)
    (hvolume : ∀ node pv t c (w : Cluster),
      (Task.volume node pv).Right may counts (t ++ [⟨c, (w.step c).1⟩]) (w.step c).2)
    (hmark : ∀ o, may o → may { o with deletionTimestamp := true })
    (hw : w.All (Proper retains ident)) {tr : List (Tasks × TaskMove)} {w' : Tasks}
    (hr : Run (Pool.Step Cluster.step F.run fun _ a => a.Proper retains ident F)
      (Pool.idle w) tr w')
    (hcalls : Each (Undisturbed may counts) [] tr) :
    ∀ x ∈ tr, x.1.shared.All (Proper retains ident) ∧ ∀ i a c r, x.2 = Move.call i a c r →
      a.Proper retains ident F ∧ ∃ t, Removing retains ident F a t c
        ∧ a.Right may counts t x.1.shared := by
  have hlogs : ∀ a : Task, a.Proper retains ident F → a.Proper retains ident F
      ∧ Logs (Removing retains ident F a) (Reads (Proper retains ident)) (fun _ _ => True) []
        (F.run a) := fun a ha => ⟨ha, logs_removing ha⟩
  have hall := (Pool.calls_of_logs (I := fun u => u.All (Proper retains ident))
    (J := fun a t u => a.Right may counts t u) (fun _ a ha => hlogs a ha)
    (fun a _ h => absurd h (hnil a)) ?_ ?_ hr hcalls hw).2
  · intro x hx
    obtain ⟨earlier, later, _, hstored, hcall⟩ := hall.of_mem hx
    refine ⟨hstored, fun i a c r hmove => ?_⟩
    obtain ⟨ha, hc, hright⟩ := hcall i a c r hmove
    exact ⟨ha, _, hc, hright⟩
  · intro before m i a c hcond ha hm hc hright
    obtain ⟨htrue, hfault, _⟩ := hcond i a c _ rfl
    refine ⟨hm.reads c, hm.step (fun _ _ h => h.named)
      (fun n o h => ⟨h.named, h.identity, h.policy⟩) (writes_of_mayCall ha hc.1), ?_⟩
    cases a with
    | claim node pvc => exact right_claim (hclaim node pvc) hc.1 hright htrue hfault
    | volume node pv => exact hvolume node pv _ c _
    | client c' => exact fun h => absurd h (hclient c' _)
  · intro before m i a c j b p hcond ha hm hc hj hji hright
    obtain ⟨_, _, hwritten⟩ := hcond i a c _ rfl
    exact right_other (fun n o ho => (hm n o ho).named) hmark hright fun v hv hcondemns hname =>
      hwritten v j b p hv hji hj hcondemns hname

end Removing

end Hostpath.Legacy
