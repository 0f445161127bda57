import Hostpath.Legacy.DeletedObject
import Hostpath.Legacy.Removals

/-!
# Retained storage

A storage class can ask that its volumes are retained.  The provisioner does not look at that: the
object that `Provision` makes always has the reclaim policy `Delete`, so that a volume of any class
goes as soon as it is released (`retained_removed`).  And a store that gives up removes the directory
without looking whether the object is there.

`retained_spared` is what remains: if no retained volume is released before its policy was changed,
and what a claim's sync is told when it looks for the object is true and stays so until its store
gives up, then no controller removes the directory or the object of a retained volume, whatever the
controllers and the other clients do at the same time.
-/

namespace Hostpath.Legacy

open Lib Prog FilePath

/-- A storage class of that name asks that volumes are retained. -/
def Api.Retains (s : Api) (name : String) : Prop :=
  ∃ n c, (s.outcomes n).classes name = Except.ok (some c)
    ∧ c.reclaimPolicy = some PersistentVolumeReclaimPolicy.retain

section Retention

variable (retains : String → Prop)

/-- The call removes neither the directory nor the object of a volume that is retained. -/
def Spares (w : Cluster) : Call NodeCall → Prop
  | Call.deleteVolume name => ∀ o, w.api.volumes name = some o → ¬ retains (getPersistentVolumeClass o)
  | Call.updateVolume v =>
      ∀ o, w.api.volumes v.name = some o → ¬ retains (getPersistentVolumeClass o)
  | Call.backend ⟨node, Syscall.removeAll path⟩ =>
      ∀ name o path', w.api.volumes name = some o → retains (getPersistentVolumeClass o) →
        o.annotations.lookup annProvisionOnNode = some node → o.hostPath = some path' →
        ¬ Covers path path'
  | _ => True

variable {retains} {ident : String → Identity} {F : Fleet} {w : Cluster} {name : String}

/-- What is read and to be deleted is not retained. -/
lemma ReadDeletable.not_retained {ctrl : ProvisionController NodeReply}
    (h : ReadDeletable ctrl (Proper retains ident) name) : ¬ retains (ident name).storageClass := by
  obtain ⟨o, ho, hdel⟩ := h
  obtain ⟨hpolicy, hphase⟩ := deletable_released hdel
  intro hret
  obtain ⟨hreleased, hfailed⟩ := ho.policy (ho.retained.mpr hret) hpolicy
  exact hphase.elim hreleased hfailed

/-! ## The controllers -/

/-- Removing the directory of a volume spares every other volume, and the volume itself if it is not
retained. -/
lemma spares_removeAll (hsep : Separate retains ident) (hw : w.All (Proper retains ident))
    (name : String) {node path : String} (hident : (ident name).node = some node
      ∧ (ident name).hostPath = some path)
    (hown : ∀ o, w.api.volumes name = some o → ¬ retains (getPersistentVolumeClass o)) :
    Spares retains w (Call.backend ⟨node, Syscall.removeAll path⟩) := by
  intro other o path' ho hret hnode hpath hcovers
  have hproper := hw other o ho
  have hother : ident other = o.identity := hproper.identity.symm
  by_cases hsame : other = name
  · subst hsame
    exact hown o ho hret
  · refine hsep other name path path' hsame (hproper.retained.mp hret) ?_ hident.2 ?_ hcovers
    · rw [hident.1, hother]
      exact hnode.symm
    · rw [hother]
      exact hpath

/-- A name that is not retained may go. -/
lemma not_retained_stored (hw : w.All (Proper retains ident))
    (hret : ¬ retains (ident name).storageClass) :
    ∀ o, w.api.volumes name = some o → ¬ retains (getPersistentVolumeClass o) :=
  fun o ho h => hret ((hw name o ho).retained.mp h)

/-- The sync of a volume spares what is retained. -/
lemma spares_volume (hsep : Separate retains ident) (hw : w.All (Proper retains ident))
    {node : String} {volume : PersistentVolume} {c : Call NodeCall}
    (ha : volume.identity = ident volume.name)
    (hc : VolumeCall (F.controller node) (F.provisioner node) (Proper retains ident) volume c) :
    Spares retains w c := by
  cases c with
  | deleteVolume name =>
      obtain ⟨rfl, -, hread⟩ := hc
      exact not_retained_stored hw hread.not_retained
  | updateVolume v =>
      obtain ⟨hread, o, ho, rfl⟩ := hc
      have hname : o.name = volume.name := ho.named
      dsimp only [Spares]
      rw [hname]
      exact not_retained_stored hw hread.not_retained
  | backend b =>
      obtain ⟨m, sys⟩ := b
      cases sys with
      | removeAll path =>
          obtain ⟨rfl, hremoves, hread⟩ := hc
          refine spares_removeAll hsep hw volume.name ?_ (not_retained_stored hw hread.not_retained)
          rw [← ha]
          exact ⟨hremoves.node, hremoves.hostPath⟩
      | _ => trivial
  | _ => trivial

/-- The sync of a claim spares what is retained, if a store gives up only while the object is not
stored. -/
lemma spares_claim (hsep : Separate retains ident) (hw : w.All (Proper retains ident))
    {node : String} {claim : PersistentVolumeClaim} {c : Call NodeCall}
    (ha : (Task.claim node claim).Proper retains ident F)
    (hc : ClaimCall (F.provisioner node) claim c)
    (hclean : ∀ m path, c = Call.backend ⟨m, Syscall.removeAll path⟩ →
      ∀ o, w.api.volumes (getProvisionedVolumeNameForClaim claim) = some o →
        ¬ retains (getPersistentVolumeClass o)) : Spares retains w c := by
  cases c with
  | deleteVolume name => exact hc.elim
  | updateVolume v => exact hc.elim
  | backend b =>
      obtain ⟨m, sys⟩ := b
      cases sys with
      | removeAll path =>
          obtain ⟨hnode, rfl, rfl⟩ := hc
          rw [F.named] at hnode
          refine spares_removeAll hsep hw (getProvisionedVolumeNameForClaim claim) ?_
            (hclean _ _ rfl)
          rw [ha hnode, F.named]
          exact ⟨rfl, rfl⟩
      | _ => trivial
  | _ => trivial

/--
  **When retained storage is never deleted**: if no retained volume is released with the policy to
  delete it, a claim's sync is told that there is no object only if none is stored that is to be
  retained, a creation that fails stores nothing, and nobody stores a retained volume between that
  look and the clean-up of the store, then no call of a controller removes the directory or the object
  of a retained volume, in any interleaving of any number of syncs on any nodes and of other clients.
-/
theorem retained_spared (hsep : Separate w.api.Retains ident)
    (hw : w.All (Proper w.api.Retains ident)) {tr : List (Tasks × TaskMove)} {w' : Tasks}
    (hr : Run (Pool.Step Cluster.step F.run fun _ a => a.Proper w.api.Retains ident F)
      (Pool.idle w) tr w')
    (hcalls : Each (Undisturbed (fun o => ¬ w.api.Retains (getPersistentVolumeClass o)) Task.Misses)
      [] tr) :
    ∀ x ∈ tr, ∀ i a c r, x.2 = Move.call i a c r → a.IsSync → Spares w.api.Retains x.1.shared c := by
  have hnil : ∀ a : Task, ¬ a.Misses [] := by
    rintro (_ | _ | _) h
    · obtain ⟨⟨_, h⟩, _⟩ := h
      cases h
    · exact h
    · exact h
  have hall := calls_right (fun _ _ _ => Iff.rfl) hnil (fun _ _ h => h)
    (fun _ _ _ _ _ h => h.elim) (fun _ h => h) hw hr hcalls
  intro x hx i a c r hmove hsync
  obtain ⟨hstored, hcall⟩ := hall x hx
  obtain ⟨ha, t, hc, hright⟩ := hcall i a c r hmove
  cases a with
  | client c' => exact hsync.elim
  | volume node volume => exact spares_volume hsep hstored ha hc.1
  | claim node claim =>
      refine spares_claim hsep hstored ha hc.1 fun m path hpath o ho => ?_
      exact hright (hc.2 hsync m path hpath) _ o rfl ho

end Retention

namespace Sample

/-- Controllers with the default options on every node. -/
def fleet : Fleet where
  provisioner := fun node => { provisioner with nodeName := node }
  named := fun _ => rfl
  controller := fun node =>
    { controller false with
      provisioner := ({ provisioner with nodeName := node } : HostPathProvisioner).provisioner
      volumeStore := BackoffStore.storeVolume (StoreOptions.none.backoff id)
        ({ provisioner with nodeName := node } : HostPathProvisioner).provisioner }
  provisions := fun _ => rfl
  backoff := fun _ => StoreOptions.none.backoff id
  stores := fun _ => rfl

def retainClass : StorageClass :=
  { storageClass with reclaimPolicy := some PersistentVolumeReclaimPolicy.retain }

/-- Nothing is stored yet, nothing fails, and every class asks that volumes are retained. -/
def retaining : Cluster where
  api := ⟨fun _ => none, [], fun _ => ⟨none, fun _ => Except.ok (some retainClass)⟩⟩
  hosts := fun _ => host

lemma retains_any (name : String) : retaining.api.Retains name := ⟨0, retainClass, rfl, rfl⟩

/-- The claim is provisioned, another client writes the volume as it is after the claim is gone, and
the volume is synced. -/
def lifeCycle (written : PersistentVolume) : List (Pool.Choice Task) :=
  [Pool.Choice.start 0 (Task.claim "node" claim)] ++ List.replicate 8 (Pool.Choice.go 0)
    ++ [Pool.Choice.start 1 (Task.client (Call.updateVolume written)), Pool.Choice.go 1,
      Pool.Choice.start 2 (Task.volume "node" released)]

/-- The sync of the volume makes the call while the object is stored. -/
def callsWhileStored (call : Call NodeCall)
    (x : Tasks × TaskMove) : Bool :=
  match x.2 with
  | Move.call _ (Task.volume _ _) c _ =>
      c = call && (x.1.shared.api.volumes "pvc-1").any fun o =>
        o.annotations.lookup annProvisionOnNode = some "node" && o.hostPath = some "/pv/pvc-1"
  | _ => false

lemma exists_of_callsWhileStored {call : Call NodeCall}
    {tr : List (Tasks × TaskMove)}
    (h : tr.any (callsWhileStored call) = true) :
    ∃ x ∈ tr, ∃ i a r, x.2 = Move.call i a call r ∧ a.IsSync
      ∧ ∃ o, x.1.shared.api.volumes "pvc-1" = some o
        ∧ o.annotations.lookup annProvisionOnNode = some "node"
        ∧ o.hostPath = some "/pv/pvc-1" := by
  obtain ⟨x, hx, hcall⟩ := List.any_eq_true.mp h
  refine ⟨x, hx, ?_⟩
  unfold callsWhileStored at hcall
  split at hcall
  · rename_i i node v c r hmove
    simp only [Bool.and_eq_true, decide_eq_true_eq, Option.any_eq_true] at hcall
    obtain ⟨rfl, o, ho, hnode, hpath⟩ := hcall
    exact ⟨i, _, r, hmove, trivial, o, ho, hnode, hpath⟩
  · cases hcall

/-- What the name of the sample volume stands for; no other name is used. -/
def ident (name : String) : Identity :=
  if name = "pvc-1" then ⟨some "node", some "/pv/pvc-1", "hostpath"⟩ else ⟨none, none, ""⟩

lemma separate {retains : String → Prop} : Separate retains ident := by
  intro a b path path' hne _ _ hb ha
  by_cases hname : a = "pvc-1"
  · have hother : b ≠ "pvc-1" := fun h => hne (hname.trans h.symm)
    simp [ident, hother] at hb
  · simp [ident, hname] at ha

/-- The volume after its claim is gone, if its policy was changed before. -/
def rescued : PersistentVolume :=
  { released with reclaimPolicy := PersistentVolumeReclaimPolicy.retain }

/-- The same, but the attempts of the first sync to store the object fail. -/
def unreliable : Cluster :=
  { retaining with api := { retaining.api with
      outcomes := fun n => ⟨if 4 ≤ n ∧ n < 9 then some false else none,
        fun _ => Except.ok (some retainClass)⟩ } }

/-- One after the other: the store of a claim gives up and cleans up, the claim is provisioned, another
client writes the volume as it is after the claim is gone, and the volume is synced. -/
def secondTry : List (Pool.Choice Task) :=
  [Pool.Choice.start 0 (Task.claim "node" claim)] ++ List.replicate 14 (Pool.Choice.go 0)
    ++ [Pool.Choice.start 0 (Task.claim "node" claim)] ++ List.replicate 9 (Pool.Choice.go 0)
    ++ [Pool.Choice.start 0 (Task.client (Call.updateVolume rescued)), Pool.Choice.go 0,
      Pool.Choice.go 0, Pool.Choice.start 0 (Task.volume "node" released), Pool.Choice.go 0]

lemma proper_secondTry {i : ℕ} {a : Task} (ha : Pool.Choice.start i a ∈ secondTry) :
    a.Proper unreliable.api.Retains ident fleet := by
  have hcases : a = Task.claim "node" claim ∨ a = Task.client (Call.updateVolume rescued)
      ∨ a = Task.volume "node" released := by
    simp only [secondTry, List.mem_append, List.mem_cons, List.mem_replicate,
      Pool.Choice.start.injEq, reduceCtorEq, List.not_mem_nil, or_false, false_or, and_false] at ha
    tauto
  rcases hcases with rfl | rfl | rfl
  · intro _
    decide
  · exact ⟨rfl, by decide, fun _ hpolicy => by cases hpolicy⟩
  · exact (by decide : released.identity = ident released.name)

/-- A sync of a claim is told that there is no object only if there is none, and a creation that fails
stores nothing. -/
def told (w : Cluster) : Task → (c : Call NodeCall) → Answer NodeReply c → Bool
  | Task.claim _ _, Call.getVolume name, Except.error _ => (w.api.volumes name).isNone
  | _, Call.createVolume _, _ => w.fault 0 ≠ some true
  | _, _, _ => true

/-- The program number 0 makes the call, and it is told the truth. -/
def aloneAndTrue (x : Tasks × TaskMove) : Bool :=
  match x.2 with
  | Move.call i a c r => i = 0 && told x.1.shared a c r
  | _ => true

lemma of_aloneAndTrue {x : Tasks × TaskMove} (h : aloneAndTrue x = true) {i : ℕ} {a : Task}
    {c : Call NodeCall} {r : Answer NodeReply c} (hmove : x.2 = Move.call i a c r) :
    i = 0 ∧ told x.1.shared a c r = true := by
  rw [aloneAndTrue, hmove] at h
  simpa using h

/-- Where a single program is told the truth, it is not misled. -/
lemma undisturbed_of_aloneAndTrue {may : PersistentVolume → Prop} {tr : List (Tasks × TaskMove)}
    (h : tr.all aloneAndTrue = true) : Each (Undisturbed may Task.Misses) [] tr := by
  have halone := List.all_eq_true.mp h
  refine (each_of_forall fun _ _ _ => trivial : Each (fun _ _ => True) [] tr).imp ?_
  rintro earlier x later rfl -
  intro i a c r hmove
  obtain ⟨rfl, htold⟩ := of_aloneAndTrue (halone x (by simp)) hmove
  refine ⟨?_, ?_, ?_⟩
  · unfold FailsTruly
    split
    · intro o ho
      simp [told, ho] at htold
    · trivial
  · rintro v rfl
    cases a <;> simpa [told] using htold
  · intro v j b p _ hj _ hmisses _
    -- what another program was told would be in the history
    cases b with
    | claim node pvc =>
        obtain ⟨⟨e, he⟩, _⟩ := hmisses
        obtain ⟨y, hy, a', hcall⟩ := Pool.exists_of_mem_transcript he
        exact absurd (of_aloneAndTrue (halone y (by simpa using Or.inl hy)) hcall).1 hj
    | volume node pv => exact hmisses.elim
    | client c' => exact hmisses.elim

/-- A store gives up. -/
def cleansUp (x : Tasks × TaskMove) : Bool :=
  match x.2 with
  | Move.call _ (Task.claim _ _) (Call.backend ⟨_, Syscall.removeAll _⟩) _ => true
  | _ => false

end Sample

/-- A store gives up while nothing is stored.  Later the volume is stored, its policy is changed before
it is released, and the cached copy does not know. -/
theorem sample_spared :
    ∃ tr w, Run (Pool.Step Cluster.step Sample.fleet.run
        fun _ a => a.Proper Sample.unreliable.api.Retains Sample.ident Sample.fleet)
        (Pool.idle Sample.unreliable) tr w
      ∧ tr.any Sample.cleansUp = true ∧ (w.shared.api.volumes "pvc-1").isSome = true
      ∧ ∀ x ∈ tr, ∀ i a c r, x.2 = Move.call i a c r → a.IsSync →
        Spares Sample.unreliable.api.Retains x.1.shared c := by
  have hplay : ((Pool.play Cluster.step Sample.fleet.run Sample.secondTry
      (Pool.idle Sample.unreliable)).map fun r => (r.1.any Sample.cleansUp,
        r.1.all Sample.aloneAndTrue, (r.2.shared.api.volumes "pvc-1").isSome))
      = some (true, true, true) := by
    decide +kernel
  obtain ⟨⟨tr, w⟩, hrun, htr⟩ := Option.map_eq_some_iff.mp hplay
  obtain ⟨hcleans, hrest⟩ := Prod.mk.inj htr
  obtain ⟨halone, hstored⟩ := Prod.mk.inj hrest
  have hr := Pool.run_of_play (fun i a ha _ => Sample.proper_secondTry ha) hrun
  refine ⟨tr, w, hr, hcleans, hstored, retained_spared Sample.separate (fun _ _ h => ?_) hr
    (Sample.undisturbed_of_aloneAndTrue halone)⟩
  cases h

/-- A claim of a class that asks for its volumes to be retained.  When the claim is gone and the
volume is released, its directory is removed and its object deleted. -/
theorem retained_removed :
    ∃ tr w, Run (Pool.Step Cluster.step Sample.fleet.run fun _ _ => True)
        (Pool.idle Sample.retaining) tr w
      ∧ (∃ x ∈ tr, ∃ i a r, x.2 = Move.call i a
          (Call.backend ⟨"node", Syscall.removeAll "/pv/pvc-1"⟩) r ∧ a.IsSync
        ∧ ¬ Spares Sample.retaining.api.Retains x.1.shared
          (Call.backend ⟨"node", Syscall.removeAll "/pv/pvc-1"⟩))
      ∧ ∃ x ∈ tr, ∃ i a r, x.2 = Move.call i a (Call.deleteVolume "pvc-1") r ∧ a.IsSync
        ∧ ¬ Spares Sample.retaining.api.Retains x.1.shared (Call.deleteVolume "pvc-1") := by
  have hplay : ((Pool.play Cluster.step Sample.fleet.run (Sample.lifeCycle Sample.released
      ++ List.replicate 3 (Pool.Choice.go 2)) (Pool.idle Sample.retaining)).map fun r =>
        r.1.any (Sample.callsWhileStored (Call.backend ⟨"node", Syscall.removeAll "/pv/pvc-1"⟩))
          && r.1.any (Sample.callsWhileStored (Call.deleteVolume "pvc-1"))) = some true := by
    decide +kernel
  obtain ⟨⟨tr, w⟩, hrun, htr⟩ := Option.map_eq_some_iff.mp hplay
  obtain ⟨hremoves, hdeletes⟩ := Bool.and_eq_true_iff.mp htr
  refine ⟨tr, w, Pool.run_of_play (fun _ _ _ _ => trivial) hrun, ?_, ?_⟩
  · obtain ⟨x, hx, i, a, r, hmove, hsync, o, ho, hnode, hpath⟩ :=
      Sample.exists_of_callsWhileStored hremoves
    refine ⟨x, hx, i, a, r, hmove, hsync, fun hspares => ?_⟩
    exact hspares "pvc-1" o "/pv/pvc-1" ho (Sample.retains_any _) hnode hpath
      ⟨["pv", "pvc-1"], ["pv", "pvc-1"], by decide, by decide, List.prefix_rfl⟩
  · obtain ⟨x, hx, i, a, r, hmove, hsync, o, ho, -⟩ :=
      Sample.exists_of_callsWhileStored hdeletes
    exact ⟨x, hx, i, a, r, hmove, hsync, fun hspares => hspares o ho (Sample.retains_any _)⟩

end Hostpath.Legacy
