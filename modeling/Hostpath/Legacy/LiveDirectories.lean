import Hostpath.Legacy.Retention

/-!
# The directories of live volumes

The look of the sync of a claim does not tell an object that is missing from a call that failed
(`live_removed`): if the object is there, and all attempts to store it again fail, the directory of a
live volume is removed.

`live_spared` says that this is the only way within one sync: if that call fails only while the object
may go, then what the look found is still so when the directory is removed, as long as nobody brings
the object back in between.  The condition on the others is about the time between the look and the
removal (`Task.Condemns`), and is met by every run in which syncs follow each other.
-/

namespace Hostpath.Legacy

open Lib Prog FilePath

/-- The volume may go: it is released, and its policy is to delete it. -/
def Doomed (o : PersistentVolume) : Prop :=
  o.phase = PersistentVolumePhase.released ∧ o.reclaimPolicy = PersistentVolumeReclaimPolicy.delete

instance (o : PersistentVolume) : Decidable (Doomed o) := inferInstanceAs (Decidable (_ ∧ _))

/-- The call removes the directory of no volume that is live. -/
def SparesLive (w : Cluster) : Call NodeCall → Prop
  | Call.backend ⟨node, Syscall.removeAll path⟩ =>
      ∀ name o path', w.api.volumes name = some o →
        o.annotations.lookup annProvisionOnNode = some node → o.hostPath = some path' →
        Covers path path' → Doomed o
  | _ => True

section Live

variable {ident : String → Identity} {F : Fleet} {w : Cluster} {a : Task} {c : Call NodeCall}
  {t : List (Sigma (Answer NodeReply))}

/-- Since version 1.5 only released volumes are deleted. -/
lemma doomed_of_deletable {ctrl : ProvisionController NodeReply} {o : PersistentVolume}
    (hversion : ctrl.kubeVersion.atLeast ⟨1, 5, 0⟩ = true) (h : ctrl.deletable o = true) :
    Doomed o := by
  refine ⟨?_, (deletable_released h).1⟩
  by_contra hphase
  simp [ProvisionController.deletable, hversion, hphase] at h

/-- A call of the sync of a volume leaves it right. -/
lemma right_volume {node : String} {pv : PersistentVolume}
    (hversion : (F.controller node).kubeVersion.atLeast ⟨1, 5, 0⟩ = true) :
    (Task.volume node pv).Right Doomed (Task.Condemns F) (t ++ [⟨c, (w.step c).1⟩]) (w.step c).2 := by
  rintro ⟨o', hlog, hdel⟩ name o hname ho
  have hlast : (⟨c, (w.step c).1⟩ : Sigma (Answer NodeReply))
      = ⟨Call.getVolume pv.name, Except.ok o'⟩ := by
    simpa only [readLog, List.getLast?_concat, List.getLast?_singleton, Option.some.injEq]
      using congrArg List.getLast? hlog
  obtain ⟨rfl, hreply⟩ := Sigma.mk.inj hlast
  obtain ⟨_, hstored⟩ := Cluster.step_getVolume_eq_ok.mp (eq_of_heq hreply)
  obtain rfl : pv.name = name := Option.some.inj hname
  obtain rfl : o' = o := Option.some.inj (hstored.symm.trans ho)
  exact doomed_of_deletable hversion hdel

/-- Other clients write versions of the volumes that the names stand for. -/
abbrev Genuine (ident : String → Identity) : String → PersistentVolume → Prop :=
  Proper (fun _ => False) ident

/-- A sync that is right about the object of its volume removes no directory of a live volume. -/
lemma sparesLive_of_right (hsep : Separate (fun _ => True) ident) (hw : w.All (Genuine ident))
    (ha : a.Proper (fun _ => False) ident F) (hsync : a.IsSync)
    (hc : Removing (fun _ => False) ident F a t c) (hright : a.Right Doomed (Task.Condemns F) t w) :
    SparesLive w c := by
  cases c with
  | backend b =>
      obtain ⟨m, sys⟩ := b
      cases sys with
      | removeAll path =>
          obtain ⟨name, hname, hnode, hpath⟩ := removed_own ha hsync hc
          intro other o path' ho honode hopath hcovers
          have hident : ident other = o.identity := (hw other o ho).identity.symm
          by_cases hsame : other = name
          · subst hsame
            exact hright (hc.2 hsync m path rfl) other o hname ho
          · refine absurd hcovers (hsep other name path path' hsame trivial ?_ hpath ?_)
            · rw [hnode, hident]
              exact honode.symm
            · rw [hident]
              exact hopath
      | _ => trivial
  | _ => trivial

/--
  **When no directory of a live volume is removed**: if the look of a claim's sync fails only while the
  object may go, a creation that fails stores nothing, and nobody brings an object back between the
  look of a sync and its removal, then every removal by a controller spares the live volumes, in any
  interleaving of any syncs, with stale copies and with any calls that fail.
-/
theorem live_spared
    (hversion : ∀ node, (F.controller node).kubeVersion.atLeast ⟨1, 5, 0⟩ = true)
    (hsep : Separate (fun _ => True) ident) (hw : w.All (Genuine ident))
    {tr : List (Tasks × TaskMove)} {w' : Tasks}
    (hr : Run (Pool.Step Cluster.step F.run fun _ a => a.Proper (fun _ => False) ident F)
      (Pool.idle w) tr w')
    (hcalls : Each (Undisturbed Doomed (Task.Condemns F)) [] tr) :
    ∀ x ∈ tr, ∀ i a c r, x.2 = Move.call i a c r → a.IsSync → SparesLive x.1.shared c := by
  have hnil : ∀ a : Task, ¬ a.Condemns F [] := by
    rintro (_ | _ | _) hcond
    · obtain ⟨⟨_, h⟩, _⟩ := hcond
      cases h
    · obtain ⟨_, h, _⟩ := hcond
      cases h
    · exact hcond
  have hclaim : ∀ node pvc t, (Task.claim node pvc).Condemns F t ↔ (Task.claim node pvc).Misses t :=
    fun _ _ _ => Iff.rfl
  have hall := calls_right hclaim hnil (fun _ _ h => h)
    (fun node _ _ _ _ => right_volume (hversion node)) (fun _ h => h) hw hr hcalls
  intro x hx i a c r hmove hsync
  obtain ⟨hstored, hcall⟩ := hall x hx
  obtain ⟨ha, t, hc, hright⟩ := hcall i a c r hmove
  exact sparesLive_of_right hsep hstored ha hsync hc hright

end Live

namespace Sample

/-- The volume as the controller stores it. -/
def live : PersistentVolume := (controller false).completeVolume claim volume

/-- The volume is stored, and no call fails. -/
def provisioned : Cluster := { cluster fun _ => none with api := (cluster fun _ => none).api.put live }

/-- The claim is synced again, another client releases the volume, and the volume is synced. -/
def resync : List (Pool.Choice Task) :=
  [Pool.Choice.start 0 (Task.claim "node" claim)] ++ List.replicate 3 (Pool.Choice.go 0)
    ++ [Pool.Choice.start 1 (Task.client (Call.updateVolume released)), Pool.Choice.go 1,
      Pool.Choice.start 2 (Task.volume "node" released)] ++ List.replicate 3 (Pool.Choice.go 2)

lemma genuine_released : Genuine ident released.name released :=
  ⟨rfl, by decide, fun h => h.elim⟩

lemma proper_resync {i : ℕ} {a : Task} (ha : Pool.Choice.start i a ∈ resync) :
    a.Proper (fun _ => False) ident fleet := by
  simp only [resync, List.mem_append, List.mem_cons, List.mem_replicate, Pool.Choice.start.injEq,
    reduceCtorEq, List.not_mem_nil, or_false, false_or, and_false] at ha
  rcases ha with ⟨_, rfl⟩ | ⟨_, rfl⟩ | ⟨_, rfl⟩
  · intro _
    decide
  · exact genuine_released
  · exact genuine_released.identity

lemma genuine_provisioned : provisioned.All (Genuine ident) := by
  refine all_put nofun ⟨rfl, by decide, fun h => h.elim⟩

/-- A call that misleads no sync, whatever the others do. -/
def harmless (x : Tasks × TaskMove) : Bool :=
  match x.2 with
  | Move.call _ _ (Call.createVolume _) _ => false
  | Move.call _ _ (Call.updateVolume v) _ => Doomed v
  | Move.call _ (Task.claim _ _) (Call.getVolume _) (Except.error _) => false
  | _ => true

lemma undisturbed_of_harmless {F : Fleet} {before : List (Tasks × TaskMove)} {x : Tasks × TaskMove}
    (h : harmless x = true) : Undisturbed Doomed (Task.Condemns F) before x := by
  intro i a c r hmove
  rw [harmless, hmove] at h
  refine ⟨?_, ?_, ?_⟩
  · unfold FailsTruly
    split
    · cases h
    · trivial
  · rintro v rfl
    cases h
  · intro v j b p hv _ _ _ _
    cases c with
    | createVolume u => cases h
    | updateVolume u =>
        cases hv
        simpa using h
    | _ => cases hv

/-- The sync of a claim removes the directory of the volume while the object is stored and live. -/
def removesLive (x : Tasks × TaskMove) : Bool :=
  match x.2 with
  | Move.call _ (Task.claim _ _) c _ =>
      c = Call.backend ⟨"node", Syscall.removeAll "/pv/pvc-1"⟩
        && (x.1.shared.api.volumes "pvc-1").any fun o => ¬ Doomed o
          && o.annotations.lookup annProvisionOnNode = some "node" && o.hostPath = some "/pv/pvc-1"
  | _ => false

/-- The seventh call to the API server and all from the tenth on fail, without an effect. -/
def secondSyncFails (n : ℕ) : Option Bool := if n = 6 ∨ 9 ≤ n then some false else none

/-- The claim is synced twice. -/
def syncedTwice : List (Pool.Choice Task) :=
  [Pool.Choice.start 0 (Task.claim "node" claim)] ++ List.replicate 9 (Pool.Choice.go 0)
    ++ [Pool.Choice.start 0 (Task.claim "node" claim)] ++ List.replicate 13 (Pool.Choice.go 0)

end Sample

/-- The volume is found, released and removed. -/
theorem sample_live_spared :
    ∃ tr w, Run (Pool.Step Cluster.step Sample.fleet.run
        fun _ a => a.Proper (fun _ => False) Sample.ident Sample.fleet)
        (Pool.idle Sample.provisioned) tr w
      ∧ tr.any (Sample.callsWhileStored
        (Call.backend ⟨"node", Syscall.removeAll "/pv/pvc-1"⟩)) = true
      ∧ ∀ x ∈ tr, ∀ i a c r, x.2 = Move.call i a c r → a.IsSync → SparesLive x.1.shared c := by
  have hplay : ((Pool.play Cluster.step Sample.fleet.run Sample.resync
      (Pool.idle Sample.provisioned)).map fun r => (r.1.all Sample.harmless,
        r.1.any (Sample.callsWhileStored
          (Call.backend ⟨"node", Syscall.removeAll "/pv/pvc-1"⟩)))) = some (true, true) := by
    decide +kernel
  obtain ⟨⟨tr, w⟩, hrun, htr⟩ := Option.map_eq_some_iff.mp hplay
  obtain ⟨hharmless, hremoves⟩ := Prod.mk.inj htr
  have hr := Pool.run_of_play (fun i a ha _ => Sample.proper_resync ha) hrun
  refine ⟨tr, w, hr, hremoves, live_spared (fun _ => rfl) Sample.separate
    Sample.genuine_provisioned hr ?_⟩
  exact each_of_forall fun x hx _ =>
    Sample.undisturbed_of_harmless (List.all_eq_true.mp hharmless x hx)

/-- **The directory of a live volume is removed**: the claim is synced twice, on one node, and in the
second sync the look for the object fails, and then every attempt to store it. -/
theorem live_removed :
    ∃ tr w, Run (Pool.Step Cluster.step Sample.fleet.run
        fun _ a => a = Task.claim "node" Sample.claim)
        (Pool.idle (Sample.cluster Sample.secondSyncFails)) tr w
      ∧ ∃ x ∈ tr, ∃ i a c r, x.2 = Move.call i a c r ∧ a.IsSync ∧ ¬ SparesLive x.1.shared c := by
  have hplay : ((Pool.play Cluster.step Sample.fleet.run Sample.syncedTwice
      (Pool.idle (Sample.cluster Sample.secondSyncFails))).map fun r =>
        r.1.any Sample.removesLive) = some true := by
    decide +kernel
  obtain ⟨⟨tr, w⟩, hrun, hremoves⟩ := Option.map_eq_some_iff.mp hplay
  refine ⟨tr, w, Pool.run_of_play (fun i a ha _ => ?_) hrun, ?_⟩
  · have hstart : i = 0 ∧ a = Task.claim "node" Sample.claim := by
      simpa [Sample.syncedTwice] using ha
    exact hstart.2
  · obtain ⟨x, hx, hlive⟩ := List.any_eq_true.mp hremoves
    refine ⟨x, hx, ?_⟩
    unfold Sample.removesLive at hlive
    split at hlive
    · rename_i i node pvc c r hmove
      simp only [Bool.and_eq_true, decide_eq_true_eq, Option.any_eq_true] at hlive
      obtain ⟨rfl, o, ho, ⟨hdoomed, hnode⟩, hpath⟩ := hlive
      refine ⟨i, _, _, r, hmove, trivial, fun hspares => hdoomed ?_⟩
      exact hspares "pvc-1" o "/pv/pvc-1" ho hnode hpath
        ⟨["pv", "pvc-1"], ["pv", "pvc-1"], by decide, by decide, List.prefix_rfl⟩
    · cases hlive

end Hostpath.Legacy
