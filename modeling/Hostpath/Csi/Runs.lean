import Hostpath.Csi.Driver
import Hostpath.Csi.Sites
import Hostpath.Lib.Run

/-!
# Runs of the driver

What all properties of runs need: a map in another order is the same map, the controller the
driver starts with has its providers at the right places, and a request that was served is the
execution of one handler.
-/

namespace Hostpath

open Lib FilePath Prog Host

/-! ## The order of maps does not matter -/

namespace Config.Reorders

variable {cfg cfg' : Config} {h : Host}

lemma lookup (hre : cfg.Reorders cfg') (a : String) :
    cfg'.storagePoolInfo.lookup a = cfg.storagePoolInfo.lookup a :=
  AList.perm_lookup hre.pools

lemma pool (hre : cfg.Reorders cfg') (a : String) : cfg'.pool a = cfg.pool a := by
  rw [Config.pool, hre.lookup]
  rfl

lemma poolsApart (hre : cfg.Reorders cfg') (hap : cfg.PoolsApart) : cfg'.PoolsApart := by
  unfold Config.PoolsApart at hap ⊢
  simp only [hre.lookup]
  exact hap

lemma layout (hre : cfg.Reorders cfg') (hlay : cfg.Layout) : cfg'.Layout := by
  obtain ⟨h₁, h₂, h₃, h₄, h₅⟩ := hlay
  refine ⟨?_, ?_, hre.poolsApart h₃, ?_, ?_⟩ <;> simp only [hre.lookup] <;> assumption

lemma poolsUnmounted (hre : cfg.Reorders cfg') (hu : cfg.PoolsUnmounted h) :
    cfg'.PoolsUnmounted h := by
  unfold Config.PoolsUnmounted at hu ⊢
  simp only [hre.lookup]
  exact hu

lemma unmounted (hre : cfg.Reorders cfg') (hu : cfg.Unmounted h) : cfg'.Unmounted h := by
  refine ⟨hre.poolsUnmounted hu.pool, ?_⟩
  simp only [hre.lookup]
  exact hu.snapshot

end Config.Reorders

namespace HostPath.Reorders

variable {hp hp' : HostPath}

lemma symm (hre : hp.Reorders hp') : hp'.Reorders hp :=
  ⟨hre.node.symm, hre.controller.symm, hre.providers.symm⟩

lemma provider (hre : hp.Reorders hp') (a : String) :
    hp'.controller.snapshotproviders.lookup a = hp.controller.snapshotproviders.lookup a :=
  AList.perm_lookup hre.providers

lemma wellFormed (hre : hp.Reorders hp') (hwf : hp.controller.WellFormed) :
    hp'.controller.WellFormed := by
  unfold HostPathController.WellFormed at hwf ⊢
  simp only [hre.provider, hre.controller.lookup]
  exact hwf

lemma site {a : String} {p : Reflink} {S L : Loc} (hre : hp.Reorders hp')
    (site : hp.controller.Site a p S L) : hp'.controller.Site a p S L := by
  obtain ⟨h₁, h₂, h₃, h₄⟩ := site
  refine ⟨(hre.provider a).trans h₁, ?_, h₃, h₄⟩
  simpa only [hre.controller.lookup] using h₂

end HostPath.Reorders

/-! ## The controller the driver starts with -/

/-- Every provider that is set up belongs to a configured pool and works on its directories. -/
lemma snapshotProviders_ok {nodeID : String}
    {entries : List (Sigma fun _ : String => StoragePoolInfo)} {m m' : GoMap Reflink}
    (e : snapshotProviders nodeID entries m = Except.ok m') {a : String} {r : Reflink}
    (ha : m'.lookup a = some r) :
    m.lookup a = some r
      ∨ ∃ info, ⟨a, info⟩ ∈ entries ∧ info.snapshotPath = some r.path
        ∧ info.path = r.sourcePath := by
  induction entries generalizing m with
  | nil =>
      cases e
      exact Or.inl ha
  | cons x rest ih =>
      obtain ⟨pool, info⟩ := x
      have hlater : ∀ {m₁ : GoMap Reflink},
          snapshotProviders nodeID rest m₁ = Except.ok m' →
          m₁.lookup a = some r ∨ ∃ info', ⟨a, info'⟩ ∈ (⟨pool, info⟩ :: rest
            : List (Sigma fun _ : String => StoragePoolInfo))
            ∧ info'.snapshotPath = some r.path ∧ info'.path = r.sourcePath := by
        intro m₁ e'
        rcases ih e' with hm | ⟨info', hmem, hrest⟩
        · exact Or.inl hm
        · exact Or.inr ⟨info', List.mem_cons_of_mem _ hmem, hrest⟩
      rw [snapshotProviders] at e
      split at e
      · exact hlater e
      · rename_i path _ hpath
        rcases hlater e with hm | hin
        · by_cases hap : a = pool
          · subst hap
            rw [AList.lookup_insert] at hm
            cases hm
            exact Or.inr ⟨info, List.mem_cons_self, hpath, rfl⟩
          · rw [AList.lookup_insert_ne hap] at hm
            exact Or.inl hm
        · exact Or.inr hin
      · cases e
      · cases e

lemma newHostPathController_ok {cfg : Config} {hpc : HostPathController}
    (e : newHostPathController cfg = Except.ok hpc) : hpc.cfg = cfg ∧ hpc.WellFormed := by
  unfold newHostPathController at e
  cases hs : snapshotProviders cfg.nodeID cfg.storagePoolInfo.entries ∅ with
  | error err =>
      rw [hs] at e
      cases e
  | ok providers =>
      rw [hs] at e
      cases e
      refine ⟨rfl, fun a r ha => ?_⟩
      rcases snapshotProviders_ok hs ha with hempty | ⟨info, hmem, hpath, hsrc⟩
      · cases hempty
      · exact ⟨info, AList.mem_lookup_iff.mpr hmem, hpath, hsrc⟩

/-- The controller and the node service of a driver that started have the same pools. -/
lemma newHostPathDriver_ok {cfg : Config} {dataDir : Option (List StoragePoolInfo)} {h h' : Host}
    {hp : HostPath} (e : h.exec (newHostPathDriver cfg dataDir) = (Except.ok hp, h')) :
    hp.node.cfg = hp.controller.cfg ∧ hp.controller.WellFormed := by
  unfold newHostPathDriver at e
  split_ifs at e <;> try cases e
  cases dataDir with
  | none => cases e
  | some storagePools =>
      obtain ⟨_, m, _, hk⟩ := exec_bind_eq_ok.mp e
      obtain ⟨hpc, m', hc, hk'⟩ := exec_bind_eq_ok.mp hk
      cases hk'
      have hnew := Prod.mk.inj ((exec_liftExcept _ _).symm.trans hc)
      obtain ⟨hcfg, hwf⟩ := newHostPathController_ok hnew.1
      exact ⟨hcfg.symm, hwf⟩

/-! ## Requests that were served -/

/-- A response is computed from what a handler returned. -/
lemma exec_respond {α β : Type} {x : Sys α} {f : α → β} {h h' : Host} {res : Except Err β}
    (e : h.exec (do return f (← x)) = (res, h')) :
    ∃ r, h.exec x = (r, h') ∧ res = r.map f := by
  obtain ⟨h₁, h₂⟩ := Prod.mk.inj ((exec_bind_pure step x f h).symm.trans e)
  exact ⟨(h.exec x).1, Prod.ext rfl h₂, h₁.symm⟩

/-! ## Users -/

namespace Config.UserWrites

variable {cfg : Config} {h h' : Host}

/-- Users do not reach what is apart from the pools. -/
lemma untouched {S : Loc} (hw : cfg.UserWrites h h')
    (hS : ∀ a info l, cfg.storagePoolInfo.lookup a = some info → info.loc = some l → Apart l S) :
    Untouched S h h' := by
  intro q hq
  by_contra hne
  obtain ⟨a, info, l, n, ha, hl, _, hlq, _⟩ := hw.node q hne
  exact (hS a info l ha hl).not_below ((List.prefix_append l _).trans hlq) hq

/-- The directories of the volumes themselves stay. -/
lemma volume_node {b n : String} {info : StoragePoolInfo} {k : Loc} (hw : cfg.UserWrites h h')
    (hap : cfg.PoolsApart) (hb : cfg.storagePoolInfo.lookup b = some info)
    (hk : info.loc = some k) : h'.fs.node (k ++ [n]) = h.fs.node (k ++ [n]) := by
  by_contra hne
  obtain ⟨a, i, l, m, ha, hl, _, hlq, hneq⟩ := hw.node _ hne
  by_cases hab : a = b ∧ m = n
  · obtain ⟨rfl, rfl⟩ := hab
    cases ha.symm.trans hb
    cases hl.symm.trans hk
    exact hneq rfl
  · exact hap.volume_not_below ha hl hb hk hab hlq

end Config.UserWrites

/-! ## The node with one pool -/

namespace Sample

lemma wellFormed : controller.WellFormed :=
  (newHostPathController_ok (show newHostPathController cfg = Except.ok controller from rfl)).2

lemma site : controller.Site "local" ⟨"node", "/snapshots", "/pool"⟩ ["snapshots"] ["pool"] where
  provider := rfl
  pool := ⟨pool, rfl, by decide, by decide⟩
  snapshots := by decide
  volumes := by decide

lemma site_eq {a : String} {p : Reflink} {S L : Loc} (hs : controller.Site a p S L) :
    a = "local" ∧ S = ["snapshots"] ∧ L = ["pool"] := by
  obtain ⟨info, hi, _⟩ := hs.pool
  obtain ⟨rfl, _⟩ := eq_of_lookup hi
  obtain ⟨_, hS, hL⟩ := hs.unique site
  exact ⟨rfl, hS, hL⟩

end Sample

/-! ## A node with two pools -/

namespace TwoPools

def second : StoragePoolInfo :=
  ⟨"second", "/pool2", some "/snapshots2", some SnapshotProviderType.reflink, false⟩

def cfg : Config :=
  { Sample.cfg with storagePoolInfo := Sample.cfg.storagePoolInfo.insert "second" second }

def controller : HostPathController :=
  ⟨cfg, Sample.controller.snapshotproviders.insert "second" ⟨"node", "/snapshots2", "/pool2"⟩⟩

def driver : HostPath := ⟨⟨cfg⟩, controller⟩

def parameters : GoMap String := AList.singleton storagePoolName "second"

/-- Each pool has one volume, `vol` in the first and `other` in the second. -/
def host : Host :=
  { Sample.emptyHost with
    fs := ((FileTree.empty.create ["pool", "vol"] fun _ => true).create ["pool2", "other"]
      fun _ => true) }

/-- What a request returns if no call fails, and the host it leaves. -/
def result (h : Host) (q : Request) : Except Err Response :=
  (Host.exec { h with outcomes := fun _ => Outcome.fine } (driver.serve q)).1

def after (h : Host) (q : Request) : Host :=
  (Host.exec { h with outcomes := fun _ => Outcome.fine } (driver.serve q)).2

lemma step_after {C : HostPath → Host → Request → Prop} {h : Host} {q : Request}
    (hC : C driver { h with outcomes := fun _ => Outcome.fine } q) :
    driver.Step C h (Event.request q (result h q)) (after h q) :=
  HostPath.Step.serve _ hC

lemma eq_of_lookup {a : String} {info : StoragePoolInfo}
    (h : cfg.storagePoolInfo.lookup a = some info) :
    a = "local" ∧ info = Sample.pool ∨ a = "second" ∧ info = second := by
  by_cases ha : a = "second"
  · subst ha
    exact Or.inr ⟨rfl, (Option.some.inj ((AList.lookup_insert _).symm.trans h)).symm⟩
  · rw [cfg, AList.lookup_insert_ne ha] at h
    exact Or.inl (Sample.eq_of_lookup h)

/-- Where the volumes and the snapshots of a pool are. -/
lemma locs_of_lookup {a : String} {info : StoragePoolInfo}
    (h : cfg.storagePoolInfo.lookup a = some info) :
    a = "local" ∧ info.loc = some ["pool"] ∧ info.snapshotLoc = some ["snapshots"]
      ∨ a = "second" ∧ info.loc = some ["pool2"] ∧ info.snapshotLoc = some ["snapshots2"] := by
  rcases eq_of_lookup h with ⟨rfl, rfl⟩ | ⟨rfl, rfl⟩
  · exact Or.inl ⟨rfl, by decide, by decide⟩
  · exact Or.inr ⟨rfl, by decide, by decide⟩

lemma layout : cfg.Layout where
  pool_loc h := by
    rcases locs_of_lookup h with ⟨_, hl, _⟩ | ⟨_, hl, _⟩ <;> exact ⟨_, hl⟩
  snapshot_loc h hp := by
    rcases eq_of_lookup h with ⟨rfl, rfl⟩ | ⟨rfl, rfl⟩ <;> cases hp
    · exact ⟨["snapshots"], by decide⟩
    · exact ⟨["snapshots2"], by decide⟩
  pools a b i j l k ha hb hne hl hk := by
    rcases locs_of_lookup ha with ⟨rfl, hi, _⟩ | ⟨rfl, hi, _⟩ <;>
      rcases locs_of_lookup hb with ⟨rfl, hj, _⟩ | ⟨rfl, hj, _⟩ <;>
      first
        | exact absurd rfl hne
        | cases hi.symm.trans hl
          cases hj.symm.trans hk
          exact ⟨by decide, by decide⟩
  snapshots ha hb hne hl hk := by
    rcases locs_of_lookup ha with ⟨rfl, _, hi⟩ | ⟨rfl, _, hi⟩ <;>
      rcases locs_of_lookup hb with ⟨rfl, _, hj⟩ | ⟨rfl, _, hj⟩ <;>
      first
        | exact absurd rfl hne
        | cases hi.symm.trans hl
          cases hj.symm.trans hk
          exact ⟨by decide, by decide⟩
  across ha hb hl hk := by
    rcases locs_of_lookup ha with ⟨_, hi, _⟩ | ⟨_, hi, _⟩ <;>
      rcases locs_of_lookup hb with ⟨_, _, hj⟩ | ⟨_, _, hj⟩ <;>
      cases hi.symm.trans hl <;> cases hj.symm.trans hk <;> exact ⟨by decide, by decide⟩

lemma site_cases {ps : GoMap Reflink} {a : String} {p : Reflink} {S L : Loc}
    (hs : HostPathController.Site ⟨cfg, ps⟩ a p S L) :
    a = "local" ∧ S = ["snapshots"] ∧ L = ["pool"]
      ∨ a = "second" ∧ S = ["snapshots2"] ∧ L = ["pool2"] := by
  obtain ⟨info, hi, hL, hS⟩ := hs.pool
  rcases locs_of_lookup hi with ⟨rfl, hl, hk⟩ | ⟨rfl, hl, hk⟩ <;>
    cases hl.symm.trans hL <;> cases hk.symm.trans hS
  · exact Or.inl ⟨rfl, rfl, rfl⟩
  · exact Or.inr ⟨rfl, rfl, rfl⟩

end TwoPools

end Hostpath
