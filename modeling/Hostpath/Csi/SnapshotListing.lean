import Hostpath.Csi.SnapshotRefinement

/-!
# Listing the snapshots of several pools

A listing asks every provider in turn and gives up at the first error.  The snapshot directory of
a pool is only made by the first snapshot of that pool, so **a listing returns all snapshots of all
pools exactly if every snapshot directory is there** (`listing_complete_iff`).

Two facts do the work.  `Encodes.matching_perm`: what a provider returns is its map, entry by
entry.  `snapshotsPage_unpaged`: without paging the whole list is returned.
-/

namespace Hostpath

open Lib FilePath Prog Host

/-- What identifies a snapshot in a listing. -/
def Snapshot.key (s : Snapshot) : String × String := (s.snapshotId, s.sourceVolumeId)

/-- The entries of a map whose source is `v`, or all of them if `v` is empty. -/
def recorded (v : String) (M : GoMap String) : List (String × String) :=
  (M.entries.map fun e => (e.1, e.2)).filter fun x => v = "" ∨ x.2 = v

/-! ## One provider -/

namespace Reflink.Encodes

variable {h : Host} {r : Reflink} {S : Loc} {M : GoMap String}

lemma snapshots_perm (he : Encodes S h.fs M) (hS : locate r.path = some S) :
    ((r.snapshots h).map Snapshot.key).Perm (M.entries.map fun e => (e.1, e.2)) := by
  obtain ⟨hnodup, hmem⟩ := he.snapshots hS
  refine (List.perm_ext_iff_of_nodup ?_ ?_).mpr ?_
  · refine List.Nodup.of_map Prod.fst ?_
    rwa [List.map_map]
  · refine List.Nodup.of_map Prod.fst ?_
    rw [List.map_map]
    exact M.nodupKeys
  · rintro ⟨n, v⟩
    have hlook : (n, v) ∈ (M.entries.map fun e => (e.1, e.2)) ↔ M.lookup n = some v := by
      rw [← Option.mem_def, AList.mem_lookup_iff, List.mem_map]
      constructor
      · rintro ⟨⟨n', v'⟩, hin, heq⟩
        cases heq
        exact hin
      · intro hin
        exact ⟨⟨n, v⟩, hin, rfl⟩
    rw [hlook, hmem, List.mem_map]
    simp only [Snapshot.key, Prod.mk.injEq]

/-- **The matching snapshots of a provider** are those of its map, each once. -/
lemma matching_perm (he : Encodes S h.fs M) (hS : locate r.path = some S) (v : String) :
    ((HostPathController.matching h v r).map Snapshot.key).Perm (recorded v M) := by
  have hfilter : (HostPathController.matching h v r).map Snapshot.key
      = ((r.snapshots h).map Snapshot.key).filter fun x => v = "" ∨ x.2 = v := by
    rw [HostPathController.matching, List.filter_map]
    split_ifs with hv
    · rw [List.filter_eq_self.mpr (by simp [hv])]
    · congr 1
      refine List.filter_congr fun s _ => decide_eq_decide.mpr ?_
      simp [hv, Snapshot.key]
  rw [hfilter]
  exact (he.snapshots_perm hS).filter _

end Reflink.Encodes

/-! ## Without paging -/

namespace HostPathController

variable {ss page : List Snapshot} {v id next : String}

lemma snapshotsPage_unpaged (hlen : ss.length < 2 ^ 63) :
    snapshotsPage ss ⟨0, "", v, id⟩ = Except.ok ⟨ss, ""⟩ := by
  by_cases hne : ss = []
  · subst hne
    rfl
  · have hlen64 : (Int64.ofNat ss.length).toInt = ss.length := Int64.toInt_ofNat_of_lt hlen
    have hstop : min ((UInt64.ofNat 1 - 1).toInt64 + Int64.ofNat ss.length) (Int64.ofNat ss.length)
        = Int64.ofNat ss.length := by
      have hzero : (UInt64.ofNat 1 - 1).toInt64 + Int64.ofNat ss.length = Int64.ofNat ss.length := by
        simp
      rw [hzero]
      exact ite_self _
    have hparse : Strconv.parseUint 32 "1" = some 1 := by decide
    have hpos : (0 : Int64) ≤ Int64.ofNat ss.length := by
      rw [Int64.le_iff_toInt_le, hlen64]
      exact Int.natCast_nonneg _
    have hlast : ¬ Int64.ofNat ss.length < Int64.ofNat ss.length - 1 := by
      have hone : (1 : Int64).toInt = 1 := by decide
      have hlow : 0 < ss.length := List.length_pos_iff.mpr hne
      rw [Int64.lt_iff_toInt_lt, Int64.toInt_sub, hlen64, hone, Int.bmod_eq_of_le] <;> omega
    have hzero : (UInt64.ofNat 1 - 1).toNat = 0 := by decide
    simp only [snapshotsPage, if_neg hne, true_or, if_true, hparse, hstop, hzero, Nat.zero_le,
      and_true, if_pos hpos, if_neg hlast, hlen64, Int.toNat_natCast, List.take_length,
      List.drop_zero]

/-- A page is never longer than the numbers that bound it. -/
lemma length_of_unpaged (e : snapshotsPage ss ⟨0, "", v, id⟩ = Except.ok ⟨page, next⟩) :
    page.length < 2 ^ 63 := by
  by_cases hlen : ss.length < 2 ^ 63
  · rw [snapshotsPage_unpaged hlen] at e
    cases e
    exact hlen
  · have hne : ss ≠ [] := by
      rintro rfl
      exact hlen (by simp)
    have hparse : Strconv.parseUint 32 "1" = some 1 := by decide
    simp only [snapshotsPage, if_neg hne, true_or, if_true, hparse] at e
    split at e
    · obtain ⟨rfl, _⟩ := ListSnapshotsResponse.mk.inj (Except.ok.inj e)
      rw [List.length_drop, List.length_take]
      have hhigh := Int64.toInt_lt
        (min ((UInt64.ofNat 1 - 1).toInt64 + Int64.ofNat ss.length) (Int64.ofNat ss.length))
      omega
    · cases e

end HostPathController

/-! ## All providers -/

namespace HostPath

variable {hp hp' : HostPath} {h h₀ : Host} {D : String → Prop} {Ms : String → GoMap String}
  {v : String} {tr : List (Host × Event)}

/-- What the pools have together. -/
def recordedInAll (hp : HostPath) (Ms : String → GoMap String) (v : String) :
    List (String × String) :=
  hp.controller.snapshotproviders.keys.flatMap fun a => recorded v (Ms a)

/-- A listing without paging, of the snapshots of the volume `v` or of all snapshots if `v` is
empty, returns exactly what the maps of all pools hold together. -/
def ListsAll (hp : HostPath) (Ms : String → GoMap String) (v : String) (h : Host) : Prop :=
  ∀ hp' outcomes, hp.Reorders hp' → (∀ n, (outcomes n : Outcome).fault = none) →
    ∃ ss h', Host.exec { h with outcomes } (hp'.controller.listSnapshots (some ⟨0, "", v, ""⟩))
        = (Except.ok ⟨ss, ""⟩, h')
      ∧ (ss.map Snapshot.key).Perm (hp.recordedInAll Ms v)

/-- What the providers return together, in whatever order they are asked. -/
lemma matching_perm_recorded (hlay : hp.controller.cfg.Layout) (hwf : hp.controller.WellFormed)
    (hst : hp.controller.SnapshotState D Ms h) (hre : hp.Reorders hp') :
    ((hp'.controller.providers.flatMap (HostPathController.matching h v)).map Snapshot.key).Perm
      (hp.recordedInAll Ms v) := by
  have hentry : ∀ e ∈ hp.controller.snapshotproviders.entries,
      ((HostPathController.matching h v e.2).map Snapshot.key).Perm (recorded v (Ms e.1)) := by
    rintro ⟨a, p⟩ he
    obtain ⟨S, L, site⟩ := HostPathController.exists_site hlay hwf (AList.mem_lookup_iff.mpr he)
    exact (hst.encodes site).matching_perm site.snapshots v
  rw [HostPathController.providers, List.flatMap_map, List.map_flatMap, recordedInAll, AList.keys,
    List.keys, List.flatMap_map]
  exact (hre.providers.flatMap_right _).trans (List.Perm.flatMap_left _ hentry)

/-- The providers that can list are those whose directory is there. -/
lemma listable_iff (hlay : hp.controller.cfg.Layout) (hwf : hp.controller.WellFormed)
    (hst : hp.controller.SnapshotState D Ms h) (hre : hp.Reorders hp') :
    (∀ r ∈ hp'.controller.providers, r.Listable h)
      ↔ ∀ ⦃a p S L⦄, hp.controller.Site a p S L → h.fs.node S = some Node.dir := by
  constructor
  · intro hall a p S L site
    obtain ⟨l, hl, hdir, _⟩ := hall p (HostPathController.mem_providers.mpr
      ⟨a, (hre.provider a).trans site.provider⟩)
    cases site.snapshots.symm.trans hl
    exact hdir
  · intro hall r hr
    obtain ⟨a, ha⟩ := HostPathController.mem_providers.mp hr
    rw [hre.provider] at ha
    obtain ⟨S, L, site⟩ := HostPathController.exists_site hlay hwf ha
    exact (hst.encodes site).listable site.snapshots (hall site)

/-- When a listing returns everything, in a state that encodes the maps. -/
lemma listsAll_iff (hlay : hp.controller.cfg.Layout) (hwf : hp.controller.WellFormed)
    (hst : hp.controller.SnapshotState D Ms h) :
    hp.ListsAll Ms v h
      ↔ (∀ ⦃a p S L⦄, hp.controller.Site a p S L → h.fs.node S = some Node.dir)
        ∧ (hp.recordedInAll Ms v).length < 2 ^ 63 := by
  constructor
  · intro hlist
    obtain ⟨ss, h', hex, hperm⟩ := hlist hp (fun _ => Outcome.fine) (Reorders.refl hp) fun _ => rfl
    have hf : Host.NoFaults { h with outcomes := fun _ => Outcome.fine } := fun _ => rfl
    have hall := HostPathController.listable_of_listSnapshots hf hex
    refine ⟨(listable_iff hlay hwf hst (Reorders.refl hp)).mp hall, ?_⟩
    obtain ⟨h'', hex'⟩ := HostPathController.listSnapshots_of_listable 0 "" v hf hall
    have hpage := (Prod.mk.inj (hex'.symm.trans hex)).1
    rw [← hperm.length_eq, List.length_map]
    exact HostPathController.length_of_unpaged hpage
  · rintro ⟨hdirs, hlen⟩ hp' outcomes hre hf
    have hst' : hp.controller.SnapshotState D Ms { h with outcomes } := hst.of_host rfl rfl
    have hperm := matching_perm_recorded (v := v) hlay hwf hst' hre
    obtain ⟨h', hex⟩ := HostPathController.listSnapshots_of_listable (h := { h with outcomes }) 0 ""
      v hf ((listable_iff hlay hwf hst' hre).mpr hdirs)
    rw [HostPathController.snapshotsPage_unpaged (by
      rw [← hperm.length_eq, List.length_map] at hlen
      exact hlen)] at hex
    exact ⟨_, h', hex, hperm⟩

end HostPath

/-- **When a listing over several pools is complete.**  After every run without failures of a
driver that started with no snapshots, a listing returns exactly the snapshots that were taken and
not deleted, of all pools together, if and only if the snapshot directory of every pool is there
(and there are not more snapshots than a list can hold). -/
theorem listing_complete_iff {cfg : Config} {dataDir : Option (List StoragePoolInfo)}
    {hs h₀ h : Host} {hp : HostPath} {tr : List (Host × Event)} (v : String)
    (hnew : hs.exec (newHostPathDriver cfg dataDir) = (Except.ok hp, h₀))
    (hlay : hp.controller.cfg.Layout)
    (hst : hp.controller.SnapshotState (fun _ => False) (fun _ => ∅) h₀)
    (hr : Run (hp.Step SnapshotRequest) h₀ tr h) :
    hp.ListsAll (fun a => taken a ∅ tr) v h
      ↔ (∀ ⦃a p S L⦄, hp.controller.Site a p S L → h.fs.node S = some Node.dir)
        ∧ (hp.recordedInAll (fun a => taken a ∅ tr) v).length < 2 ^ 63 :=
  have hwf := (newHostPathDriver_ok hnew).2
  HostPath.listsAll_iff hlay hwf (hst.run hlay hwf hr)

namespace Sample

/-- The host when the driver has started: there is no snapshot directory yet. -/
def freshHost : Host := (emptyHost.exec (newHostPathDriver bareCfg (some [pool]))).2

lemma freshState : controller.SnapshotState (fun _ => False) (fun _ => ∅) freshHost where
  unmounted := Config.Unmounted.of_nil rfl
  encodes a p S L hs := Reflink.Encodes.of_empty fun n => by
    obtain ⟨_, rfl, _⟩ := site_eq hs
    by_contra hn
    have hmem := freshHost.fs.mem_list.mpr hn
    rw [show freshHost.fs.list ["snapshots"] = [] by decide +kernel] at hmem
    cases hmem
  dirs _ _ _ _ _ hD := hD.elim
  free a p S L hs := by
    obtain ⟨_, rfl, _⟩ := site_eq hs
    decide +kernel
  volumes a p S L hs n c hc := by
    obtain ⟨_, _, rfl⟩ := site_eq hs
    have hmem := freshHost.fs.mem_list.mpr (show freshHost.fs.node (["pool"] ++ [n]) ≠ none by
      rw [hc]
      simp)
    rw [show freshHost.fs.list ["pool"] = [] by decide +kernel] at hmem
    cases hmem

def volumeHost : Host := after freshHost (Request.createVolume (some (volumeRequest "vol")))

def listedHost : Host := after volumeHost (Request.createSnapshot (some snapshotRequest))

/-- A volume is created and a snapshot of it is taken. -/
def firstSnapshot : List (Host × Event) :=
  [(freshHost, Event.request (Request.createVolume (some (volumeRequest "vol")))
      (result freshHost (Request.createVolume (some (volumeRequest "vol"))))),
    (volumeHost, Event.request (Request.createSnapshot (some snapshotRequest))
      (result volumeHost (Request.createSnapshot (some snapshotRequest))))]

lemma firstSnapshot_run : Run (driver.Step SnapshotRequest) freshHost firstSnapshot listedHost := by
  refine Run.snoc (Run.snoc Run.nil (step_after ?_)) (step_after ⟨fun _ => rfl, ?_⟩)
  · rintro req ⟨rfl⟩
    exact (by decide : ValidName "vol")
  · rintro req ⟨rfl⟩
    exact ⟨by decide, by decide, by decide⟩

end Sample

namespace TwoPools

/-- The driver as it starts, which makes the providers in the order of the pools. -/
def started : HostPath :=
  ⟨⟨cfg⟩, ⟨cfg, (AList.singleton "second" ⟨"node", "/snapshots2", "/pool2"⟩).insert "local"
    ⟨"node", "/snapshots", "/pool"⟩⟩⟩

lemma started_reorders : started.Reorders driver :=
  ⟨Config.Reorders.refl _, Config.Reorders.refl _, List.Perm.swap _ _ _⟩

/-- The host when the driver has started: the pools are there, and no snapshot directory. -/
def freshHost : Host :=
  (Sample.emptyHost.exec (newHostPathDriver Sample.bareCfg (some [Sample.pool, second]))).2

lemma newHostPathDriver_started :
    Sample.emptyHost.exec (newHostPathDriver Sample.bareCfg (some [Sample.pool, second]))
      = (Except.ok started, freshHost) := rfl

/-- Nothing is in the pools and in the places of the snapshots. -/
lemma freshHost_node {l : Loc} (hl : l ∈ [["pool"], ["pool2"], ["snapshots"], ["snapshots2"]])
    (n : String) : freshHost.fs.node (l ++ [n]) = none := by
  have hempty : ∀ l ∈ [["pool"], ["pool2"], ["snapshots"], ["snapshots2"]],
      freshHost.fs.list l = [] := by
    decide +kernel
  by_contra hn
  have hmem := freshHost.fs.mem_list.mpr hn
  rw [hempty l hl] at hmem
  cases hmem

lemma freshState : started.controller.SnapshotState (fun _ => False) (fun _ => ∅) freshHost where
  unmounted := Config.Unmounted.of_nil rfl
  encodes a p S L hs := by
    rcases site_cases hs with ⟨_, rfl, _⟩ | ⟨_, rfl, _⟩ <;>
      exact Reflink.Encodes.of_empty (freshHost_node (by decide))
  dirs _ _ _ _ _ hD := hD.elim
  free a p S L hs := by
    rcases site_cases hs with ⟨_, rfl, _⟩ | ⟨_, rfl, _⟩ <;> decide +kernel
  volumes a p S L hs n c := by
    rcases site_cases hs with ⟨_, _, rfl⟩ | ⟨_, _, rfl⟩ <;>
    · rw [freshHost_node (by decide)]
      exact Option.some_ne_none _ ∘ Eq.symm

def makeVol : Request := Request.createVolume (some (Sample.volumeRequest "vol"))

def makeOther : Request :=
  Request.createVolume (some { Sample.volumeRequest "other" with parameters })

def takeVol : Request := Request.createSnapshot (some ⟨"snap", "vol", Sample.parameters⟩)

def takeOther : Request := Request.createSnapshot (some ⟨"snap2", "other", parameters⟩)

def oneVolume : Host := after freshHost makeVol

def twoVolumes : Host := after oneVolume makeOther

def oneTaken : Host := after twoVolumes takeVol

def bothTaken : Host := after oneTaken takeOther

/-- A volume is created in each of the pools, and a snapshot is taken of each. -/
def history : List (Host × Event) :=
  [(freshHost, Event.request makeVol (result freshHost makeVol)),
    (oneVolume, Event.request makeOther (result oneVolume makeOther)),
    (twoVolumes, Event.request takeVol (result twoVolumes takeVol)),
    (oneTaken, Event.request takeOther (result oneTaken takeOther))]

lemma run_history {C : HostPath → Host → Request → Prop}
    (h₁ : C driver { freshHost with outcomes := fun _ => Outcome.fine } makeVol)
    (h₂ : C driver { oneVolume with outcomes := fun _ => Outcome.fine } makeOther)
    (h₃ : C driver { twoVolumes with outcomes := fun _ => Outcome.fine } takeVol)
    (h₄ : C driver { oneTaken with outcomes := fun _ => Outcome.fine } takeOther) :
    Run (started.Step C) freshHost history bothTaken := by
  have hstep : ∀ {h : Host} {q : Request}, C driver { h with outcomes := fun _ => Outcome.fine } q →
      started.Step C h (Event.request q (result h q)) (after h q) :=
    fun hC => HostPath.Step.request started_reorders hC rfl
  exact (((Run.nil.snoc (hstep h₁)).snoc (hstep h₂)).snoc (hstep h₃)).snoc (hstep h₄)

lemma snapshotRequest_makeVol (h : Host) : SnapshotRequest driver h makeVol := by
  rintro req ⟨rfl⟩
  exact (by decide : ValidName "vol")

lemma snapshotRequest_makeOther (h : Host) : SnapshotRequest driver h makeOther := by
  rintro req ⟨rfl⟩
  exact (by decide : ValidName "other")

lemma snapshotRequest_takeVol {h : Host} (hf : h.NoFaults) : SnapshotRequest driver h takeVol := by
  refine ⟨hf, ?_⟩
  rintro req ⟨rfl⟩
  exact ⟨by decide, by decide, by decide⟩

lemma snapshotRequest_takeOther {h : Host} (hf : h.NoFaults) :
    SnapshotRequest driver h takeOther := by
  refine ⟨hf, ?_⟩
  rintro req ⟨rfl⟩
  exact ⟨by decide, by decide, by decide⟩

end TwoPools

/-- After a first snapshot in each of two pools the listing returns both. -/
theorem sample_listing_complete :
    TwoPools.started.recordedInAll (fun a => taken a ∅ TwoPools.history) ""
        = [("snap", "vol"), ("snap2", "other")]
      ∧ TwoPools.started.ListsAll (fun a => taken a ∅ TwoPools.history) "" TwoPools.bothTaken := by
  have hall : TwoPools.started.recordedInAll (fun a => taken a ∅ TwoPools.history) ""
      = [("snap", "vol"), ("snap2", "other")] := by
    decide +kernel
  refine ⟨hall, (listing_complete_iff "" TwoPools.newHostPathDriver_started TwoPools.layout
    TwoPools.freshState (TwoPools.run_history (TwoPools.snapshotRequest_makeVol _)
      (TwoPools.snapshotRequest_makeOther _) (TwoPools.snapshotRequest_takeVol fun _ => rfl)
      (TwoPools.snapshotRequest_takeOther fun _ => rfl))).mpr ⟨fun _ _ _ _ hs => ?_, ?_⟩⟩
  · rcases TwoPools.site_cases hs with ⟨_, rfl, _⟩ | ⟨_, rfl, _⟩ <;> decide +kernel
  · rw [hall]
    decide

/-- A driver that has just started fails to list its snapshots, of which there are none. -/
theorem fresh_listing_fails :
    Sample.emptyHost.exec (newHostPathDriver Sample.bareCfg (some [Sample.pool]))
        = (Except.ok Sample.driver, Sample.freshHost)
      ∧ (∃ err h', Sample.freshHost.exec
          (Sample.driver.controller.listSnapshots (some ⟨0, "", "", ""⟩)) = (Except.error err, h'))
      ∧ Sample.driver.recordedInAll (fun _ => ∅) "" = []
      ∧ ¬ Sample.driver.ListsAll (fun _ => ∅) "" Sample.freshHost := by
  have hfail : (Sample.freshHost.exec (Sample.driver.controller.listSnapshots
      (some ⟨0, "", "", ""⟩))).1.toOption.isNone = true := by
    decide +kernel
  obtain ⟨err, hfail⟩ := exec_eq_error hfail
  refine ⟨Sample.newHostPathDriver_sample, ⟨err, _, hfail⟩, rfl, fun hlist => ?_⟩
  have hdirs := ((HostPath.listsAll_iff Sample.layout Sample.wellFormed Sample.freshState).mp hlist).1
  cases (show Sample.freshHost.fs.node ["snapshots"] = none by decide +kernel).symm.trans
    (hdirs Sample.site)

end Hostpath
