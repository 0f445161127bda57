import Hostpath.Csi.SnapshotListing
import Hostpath.Lib.Slices

/-!
# Snapshot ids over several pools

A request for a snapshot looks for its id in one pool only, the one its parameters name, while a
listing by id asks all of them.  So ids are unique over the whole driver as long as no snapshot is
requested in one pool while another pool has its id (`ids_unique_run`); without that they are not
(`id_in_two_pools`).
-/

namespace Hostpath

open Lib FilePath Prog Host

/-- No id is in the maps of two pools. -/
def HostPathController.UniqueIds (hpc : HostPathController) (Ms : String → GoMap String) : Prop :=
  ∀ ⦃a p S L b p' S' L'⦄, hpc.Site a p S L → hpc.Site b p' S' L' → ∀ id,
    (Ms a).lookup id ≠ none → (Ms b).lookup id ≠ none → a = b

/-- No other pool than that of the request has its id. -/
def HostPathController.Sole (hpc : HostPathController) (h : Host) (req : CreateSnapshotRequest) :
    Prop :=
  ∀ ⦃b p S L⦄, hpc.Site b p S L → b ≠ getStoragePoolNameFromMap req.parameters →
    h.fs.node (S ++ [req.name]) = none

/-- Requests as in `SnapshotRequest`, with no snapshot requested in one pool while another has its
id. -/
def SoleSnapshotRequest (hp : HostPath) (h : Host) (q : Request) : Prop :=
  SnapshotRequest hp h q ∧ ∀ req, q = Request.createSnapshot (some req) → hp.controller.Sole h req

/-! ## Uniqueness is kept -/

/-- An id gets into the map of a pool by a request for it in that pool. -/
lemma lookup_takenAfter {a id : String} {M : GoMap String} {e : Event}
    (hn : (takenAfter a M e).lookup id ≠ none) :
    M.lookup id ≠ none ∨ ∃ req res, e = Event.request (Request.createSnapshot (some req)) res
      ∧ req.name = id ∧ getStoragePoolNameFromMap req.parameters = a := by
  unfold takenAfter at hn
  split at hn
  · rename_i req _
    split_ifs at hn with hnew
    · by_cases hid : id = req.name
      · exact Or.inr ⟨req, _, rfl, hid.symm, hnew.1⟩
      · rw [AList.lookup_insert_ne hid] at hn
        exact Or.inl hn
    · exact Or.inl hn
  · rename_i req _
    refine Or.inl fun hnone => hn ?_
    by_cases hid : id = req.snapshotId
    · rw [hid, AList.lookup_erase]
    · rwa [AList.lookup_erase_ne hid]
  · exact Or.inl hn

section Runs

variable {hp hp' : HostPath} {h h' h₀ : Host} {e : Event} {D : String → Prop}
  {Ms : String → GoMap String} {tr : List (Host × Event)}

lemma HostPath.Step.of_sole (hs : hp.Step SoleSnapshotRequest h e h') :
    hp.Step SnapshotRequest h e h' := by
  cases hs with
  | write hw => exact HostPath.Step.write hw
  | request hre hC he => exact HostPath.Step.request hre hC.1 he

lemma HostPathController.UniqueIds.step (hst : hp.controller.SnapshotState D Ms h)
    (hu : hp.controller.UniqueIds Ms) (hs : hp.Step SoleSnapshotRequest h e h') :
    hp.controller.UniqueIds fun a => takenAfter a (Ms a) e := by
  -- a pool that has the id already is the pool of the request
  have hsole : ∀ {req res b p S L}, e = Event.request (Request.createSnapshot (some req)) res →
      hp.controller.Site b p S L → (Ms b).lookup req.name ≠ none →
      b = getStoragePoolNameFromMap req.parameters := by
    intro req res b p S L he site hn
    cases hs with
    | write hw => cases he
    | request hre hC _ =>
        cases he
        by_contra hb
        exact hn ((hst.encodes site).lookup_eq_none.mpr (hC.2 req rfl (hre.site site) hb))
  intro a p S L b p' S' L' site site' id ha hb
  rcases lookup_takenAfter ha with ha | ⟨req, res, he, rfl, rfl⟩
  · rcases lookup_takenAfter hb with hb | ⟨req, res, he, rfl, rfl⟩
    · exact hu site site' id ha hb
    · exact hsole he site ha
  · rcases lookup_takenAfter hb with hb | ⟨req', res', he', _, rfl⟩
    · exact (hsole he site' hb).symm
    · cases he.symm.trans he'
      rfl

/-- **In every state of such a run** the snapshot directories encode maps that share no id. -/
lemma uniqueIds_run (hlay : hp.controller.cfg.Layout) (hwf : hp.controller.WellFormed)
    (hst : hp.controller.SnapshotState D Ms h₀) (hu : hp.controller.UniqueIds Ms)
    (hr : Run (hp.Step SoleSnapshotRequest) h₀ tr h) :
    hp.controller.SnapshotState D (fun a => taken a (Ms a) tr) h
      ∧ hp.controller.UniqueIds fun a => taken a (Ms a) tr := by
  refine hr.invariant (I := fun tr m => hp.controller.SnapshotState D (fun a => taken a (Ms a) tr) m
    ∧ hp.controller.UniqueIds fun a => taken a (Ms a) tr) ⟨hst, hu⟩ ?_
  rintro tr m e m' ⟨ih, ihu⟩ hs
  simp only [taken_snoc]
  exact ⟨ih.step hlay hwf hs.of_sole, ihu.step ih hs⟩

end Runs

/-! ## Listing by id -/

section Listing

variable {hp hp' : HostPath} {hpc : HostPathController} {h h' : Host} {D : String → Prop}
  {Ms : String → GoMap String} {id : String}

/-- What a listing by id collects: the entry of each pool that has the id. -/
def entriesOf (Ms : String → GoMap String) (id : String) (e : Sigma fun _ : String => Reflink) :
    List (String × String) :=
  ((Ms e.1).lookup id).toList.map (Prod.mk id)

lemma collectSnapshots_byId (hlay : hpc.cfg.Layout) (hwf : hpc.WellFormed) (hid : ValidName id)
    (m : Int32) (token v : String) {es : List (Sigma fun _ : String => Reflink)}
    (hes : ∀ e ∈ es, hpc.snapshotproviders.lookup e.1 = some e.2)
    (hst : hpc.SnapshotState D Ms h) (hf : h.NoFaults) :
    ∃ ss h', h.exec (HostPathController.collectSnapshots ⟨m, token, v, id⟩ (es.map fun e => e.2))
        = (Except.ok ss, h')
      ∧ ss.map Snapshot.key = es.flatMap (entriesOf Ms id) := by
  induction es generalizing h with
  | nil => exact ⟨[], h, rfl, rfl⟩
  | cons e es ih =>
      obtain ⟨a, p⟩ := e
      obtain ⟨S, L, site⟩ := HostPathController.exists_site hlay hwf (hes _ List.mem_cons_self)
      obtain ⟨t, h₁, hq, hget⟩ := (hst.encodes site).getSnapshotById site.snapshots
        (hst.entry_free site id) hid hf
      obtain ⟨ss, h₂, hrest, hkeys⟩ := ih (fun e he => hes e (List.mem_cons_of_mem _ he))
        (hst.of_host hq.fs hq.mounts) (hf.of_exec hget)
      have hone : h.exec (HostPathController.providerSnapshots ⟨m, token, v, id⟩ p)
          = (Except.ok (((Ms a).lookup id).map fun v => (⟨id, v, t, true⟩ : Snapshot)).toList,
            h₁) := by
        rw [HostPathController.providerSnapshots, if_pos hid.1]
        exact exec_bind_eq_ok.mpr ⟨_, _, hget, rfl⟩
      refine ⟨_, h₂, exec_bind_eq_ok.mpr ⟨_, _, hone, exec_bind_eq_ok.mpr ⟨_, _, hrest, rfl⟩⟩, ?_⟩
      rw [List.map_append, hkeys, List.flatMap_cons, entriesOf]
      cases (Ms a).lookup id <;> rfl

/-- If no two pools share an id, a listing by id collects the entry of the pool that has it. -/
lemma entries_byId (hu : hpc.UniqueIds Ms) {a : String} {p : Reflink} {S L : Loc} {w : String}
    (hlay : hpc.cfg.Layout) (hwf : hpc.WellFormed) (site : hpc.Site a p S L)
    (hw : (Ms a).lookup id = some w) :
    hpc.snapshotproviders.entries.flatMap (entriesOf Ms id) = [(id, w)] := by
  have hnodup : hpc.snapshotproviders.entries.Nodup :=
    List.Nodup.of_map Sigma.fst hpc.snapshotproviders.nodupKeys
  rw [flatMap_eq_of_unique hnodup (AList.mem_lookup_iff.mp site.provider)]
  · simp [entriesOf, hw]
  · rintro ⟨b, p'⟩ hb hne
    obtain ⟨S', L', site'⟩ := HostPathController.exists_site hlay hwf (AList.mem_lookup_iff.mpr hb)
    cases hlook : (Ms b).lookup id with
    | none => simp [entriesOf, hlook]
    | some w' =>
        obtain rfl := hu site site' id (by simp [hw]) (by simp [hlook])
        obtain ⟨rfl, _⟩ := site.unique site'
        exact absurd rfl hne

/-- Some pool has the snapshot `x.1`, and its source is `x.2`. -/
def HostPathController.Records (hpc : HostPathController) (Ms : String → GoMap String)
    (x : String × String) : Prop :=
  ∃ a p S L, hpc.Site a p S L ∧ (Ms a).lookup x.1 = some x.2

/-- **A listing by id** returns the entry of the one pool that has it, or nothing. -/
lemma listSnapshots_byId (hlay : hpc.cfg.Layout) (hwf : hpc.WellFormed)
    (hst : hpc.SnapshotState D Ms h) (hu : hpc.UniqueIds Ms) (hid : ValidName id) (hf : h.NoFaults)
    (m : Int32) (token v : String) :
    ∃ ss h', h.exec (hpc.listSnapshots (some ⟨m, token, v, id⟩))
        = (HostPathController.snapshotsPage ss ⟨m, token, v, id⟩, h')
      ∧ ss.length ≤ 1
      ∧ ∀ x, x ∈ ss.map Snapshot.key ↔ x.1 = id ∧ hpc.Records Ms x := by
  obtain ⟨ss, h', hcol, hkeys⟩ := collectSnapshots_byId hlay hwf hid m token v
    (fun e he => AList.mem_lookup_iff.mpr he) hst hf
  refine ⟨ss, h', (exec_bind_of_ok step hcol).trans (exec_liftExcept _ _), ?_⟩
  by_cases hsome : ∃ a p S L w, hpc.Site a p S L ∧ (Ms a).lookup id = some w
  · obtain ⟨a, p, S, L, w, site, hw⟩ := hsome
    rw [entries_byId hu hlay hwf site hw] at hkeys
    refine ⟨?_, ?_⟩
    · rw [← List.length_map Snapshot.key, hkeys]
      rfl
    · rintro ⟨id', w'⟩
      rw [hkeys, List.mem_singleton, Prod.mk.injEq]
      constructor
      · rintro ⟨rfl, rfl⟩
        exact ⟨rfl, a, p, S, L, site, hw⟩
      · rintro ⟨hid', b, p', S', L', site', hw'⟩
        obtain rfl : id = id' := hid'.symm
        obtain rfl := hu site site' id (by simp [hw]) (by simp [hw'])
        exact ⟨rfl, Option.some.inj (hw'.symm.trans hw)⟩
  · have hnil : hpc.snapshotproviders.entries.flatMap (entriesOf Ms id) = [] := by
      refine List.flatMap_eq_nil_iff.mpr ?_
      rintro ⟨a, p⟩ he
      obtain ⟨S, L, site⟩ := HostPathController.exists_site hlay hwf (AList.mem_lookup_iff.mpr he)
      cases hlook : (Ms a).lookup id with
      | none => simp [entriesOf, hlook]
      | some w => exact absurd ⟨a, p, S, L, w, site, hlook⟩ hsome
    rw [hnil] at hkeys
    refine ⟨by rw [List.map_eq_nil_iff.mp hkeys]; simp, ?_⟩
    rintro ⟨id', w⟩
    rw [hkeys]
    refine ⟨fun hmem => absurd hmem (by simp), ?_⟩
    rintro ⟨rfl, a, p, S, L, site, hw⟩
    exact absurd ⟨a, p, S, L, w, site, hw⟩ hsome

end Listing

/-! ## Uniqueness over runs -/

/-- In the state `h`, whose pools have the snapshots `Ms`, snapshot ids are unique over the whole
driver, as long as no call fails. -/
structure HostPath.IdsUnique (hp : HostPath) (Ms : String → GoMap String) (h : Host) : Prop where
  /-- A listing by id without paging returns at most one entry, which has the id and the recorded
  source, and none if no pool has the id. -/
  listed : h.NoFaults → ∀ id, ValidName id → ∃ ss h',
    h.exec (hp.controller.listSnapshots (some ⟨0, "", "", id⟩)) = (Except.ok ⟨ss, ""⟩, h')
      ∧ ss.length ≤ 1 ∧ ∀ x, x ∈ ss.map Snapshot.key ↔ x.1 = id ∧ hp.controller.Records Ms x
  /-- With paging it returns no more. -/
  paged : h.NoFaults → ∀ req page h', ValidName req.snapshotId →
    h.exec (hp.controller.listSnapshots (some req)) = (Except.ok page, h') →
      page.entries.length ≤ 1
        ∧ ∀ x ∈ page.entries.map Snapshot.key, x.1 = req.snapshotId ∧ hp.controller.Records Ms x
  /-- A request for an id that some pool has with another source is refused. -/
  refused : ∀ req, SoleSnapshotRequest hp h (Request.createSnapshot (some req)) →
    (∃ b p S L w, hp.controller.Site b p S L ∧ (Ms b).lookup req.name = some w
      ∧ w ≠ req.sourceVolumeId) →
    (h.exec (hp.controller.createSnapshot (some req))).1
      = Except.error (HostPathController.sameName req.name)

lemma HostPathController.SnapshotState.idsUnique {hp : HostPath} {h : Host} {D : String → Prop}
    {Ms : String → GoMap String} (hlay : hp.controller.cfg.Layout)
    (hwf : hp.controller.WellFormed) (hst : hp.controller.SnapshotState D Ms h)
    (hu : hp.controller.UniqueIds Ms) : hp.IdsUnique Ms h where
  listed hf id hid := by
    obtain ⟨ss, h', hex, hlen, hkeys⟩ := listSnapshots_byId hlay hwf hst hu hid hf 0 "" ""
    rw [HostPathController.snapshotsPage_unpaged (by omega)] at hex
    exact ⟨ss, h', hex, hlen, hkeys⟩
  paged hf req page h' hid e := by
    obtain ⟨m, token, v, id⟩ := req
    obtain ⟨ss, h'', hex, hlen, hkeys⟩ := listSnapshots_byId hlay hwf hst hu hid hf m token v
    have hsub := snapshotsPage_sublist (Prod.mk.inj (hex.symm.trans e)).1
    exact ⟨hsub.length_le.trans hlen, fun x hx => (hkeys x).mp ((hsub.map _).subset hx)⟩
  refused req hC := by
    rintro ⟨b, p, S, L, w, site, hw, hne⟩
    obtain ⟨⟨hf, hreq⟩, hsole⟩ := hC
    obtain ⟨hid, hv, hvd⟩ := hreq req rfl
    have hb : b = getStoragePoolNameFromMap req.parameters := by
      by_contra hb
      cases ((hst.encodes site).lookup_eq_none.mpr (hsole req rfl site hb)).symm.trans hw
    subst hb
    obtain ⟨res, h', hex⟩ : ∃ res h', h.exec (hp.controller.createSnapshot (some req)) = (res, h') :=
      ⟨_, _, rfl⟩
    rw [hex]
    rcases createSnapshot_answered (hst.encodes site) site (site.apart_self hlay)
        (hst.volume_node site) hid hv hvd hf hex with ⟨m, _, _, _, hans⟩ | ⟨hno, _⟩
    · cases hans with
      | found hM _ => exact absurd (Option.some.inj (hw.symm.trans hM)) hne
      | taken hM _ _ => cases hM.symm.trans hw
      | noVolume hM _ _ => cases hM.symm.trans hw
      | otherSource _ _ _ => rfl
    · -- the snapshot is there, so its directory is
      have hdir := ((hst.encodes site).mapped hw).1
      exact absurd (FileTree.node_of_below (q := S ++ [req.name]) ⟨[req.name], rfl⟩ (by simp)
        (by simp [hdir])) hno

/-- **Snapshot ids are unique over the whole driver**, after every run without failures in which no
snapshot is requested in one pool while another pool has its id. -/
theorem ids_unique_run {hp hp' : HostPath} {h₀ h : Host} {tr : List (Host × Event)}
    (hlay : hp.controller.cfg.Layout) (hwf : hp.controller.WellFormed)
    (hst : hp.controller.SnapshotState (fun _ => False) (fun _ => ∅) h₀)
    (hr : Run (hp.Step SoleSnapshotRequest) h₀ tr h) (hre : hp.Reorders hp')
    (outcomes : ℕ → Outcome) : hp'.IdsUnique (fun a => taken a ∅ tr) { h with outcomes } := by
  have hempty : hp.controller.UniqueIds fun _ => ∅ := fun _ _ _ _ _ _ _ _ _ _ id hid =>
    absurd (AList.lookup_empty id) hid
  obtain ⟨hst', hu⟩ := uniqueIds_run hlay hwf hst hempty hr
  have hu' : hp'.controller.UniqueIds fun a => taken a ∅ tr := fun _ _ _ _ _ _ _ _ site site' =>
    hu (hre.symm.site site) (hre.symm.site site')
  have hst'' : hp'.controller.SnapshotState (fun _ => False) (fun a => taken a ∅ tr)
      { h with outcomes } := (hst'.reorders hre).of_host rfl rfl
  exact hst''.idsUnique (hre.controller.layout hlay) (hre.wellFormed hwf) hu'

/-- Two pools with a snapshot each, whose ids differ: ids are unique. -/
theorem sample_ids_unique :
    TwoPools.driver.IdsUnique (fun a => taken a ∅ TwoPools.history)
      { TwoPools.bothTaken with outcomes := fun _ => Outcome.fine } := by
  have hvol : TwoPools.driver.controller.Sole
      { TwoPools.twoVolumes with outcomes := fun _ => Outcome.fine }
      ⟨"snap", "vol", Sample.parameters⟩ := by
    intro b p S L hs hb
    rcases TwoPools.site_cases hs with ⟨rfl, _, _⟩ | ⟨_, rfl, _⟩
    · exact absurd rfl hb
    · decide +kernel
  have hother : TwoPools.driver.controller.Sole
      { TwoPools.oneTaken with outcomes := fun _ => Outcome.fine }
      ⟨"snap2", "other", TwoPools.parameters⟩ := by
    intro b p S L hs hb
    rcases TwoPools.site_cases hs with ⟨_, rfl, _⟩ | ⟨rfl, _, _⟩
    · decide +kernel
    · exact absurd rfl hb
  refine ids_unique_run TwoPools.layout (newHostPathDriver_ok TwoPools.newHostPathDriver_started).2
    TwoPools.freshState (TwoPools.run_history ⟨TwoPools.snapshotRequest_makeVol _, nofun⟩
      ⟨TwoPools.snapshotRequest_makeOther _, nofun⟩
      ⟨TwoPools.snapshotRequest_takeVol fun _ => rfl, ?_⟩
      ⟨TwoPools.snapshotRequest_takeOther fun _ => rfl, ?_⟩) TwoPools.started_reorders _
  · rintro req ⟨⟩
    exact hvol
  · rintro req ⟨⟩
    exact hother

namespace TwoPools

def firstRequest : Request := Request.createSnapshot (some ⟨"snap", "vol", Sample.parameters⟩)

def secondRequest : Request := Request.createSnapshot (some ⟨"snap", "other", parameters⟩)

def firstHost : Host := after host firstRequest

def secondHost : Host := after firstHost secondRequest

end TwoPools

/-- Two pools take a snapshot under one id, of different volumes: the second request is not refused,
and a listing by id returns both. -/
theorem id_in_two_pools :
    TwoPools.driver.Step SnapshotRequest TwoPools.host (Event.request TwoPools.firstRequest
        (TwoPools.result TwoPools.host TwoPools.firstRequest)) TwoPools.firstHost
      ∧ TwoPools.driver.Step SnapshotRequest TwoPools.firstHost (Event.request
        TwoPools.secondRequest (TwoPools.result TwoPools.firstHost TwoPools.secondRequest))
        TwoPools.secondHost
      ∧ (TwoPools.result TwoPools.host TwoPools.firstRequest).isOk = true
      ∧ (TwoPools.result TwoPools.firstHost TwoPools.secondRequest).isOk = true
      ∧ ∃ ss h', Host.exec { TwoPools.secondHost with outcomes := fun _ => Outcome.fine }
          (TwoPools.controller.listSnapshots (some ⟨0, "", "", "snap"⟩)) = (Except.ok ⟨ss, ""⟩, h')
        ∧ ss.map Snapshot.key = [("snap", "other"), ("snap", "vol")] := by
  have hlist : (Host.exec { TwoPools.secondHost with outcomes := fun _ => Outcome.fine }
      (TwoPools.controller.listSnapshots (some ⟨0, "", "", "snap"⟩))).1.toOption
      = some ⟨[⟨"snap", "other", 0, true⟩, ⟨"snap", "vol", 0, true⟩], ""⟩ := by
    decide +kernel
  refine ⟨TwoPools.step_after ⟨fun _ => rfl, ?_⟩, TwoPools.step_after ⟨fun _ => rfl, ?_⟩,
    by decide +kernel, by decide +kernel, _, _, exec_eq_ok hlist, rfl⟩
  · rintro req ⟨rfl⟩
    exact ⟨by decide, by decide, by decide⟩
  · rintro req ⟨rfl⟩
    exact ⟨by decide, by decide, by decide⟩

end Hostpath
