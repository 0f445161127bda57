import Hostpath.Csi.Ownership
import Hostpath.Csi.SnapshotFailures
import Hostpath.Csi.SnapshotIds

/-!
# Whether the views of a snapshot agree

The message about a snapshot is built in two places.  The request that takes the snapshot reads the
change time of its `data` directory, in whole seconds; a look-up reads the change time of the
directory above, to the nanosecond.  The first is the time of the copy.  The second is the time at
which the directory that names the source was made, just before the copy.

**What a look-up finds.**  `found` is the message that is read off the directories, and
`collectSnapshots_iff` says what a listing by id puts together from it.

**What was taken.**  `found_of_created` computes both times, and `found_created_iff` says when the
message that was returned is the one that is found.

`views_agree_iff` is about a repeated request and a listing in any later state in which the
directory of the snapshot is what it was.  `kept_of_run` says that this is every state that requests
lead to of which none deletes the snapshot.
-/

namespace Hostpath

open Lib FilePath Prog Host

/-! ## The time of a call -/

/-- When the call number `n` of those to come is answered. -/
def Host.callTime (h : Host) (n : ℕ) : ℕ := (tick^[n + 1] h).now

/-- The time of a call depends on the clock alone. -/
lemma Host.callTime_congr {h m : Host} (hnow : m.now = h.now) (hout : m.outcomes = h.outcomes)
    (n : ℕ) : m.callTime n = h.callTime n := by
  induction n generalizing h m with
  | zero =>
      show m.now + (m.outcomes 0).elapsed = h.now + (h.outcomes 0).elapsed
      rw [hnow, hout]
  | succ n ih =>
      refine ih (h := h.tick) (m := m.tick) ?_ ?_
      · show m.now + (m.outcomes 0).elapsed = h.now + (h.outcomes 0).elapsed
        rw [hnow, hout]
      · show (fun k => m.outcomes (k + 1)) = fun k => h.outcomes (k + 1)
        rw [hout]

namespace Reflink

variable {h h' m : Host} {r : Reflink} {id v : String} {S l s : Loc} {o : Option Snapshot}
  {snap : Snapshot}

/-! ## What a look-up finds -/

/-- The snapshot that is read off the directories of the provider. -/
def found (h : Host) (r : Reflink) (id : String) : Option Snapshot :=
  (locate (join [r.path, id])).bind fun l =>
    (sourceOf h.fs l).map fun v => ⟨id, v, h.ctime l, true⟩

lemma found_at (hl : locate (join [r.path, id]) = some l) :
    found h r id = (sourceOf h.fs l).map fun v => ⟨id, v, h.ctime l, true⟩ := by
  rw [found, hl, Option.bind_some]

lemma found_quiet (hq : Quiet h m) (r : Reflink) (id : String) : found m r id = found h r id := by
  simp only [found, hq.fs, hq.files.2.2]

lemma Absent.quiet (hq : Quiet h m) : r.Absent m id ↔ r.Absent h id := by
  simp only [Absent, Host.lookup, hq.fs]

lemma found_of_absent (ha : r.Absent h id) : found h r id = none := by
  cases hl : locate (join [r.path, id]) with
  | none => rw [found, hl, Option.bind_none]
  | some l =>
      obtain ⟨hnone, _⟩ := node_of_lookup_notExist hl ha
      rw [found_at hl, Option.map_eq_none_iff, sourceOf_eq_none]
      intro n hn
      rw [FileTree.node_none_of_below (List.prefix_append l _) hnone] at hn
      cases hn

/-- **A look-up without a failure** returns what is found, if there is something or nothing is in
the way. -/
lemma getSnapshotById_iff (hf : h.NoFaults) :
    (∃ m, h.exec (r.getSnapshotById id) = (Except.ok o, m))
      ↔ o = found h r id ∧ (o = none → r.Absent h id) := by
  have hdir : ∀ {l v}, locate (join [r.path, id]) = some l → sourceOf h.fs l = some v →
      h.exec (r.getSnapshotById id) = (Except.ok (some ⟨id, v, h.ctime l, true⟩), h.tick.tick) := by
    intro l v hl hsrc
    have hnode : h.fs.node l = some Node.dir :=
      FileTree.node_of_below (List.prefix_append l [v]) (by simp)
        (by rw [(dir_of_sourceOf hsrc).1]; simp)
    rw [getSnapshotById_of_dir hf hl hnode, hsrc, Option.elim]
  constructor
  · rintro ⟨m, e⟩
    cases o with
    | none =>
        obtain ⟨_, ha⟩ := getSnapshotById_none e
        exact ⟨(found_of_absent ha).symm, fun _ => ha⟩
    | some snap =>
        refine ⟨?_, nofun⟩
        obtain ⟨_, ⟨hno, _⟩ | ⟨l, v, _, hl, hnode, hvd, hv⟩⟩ := getSnapshotById_ok e
        · cases hno
        obtain ⟨u, hu⟩ := Option.ne_none_iff_exists'.mp (sourceOf_ne_none.mpr ⟨v, hv, hvd⟩)
        cases (hdir hl hu).symm.trans e
        rw [found_at hl, hu, Option.map_some]
  · rintro ⟨rfl, ha⟩
    cases hfound : found h r id with
    | none => exact ⟨_, getSnapshotById_of_absent hf (ha hfound)⟩
    | some snap =>
        obtain ⟨l, hl, hentry⟩ := Option.bind_eq_some_iff.mp hfound
        obtain ⟨v, hv, rfl⟩ := Option.map_eq_some_iff.mp hentry
        exact ⟨_, hdir hl hv⟩

/-! ## What was taken -/

/-- Making an entry touches the directory. -/
lemma made_ctime_of_entry {d : Loc} {keep : Loc → Bool} {n : String}
    (hold : h.fs.node (l ++ [n]) = none) (hnew : (h.made d keep).fs.node (l ++ [n]) ≠ none) :
    (h.made d keep).ctime l = h.now := by
  refine if_pos (Or.inr (Or.inr fun hlist => ?_))
  have hmem : n ∈ (h.fs.create d keep).list l := (h.fs.create d keep).mem_list.mpr hnew
  rw [hlist] at hmem
  exact h.fs.mem_list.mp hmem hold

/-- A copy into an entry does not touch the directory. -/
lemma overlaid_ctime_above {keep : Loc → Bool} {n : String}
    (hdir : h.fs.node (l ++ [n]) = some Node.dir) :
    (h.overlaid s (l ++ [n]) keep).ctime l = h.ctime l := by
  have hnot : ¬ l ++ [n] <+: l := not_prefix_of_below (List.prefix_refl _)
  refine setFs_ctime_of_same ?_ (FileTree.overlay_node_outside _ _ hnot) ?_
  · rw [Bool.and_eq_false_iff, ← Bool.not_eq_true, List.isPrefixOf_iff_prefix]
    exact Or.inl hnot
  · refine FileTree.list_congr fun x => ?_
    by_cases hx : x = n
    · subst hx
      rw [FileTree.overlay_node_self _ hdir, hdir]
    · rw [FileTree.overlay_node_outside _ _ (apart_of_ne hx).2]

/-- **What a request returns and what is found afterwards**, if the request took a snapshot: the
calls number three and four of `CreateSnapshot` are the second `MkdirAll` and the copy. -/
lemma found_of_created (hf : h.NoFaults) (hS : locate r.path = some S)
    (hl : locate (join [r.path, id]) = some l) (hs : locate (r.sourcePoolDir v) = some s)
    (habs : h.fs.node l = none) (e : h.exec (r.createSnapshot id v) = (Except.ok snap, h')) :
    snap = ⟨id, v, wholeSeconds (h.callTime 4), true⟩ ∧ h'.fs.node l = some Node.dir
      ∧ (ValidName v → v ≠ dataPath → found h' r id = some ⟨id, v, h.callTime 3, true⟩) := by
  have hd := locate_dataDir_at hS hl
  obtain ⟨w, hw⟩ : ∃ w, locate (r.sourceDir id v) = some w := ⟨_, locate_join hS [id, v]⟩
  have hdnone : h.fs.node (l ++ [dataPath]) = none :=
    FileTree.node_none_of_below (List.prefix_append l _) habs
  obtain ⟨hvol, hfill⟩ := fillable_of_createSnapshot hd hw hs hdnone e
  have hrun := createSnapshot_of_fillable hf hd hw hs hdnone hvol hfill
  obtain ⟨hsnap, rfl⟩ := Prod.mk.inj (hrun.symm.trans e)
  have hdata : ((preparedHost h.tick.tick (l ++ [dataPath]) w).tick.overlaid s (l ++ [dataPath])
      fun _ => true).fs.node (l ++ [dataPath]) = some Node.dir :=
    FileTree.overlay_node_self _ hfill.2.2.2.1 _
  refine ⟨(Except.ok.inj hsnap).symm, ?_, fun hv hvd => ?_⟩
  · exact FileTree.node_of_below (List.prefix_append l [dataPath]) (by simp) (by
      rw [tick_fs, hdata]
      simp)
  have hA := createSnapshot_added hS hl hs hv hvd habs e
  cases (locate_sourceDir_at hS hl hv).symm.trans hw
  obtain ⟨hb, hbw, hc⟩ := hfill
  have hprep : Prepared r id v h.tick.tick (preparedHost h.tick.tick (l ++ [dataPath]) (l ++ [v]))
      (l ++ [dataPath]) (l ++ [v]) := ⟨hd, hb, locate_sourceDir_at hS hl hv, hbw, rfl⟩
  rw [found_at hl, hA.source hvd habs, Option.map_some]
  have hthere : (preparedHost h.tick.tick (l ++ [dataPath]) (l ++ [v])).fs.node (l ++ [v]) ≠ none := by
    rw [hprep.source_dir]
    simp
  have hmark : (preparedHost h.tick.tick (l ++ [dataPath]) (l ++ [v])).ctime l = h.callTime 3 := by
    refine made_ctime_of_entry (n := v) ?_ hthere
    refine FileTree.create_node_of_none _ ?_ fun hp => absurd hp (apart_of_ne hvd).1
    exact FileTree.node_none_of_below (List.prefix_append l _) habs
  rw [← hmark]
  exact congrArg (fun t => some (⟨id, v, t, true⟩ : Snapshot)) (overlaid_ctime_above hprep.data_dir)

/-- **When the message that was returned is found**. -/
lemma found_created_iff (hf : h.NoFaults) (hS : locate r.path = some S)
    (hl : locate (join [r.path, id]) = some l) (hs : locate (r.sourcePoolDir v) = some s)
    (habs : h.fs.node l = none) (e : h.exec (r.createSnapshot id v) = (Except.ok snap, h')) :
    found h' r id = some snap ↔ ValidName v ∧ v ≠ dataPath
      ∧ wholeSeconds (h.callTime 4) = h.callTime 3 := by
  obtain ⟨rfl, _, hfound⟩ := found_of_created hf hS hl hs habs e
  constructor
  · intro hview
    have hsource := hview
    rw [found_at hl] at hsource
    obtain ⟨u, hu, husnap⟩ := Option.map_eq_some_iff.mp hsource
    obtain ⟨hdir, hvd⟩ := dir_of_sourceOf hu
    obtain rfl : u = v := congrArg Snapshot.sourceVolumeId husnap
    have hv : ValidName u := h'.fs.valid (by rw [hdir]; simp)
    refine ⟨hv, hvd, ?_⟩
    exact (congrArg Snapshot.creationTime (Option.some.inj ((hfound hv hvd).symm.trans hview))).symm
  · rintro ⟨hv, hvd, htime⟩
    rw [hfound hv hvd, htime]

end Reflink

/-! ## A listing by id -/

namespace HostPathController

variable {hpc : HostPathController} {h h' g : Host} {p : Reflink} {a id u : String} {S L l s : Loc}
  {req : CreateSnapshotRequest} {snap : Snapshot} {ss : List Snapshot} {ps : List Reflink}

lemma providerSnapshots_iff {r : Reflink} (hid : id ≠ "") (hf : h.NoFaults) :
    (∃ m, h.exec (providerSnapshots ⟨0, "", u, id⟩ r) = (Except.ok ss, m))
      ↔ ss = (Reflink.found h r id).toList ∧ (Reflink.found h r id = none → r.Absent h id) := by
  rw [providerSnapshots, if_pos hid]
  constructor
  · rintro ⟨m, e⟩
    obtain ⟨o, m', ho, hk⟩ := exec_bind_eq_ok.mp e
    cases hk
    obtain ⟨rfl, ha⟩ := (Reflink.getSnapshotById_iff hf).mp ⟨m, ho⟩
    exact ⟨rfl, ha⟩
  · rintro ⟨rfl, ha⟩
    obtain ⟨m, ho⟩ := (Reflink.getSnapshotById_iff hf).mpr ⟨rfl, ha⟩
    exact ⟨m, exec_bind_eq_ok.mpr ⟨_, _, ho, rfl⟩⟩

/-- **What a listing by id collects** is what the providers find, one after the other. -/
lemma collectSnapshots_iff (hid : id ≠ "") (hf : h.NoFaults) :
    (∃ m, h.exec (collectSnapshots ⟨0, "", u, id⟩ ps) = (Except.ok ss, m))
      ↔ ss = ps.flatMap (fun r => (Reflink.found h r id).toList)
        ∧ ∀ r ∈ ps, Reflink.found h r id = none → r.Absent h id := by
  induction ps generalizing h ss with
  | nil =>
      constructor
      · rintro ⟨m, e⟩
        cases e
        exact ⟨rfl, by simp⟩
      · rintro ⟨rfl, _⟩
        exact ⟨h, rfl⟩
  | cons r ps ih =>
      rw [List.flatMap_cons, List.forall_mem_cons]
      constructor
      · rintro ⟨m, e⟩
        obtain ⟨first, m₁, hfirst, hk⟩ := exec_bind_eq_ok.mp e
        obtain ⟨rest, m₂, hrest, hk'⟩ := exec_bind_eq_ok.mp hk
        cases hk'
        have hq := (providerSnapshots_ok hfirst).1
        obtain ⟨rfl, ha⟩ := (providerSnapshots_iff hid hf).mp ⟨m₁, hfirst⟩
        obtain ⟨rfl, hall⟩ := (ih (hf.quiet hq)).mp ⟨m, hrest⟩
        simp only [Reflink.found_quiet hq, Reflink.Absent.quiet hq] at hall ⊢
        exact ⟨trivial, ha, hall⟩
      · rintro ⟨rfl, ha, hall⟩
        obtain ⟨m₁, hfirst⟩ := (providerSnapshots_iff (u := u) hid hf).mpr ⟨rfl, ha⟩
        have hq := (providerSnapshots_ok hfirst).1
        obtain ⟨m₂, hrest⟩ := (ih (hf.quiet hq)).mpr
          ⟨rfl, by simpa only [Reflink.found_quiet hq, Reflink.Absent.quiet hq] using hall⟩
        simp only [Reflink.found_quiet hq] at hrest
        exact ⟨m₂, exec_bind_eq_ok.mpr ⟨_, _, hfirst, exec_bind_eq_ok.mpr ⟨_, _, hrest, rfl⟩⟩⟩

/-- A listing by id returns everything that was collected. -/
lemma listSnapshots_iff (hid : id ≠ "") (hf : h.NoFaults)
    (hfew : hpc.snapshotproviders.entries.length < 2 ^ 63) :
    (∃ m, h.exec (hpc.listSnapshots (some ⟨0, "", u, id⟩)) = (Except.ok ⟨ss, ""⟩, m))
      ↔ ∃ m, h.exec (collectSnapshots ⟨0, "", u, id⟩ hpc.providers) = (Except.ok ss, m) := by
  have hlen : ∀ {ss' m}, h.exec (collectSnapshots ⟨0, "", u, id⟩ hpc.providers)
      = (Except.ok ss', m) → ss'.length < 2 ^ 63 := by
    intro ss' m hcol
    obtain ⟨rfl, _⟩ := (collectSnapshots_iff hid hf).mp ⟨m, hcol⟩
    refine lt_of_le_of_lt ?_ hfew
    have hone : ∀ n ∈ hpc.providers.map fun r => (Reflink.found h r id).toList.length, n ≤ 1 := by
      intro n hn
      obtain ⟨r, _, rfl⟩ := List.mem_map.mp hn
      exact Option.length_toList_le
    have hsum := List.sum_le_card_nsmul _ 1 hone
    rw [List.length_map, providers, List.length_map, smul_eq_mul, mul_one] at hsum
    rw [List.length_flatMap]
    exact hsum
  constructor
  · rintro ⟨m, e⟩
    obtain ⟨ss', m', hcol, hk⟩ := exec_bind_eq_ok.mp e
    obtain ⟨hpage, rfl⟩ := Prod.mk.inj ((exec_liftExcept _ _).symm.trans hk)
    rw [snapshotsPage_unpaged (hlen hcol)] at hpage
    cases hpage
    exact ⟨_, hcol⟩
  · rintro ⟨m, hcol⟩
    refine ⟨m, (exec_bind_of_ok step hcol).trans ((exec_liftExcept _ _).trans ?_)⟩
    rw [snapshotsPage_unpaged (hlen hcol)]

/-- No other pool has anything under that id. -/
def OthersLack (hpc : HostPathController) (a id : String) (h : Host) : Prop :=
  ∀ b r, hpc.snapshotproviders.lookup b = some r → b ≠ a → r.Absent h id

/-- **A listing by id of a snapshot that one provider finds.** -/
lemma listed_iff {found : Snapshot} (hid : id ≠ "") (hf : h.NoFaults)
    (hfew : hpc.snapshotproviders.entries.length < 2 ^ 63)
    (hp : hpc.snapshotproviders.lookup a = some p) (hown : Reflink.found h p id = some found) :
    (∃ m, h.exec (hpc.listSnapshots (some ⟨0, "", u, id⟩)) = (Except.ok ⟨[snap], ""⟩, m))
      ↔ found = snap ∧ hpc.OthersLack a id h := by
  have hnodup : hpc.snapshotproviders.entries.Nodup :=
    List.Nodup.of_map Sigma.fst hpc.snapshotproviders.nodupKeys
  have hflat : hpc.providers.flatMap (fun r => (Reflink.found h r id).toList) = [snap]
      ↔ found = snap ∧ ∀ e ∈ hpc.snapshotproviders.entries, e ≠ ⟨a, p⟩ →
        (Reflink.found h e.2 id).toList = [] := by
    rw [providers, List.flatMap_map]
    exact flatMap_eq_singleton_iff (f := fun e => (Reflink.found h e.2 id).toList) hnodup
      (AList.mem_lookup_iff.mp hp) (by rw [hown]; rfl)
  rw [listSnapshots_iff hid hf hfew, collectSnapshots_iff hid hf, eq_comm, hflat]
  constructor
  · rintro ⟨⟨hsnap, hnone⟩, habs⟩
    refine ⟨hsnap, fun b r hr hne => ?_⟩
    have hmem := AList.mem_lookup_iff.mp hr
    refine habs r (List.mem_map.mpr ⟨_, hmem, rfl⟩) ?_
    simpa using hnone ⟨b, r⟩ hmem fun heq => hne (congrArg Sigma.fst heq)
  · rintro ⟨hsnap, hlack⟩
    have hother : ∀ e ∈ hpc.snapshotproviders.entries, e ≠ ⟨a, p⟩ → e.2.Absent h id := by
      rintro ⟨b, r⟩ hmem hne
      have hr := AList.mem_lookup_iff.mpr hmem
      refine hlack b r hr fun hba => hne ?_
      subst hba
      cases hp.symm.trans hr
      rfl
    refine ⟨⟨hsnap, fun e he hne => ?_⟩, fun r hr hnone => ?_⟩
    · rw [Reflink.found_of_absent (hother e he hne)]
      rfl
    · obtain ⟨e, he, rfl⟩ := List.mem_map.mp hr
      refine hother e he ?_
      rintro rfl
      cases hown.symm.trans hnone

/-! ## The views -/

/-- The message is returned again by a repeated request, and by a listing of its id. -/
structure ViewsAgree (hpc : HostPathController) (req : CreateSnapshotRequest) (snap : Snapshot)
    (g : Host) : Prop where
  again : ∃ m, g.exec (hpc.createSnapshot (some req)) = (Except.ok snap, m)
  listed : ∀ u, ∃ m, g.exec (hpc.listSnapshots (some ⟨0, "", u, req.name⟩))
    = (Except.ok ⟨[snap], ""⟩, m)

/-- The snapshot at `l` that `h` has was not deleted: its directory in `g` is what it was. -/
structure Kept (S l : Loc) (h g : Host) : Prop where
  untouched : Untouched l h g
  ctime : g.ctime l = h.ctime l
  pool : g.fs.node S ≠ none

lemma Kept.found (hk : Kept S l h g) (hl : locate (join [p.path, id]) = some l) :
    Reflink.found g p id = Reflink.found h p id := by
  have hsrc : Reflink.sourceOf g.fs l = Reflink.sourceOf h.fs l :=
    Reflink.sourceOf_congr fun n => hk.untouched _ (List.prefix_append l [n])
  rw [Reflink.found_at hl, Reflink.found_at hl, hsrc, hk.ctime]

/-! ## Runs without a deletion -/

lemma Site.object (site : hpc.Site a p S L) (id : String) : hpc.cfg.Object (S ++ [id]) := by
  obtain ⟨info, hi, _, hS⟩ := site.pool
  exact ⟨S, id, ⟨a, info, hi, Or.inr hS⟩, rfl⟩

/-- A request that names a snapshot takes it or deletes it. -/
lemma Owns.of_site (hlay : hpc.cfg.Layout) (site : hpc.Site a p S L) {q : Request}
    (ho : hpc.Owns q (S ++ [id])) :
    (∃ req, q = Request.createSnapshot (some req) ∧ getStoragePoolNameFromMap req.parameters = a
        ∧ req.name = id)
      ∨ ∃ req, q = Request.deleteSnapshot (some req) ∧ req.snapshotId = id := by
  obtain ⟨info, hi, hL, hS⟩ := site.pool
  have hvolume : ∀ {b info' l n}, hpc.cfg.storagePoolInfo.lookup b = some info' →
      info'.loc = some l → S ++ [id] ≠ l ++ [n] := fun hb hl heq => by
    obtain ⟨rfl, _⟩ := List.append_inj' heq rfl
    exact (hlay.across hb hi hl hS).1 (List.prefix_refl _)
  cases q with
  | createVolume r =>
      obtain ⟨req, info', l, _, hb, hl, heq⟩ := ho
      exact absurd heq (hvolume hb hl)
  | deleteVolume r =>
      obtain ⟨req, b, info', l, _, hb, hl, heq⟩ := ho
      exact absurd heq (hvolume hb hl)
  | createSnapshot r =>
      obtain ⟨req, info', k, rfl, hb, hk, heq⟩ := ho
      obtain ⟨rfl, hname⟩ := List.append_inj' heq rfl
      refine Or.inl ⟨req, rfl, ?_, (List.cons.inj hname).1.symm⟩
      by_contra hne
      exact (hlay.snapshots hb hi hne hk hS).1 (List.prefix_refl _)
  | deleteSnapshot r =>
      obtain ⟨req, b, info', k, rfl, _, _, heq⟩ := ho
      exact Or.inr ⟨req, rfl, (List.cons.inj (List.append_inj' heq rfl).2).1.symm⟩
  | _ => exact ho.elim

/-- **A repeated request changes nothing**, whether or not its calls fail. -/
lemma asItWas_of_repeated {res : Except Err Snapshot}
    (site : hpc.Site (getStoragePoolNameFromMap req.parameters) p S L) (hid : ValidName req.name)
    (hthere : h.fs.node (S ++ [req.name]) ≠ none)
    (e : h.exec (hpc.createSnapshot (some req)) = (res, h')) :
    h'.mounts = h.mounts ∧ AsItWas (S ++ [req.name]) h h' := by
  have hway : ∀ {m m' : Host}, Frame (fun q => q <+: S) m m' → Untouched (S ++ [req.name]) m m' :=
    fun hf => Untouched.of_frame hf fun q hq => not_prefix_of_below hq
  rcases createSnapshot_cases e (along_true _ _) with
    ⟨hq, _⟩ | ⟨req', info, path, p', heq, _, _, hp', ⟨_, m, hq, hcut⟩ | ⟨m, hini, hsought⟩⟩
  · exact ⟨hq.mounts, AsItWas.of_quiet hq⟩
  all_goals
    cases heq
    cases site.provider.symm.trans hp'
  · have hf : Frame (fun q => q <+: S) m h' := Frame.mkdirCut site.snapshots hcut fun q hq _ => hq
    refine ⟨hf.mounts.trans hq.mounts, (AsItWas.of_quiet hq).trans ?_⟩
    rcases hcut with ⟨rfl, _⟩ | ⟨l, reach, hl, _, rfl⟩
    · exact AsItWas.of_quiet (Quiet.tick m)
    · cases site.snapshots.symm.trans hl
      exact (AsItWas.of_quiet (Quiet.tick m)).trans
        (AsItWas.made _ (hway (Frame.made _ fun q hq _ => hq)))
  · have hf := hini.frame site.snapshots
    have hm : AsItWas (S ++ [req.name]) h m := by
      rcases hini with ⟨hq, _⟩ | ⟨_, l, m₀, hq, hl, _, rfl⟩
      · exact AsItWas.of_quiet hq
      · cases site.snapshots.symm.trans hl
        exact (AsItWas.of_quiet hq).trans
          (AsItWas.made _ (hway (Frame.made _ fun q hq _ => hq)))
    rcases hsought.cases site.snapshots hid with ⟨hq, _⟩ | ⟨hnone, _⟩
    · exact ⟨hq.mounts.trans hf.mounts, hm.trans (AsItWas.of_quiet hq)⟩
    · exact absurd ((hm.untouched _ (List.prefix_refl _)).symm.trans hnone) hthere

/-- One step of a node on which the snapshot `id` is not deleted: names are single path components,
and users of the volumes do not reach the directory of the snapshot. -/
def StepSparing (hp : HostPath) (S : Loc) (id : String) (h : Host) (e : Event) (h' : Host) : Prop :=
  hp.Step (fun _ _ q => q.Proper ∧ ∀ req, q = Request.deleteSnapshot (some req) →
      req.snapshotId ≠ id) h e h'
    ∧ (e = Event.write → h'.ctime (S ++ [id]) = h.ctime (S ++ [id]))

lemma asItWas_step {hp : HostPath} {e : Event} (hlay : hp.controller.cfg.Layout)
    (hwf : hp.controller.WellFormed) (site : hp.controller.Site a p S L)
    (hu : hp.controller.cfg.Unmounted h) (hthere : h.fs.node (S ++ [id]) ≠ none)
    (hs : StepSparing hp S id h e h') :
    hp.controller.cfg.Unmounted h' ∧ AsItWas (S ++ [id]) h h' := by
  obtain ⟨hs, hwrite⟩ := hs
  cases hs with
  | write hw =>
      refine ⟨hu.of_mounts hw.mounts, fun q hq => ?_, hwrite rfl⟩
      exact hw.untouched (fun b info l hb hl => site.apart_pool hlay hb hl) q
        ((List.prefix_append S _).trans hq)
  | @request _ hp' outcomes q res hre hC he =>
      obtain ⟨hproper, hno⟩ := hC
      have hu' : hp.controller.cfg.Unmounted { h with outcomes } := hu.of_mounts rfl
      by_cases ho : hp'.controller.Owns q (S ++ [id])
      · rcases ho.of_site (hre.controller.layout hlay) (hre.site site) with
          ⟨req, rfl, rfl, rfl⟩ | ⟨req, rfl, hid⟩
        · obtain ⟨r, hr, _⟩ := exec_respond he
          obtain ⟨hm, hsame⟩ := asItWas_of_repeated (h := { h with outcomes }) (hre.site site)
            (hproper req rfl).1 hthere hr
          exact ⟨hu'.of_mounts hm, hsame.untouched, hsame.ctime⟩
        · exact absurd hid (hno req rfl)
      · obtain ⟨hum, hsame⟩ := HostPath.asItWas_of_serve (hre.controller.layout hlay)
          (hre.wellFormed hwf) (hre.controller.unmounted hu') hproper ((hre.site site).object id)
          ho he
        exact ⟨hre.controller.symm.unmounted hum, hsame.untouched, hsame.ctime⟩

/-- **A snapshot that is not deleted is kept**, whatever else is requested, in whatever order the maps
are seen, and whichever calls fail. -/
lemma kept_of_run {hp : HostPath} {tr : List (Host × Event)} (hlay : hp.controller.cfg.Layout)
    (hwf : hp.controller.WellFormed) (site : hp.controller.Site a p S L)
    (hu : hp.controller.cfg.Unmounted h) (hthere : h.fs.node (S ++ [id]) ≠ none)
    (hr : Run (StepSparing hp S id) h tr g) : Kept S (S ++ [id]) h g := by
  obtain ⟨_, hsame⟩ : hp.controller.cfg.Unmounted g ∧ AsItWas (S ++ [id]) h g := by
    refine hr.preserves (I := fun m => hp.controller.cfg.Unmounted m ∧ AsItWas (S ++ [id]) h m)
      ⟨hu, AsItWas.of_quiet (Quiet.refl h)⟩ fun m e m' ⟨hum, hm⟩ hs => ?_
    have hthere' : m.fs.node (S ++ [id]) ≠ none := by
      rwa [hm.untouched _ (List.prefix_refl _)]
    exact (asItWas_step hlay hwf site hum hthere' hs).imp_right hm.trans
  refine ⟨hsame.untouched, hsame.ctime, ?_⟩
  have hdir : g.fs.node (S ++ [id]) ≠ none := by
    rwa [hsame.untouched _ (List.prefix_refl _)]
  rw [FileTree.node_of_below (List.prefix_append S [id]) (by simp) hdir]
  exact Option.some_ne_none _

/-! ## When they agree -/

/-- How many calls a request makes before it has the provider take the snapshot. -/
def callsBefore (h : Host) (S : Loc) : ℕ := if h.fs.node S = none then 3 else 2

/-- **A request for a snapshot that is not there** has the provider take it.  The clock goes on from
call to call, also where the snapshot directory is made first. -/
lemma createSnapshot_reaches (site : hpc.Site (getStoragePoolNameFromMap req.parameters) p S L)
    (hf : h.NoFaults) (hl : locate (join [p.path, req.name]) = some l) (habs : h.fs.node l = none)
    (hout : ¬ l <+: S) (e : h.exec (hpc.createSnapshot (some req)) = (Except.ok snap, h')) :
    ∃ m : Host, m.NoFaults ∧ m.fs.node l = none
      ∧ m.exec (p.createSnapshot req.name req.sourceVolumeId) = (Except.ok snap, h')
      ∧ ∀ n, m.callTime n = h.callTime (n + callsBefore h S) := by
  obtain ⟨hname, hv⟩ := createSnapshot_named_ok e
  obtain ⟨path, hpath, hrun⟩ := createSnapshot_at_site site hname hv
  rw [hrun] at e
  obtain ⟨_, m, hini, hk⟩ := exec_bind_eq_ok.mp e
  obtain ⟨g, m₁, hg, hk⟩ := exec_bind_eq_ok.mp hk
  have hget := exec_attempt_eq.mp hg
  -- nothing is there under that name once the snapshot directory is
  have hmade : m.fs.node l = none ∧ ∀ n, m.tick.callTime n = h.callTime (n + callsBefore h S) := by
    by_cases hS : h.fs.node S = none
    · have hb : h.fs.blocked S = false := by
        rcases ensureInitialized_ok hini with ⟨_, hat⟩ | ⟨_, l', _, _, hl', hb, _⟩
        · exact absurd (by rw [at?, hpath, Option.bind_some]; exact hS) hat
        · cases site.snapshots.symm.trans hl'
          exact hb
      cases (ensureInitialized_of_missing site.snapshots hpath hf hS hb).symm.trans hini
      refine ⟨(h.fs.create_node_off_way _ hout).trans habs, fun n => ?_⟩
      rw [callsBefore, if_pos hS]
      exact callTime_congr (h := h.tick.tick.tick) (m := (h.tick.tick.made S fun _ => true).tick)
        rfl rfl n
    · obtain rfl := ensureInitialized_present hpath hS hini
      refine ⟨habs, fun n => ?_⟩
      rw [callsBefore, if_neg hS]
      rfl
  obtain ⟨hnone, htime⟩ := hmade
  cases g with
  | error err => cases hk
  | ok o =>
      cases o with
      | some found =>
          obtain ⟨_, ⟨hno, _⟩ | ⟨l', _, _, hl', hdir, _⟩⟩ := Reflink.getSnapshotById_ok hget
          · cases hno
          cases hl.symm.trans hl'
          cases hnone.symm.trans hdir
      | none =>
          obtain ⟨rfl, _⟩ := Reflink.getSnapshotById_none hget
          exact ⟨m.tick, (hf.of_exec hini).quiet (Quiet.tick m), hnone, hk, htime⟩

/--
  **When the views of a snapshot agree.**

  Let a request without a failure take a snapshot: there was nothing under that name, and the
  snapshot directory did not have to be made inside it.  As long as the snapshot is not deleted, a
  repeated request and a listing of the id return what was returned exactly if the source is a
  plain name other than `data`, no other pool has anything under the id, and the time of the copy,
  without its fraction of a second, is the time at which the directory with the name of the source
  was made, to the nanosecond.
-/
theorem views_agree_iff (site : hpc.Site (getStoragePoolNameFromMap req.parameters) p S L)
    (hfew : hpc.snapshotproviders.entries.length < 2 ^ 63) (hf : h.NoFaults)
    (hl : locate (join [p.path, req.name]) = some l) (habs : h.fs.node l = none)
    (hout : ¬ l <+: S) (e : h.exec (hpc.createSnapshot (some req)) = (Except.ok snap, h'))
    (hk : Kept S l h' g) (hg : g.NoFaults) :
    hpc.ViewsAgree req snap g ↔ ValidName req.sourceVolumeId ∧ req.sourceVolumeId ≠ dataPath
      ∧ Reflink.wholeSeconds (h.callTime (4 + callsBefore h S))
        = h.callTime (3 + callsBefore h S)
      ∧ hpc.OthersLack (getStoragePoolNameFromMap req.parameters) req.name g := by
  obtain ⟨hname, hv⟩ := createSnapshot_named_ok e
  obtain ⟨m, hfm, hnone, he, htime⟩ := createSnapshot_reaches site hf hl habs hout e
  obtain ⟨s, hs⟩ : ∃ s, locate (p.sourcePoolDir req.sourceVolumeId) = some s :=
    ⟨_, locate_join site.volumes [req.sourceVolumeId]⟩
  have hcreated := Reflink.found_created_iff hfm site.snapshots hl hs hnone he
  obtain ⟨hsnap, hmade, _⟩ := Reflink.found_of_created hfm site.snapshots hl hs hnone he
  rw [htime 3, htime 4, ← hk.found hl] at hcreated
  have hdir : g.fs.node l = some Node.dir := (hk.untouched l (List.prefix_refl l)).trans hmade
  have hagain : (∃ m, g.exec (hpc.createSnapshot (some req)) = (Except.ok snap, m)) ↔ _ :=
    createSnapshot_present site hname hv hg hk.pool hl hdir
  constructor
  · rintro ⟨hrep, hlist⟩
    obtain ⟨hsrc, hmsg⟩ := hagain.mp hrep
    have hfound : Reflink.found g p req.name = some snap := by
      rw [Reflink.found_at hl, hsrc, Option.map_some, hmsg]
    obtain ⟨hvalid, hvd, ht⟩ := hcreated.mp hfound
    exact ⟨hvalid, hvd, ht, ((listed_iff hname hg hfew site.provider hfound).mp (hlist "")).2⟩
  · rintro ⟨hvalid, hvd, ht, hlack⟩
    have hfound := hcreated.mpr ⟨hvalid, hvd, ht⟩
    refine ⟨hagain.mpr ?_, fun u => ?_⟩
    · have hsource := hfound
      rw [Reflink.found_at hl] at hsource
      obtain ⟨w, hw, rfl⟩ := Option.map_eq_some_iff.mp hsource
      obtain rfl : w = req.sourceVolumeId := congrArg Snapshot.sourceVolumeId hsnap
      exact ⟨hw, rfl⟩
    · exact (listed_iff hname hg hfew site.provider hfound).mpr ⟨rfl, hlack⟩

end HostPathController

namespace Sample

/-- The host at some time, with a copy that takes a while: it is the seventh call of the request. -/
def clockHost (now copy : ℕ) : Host :=
  { host with
    now := now
    outcomes := fun n => if n = 6 then { Outcome.fine with elapsed := copy } else Outcome.fine }

/-- The host after the snapshot was taken. -/
def viewedHost (now copy : ℕ) : Host :=
  ((clockHost now copy).exec (controller.createSnapshot (some snapshotRequest))).2

lemma noFaults_clockHost (now copy : ℕ) : (clockHost now copy).NoFaults := by
  intro n
  show (if n = 6 then { Outcome.fine with elapsed := copy } else Outcome.fine).fault = none
  split_ifs <;> rfl

/-- The host after another volume was created. -/
def laterHost (h : Host) : Host := after h (Request.createVolume (some (volumeRequest "new")))

lemma noFaults_laterHost (h : Host) : (laterHost h).NoFaults :=
  NoFaults.exec (h := { h with outcomes := fun _ => Outcome.fine }) (fun _ => rfl) _

lemma kept_laterHost {h : Host} (hthere : h.fs.node ["snapshots", "snap"] ≠ none)
    (hm : h.mounts = []) :
    HostPathController.Kept ["snapshots"] ["snapshots", "snap"] h (laterHost h) := by
  have hproper : (Request.createVolume (some (volumeRequest "new"))).Proper := by
    rintro req ⟨rfl⟩
    exact (by decide : ValidName "new")
  have hrun : Run (HostPathController.StepSparing driver ["snapshots"] "snap") h _ (laterHost h) :=
    Run.nil.snoc ⟨step_after ⟨hproper, nofun⟩, nofun⟩
  exact HostPathController.kept_of_run layout wellFormed site (Config.Unmounted.of_nil hm) hthere
    hrun

end Sample

/-- A snapshot that is taken at a whole second, by a copy that takes half a second, looks the same
everywhere, also when another volume was created since. -/
theorem sample_views_agree :
    Sample.controller.ViewsAgree Sample.snapshotRequest ⟨"snap", "vol", 5000000000, true⟩
      (Sample.laterHost (Sample.viewedHost 5000000000 500000000)) := by
  have hf := Sample.noFaults_clockHost 5000000000 500000000
  have e : (Sample.clockHost 5000000000 500000000).exec
      (Sample.controller.createSnapshot (some Sample.snapshotRequest))
        = (Except.ok ⟨"snap", "vol", 5000000000, true⟩, Sample.viewedHost 5000000000 500000000) :=
    exec_eq_ok (by decide +kernel)
  refine Iff.mpr (HostPathController.views_agree_iff Sample.site (by decide) hf
    (l := ["snapshots", "snap"]) (by decide) (by decide +kernel) (by decide) e
    (Sample.kept_laterHost (by decide +kernel) (by decide +kernel))
    (Sample.noFaults_laterHost _)) ?_
  refine ⟨by decide, by decide, by decide +kernel, fun b r hr hne => ?_⟩
  have hmem := AList.mem_lookup_iff.mp hr
  rw [Sample.controller, AList.singleton_entries, List.mem_singleton] at hmem
  exact absurd (congrArg Sigma.fst hmem) hne

/-- The creation times that the request for the snapshot returns, and after it the same request again
and a listing. -/
structure Sample.Views (now copy taken later : ℕ) : Prop where
  created : (Sample.clockHost now copy).exec
    (Sample.controller.createSnapshot (some Sample.snapshotRequest))
      = (Except.ok ⟨"snap", "vol", taken, true⟩, Sample.viewedHost now copy)
  again : ∃ m, (Sample.viewedHost now copy).exec
    (Sample.controller.createSnapshot (some Sample.snapshotRequest))
      = (Except.ok ⟨"snap", "vol", later, true⟩, m)
  listed : ∃ m, (Sample.viewedHost now copy).exec
    (Sample.controller.listSnapshots (some ⟨0, "", "", "snap"⟩))
      = (Except.ok ⟨[⟨"snap", "vol", later, true⟩], ""⟩, m)

/-- A snapshot that is taken a nanosecond after a whole second, and one whose copy takes two
seconds, have another creation time when they are asked for again or listed. -/
theorem views_differ : Sample.Views 5000000001 0 5000000000 5000000001
    ∧ Sample.Views 5000000000 2000000000 7000000000 5000000000 := by
  constructor
  · exact ⟨exec_eq_ok (by decide +kernel), ⟨_, exec_eq_ok (by decide +kernel)⟩,
      ⟨_, exec_eq_ok (by decide +kernel)⟩⟩
  · exact ⟨exec_eq_ok (by decide +kernel), ⟨_, exec_eq_ok (by decide +kernel)⟩,
      ⟨_, exec_eq_ok (by decide +kernel)⟩⟩

end Hostpath
