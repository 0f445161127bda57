import Hostpath.Csi.SnapshotMap

/-!
# Which snapshots can be read back

The provider stores the source of a snapshot as the name of a directory beside `data` and reads it
back by exclusion.  This file says for every snapshot id and every source exactly when that works
(`source_read_back_iff`): the source has to be a plain name other than `data`, and the id must not
put a new directory into the snapshot directory that holds nothing but `data`.

`Added` is what a successful `CreateSnapshot` does to the tree, wherever its id leads; decoding
(`Grown.source`) and listing (`Grown.decodes_iff`, `Added.decodes_new_iff`) are read off it.
-/

namespace Hostpath

open Lib FilePath Prog Host

namespace Reflink

variable {h h' m m₂ : Host} {r : Reflink} {id v : String} {S l s q : Loc}
  {fs fs' : FileTree FileData}

/-- There is a directory at `S`, and every directory in it names a source. -/
def Decodes (fs : FileTree FileData) (S : Loc) : Prop :=
  fs.node S = some Node.dir
    ∧ ∀ n, fs.node (S ++ [n]) = some Node.dir → sourceOf fs (S ++ [n]) ≠ none

lemma listable_iff (hS : locate r.path = some S) : r.Listable h ↔ Decodes h.fs S := by
  constructor
  · rintro ⟨l, hl, hdec⟩
    cases hS.symm.trans hl
    exact hdec
  · exact fun hdec => ⟨S, hS, hdec⟩

lemma sourceOf_ne_none : sourceOf fs l ≠ none
    ↔ ∃ n, fs.node (l ++ [n]) = some Node.dir ∧ n ≠ dataPath := by
  rw [ne_eq, sourceOf_eq_none]
  push Not
  rfl

/-- Listing works exactly if everything decodes. -/
lemma getAllSnapshots_ok_iff (hS : locate r.path = some S) (hf : h.NoFaults) :
    (∃ ss m, h.exec r.getAllSnapshots = (Except.ok ss, m)) ↔ Decodes h.fs S := by
  rw [← listable_iff hS]
  constructor
  · rintro ⟨ss, m, e⟩
    by_contra hno
    obtain ⟨err, m', hfail⟩ := getAllSnapshots_of_not_listable hf hno
    cases hfail.symm.trans e
  · intro hr
    obtain ⟨m, _, e⟩ := getAllSnapshots_of_listable hf hr
    exact ⟨_, m, e⟩

/-! ## Where the directories of a snapshot are -/

lemma locate_dataDir_at (hS : locate r.path = some S) (hl : locate (join [r.path, id]) = some l) :
    locate (r.dataDir id) = some (l ++ [dataPath]) := by
  rw [locate_join hS, List.flatMap_singleton] at hl
  cases hl
  rw [dataDir, locate_join hS, List.flatMap_cons, List.flatMap_singleton, resolve_append,
    resolve_valid _ validName_dataPath]

lemma locate_sourceDir_at (hS : locate r.path = some S) (hl : locate (join [r.path, id]) = some l)
    (hv : ValidName v) : locate (r.sourceDir id v) = some (l ++ [v]) := by
  rw [locate_join hS, List.flatMap_singleton] at hl
  cases hl
  rw [sourceDir, locate_join hS, List.flatMap_cons, List.flatMap_singleton, resolve_append,
    resolve_valid _ hv]

/-! ## What a new snapshot adds -/

/-- The tree `fs'` is `fs` with the directories of a snapshot of `v` at `l`, and anything in its
`data`. -/
structure Grown (l : Loc) (v : String) (fs fs' : FileTree FileData) : Prop where
  way : ∀ q, q <+: l ++ [dataPath] ∨ q <+: l ++ [v] → fs'.node q = some Node.dir
  keeps : ∀ q, fs.node q ≠ none → fs'.node q = fs.node q
  old : ∀ q, ¬ q <+: l ++ [dataPath] → ¬ q <+: l ++ [v] → ¬ l ++ [dataPath] <+: q →
    fs'.node q = fs.node q

/-- The tree `fs'` is `fs` with a snapshot of the volume at `s`, whose name is `v`, at `l`. -/
structure Added (l s : Loc) (v : String) (fs fs' : FileTree FileData) : Prop
    extends Grown l v fs fs' where
  copy : fs'.contents (l ++ [dataPath]) = fs.contents s

lemma not_prefix_of_missing {p q : Loc} (hp : fs.node p = none) (hq : fs.node q ≠ none) :
    ¬ p <+: q := fun h => hq (FileTree.node_none_of_below h hp)

lemma data_not_below (hvd : v ≠ dataPath) : ¬ l ++ [dataPath] <+: l ++ [v] := by
  rw [List.prefix_append_right_inj]
  rintro ⟨t, ht⟩
  cases t with
  | nil => exact hvd (by simpa using ht.symm)
  | cons x t => simp at ht

/-- The source of a copy into a place where nothing was is as it was before. -/
lemma Prepared.copy_source (hprep : Prepared r id v m m₂ (l ++ [dataPath]) (l ++ [v]))
    (habs : m.fs.node l = none) (hs : m.fs.node s ≠ none)
    (hc : CanCopy m₂.fs s (l ++ [dataPath])) : m₂.fs.contents s = m.fs.contents s := by
  obtain ⟨_, _, _, _, rfl⟩ := hprep
  have hsd : ¬ s <+: l ++ [dataPath] := hc.2.2.1
  have hsv : ¬ s <+: l ++ [v] := by
    intro hsv
    rcases List.prefix_concat_iff.mp hsv with rfl | hsl
    · exact hs (FileTree.node_none_of_below (List.prefix_append l _) habs)
    · exact hsd (hsl.trans (List.prefix_append l _))
  funext t
  have hoff : ∀ {k : Loc}, ¬ s <+: k → ¬ s ++ t <+: k := fun hk hp =>
    hk ((List.prefix_append s t).trans hp)
  rw [made_fs, tick_fs, made_fs, tick_fs, FileTree.contents, FileTree.contents,
    FileTree.create_node_off_way _ _ (hoff hsv), FileTree.create_node_off_way _ _ (hoff hsd)]

/-- The data directory of a new snapshot is empty before the copy. -/
lemma Prepared.data_empty (hprep : Prepared r id v m m₂ (l ++ [dataPath]) (l ++ [v]))
    (hvd : v ≠ dataPath) (habs : m.fs.node l = none) :
    ∀ t ≠ [], m₂.fs.node (l ++ [dataPath] ++ t) = none := by
  intro t ht
  obtain ⟨_, _, _, _, rfl⟩ := hprep
  have hd : ¬ l ++ [dataPath] ++ t <+: l ++ [dataPath] := fun hp => by
    have hlen := hp.length_le
    rw [List.length_append] at hlen
    exact ht (List.length_eq_zero_iff.mp (by omega))
  have hw : ¬ l ++ [dataPath] ++ t <+: l ++ [v] := fun hp =>
    data_not_below hvd ((List.prefix_append _ t).trans hp)
  rw [made_fs, tick_fs, made_fs, tick_fs, FileTree.create_node_off_way _ _ hw,
    FileTree.create_node_off_way _ _ hd, List.append_assoc]
  exact FileTree.node_none_of_below (List.prefix_append l _) habs

/-- Making the directories of a new snapshot only adds. -/
lemma Prepared.grown (hprep : Prepared r id v m m₂ (l ++ [dataPath]) (l ++ [v])) :
    Grown l v m.fs m₂.fs := by
  obtain ⟨hd, hb, hw, hbw, rfl⟩ := hprep
  refine ⟨fun q hq => ?_, fun q hq => ?_, fun q hqd hqw _ => ?_⟩
  · rcases hq with hq | hq
    · exact FileTree.create_node_of_some _ _
        (m.fs.create_node_on_way hb (locate_valid hd) hq)
    · exact FileTree.create_node_on_way _ hbw (locate_valid hw) hq
  · obtain ⟨x, hx⟩ := Option.ne_none_iff_exists'.mp hq
    rw [hx]
    exact FileTree.create_node_of_some _ _ (FileTree.create_node_of_some _ _ hx)
  · exact (FileTree.create_node_off_way _ _ hqw).trans (FileTree.create_node_off_way _ _ hqd)

/-- A copy into the data of a new snapshot, complete or not, adds to the data. -/
lemma Grown.overlay (hG : Grown l v fs fs') (hvd : v ≠ dataPath) (habs : fs.node l = none) (s : Loc)
    (keep : Loc → Bool) : Grown l v fs (fs'.overlay s (l ++ [dataPath]) keep) := by
  have hdir := hG.way _ (Or.inl (List.prefix_refl _))
  refine ⟨fun q hq => ?_, fun q hq => ?_, fun q hqd hqw hdq => ?_⟩
  · by_cases hdq : l ++ [dataPath] <+: q
    · rcases hq with hq | hq
      · obtain rfl := hq.eq_of_length (le_antisymm hq.length_le hdq.length_le)
        exact FileTree.overlay_node_self _ hdir _
      · exact absurd (hdq.trans hq) (data_not_below hvd)
    · rw [FileTree.overlay_node_outside _ _ hdq]
      exact hG.way q hq
  · have hdq : ¬ l ++ [dataPath] <+: q := fun hdq =>
      not_prefix_of_missing habs hq ((List.prefix_append l _).trans hdq)
    rw [FileTree.overlay_node_outside _ _ hdq]
    exact hG.keeps q hq
  · rw [FileTree.overlay_node_outside _ _ hdq]
    exact hG.old q hqd hqw hdq

/-- **A copy into the directories of a new snapshot** makes the tree with the snapshot added. -/
lemma Prepared.added (hprep : Prepared r id v m m₂ (l ++ [dataPath]) (l ++ [v]))
    (hvd : v ≠ dataPath) (habs : m.fs.node l = none) (hs : m.fs.node s ≠ none)
    (hc : CanCopy m₂.fs s (l ++ [dataPath])) :
    Added l s v m.fs (m₂.fs.overlay s (l ++ [dataPath]) fun _ => true) := by
  refine ⟨hprep.grown.overlay hvd habs s _, ?_⟩
  rw [FileTree.overlay_contents_of_empty _ hc.1 hc.2.1 (hprep.data_empty hvd habs),
    hprep.copy_source habs hs hc]

/-- What a successful `CreateSnapshot` of a plain name adds, if there was nothing. -/
lemma createSnapshot_added {snap : Snapshot} (hS : locate r.path = some S)
    (hl : locate (join [r.path, id]) = some l) (hs : locate (r.sourcePoolDir v) = some s)
    (hv : ValidName v) (hvd : v ≠ dataPath) (habs : h.fs.node l = none)
    (e : h.exec (r.createSnapshot id v) = (Except.ok snap, h')) : Added l s v h.fs h'.fs := by
  have hdata := locate_dataDir_at hS hl
  have hnew : h.at? (r.dataDir id) = none := by
    rw [at?, hdata, Option.bind_some]
    exact FileTree.node_none_of_below (List.prefix_append l _) habs
  rcases createSnapshot_new (P := fun _ _ => True) e (along_true _ _) hnew with
    ⟨_, hno⟩ | ⟨m, hq, hvol, hfill⟩
  · exact absurd rfl (hno snap)
  rw [at?, hs, Option.bind_some] at hvol
  cases hfill with
  | @complete _ m₂ d w s' hprep hs' hc _ =>
      cases hdata.symm.trans hprep.locData
      cases (locate_sourceDir_at hS hl hv).symm.trans hprep.locSource
      cases (locate_dot hs).symm.trans hs'
      have hadd := hprep.added hvd (by rw [hq.fs]; exact habs) (by rw [hq.fs]; exact hvol) hc
      rwa [hq.fs] at hadd

/-! ## Decoding what was added -/

lemma Decodes.congr {S S' : Loc} (hn : ∀ t, fs'.node (S' ++ t) = fs.node (S ++ t)) :
    Decodes fs' S' ↔ Decodes fs S := by
  have hself := hn []
  have hentry : ∀ n, sourceOf fs' (S' ++ [n]) = sourceOf fs (S ++ [n]) := fun n =>
    sourceOf_congr fun x => by rw [List.append_assoc, List.append_assoc, hn]
  rw [List.append_nil, List.append_nil] at hself
  simp only [Decodes, hself, hn, hentry]

namespace Grown

variable {n x : String} {t : Loc}

lemma new_cases (hG : Grown l v fs fs') (hq : fs.node q = none) (hq' : fs'.node q ≠ none) :
    q <+: l ++ [dataPath] ∨ q <+: l ++ [v] ∨ l ++ [dataPath] <+: q := by
  by_contra hno
  push Not at hno
  exact hq' ((hG.old q hno.1 hno.2.1 hno.2.2).trans hq)

/-- **The source is read back.** -/
lemma source (hG : Grown l v fs fs') (hvd : v ≠ dataPath) (habs : fs.node l = none) :
    sourceOf fs' l = some v := by
  refine sourceOf_of_single (hG.way _ (Or.inr (List.prefix_refl _))) hvd fun n hn => ?_
  have hnone : fs.node (l ++ [n]) = none := FileTree.node_none_of_below (List.prefix_append l _) habs
  have hsame : ∀ {y z : String}, l ++ [y] <+: l ++ [z] → y = z := by
    intro y z hp
    by_contra hne
    exact (apart_of_ne hne).1 hp
  rcases hG.new_cases hnone (by simp [hn]) with hd | hw | hd
  · exact Or.inr (hsame hd)
  · exact Or.inl (hsame hw)
  · exact Or.inr (hsame hd).symm

/-- The directory that names the source is empty. -/
lemma source_empty (hG : Grown l v fs fs') (hvd : v ≠ dataPath) (habs : fs.node l = none) :
    fs'.node (l ++ [v] ++ [n]) = none := by
  by_contra hn
  have hnone : fs.node (l ++ [v] ++ [n]) = none := by
    rw [List.append_assoc]
    exact FileTree.node_none_of_below (List.prefix_append l _) habs
  rcases hG.new_cases hnone hn with hp | hp | hp
  · simpa using hp.length_le
  · simpa using hp.length_le
  · exact (apart_of_ne hvd.symm).not_below hp (List.prefix_append _ _)

/-- A new directory with nothing but `data` in it names no source. -/
lemma only_data (hG : Grown (S ++ x :: dataPath :: t) v fs fs')
    (hnone : fs.node (S ++ [x]) = none) : sourceOf fs' (S ++ [x]) = none := by
  refine sourceOf_eq_none.mpr fun n hn => ?_
  have hbelow : fs.node (S ++ [x] ++ [n]) = none :=
    FileTree.node_none_of_below (List.prefix_append _ _) hnone
  have hfirst : ∀ y, S ++ [x] ++ [n] <+: S ++ x :: dataPath :: t ++ [y] → n = dataPath := by
    intro y hp
    rw [show S ++ x :: dataPath :: t ++ [y] = S ++ [x] ++ (dataPath :: t ++ [y]) by simp,
      List.prefix_append_right_inj, List.cons_append, List.cons_prefix_cons] at hp
    exact hp.1
  rcases hG.new_cases hbelow (by rw [hn]; simp) with hp | hp | hp
  · exact hfirst _ hp
  · exact hfirst _ hp
  · have hlen := hp.length_le
    simp only [List.length_append, List.length_cons, List.length_nil] at hlen
    omega

/-- A new entry of a directory that is not in the snapshot is on the way to it. -/
lemma entry_on_way (hG : Grown l v fs fs') (hout : ¬ l <+: S) (hn : fs.node (S ++ [n]) = none)
    (hn' : fs'.node (S ++ [n]) ≠ none) : ∃ t, l = S ++ n :: t := by
  have hway : ∀ {y : String}, S ++ [n] <+: l ++ [y] → ∃ t, l = S ++ n :: t := by
    intro y hp
    rcases List.prefix_concat_iff.mp hp with heq | ⟨t, ht⟩
    · exact absurd ((List.append_inj' heq rfl).1 ▸ List.prefix_refl _) hout
    · exact ⟨t, by rw [← ht, List.append_assoc]; rfl⟩
  rcases hG.new_cases hn hn' with hp | hp | hp
  · exact hway hp
  · exact hway hp
  · rcases List.prefix_concat_iff.mp hp with heq | hp'
    · exact absurd ((List.append_inj' heq rfl).1 ▸ List.prefix_refl _) hout
    · exact absurd ((List.prefix_append l _).trans hp') hout

/-- An entry on the way to the snapshot decodes, unless `data` comes next. -/
lemma entry_decodes (hG : Grown (S ++ n :: t) v fs fs') (hvd : v ≠ dataPath)
    (habs : fs.node (S ++ n :: t) = none) (ht : t.head? ≠ some dataPath) :
    sourceOf fs' (S ++ [n]) ≠ none := by
  cases t with
  | nil => simp [hG.source hvd habs]
  | cons y t =>
      refine sourceOf_ne_none.mpr ⟨y, hG.way _ (Or.inl ⟨t ++ [dataPath], by simp⟩), ?_⟩
      simpa using ht

/-- **Listing a directory that could be listed before** works unless the snapshot is in the `data`
of a new entry. -/
lemma decodes_iff (hG : Grown l v fs fs') (hvd : v ≠ dataPath) (habs : fs.node l = none)
    (hdec : Decodes fs S) :
    Decodes fs' S ↔ ∀ x t, l = S ++ x :: dataPath :: t → fs.node (S ++ [x]) ≠ none := by
  constructor
  · rintro hdec' x t rfl hnone
    exact hdec'.2 x (hG.way _ (Or.inl ⟨dataPath :: t ++ [dataPath], by simp⟩))
      (hG.only_data hnone)
  · intro hplace
    refine ⟨(hG.keeps S (by simp [hdec.1])).trans hdec.1, fun n hn => ?_⟩
    cases hold : fs.node (S ++ [n]) with
    | none =>
        obtain ⟨t, rfl⟩ := hG.entry_on_way (not_prefix_of_missing habs (by simp [hdec.1])) hold
          (by simp [hn])
        refine hG.entry_decodes hvd habs fun hhead => ?_
        obtain ⟨t', rfl⟩ := List.head?_eq_some_iff.mp hhead
        exact hplace n t' rfl hold
    | some y =>
        have hdir : fs.node (S ++ [n]) = some Node.dir := by
          rw [← hG.keeps _ (by simp [hold]), hn]
        obtain ⟨u, hu, hud⟩ := sourceOf_ne_none.mp (hdec.2 n hdir)
        exact sourceOf_ne_none.mpr ⟨u, (hG.keeps _ (by rw [hu]; simp)).trans hu, hud⟩

end Grown

/-- **Listing a directory that was not there**: it is on the way to the snapshot, or it is the
directory that names the source, or it is in the copy. -/
lemma Added.decodes_new_iff (hA : Added l s v fs fs') (hvd : v ≠ dataPath) (habs : fs.node l = none)
    (hnone : fs.node S = none) :
    Decodes fs' S ↔ (∃ x t, l = S ++ x :: t ∧ t.head? ≠ some dataPath) ∨ S = l ++ [v]
      ∨ ∃ t, S = l ++ dataPath :: t ∧ Decodes fs (s ++ t) := by
  have hcopy : ∀ t, Decodes fs' (l ++ dataPath :: t) ↔ Decodes fs (s ++ t) := by
    intro t
    refine Decodes.congr fun u => ?_
    have hc := congrFun hA.copy (t ++ u)
    simpa [FileTree.contents] using hc
  have hbelow : ∀ n, fs.node (S ++ [n]) = none := fun n =>
    FileTree.node_none_of_below (List.prefix_append S _) hnone
  constructor
  · intro hdec
    have habove : S <+: l → ∃ x t, l = S ++ x :: t ∧ t.head? ≠ some dataPath := by
      rintro ⟨t, rfl⟩
      cases t with
      | nil =>
          rw [List.append_nil] at hA habs
          refine absurd (sourceOf_eq_none.mpr fun n hn => ?_)
            (hdec.2 v (hA.way _ (Or.inr (List.prefix_refl _))))
          cases (hA.source_empty hvd habs).symm.trans hn
      | cons x t =>
          refine ⟨x, t, rfl, fun hhead => ?_⟩
          obtain ⟨t', rfl⟩ := List.head?_eq_some_iff.mp hhead
          exact hdec.2 x (hA.way _ (Or.inl ⟨dataPath :: t' ++ [dataPath], by simp⟩))
            (hA.only_data (hbelow x))
    rcases hA.new_cases hnone (by simp [hdec.1]) with hp | hp | ⟨t, rfl⟩
    · rcases List.prefix_concat_iff.mp hp with rfl | hp'
      · exact Or.inr (Or.inr ⟨[], rfl, (hcopy []).mp hdec⟩)
      · exact Or.inl (habove hp')
    · rcases List.prefix_concat_iff.mp hp with rfl | hp'
      · exact Or.inr (Or.inl rfl)
      · exact Or.inl (habove hp')
    · rw [List.append_assoc] at hdec ⊢
      exact Or.inr (Or.inr ⟨t, rfl, (hcopy t).mp hdec⟩)
  · rintro (⟨x, t, rfl, ht⟩ | rfl | ⟨t, rfl, hdec⟩)
    · refine ⟨hA.way _ (Or.inl ⟨x :: t ++ [dataPath], by simp⟩), fun n hn => ?_⟩
      have hout : ¬ S ++ x :: t <+: S := fun hp => by
        have hlen := hp.length_le
        simp at hlen
      obtain ⟨t', ht'⟩ := hA.entry_on_way hout (hbelow n) (by simp [hn])
      obtain ⟨rfl, rfl⟩ := List.cons_eq_cons.mp (List.append_cancel_left ht')
      exact hA.entry_decodes hvd habs ht
    · refine ⟨hA.way _ (Or.inr (List.prefix_refl _)), fun n hn => ?_⟩
      cases (hA.source_empty hvd habs).symm.trans hn
    · exact (hcopy t).mpr hdec

/-- Where a snapshot of the volume at `s` may be put, at `l`, for `S` to be listed afterwards. -/
structure Placed (fs : FileTree FileData) (S l s : Loc) (v : String) : Prop where
  first : fs.node S = none → (∃ x t, l = S ++ x :: t ∧ t.head? ≠ some dataPath) ∨ S = l ++ [v]
    ∨ ∃ t, S = l ++ dataPath :: t ∧ Decodes fs (s ++ t)
  later : Decodes fs S → ∀ x t, l = S ++ x :: dataPath :: t → fs.node (S ++ [x]) ≠ none

/-- A plain id is always well placed. -/
lemma Placed.of_valid (fs : FileTree FileData) (S s : Loc) (id v : String) :
    Placed fs S (S ++ [id]) s v :=
  ⟨fun _ => Or.inl ⟨id, [], rfl, by simp⟩, fun _ x t h => by simp at h⟩

end Reflink

namespace HostPathController

variable {hpc : HostPathController} {h h' : Host} {p : Reflink} {S L l s : Loc}
  {req : CreateSnapshotRequest} {snap : Snapshot}

/-- What works in `h'`, if `h'` is `h` after the provider took the snapshot of the request. -/
structure ReadBack (hpc : HostPathController) (p : Reflink) (req : CreateSnapshotRequest)
    (h h' : Host) : Prop where
  source : ∃ m, h'.exec (p.getSourceVolumeId req.name) = (Except.ok req.sourceVolumeId, m)
  byId : ∃ t m, h'.exec (p.getSnapshotById req.name)
    = (Except.ok (some ⟨req.name, req.sourceVolumeId, t, true⟩), m)
  again : ∃ again m, h'.exec (hpc.createSnapshot (some req)) = (Except.ok again, m)
  /-- Where there was no snapshot directory, or it could be listed, it can be listed now. -/
  listed : (h.at? p.path = none ∨ ∃ ss m, h.exec p.getAllSnapshots = (Except.ok ss, m)) →
    ∃ ss m, h'.exec p.getAllSnapshots = (Except.ok ss, m)

/-- A request that passed its check has a name and a source. -/
lemma named_of_validated {req' : CreateSnapshotRequest} {m : Host}
    (e : h.exec (liftExcept (validateCreateSnapshotRequest (some req))) = (Except.ok req', m)) :
    req.name ≠ "" ∧ req.sourceVolumeId ≠ "" := by
  have hok : validateCreateSnapshotRequest (some req) = Except.ok req' :=
    congrArg Prod.fst ((exec_liftExcept _ _).symm.trans e)
  obtain ⟨hreq, hnamed⟩ := validateCreateSnapshotRequest_ok hok
  cases hreq
  exact hnamed

lemma createSnapshot_named_ok (e : h.exec (hpc.createSnapshot (some req)) = (Except.ok snap, h')) :
    req.name ≠ "" ∧ req.sourceVolumeId ≠ "" := by
  obtain ⟨req', m, hval, _⟩ := exec_bind_eq_ok.mp e
  exact named_of_validated hval

/-- Without a failure, a request looks for the snapshot and then goes on. -/
lemma createSnapshot_of_lookup {o : Option Snapshot} {m : Host}
    (site : hpc.Site (getStoragePoolNameFromMap req.parameters) p S L) (hname : req.name ≠ "")
    (hv : req.sourceVolumeId ≠ "") (hf : (h.outcomes 0).fault = none) (hS : h.fs.node S ≠ none)
    (hget : h.tick.exec (p.getSnapshotById req.name) = (Except.ok o, m)) :
    h.exec (hpc.createSnapshot (some req)) = m.exec (match o with
      | some snap => if snap.sourceVolumeId = req.sourceVolumeId then pure snap
          else throw (sameName req.name)
      | none => p.createSnapshot req.name req.sourceVolumeId) := by
  obtain ⟨path, hpath, hrun⟩ := createSnapshot_at_site site hname hv
  have hini : h.exec (ensureInitialized p path) = (Except.ok (), h.tick) :=
    exec_bind_of_ok step (checkPathExist_of_node hf hpath hS)
  rw [hrun]
  refine (exec_bind_of_ok step hini).trans ((exec_bind_of_ok step (exec_attempt_eq.mpr hget)).trans ?_)
  cases o <;> rfl

/-- **Repeating a request whose directory is there** returns what is read off the directory, if the
source that is read back is the one of the request. -/
lemma createSnapshot_present (site : hpc.Site (getStoragePoolNameFromMap req.parameters) p S L)
    (hname : req.name ≠ "") (hv : req.sourceVolumeId ≠ "") (hf : h.NoFaults)
    (hS : h.fs.node S ≠ none) (hl : locate (join [p.path, req.name]) = some l)
    (hdir : h.fs.node l = some Node.dir) :
    (∃ m, h.exec (hpc.createSnapshot (some req)) = (Except.ok snap, m))
      ↔ Reflink.sourceOf h.fs l = some req.sourceVolumeId
        ∧ snap = ⟨req.name, req.sourceVolumeId, h.ctime l, true⟩ := by
  have hget := Reflink.getSnapshotById_of_dir (h := h.tick) (fun n => hf (n + 1)) hl hdir
  rw [tick_fs] at hget
  cases hsrc : Reflink.sourceOf h.fs l with
  | none =>
      rw [hsrc] at hget
      obtain ⟨path, hpath, hrun⟩ := createSnapshot_at_site site hname hv
      have hini : h.exec (ensureInitialized p path) = (Except.ok (), h.tick) :=
        exec_bind_of_ok step (checkPathExist_of_node (hf 0) hpath hS)
      refine iff_of_false ?_ (by simp)
      rintro ⟨m, e⟩
      rw [hrun] at e
      cases ((exec_bind_of_ok step hini).trans
        (exec_bind_of_ok step (exec_attempt_eq.mpr hget))).symm.trans e
  | some u =>
      rw [hsrc] at hget
      rw [createSnapshot_of_lookup site hname hv (hf 0) hS hget]
      dsimp only
      rw [Option.some_inj]
      split_ifs with hu
      · subst hu
        constructor
        · rintro ⟨m, e⟩
          cases e
          exact ⟨rfl, rfl⟩
        · rintro ⟨_, rfl⟩
          exact ⟨_, rfl⟩
      · refine iff_of_false ?_ fun hsame => hu hsame.1
        rintro ⟨m, e⟩
        cases e

lemma createSnapshot_present_iff (site : hpc.Site (getStoragePoolNameFromMap req.parameters) p S L)
    (hname : req.name ≠ "") (hv : req.sourceVolumeId ≠ "") (hf : h.NoFaults)
    (hS : h.fs.node S ≠ none) (hl : locate (join [p.path, req.name]) = some l)
    (hdir : h.fs.node l = some Node.dir) :
    (∃ snap m, h.exec (hpc.createSnapshot (some req)) = (Except.ok snap, m))
      ↔ Reflink.sourceOf h.fs l = some req.sourceVolumeId := by
  simp only [createSnapshot_present site hname hv hf hS hl hdir]
  exact ⟨fun ⟨_, hs, _⟩ => hs, fun hs => ⟨_, hs, rfl⟩⟩

/--
  **Which snapshots can be read back.**

  Take any id under which there is nothing yet and any source, and let the provider take the
  snapshot without a failure.  Then the source is read back, the snapshot is found by its id, the
  request can be repeated and the snapshots of the pool can be listed exactly if the id is not
  empty, the source is a plain name other than `data`, and the id is well placed.
-/
theorem source_read_back_iff
    (site : hpc.Site (getStoragePoolNameFromMap req.parameters) p S L) (hf : h.NoFaults)
    (hl : locate (join [p.path, req.name]) = some l)
    (hs : locate (p.sourcePoolDir req.sourceVolumeId) = some s) (habs : h.fs.node l = none)
    (e : h.exec (p.createSnapshot req.name req.sourceVolumeId) = (Except.ok snap, h')) :
    hpc.ReadBack p req h h' ↔ req.name ≠ "" ∧ ValidName req.sourceVolumeId
      ∧ req.sourceVolumeId ≠ dataPath ∧ Reflink.Placed h.fs S l s req.sourceVolumeId := by
  have hf' := hf.of_exec e
  have hat : h.at? p.path = h.fs.node S := by rw [at?, site.snapshots, Option.bind_some]
  have hlisted := Reflink.getAllSnapshots_ok_iff site.snapshots hf
  have hlisted' := Reflink.getAllSnapshots_ok_iff site.snapshots hf'
  constructor
  · rintro ⟨_, ⟨t, m, hid⟩, ⟨again, m', hagain⟩, hlist⟩
    obtain ⟨_, ⟨hno, _⟩ | ⟨l', v, hsnap, hl', _, hvd, hdir⟩⟩ := Reflink.getSnapshotById_ok hid
    · cases hno
    cases hl.symm.trans hl'
    obtain ⟨rfl⟩ : req.sourceVolumeId = v := congrArg Snapshot.sourceVolumeId (Option.some.inj hsnap)
    have hv : ValidName req.sourceVolumeId := h'.fs.valid (by rw [hdir]; simp)
    have hA := Reflink.createSnapshot_added site.snapshots hl hs hv hvd habs e
    rw [hat, hlisted, hlisted'] at hlist
    refine ⟨(createSnapshot_named_ok hagain).1, hv, hvd, fun hnone => ?_, fun hdec => ?_⟩
    · exact (hA.decodes_new_iff hvd habs hnone).mp (hlist (Or.inl hnone))
    · exact (hA.decodes_iff hvd habs hdec).mp (hlist (Or.inr hdec))
  · rintro ⟨hname, hv, hvd, hplaced⟩
    have hA := Reflink.createSnapshot_added site.snapshots hl hs hv hvd habs e
    have hdir : h'.fs.node l = some Node.dir := hA.way l (Or.inl (List.prefix_append l _))
    have hsrc := hA.source hvd habs
    have hnew : h.fs.node S = none → Reflink.Decodes h'.fs S := fun hnone =>
      (hA.decodes_new_iff hvd habs hnone).mpr (hplaced.first hnone)
    have hthere : h'.fs.node S ≠ none := by
      by_cases hnone : h.fs.node S = none
      · simp [(hnew hnone).1]
      · rwa [hA.keeps S hnone]
    refine ⟨⟨h'.tick, ?_⟩, ⟨h'.ctime l, h'.tick.tick, ?_⟩, ?_, ?_⟩
    · rw [Reflink.getSourceVolumeId_of_noFault (hf' 0) hl hdir, hsrc, Option.elim]
    · rw [Reflink.getSnapshotById_of_dir hf' hl hdir, hsrc, Option.elim]
    · exact (createSnapshot_present_iff site hname hv.1 hf' hthere hl hdir).mpr hsrc
    · rw [hat, hlisted, hlisted']
      rintro (hnone | hdec)
      · exact hnew hnone
      · exact (hA.decodes_iff hvd habs hdec).mpr (hplaced.later hdec)

end HostPathController

namespace Sample

def provider : Reflink := ⟨"node", "/snapshots", "/pool"⟩

/-- The host after `CreateVolume` with this name, in a pool that was empty. -/
def namedHost (name : String) : Host :=
  (emptyHost.exec (controller.createVolume (some (volumeRequest name)))).2

/-- The host after a snapshot of that volume was taken. -/
def readHost (name : String) : Host :=
  ((namedHost name).exec (provider.createSnapshot "snap" name)).2

end Sample

/-- A snapshot of a volume with a plain name is read back. -/
theorem sample_source_read_back :
    Sample.controller.ReadBack Sample.provider ⟨"snap", "vol", Sample.parameters⟩
      (Sample.namedHost "vol") (Sample.readHost "vol") := by
  have hsite : Sample.controller.Site (getStoragePoolNameFromMap Sample.parameters)
      Sample.provider ["snapshots"] ["pool"] := Sample.site
  have hf : (Sample.namedHost "vol").NoFaults := Host.NoFaults.exec (fun _ => rfl) _
  obtain ⟨snap, hexec⟩ : ∃ snap, (Sample.namedHost "vol").exec
      (Sample.provider.createSnapshot "snap" "vol") = (Except.ok snap, Sample.readHost "vol") :=
    ⟨⟨"snap", "vol", 0, true⟩, exec_eq_ok (by decide +kernel)⟩
  refine Iff.mpr (HostPathController.source_read_back_iff hsite hf (l := ["snapshots", "snap"])
    (s := ["pool", "vol"]) (by decide) (by decide) (by decide +kernel) hexec) ?_
  exact ⟨by decide, by decide, by decide, Reflink.Placed.of_valid _ ["snapshots"] _ "snap" _⟩

/-- The name `data` is accepted for a volume, but a snapshot of that volume has no source to be
read, and no snapshot of the pool can be listed.  The source of a snapshot of `a/b` is read as
`a`. -/
theorem sources_not_read_back :
    (∃ vol, Sample.emptyHost.exec (Sample.controller.createVolume
        (some (Sample.volumeRequest "data"))) = (Except.ok vol, Sample.namedHost "data"))
      ∧ (Sample.namedHost "data").exec (Sample.provider.createSnapshot "snap" "data")
        = (Except.ok ⟨"snap", "data", 0, true⟩, Sample.readHost "data")
      ∧ (∃ err m, (Sample.readHost "data").exec (Sample.provider.getSourceVolumeId "snap")
        = (Except.error err, m))
      ∧ (∃ err m, (Sample.readHost "data").exec Sample.provider.getAllSnapshots
        = (Except.error err, m))
      ∧ (∃ vol, Sample.emptyHost.exec (Sample.controller.createVolume
        (some (Sample.volumeRequest "a/b"))) = (Except.ok vol, Sample.namedHost "a/b"))
      ∧ (Sample.namedHost "a/b").exec (Sample.provider.createSnapshot "snap" "a/b")
        = (Except.ok ⟨"snap", "a/b", 0, true⟩, Sample.readHost "a/b")
      ∧ (∃ m, (Sample.readHost "a/b").exec (Sample.provider.getSourceVolumeId "snap")
        = (Except.ok "a", m)) := by
  have hvol : ∀ name, (Sample.emptyHost.exec (Sample.controller.createVolume
      (some (Sample.volumeRequest name)))).1.toOption.isSome = true →
      ∃ vol, Sample.emptyHost.exec (Sample.controller.createVolume
        (some (Sample.volumeRequest name))) = (Except.ok vol, Sample.namedHost name) := by
    intro name hsome
    obtain ⟨vol, hvol⟩ := Option.isSome_iff_exists.mp hsome
    exact ⟨vol, exec_eq_ok hvol⟩
  have hsource : ((Sample.readHost "data").exec
      (Sample.provider.getSourceVolumeId "snap")).1.toOption.isNone = true := by decide +kernel
  have hlist : ((Sample.readHost "data").exec
      Sample.provider.getAllSnapshots).1.toOption.isNone = true := by decide +kernel
  obtain ⟨err, hsource⟩ := exec_eq_error hsource
  obtain ⟨err', hlist⟩ := exec_eq_error hlist
  exact ⟨hvol "data" (by decide +kernel), exec_eq_ok (by decide +kernel), ⟨err, _, hsource⟩,
    ⟨err', _, hlist⟩, hvol "a/b" (by decide +kernel), exec_eq_ok (by decide +kernel),
    ⟨_, exec_eq_ok (by decide +kernel)⟩⟩

end Hostpath
