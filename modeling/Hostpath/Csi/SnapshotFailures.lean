import Hostpath.Csi.SnapshotListing
import Hostpath.Csi.SnapshotNames

/-!
# What a failed `CreateSnapshot` leaves

The provider makes two directories and copies, and undoes nothing when one of these calls fails.
`failed_snapshot_harmless_iff` says for every id and source exactly when the listing is afterwards
what it was before and the request can be repeated.  For a plain id this leaves one case: the first
`MkdirAll` failed and made nothing.

* `Adds.listing_iff` — directories that are added leave the listing as it is exactly if each of
  them is `Unseen`: it is not an entry, and inside an entry it changes neither the source that is
  read nor the time.
* `failed_createSnapshot` — which call failed, and what is there then.
* `createSnapshot_missing_iff` — when the request succeeds without a failure if nothing is there;
  otherwise the source has to be read back.
-/

namespace Hostpath

open Lib FilePath Prog Host

namespace Reflink

variable {h h' m m₂ : Host} {r : Reflink} {id v : String} {S l s q : Loc} {t : ℕ}
  {fs fs' : FileTree FileData}

/-! ## Listing a directory to which directories are added -/

/-- The source that is read is the least name. -/
lemma sourceOf_eq_some {u : String} : sourceOf fs l = some u
    ↔ (fs.node (l ++ [u]) = some Node.dir ∧ u ≠ dataPath)
      ∧ ∀ n, fs.node (l ++ [n]) = some Node.dir → n ≠ dataPath → u ≤ n := by
  have hleast : ∀ {u : String}, sourceOf fs l = some u →
      ∀ n, fs.node (l ++ [n]) = some Node.dir → n ≠ dataPath → u ≤ n := by
    intro u hu n hn hnd
    obtain ⟨_, as, bs, hlist, has⟩ := List.find?_eq_some_iff_append.mp hu
    have hmem : n ∈ as ++ u :: bs := hlist ▸ fs.mem_list.mpr (by simp [hn])
    have hpair : (as ++ u :: bs).Pairwise (· ≤ ·) := hlist ▸ fs.pairwise_list l
    rcases List.mem_append.mp hmem with hin | hin
    · have hno := has n hin
      simp [hn, hnd] at hno
    · rcases List.mem_cons.mp hin with rfl | hin
      · exact le_refl n
      · exact (List.pairwise_cons.mp (List.pairwise_append.mp hpair).2.1).1 n hin
  refine ⟨fun hu => ⟨dir_of_sourceOf hu, hleast hu⟩, fun ⟨⟨hdir, hud⟩, hall⟩ => ?_⟩
  obtain ⟨w, hw⟩ := Option.ne_none_iff_exists'.mp (sourceOf_ne_none.mpr ⟨u, hdir, hud⟩)
  obtain ⟨hwdir, hwd⟩ := dir_of_sourceOf hw
  rw [hw, le_antisymm (hleast hw u hdir hud) (hall w hwdir hwd)]

/-- The host `h'` is `h` with more in it.  What is new in `S`, or in an entry of `S`, is a
directory, and an entry that got something new has the time `t`. -/
structure Adds (S : Loc) (t : ℕ) (h h' : Host) : Prop where
  keeps : ∀ q, h.fs.node q ≠ none → h'.fs.node q = h.fs.node q
  entry : ∀ x, h.fs.node (S ++ [x]) = none → h'.fs.node (S ++ [x]) ≠ none →
    h'.fs.node (S ++ [x]) = some Node.dir
  inside : ∀ x y, h.fs.node (S ++ [x] ++ [y]) = none → h'.fs.node (S ++ [x] ++ [y]) ≠ none →
    h'.fs.node (S ++ [x] ++ [y]) = some Node.dir
  ctime : ∀ x, h.fs.node (S ++ [x]) ≠ none → h'.ctime (S ++ [x])
    = if h'.fs.list (S ++ [x]) = h.fs.list (S ++ [x]) then h.ctime (S ++ [x]) else t

/-- A directory that is made at `q`, at the time `t`, does not show in a listing of `S`. -/
def Unseen (h : Host) (S : Loc) (t : ℕ) (q : Loc) : Prop :=
  ∀ x, q ≠ S ++ [x] ∧ ∀ y, q = S ++ [x] ++ [y] → h.ctime (S ++ [x]) = t
    ∧ (y = dataPath ∨ ∃ u, sourceOf h.fs (S ++ [x]) = some u ∧ u < y)

/-- What is in a new snapshot does not show in the listing if the snapshot does not. -/
lemma unseen_below (hnone : h.fs.node l = none)
    (hS : h.fs.node S = some Node.dir) (hun : ∀ x, l ≠ S ++ [x]) (y : String) (k : Loc) :
    Unseen h S t (l ++ y :: k) := by
  have hout : ¬ l <+: S := not_prefix_of_missing hnone (by simp [hS])
  have hentry : ∀ x, ¬ l <+: S ++ [x] := fun x hp =>
    (List.prefix_concat_iff.mp hp).elim (hun x) hout
  have hpre : l <+: l ++ y :: k := List.prefix_append l _
  refine fun x => ⟨fun heq => hentry x (heq ▸ hpre), fun z heq => ?_⟩
  rw [heq] at hpre
  rcases List.prefix_concat_iff.mp hpre with heq' | hp
  · rw [← heq] at heq'
    simp at heq'
  · exact absurd hp (hentry x)

namespace Adds

/-- If all that is new is unseen, every entry is what it was. -/
lemma entryOf_eq (hA : Adds S t h h')
    (hun : ∀ q, h.fs.node q = none → h'.fs.node q ≠ none → Unseen h S t q) {x u : String}
    (hdir : h.fs.node (S ++ [x]) = some Node.dir) (hu : sourceOf h.fs (S ++ [x]) = some u) :
    sourceOf h'.fs (S ++ [x]) = some u ∧ h'.ctime (S ++ [x]) = h.ctime (S ++ [x]) := by
  obtain ⟨⟨hudir, hud⟩, hleast⟩ := sourceOf_eq_some.mp hu
  have hnew : ∀ y, h.fs.node (S ++ [x] ++ [y]) = none → h'.fs.node (S ++ [x] ++ [y]) ≠ none →
      h.ctime (S ++ [x]) = t ∧ (y = dataPath ∨ u < y) := by
    intro y hy hy'
    obtain ⟨ht, hor⟩ := (hun _ hy hy' x).2 y rfl
    refine ⟨ht, hor.imp_right fun ⟨w, hw, hlt⟩ => ?_⟩
    cases hu.symm.trans hw
    exact hlt
  refine ⟨sourceOf_eq_some.mpr ⟨⟨(hA.keeps _ (by rw [hudir]; simp)).trans hudir, hud⟩,
    fun n hn hnd => ?_⟩, ?_⟩
  · by_cases hold : h.fs.node (S ++ [x] ++ [n]) = none
    · exact ((hnew n hold (by rw [hn]; simp)).2.resolve_left hnd).le
    · exact hleast n ((hA.keeps _ hold).symm.trans hn) hnd
  · rw [hA.ctime x (by simp [hdir])]
    split_ifs with hlist
    · rfl
    · obtain ⟨y, hy⟩ : ∃ y, ¬ (h'.fs.node (S ++ [x] ++ [y]) ≠ none
          ↔ h.fs.node (S ++ [x] ++ [y]) ≠ none) := by
        by_contra hno
        push Not at hno
        exact hlist (FileTree.list_congr hno)
      have hold : h.fs.node (S ++ [x] ++ [y]) = none := by
        by_contra hold
        exact hy (by rw [hA.keeps _ hold])
      have hnew' : h'.fs.node (S ++ [x] ++ [y]) ≠ none := fun hnone => hy (by rw [hold, hnone])
      exact (hnew y hold hnew').1.symm

/-- An entry that is the same in two listings was not touched. -/
lemma unseen_of_listing (hA : Adds S t h h') (hS : locate r.path = some S) (hdec : Decodes h.fs S)
    (hdec' : Decodes h'.fs S) (heq : r.snapshots h' = r.snapshots h) (hq : h.fs.node q = none)
    (hq' : h'.fs.node q ≠ none) : Unseen h S t q := by
  have hentry : ∀ x, h.fs.node (S ++ [x]) = none → h'.fs.node (S ++ [x]) = none := by
    intro x hx
    by_contra hx'
    have hdir := hA.entry x hx hx'
    obtain ⟨u, hu⟩ := Option.ne_none_iff_exists'.mp (hdec'.2 x hdir)
    have hmem : (⟨x, u, h'.ctime (S ++ [x]), true⟩ : Snapshot) ∈ r.snapshots h' :=
      (mem_snapshots hS).mpr ⟨hdir, by rw [entryOf, hu]; rfl⟩
    rw [heq] at hmem
    cases hx.symm.trans ((mem_snapshots hS).mp hmem).1
  refine fun x => ⟨fun hqx => hq' (hqx ▸ hentry x (hqx ▸ hq)), fun y hqy => ?_⟩
  subst hqy
  have hdir' : h'.fs.node (S ++ [x]) = some Node.dir := h'.fs.closed hq'
  have hold : h.fs.node (S ++ [x]) ≠ none := fun hnone => by
    cases (hentry x hnone).symm.trans hdir'
  have hdir : h.fs.node (S ++ [x]) = some Node.dir := (hA.keeps _ hold).symm.trans hdir'
  obtain ⟨u, hu⟩ := Option.ne_none_iff_exists'.mp (hdec.2 x hdir)
  have hmem : (⟨x, u, h.ctime (S ++ [x]), true⟩ : Snapshot) ∈ r.snapshots h :=
    (mem_snapshots hS).mpr ⟨hdir, by rw [entryOf, hu]; rfl⟩
  rw [← heq] at hmem
  obtain ⟨_, hent⟩ := (mem_snapshots hS).mp hmem
  have hu' : sourceOf h'.fs (S ++ [x]) = some u := entryOf_source hent
  rw [entryOf, hu'] at hent
  have htime : h'.ctime (S ++ [x]) = h.ctime (S ++ [x]) :=
    congrArg Snapshot.creationTime (Option.some.inj hent)
  have hlist : h'.fs.list (S ++ [x]) ≠ h.fs.list (S ++ [x]) := fun hl =>
    absurd (hl ▸ h'.fs.mem_list.mpr hq') (by rw [h.fs.mem_list, hq]; simp)
  rw [hA.ctime x hold, if_neg hlist] at htime
  refine ⟨htime.symm, ?_⟩
  by_cases hyd : y = dataPath
  · exact Or.inl hyd
  · obtain ⟨⟨hudir, _⟩, _⟩ := sourceOf_eq_some.mp hu
    obtain ⟨_, hleast⟩ := sourceOf_eq_some.mp hu'
    refine Or.inr ⟨u, hu, lt_of_le_of_ne (hleast y (hA.inside x y hq hq') hyd) ?_⟩
    rintro rfl
    cases hq.symm.trans hudir

/-- **Which additions leave the listing as it is.** -/
lemma listing_iff (hA : Adds S t h h') (hS : locate r.path = some S) (hdec : Decodes h.fs S) :
    (Decodes h'.fs S ∧ r.snapshots h' = r.snapshots h)
      ↔ ∀ q, h.fs.node q = none → h'.fs.node q ≠ none → Unseen h S t q := by
  refine ⟨fun ⟨hdec', heq⟩ q hq hq' => hA.unseen_of_listing hS hdec hdec' heq hq hq', fun hun => ?_⟩
  have hnode : ∀ x, h'.fs.node (S ++ [x]) = h.fs.node (S ++ [x]) := by
    intro x
    by_cases hx : h.fs.node (S ++ [x]) = none
    · rw [hx]
      by_contra hx'
      exact (hun _ hx hx' x).1 rfl
    · exact hA.keeps _ hx
  have hlist : h'.fs.list S = h.fs.list S := FileTree.list_congr fun x => by rw [hnode x]
  refine ⟨⟨(hA.keeps S (by simp [hdec.1])).trans hdec.1, fun x hx => ?_⟩, ?_⟩
  · rw [hnode] at hx
    obtain ⟨u, hu⟩ := Option.ne_none_iff_exists'.mp (hdec.2 x hx)
    rw [(hA.entryOf_eq hun hx hu).1]
    simp
  · unfold snapshots
    rw [hS]
    simp only [hlist, hnode]
    refine List.filterMap_congr fun x hx => ?_
    have hdir : h.fs.node (S ++ [x]) = some Node.dir := by simpa using (List.mem_filter.mp hx).2
    obtain ⟨u, hu⟩ := Option.ne_none_iff_exists'.mp (hdec.2 x hdir)
    obtain ⟨hu', htime⟩ := hA.entryOf_eq hun hdir hu
    rw [entryOf, entryOf, hu, hu', htime]

end Adds

/-! ## What the calls of `CreateSnapshot` add -/

/-- Making directories adds directories. -/
lemma adds_made (S d : Loc) (keep : Loc → Bool) (hq : Quiet h m) :
    Adds S m.now h (m.made d keep) := by
  refine ⟨fun q hn => ?_, fun x hx hx' => ?_, fun x y hy hy' => ?_, fun x hx => ?_⟩
  · rw [← hq.fs] at hn ⊢
    exact made_keeps keep hn
  · rw [← hq.fs] at hx
    exact made_new_dir hx hx'
  · rw [← hq.fs] at hy
    exact made_new_dir hy hy'
  · rw [← hq.fs] at hx ⊢
    rw [← hq.files.2.2]
    have hkeep := made_keeps (d := d) keep hx
    split_ifs with hl
    · exact setFs_ctime_of_same rfl hkeep hl
    · exact if_pos (Or.inr (Or.inr hl))

/-- Something that is there, and what is in it, is outside the data of a new snapshot. -/
lemma outside_data {k : Loc} (habs : fs.node l = none) (hk : fs.node k ≠ none) :
    ¬ l ++ [dataPath] <+: k ∧ ∀ y, ¬ l ++ [dataPath] <+: k ++ [y] := by
  have hlk : ¬ l <+: k := not_prefix_of_missing habs hk
  have hdk : ¬ l ++ [dataPath] <+: k := fun hp => hlk ((List.prefix_append l _).trans hp)
  refine ⟨hdk, fun y hp => ?_⟩
  rcases List.prefix_concat_iff.mp hp with heq | hp'
  · exact hlk ((List.append_inj' heq rfl).1 ▸ List.prefix_refl _)
  · exact hdk hp'

/-- **The directories of a new snapshot**, for a source with a plain name. -/
lemma Prepared.adds (hprep : Prepared r id v m m₂ (l ++ [dataPath]) (l ++ [v])) (hq : Quiet h m)
    (habs : h.fs.node l = none) (hS : h.fs.node S = some Node.dir) : Adds S m.tick.now h m₂ := by
  have hG := hprep.grown
  rw [hq.fs] at hG
  have hone : Adds S m.tick.now h (m.tick.made (l ++ [dataPath]) fun _ => true) :=
    adds_made S _ _ (hq.trans (Quiet.tick m))
  obtain ⟨hd, hb, hw, hbw, rfl⟩ := hprep
  set m₁ := m.tick.made (l ++ [dataPath]) fun _ => true
  have hdirs : ∀ q, ¬ l ++ [dataPath] <+: q → h.fs.node q = none →
      (m₁.tick.made (l ++ [v]) fun _ => true).fs.node q ≠ none →
      (m₁.tick.made (l ++ [v]) fun _ => true).fs.node q = some Node.dir := by
    intro q hout hn hn'
    rcases hG.new_cases hn hn' with hp | hp | hp
    · exact hG.way q (Or.inl hp)
    · exact hG.way q (Or.inr hp)
    · exact absurd hp hout
  -- the second call makes one directory only, and that is in the snapshot
  have hsecond : ∀ k, h.fs.node k ≠ none → ∀ y,
      (m₁.tick.made (l ++ [v]) fun _ => true).fs.node (k ++ [y]) = m₁.fs.node (k ++ [y]) := by
    intro k hk y
    by_cases hway : k ++ [y] <+: l ++ [v]
    · rcases List.prefix_concat_iff.mp hway with heq | hl
      · exact absurd ((List.append_inj' heq rfl).1 ▸ habs) hk
      · have hdir : m₁.fs.node (k ++ [y]) = some Node.dir := m.fs.create_node_on_way hb
          (locate_valid hd) (hl.trans (List.prefix_append l _))
        rw [hdir]
        exact FileTree.create_node_of_some _ _ hdir
    · exact FileTree.create_node_off_way _ _ hway
  refine ⟨hG.keeps, fun x hx hx' => ?_, fun x y hy hy' => ?_, fun x hx => ?_⟩
  · exact hdirs _ ((outside_data habs (by simp [hS])).2 x) hx hx'
  · rcases hG.new_cases hy hy' with hp | hp | hp
    · exact hG.way _ (Or.inl hp)
    · exact hG.way _ (Or.inr hp)
    · rcases List.prefix_concat_iff.mp hp with heq | hp'
      · exact hG.way _ (Or.inl (heq ▸ List.prefix_refl _))
      · exact absurd hp' ((outside_data habs (by simp [hS])).2 x)
  · have hlist : (m₁.tick.made (l ++ [v]) fun _ => true).fs.list (S ++ [x])
        = m₁.fs.list (S ++ [x]) := FileTree.list_congr fun y => by rw [hsecond _ hx y]
    have hkeep : (m₁.tick.made (l ++ [v]) fun _ => true).fs.node (S ++ [x])
        = m₁.fs.node (S ++ [x]) := (hG.keeps _ hx).trans (hone.keeps _ hx).symm
    rw [hlist, ← hone.ctime x hx]
    exact setFs_ctime_of_same rfl hkeep hlist

/-- A copy into the data of a new snapshot changes nothing elsewhere. -/
lemma Adds.overlaid (hA : Adds S t h m₂) (hG : Grown l v h.fs m₂.fs) (hvd : v ≠ dataPath)
    (habs : h.fs.node l = none) (hS : h.fs.node S = some Node.dir) (s : Loc) (keep : Loc → Bool) :
    Adds S t h (m₂.tick.overlaid s (l ++ [dataPath]) keep) := by
  have hsame : ∀ q, ¬ l ++ [dataPath] <+: q →
      (m₂.tick.overlaid s (l ++ [dataPath]) keep).fs.node q = m₂.fs.node q := fun q hq =>
    FileTree.overlay_node_outside _ _ hq
  have hG' := hG.overlay hvd habs s keep
  refine ⟨hG'.keeps, fun x hx hx' => ?_, fun x y hy hy' => ?_, fun x hx => ?_⟩
  · have hout := (outside_data (k := S) habs (by simp [hS])).2 x
    rw [hsame _ hout] at hx' ⊢
    exact hA.entry x hx hx'
  · by_cases hd : l ++ [dataPath] <+: S ++ [x] ++ [y]
    · rcases List.prefix_concat_iff.mp hd with heq | hp
      · exact hG'.way _ (Or.inl (heq ▸ List.prefix_refl _))
      · exact absurd hp ((outside_data habs (by simp [hS])).2 x)
    · rw [hsame _ hd] at hy' ⊢
      exact hA.inside x y hy hy'
  · obtain ⟨hout, hin⟩ := outside_data habs hx
    have hlist : (m₂.tick.overlaid s (l ++ [dataPath]) keep).fs.list (S ++ [x])
        = m₂.fs.list (S ++ [x]) := FileTree.list_congr fun y => by rw [hsame _ (hin y)]
    rw [hlist, ← hA.ctime x hx]
    refine setFs_ctime_of_same ?_ (hsame _ hout) hlist
    rw [Bool.and_eq_false_iff]
    exact Or.inl (by rw [Bool.eq_false_iff, ne_eq, List.isPrefixOf_iff_prefix]; exact hout)

/-! ## Which call failed -/

/-- The call succeeds, if it is one that makes directories or copies. -/
def Succeeds (h : Host) : Syscall → Prop
  | Syscall.mkdirAll path => Except.toBool (h.step (Syscall.mkdirAll path)).1 = true
  | Syscall.copyReflink src dst => Except.toBool (h.step (Syscall.copyReflink src dst)).1 = true
  | _ => True

instance (h : Host) : DecidablePred (Succeeds h)
  | Syscall.mkdirAll _ => inferInstanceAs (Decidable (_ = true))
  | Syscall.copyReflink _ _ => inferInstanceAs (Decidable (_ = true))
  | Syscall.statfs _ => isTrue trivial
  | Syscall.stat _ => isTrue trivial
  | Syscall.readDir _ => isTrue trivial
  | Syscall.mkdir _ => isTrue trivial
  | Syscall.removeAll _ => isTrue trivial
  | Syscall.isNotMountPoint _ => isTrue trivial
  | Syscall.mount _ _ _ _ => isTrue trivial
  | Syscall.unmount _ => isTrue trivial
  | Syscall.findmnt _ => isTrue trivial

lemma along_checkPathExist (h : Host) (path : String) :
    Along step Succeeds (checkPathExist path).run h := by
  refine along_bind_run.mpr ⟨along_perform.mpr trivial, fun rep m _ => ?_⟩
  cases rep with
  | ok info => trivial
  | error oe =>
      dsimp only
      split_ifs <;> trivial

lemma along_getSnapshotById (h : Host) (r : Reflink) (id : String) :
    Along step Succeeds (r.getSnapshotById id).run h := by
  refine along_bind_run.mpr ⟨along_perform.mpr trivial, fun rep m _ => ?_⟩
  cases rep with
  | error oe =>
      dsimp only
      split_ifs <;> trivial
  | ok info =>
      dsimp only
      split_ifs
      · trivial
      · refine along_bind_run.mpr ⟨?_, fun _ _ _ => trivial⟩
        refine along_bind_run.mpr ⟨along_perform.mpr trivial, fun rep m _ => ?_⟩
        refine along_bind_run.mpr ⟨?_, fun es m _ => ?_⟩
        · cases rep <;> trivial
        · split <;> trivial

lemma along_reflinkCopy {src dst : String} (hc : Succeeds h (Syscall.copyReflink src dst)) :
    Along step Succeeds (reflinkCopy src dst).run h := by
  refine along_bind_run.mpr ⟨along_perform.mpr hc, fun rep _ _ => ?_⟩
  cases rep <;> trivial

lemma along_createSnapshotFromDir (h : Host) (id v path : String) :
    Along step Succeeds (createSnapshotFromDir id v path).run h := by
  refine along_bind_run.mpr ⟨?_, fun _ _ _ => trivial⟩
  refine along_bind_run.mpr ⟨along_perform.mpr trivial, fun rep _ _ => ?_⟩
  cases rep <;> trivial

/-- What a snapshot that could not be filled leaves: the first or the second `MkdirAll` failed, or
both worked and the copy failed. -/
inductive FillFailed (r : Reflink) (id v : String) (m : Host) (d : Loc) : Host → Prop where
  | data {reach : Loc → Bool} (hf : (m.outcomes 0).fault = some reach) :
      FillFailed r id v m d (m.tick.made d fun q => reach q && q ≠ d)
  | source {h' : Host} (hf : (m.outcomes 0).fault = none)
      (hcut : MkdirCut (m.tick.made d fun _ => true) (r.sourceDir id v) h') :
      FillFailed r id v m d h'
  | copy {m₂ h' : Host} {w : Loc} (hf₀ : (m.outcomes 0).fault = none)
      (hf₁ : (m.outcomes 1).fault = none) (hprep : Prepared r id v m m₂ d w)
      (hcopy : h' = m₂.tick ∨ ∃ s keep, h' = m₂.tick.overlaid s d keep) :
      FillFailed r id v m d h'

lemma fillSnapshot_failed {d w : Loc} {res : Except Err Snapshot}
    (hd : locate (r.dataDir id) = some d) (hb : m.fs.blocked d = false)
    (hw : locate (r.sourceDir id v) = some w) (e : m.exec (r.fillSnapshot id v) = (res, h'))
    (hfail : ¬ Along step Succeeds (r.fillSnapshot id v).run m) : FillFailed r id v m d h' := by
  unfold fillSnapshot at e hfail
  cases hf₀ : (m.outcomes 0).fault with
  | some reach =>
      have hmk : m.step (Syscall.mkdirAll (r.dataDir id)) = (Except.error _, _) :=
        mkdirAll_of_fault hf₀ hd hb
      replace e := (exec_bind_of_ok step (exec_perform_eq.mpr hmk)).symm.trans e
      cases (exec_bind_of_error step rfl).symm.trans e
      exact FillFailed.data hf₀
  | none =>
  have hmk : m.step (Syscall.mkdirAll (r.dataDir id)) = (Except.ok (), m.tick.made d fun _ => true) :=
    mkdirAll_of_noFault hf₀ hd hb
  replace e := (exec_bind_of_ok step (exec_perform_eq.mpr hmk)).symm.trans e
  replace e := (exec_bind_of_ok step rfl).symm.trans e
  obtain ⟨_, _, hx, hfail⟩ := not_along_bind_run
    (along_perform.mpr (show Succeeds m (Syscall.mkdirAll (r.dataDir id)) by
      rw [Succeeds, hmk]; rfl)) hfail
  cases (exec_perform_eq.mpr hmk).symm.trans hx
  obtain ⟨_, _, hx, hfail⟩ := not_along_bind_run (x := orReturn (Except.ok ())) trivial hfail
  cases hx
  set m₁ := m.tick.made d fun _ => true
  rcases hmk' : m₁.step (Syscall.mkdirAll (r.sourceDir id v)) with ⟨rep, m₂⟩
  replace e := (exec_bind_of_ok step (exec_perform_eq.mpr hmk')).symm.trans e
  cases rep with
  | error oe =>
      cases (exec_bind_of_error step rfl).symm.trans e
      exact FillFailed.source hf₀ (mkdirCut_of_error hmk')
  | ok u =>
  obtain ⟨w', hw', hbw, rfl⟩ := mkdirAll_ok hmk'
  cases hw.symm.trans hw'
  have hf₁ : (m.outcomes 1).fault = none := by
    cases hf₁ : (m.outcomes 1).fault with
    | none => rfl
    | some reach => cases (mkdirAll_of_fault (h := m₁.tick) hf₁ hw hbw).symm.trans hmk'
  replace e := (exec_bind_of_ok step rfl).symm.trans e
  obtain ⟨_, _, hx, hfail⟩ := not_along_bind_run
    (along_perform.mpr (show Succeeds m₁ (Syscall.mkdirAll (r.sourceDir id v)) by
      rw [Succeeds, hmk']; rfl)) hfail
  cases (exec_perform_eq.mpr hmk').symm.trans hx
  obtain ⟨_, _, hx, hfail⟩ := not_along_bind_run (x := orReturn (Except.ok ())) trivial hfail
  cases hx
  have hprep : Prepared r id v m (m₁.tick.made w fun _ => true) d w := ⟨hd, hb, hw, hbw, rfl⟩
  set m₂ := m₁.tick.made w fun _ => true
  rcases hcp : m₂.step (Syscall.copyReflink (r.sourcePoolDir v ++ "/.") (r.dataDir id))
    with ⟨rep, m₃⟩
  cases rep with
  | error oe =>
      have hcopy : m₂.exec (reflinkCopy (r.sourcePoolDir v ++ "/.") (r.dataDir id))
          = (Except.error _, m₃) := exec_bind_of_ok step (exec_perform_eq.mpr hcp)
      cases (exec_bind_of_error step hcopy).symm.trans e
      refine FillFailed.copy hf₀ hf₁ hprep ?_
      rcases copyReflink_error (h := m₂.tick) hprep.at_data hcp with rfl | ⟨s, d', keep, _, hd', _, rfl⟩
      · exact Or.inl rfl
      · cases hd.symm.trans hd'
        exact Or.inr ⟨s, keep, rfl⟩
  | ok u =>
      refine absurd (along_bind_run.mpr ⟨?_, fun _ m₄ _ => ?_⟩) hfail
      · exact along_reflinkCopy (by rw [Succeeds, hcp]; rfl)
      · exact along_createSnapshotFromDir m₄ id v (r.dataDir id)

/-! ## When filling succeeds -/

/-- The directories of a snapshot can be made at `d` and `w`, and the volume at `s` be copied. -/
def Fillable (fs : FileTree FileData) (d w s : Loc) : Prop :=
  fs.blocked d = false ∧ (fs.create d fun _ => true).blocked w = false
    ∧ CanCopy ((fs.create d fun _ => true).create w fun _ => true) s d

lemma CanCopy.congr {d : Loc} (hn : ∀ q, fs'.node q = fs.node q) :
    CanCopy fs' s d ↔ CanCopy fs s d := by
  have hfits : fs'.fits s d = true ↔ fs.fits s d = true := by
    simp only [FileTree.fits_iff, FileTree.clash, hn]
  simp only [CanCopy, hn, hfits]

/-- A first attempt that was cut short changes nothing for the second. -/
lemma fillable_create_iff {d w : Loc} (hb : fs.blocked d = false) (hv : ∀ n ∈ d, ValidName n)
    (keep : Loc → Bool) : Fillable (fs.create d keep) d w s ↔ Fillable fs d w s := by
  have hn := fs.create_create hb hv keep
  rw [Fillable, Fillable, FileTree.blocked_congr fun q _ => hn q,
    CanCopy.congr (FileTree.create_congr hn w fun _ => true)]
  exact and_congr_left' (iff_of_true (fs.blocked_create hb d keep) hb)

/-- The host after the directories of a snapshot are made. -/
def preparedHost (h : Host) (d w : Loc) : Host :=
  (h.tick.made d fun _ => true).tick.made w fun _ => true

lemma createSnapshot_of_fillable {d w : Loc} (hf : h.NoFaults) (hd : locate (r.dataDir id) = some d)
    (hw : locate (r.sourceDir id v) = some w) (hs : locate (r.sourcePoolDir v) = some s)
    (hnone : h.fs.node d = none) (hvol : h.fs.node s ≠ none) (hfill : Fillable h.fs d w s) :
    h.exec (r.createSnapshot id v)
      = (Except.ok ⟨id, v, wholeSeconds (preparedHost h.tick.tick d w).tick.now, true⟩,
        ((preparedHost h.tick.tick d w).tick.overlaid s d fun _ => true).tick) := by
  obtain ⟨hb, hbw, hc⟩ := hfill
  exact createSnapshot_of_prepared hf ⟨hd, hb, hw, hbw, rfl⟩ hs hnone hvol hc

lemma fillable_of_createSnapshot {d w : Loc} {snap : Snapshot} (hd : locate (r.dataDir id) = some d)
    (hw : locate (r.sourceDir id v) = some w) (hs : locate (r.sourcePoolDir v) = some s)
    (hnone : h.fs.node d = none) (e : h.exec (r.createSnapshot id v) = (Except.ok snap, h')) :
    h.fs.node s ≠ none ∧ Fillable h.fs d w s := by
  rcases createSnapshot_new (P := fun _ _ => True) e (along_true _ _)
    (by rw [at?, hd, Option.bind_some]; exact hnone) with ⟨_, hno⟩ | ⟨m, hq, hvol, hfill⟩
  · exact absurd rfl (hno snap)
  rw [at?, hs, Option.bind_some] at hvol
  cases hfill with
  | complete hprep hs' hc _ =>
      obtain ⟨hd', hb, hw', hbw, rfl⟩ := hprep
      cases hd.symm.trans hd'
      cases hw.symm.trans hw'
      cases (locate_dot hs).symm.trans hs'
      rw [made_fs, tick_fs, made_fs, tick_fs] at hc
      rw [hq.fs] at hb hbw hc
      exact ⟨hvol, hb, hbw, hc⟩

end Reflink

namespace HostPathController

variable {hpc : HostPathController} {h h' : Host} {p : Reflink} {S L l s w : Loc}
  {req : CreateSnapshotRequest} {res : Except Err Snapshot}

/-- A request without a name or a source makes no calls. -/
lemma createSnapshot_named
    (hfail : ¬ Along step Reflink.Succeeds (hpc.createSnapshot (some req)).run h) :
    req.name ≠ "" ∧ req.sourceVolumeId ≠ "" := by
  obtain ⟨req', m, hval, _⟩ := not_along_bind_run (by
    cases validateCreateSnapshotRequest (some req) <;> trivial) hfail
  exact named_of_validated hval

/-- Where the snapshot directory is there, making sure of it is one check. -/
lemma ensureInitialized_present {path : String} (hpath : locate path = some S)
    (hS : h.fs.node S ≠ none) {u : Unit} {m : Host}
    (e : h.exec (ensureInitialized p path) = (Except.ok u, m)) : m = h.tick := by
  obtain ⟨b, m', hb, hk⟩ := exec_bind_eq_ok.mp e
  obtain ⟨rfl, rfl⟩ := checkPathExist_ok hb
  have hat : (h.at? path).isSome = true := by
    rw [at?, hpath, Option.bind_some]
    exact Option.isSome_iff_ne_none.mpr hS
  rw [if_pos hat] at hk
  cases hk
  rfl

/-- **A request in which a call failed that makes directories or copies**: nothing was there under
that name, the volume was, and filling the snapshot failed. -/
lemma failed_createSnapshot (site : hpc.Site (getStoragePoolNameFromMap req.parameters) p S L)
    (hS : h.fs.node S ≠ none) (hl : locate (join [p.path, req.name]) = some l)
    (e : h.exec (hpc.createSnapshot (some req)) = (res, h'))
    (hfail : ¬ Along step Reflink.Succeeds (hpc.createSnapshot (some req)).run h) :
    h.fs.node l = none ∧ h.fs.blocked l = false ∧ Reflink.FillFailed p req.name req.sourceVolumeId
      h.tick.tick.tick.tick (l ++ [dataPath]) h' := by
  obtain ⟨hname, hsource⟩ := createSnapshot_named hfail
  obtain ⟨path, hpath, hrun⟩ := createSnapshot_at_site site hname hsource
  rw [hrun] at e hfail
  have hat : (h.at? path).isSome = true := by
    rw [at?, hpath, Option.bind_some]
    exact Option.isSome_iff_ne_none.mpr hS
  obtain ⟨_, m, hini, hfail⟩ := not_along_bind_run
    (along_bind_run.mpr ⟨Reflink.along_checkPathExist h path, fun b m hb => by
      obtain ⟨rfl, rfl⟩ := checkPathExist_ok hb
      rw [if_pos hat]
      trivial⟩) hfail
  obtain rfl := ensureInitialized_present hpath hS hini
  replace e := (exec_bind_of_ok step hini).symm.trans e
  obtain ⟨g, m, hg, hfail⟩ := not_along_bind_run
    (along_attempt.mpr (Reflink.along_getSnapshotById _ p req.name)) hfail
  replace e := (exec_bind_of_ok step hg).symm.trans e
  cases g with
  | error err => exact absurd trivial hfail
  | ok o =>
  cases o with
  | some snap =>
      dsimp only at hfail
      split_ifs at hfail <;> exact absurd trivial hfail
  | none =>
  obtain ⟨rfl, habs⟩ := Reflink.getSnapshotById_none (exec_attempt_eq.mp hg)
  obtain ⟨hnone, hb⟩ := node_of_lookup_notExist hl habs
  refine ⟨hnone, hb, ?_⟩
  dsimp only at e hfail
  unfold Reflink.createSnapshot at e hfail
  obtain ⟨b, m, hvol, hfail⟩ := not_along_bind_run
    (Reflink.along_checkPathExist _ (p.sourcePoolDir req.sourceVolumeId)) hfail
  replace e := (exec_bind_of_ok step hvol).symm.trans e
  obtain ⟨rfl, rfl⟩ := checkPathExist_ok hvol
  split_ifs at e hfail
  swap
  · exact absurd trivial hfail
  obtain ⟨b, m, hdata, hfail⟩ := not_along_bind_run
    (Reflink.along_checkPathExist _ (p.dataDir req.name)) hfail
  replace e := (exec_bind_of_ok step hdata).symm.trans e
  obtain ⟨rfl, rfl⟩ := checkPathExist_ok hdata
  have hd := Reflink.locate_dataDir_at site.snapshots hl
  have hnew : (h.tick.tick.tick.at? (p.dataDir req.name)).isSome = false := by
    rw [at?, hd, Option.bind_some, Option.isSome_eq_false_iff, Option.isNone_iff_eq_none]
    exact FileTree.node_none_of_below (List.prefix_append l _) hnone
  rw [hnew] at e hfail
  exact Reflink.fillSnapshot_failed hd (h.fs.blocked_append _ hnone hb)
    (locate_join site.snapshots [req.name, req.sourceVolumeId]) e hfail

/-- **A request for a snapshot that is not there** works if it can be filled. -/
lemma createSnapshot_missing_iff (site : hpc.Site (getStoragePoolNameFromMap req.parameters) p S L)
    (hname : req.name ≠ "") (hv : req.sourceVolumeId ≠ "") (hf : h.NoFaults)
    (hS : h.fs.node S ≠ none) (hl : locate (join [p.path, req.name]) = some l)
    (hw : locate (p.sourceDir req.name req.sourceVolumeId) = some w)
    (hs : locate (p.sourcePoolDir req.sourceVolumeId) = some s) (hnone : h.fs.node l = none)
    (hb : h.fs.blocked l = false) :
    (∃ snap m, h.exec (hpc.createSnapshot (some req)) = (Except.ok snap, m))
      ↔ h.fs.node s ≠ none ∧ Reflink.Fillable h.fs (l ++ [dataPath]) w s := by
  have hget := Reflink.getSnapshotById_of_missing (h := h.tick) (fun n => hf (n + 1)) hl hnone hb
  have hd := Reflink.locate_dataDir_at site.snapshots hl
  have hdnone : h.fs.node (l ++ [dataPath]) = none :=
    FileTree.node_none_of_below (List.prefix_append l _) hnone
  rw [createSnapshot_of_lookup site hname hv (hf 0) hS hget]
  dsimp only
  constructor
  · rintro ⟨snap, m, e⟩
    exact Reflink.fillable_of_createSnapshot (h := h.tick.tick) hd hw hs hdnone e
  · rintro ⟨hvol, hfill⟩
    exact ⟨_, _, Reflink.createSnapshot_of_fillable (h := h.tick.tick) (fun n => hf (n + 2)) hd hw hs
      hdnone hvol hfill⟩

/-! ## Which failures do no harm -/

/-- The request succeeds if no call fails. -/
def Works (hpc : HostPathController) (req : CreateSnapshotRequest) (h : Host) : Prop :=
  ∀ outcomes : ℕ → Outcome, (∀ n, (outcomes n).fault = none) →
    ∃ snap m, Host.exec { h with outcomes } (hpc.createSnapshot (some req)) = (Except.ok snap, m)

/-- With no more failures, the listing is in `h'` what it was in `h`, and the request works. -/
def Harmless (hpc : HostPathController) (p : Reflink) (req : CreateSnapshotRequest) (h h' : Host) :
    Prop :=
  (∀ outcomes : ℕ → Outcome, (∀ n, (outcomes n).fault = none) →
    ∃ ss m m', Host.exec { h with outcomes } p.getAllSnapshots = (Except.ok ss, m)
      ∧ Host.exec { h' with outcomes } p.getAllSnapshots = (Except.ok ss, m'))
    ∧ hpc.Works req h'

/-- The condition on the state before and on which call fails: either the first `MkdirAll` fails,
none of the directories it made shows in the listing, none is that of the snapshot, and the volume is
there and can be copied into the directories of the snapshot; or the copy fails, the source is a plain
name other than `data`, and none of the directories on the way to the snapshot shows in the listing. -/
inductive FailsSafely (p : Reflink) (req : CreateSnapshotRequest) (h : Host) (S l : Loc) : Prop where
  | data {reach : Loc → Bool} {w s : Loc} (hf : (h.outcomes 4).fault = some reach)
      (hmade : ∀ q, h.fs.created l reach q → q ≠ l ∧ Reflink.Unseen h S (tick^[5] h).now q)
      (hw : locate (p.sourceDir req.name req.sourceVolumeId) = some w)
      (hs : locate (p.sourcePoolDir req.sourceVolumeId) = some s)
      (hfill : h.fs.node s ≠ none ∧ Reflink.Fillable h.fs (l ++ [dataPath]) w s)
  | copy (hf₀ : (h.outcomes 4).fault = none) (hf₁ : (h.outcomes 5).fault = none)
      (hv : ValidName req.sourceVolumeId) (hvd : req.sourceVolumeId ≠ dataPath)
      (hmade : ∀ q, h.fs.created l (fun _ => true) q → Reflink.Unseen h S (tick^[5] h).now q)

lemma harmless_iff (hS : locate p.path = some S) :
    hpc.Harmless p req h h' ↔ Reflink.Decodes h.fs S
      ∧ (Reflink.Decodes h'.fs S ∧ p.snapshots h' = p.snapshots h) ∧ hpc.Works req h' := by
  have hone : ∀ (k : Host) (outcomes : ℕ → Outcome), (∀ n, (outcomes n).fault = none) →
      Reflink.Decodes k.fs S →
      ∃ m, Host.exec { k with outcomes } p.getAllSnapshots = (Except.ok (p.snapshots k), m) := by
    intro k outcomes hf hdec
    obtain ⟨m, _, e⟩ := Reflink.getAllSnapshots_of_listable (h := { k with outcomes }) hf
      ((Reflink.listable_iff hS).mpr hdec)
    exact ⟨m, e⟩
  rw [Harmless, ← and_assoc]
  refine and_congr_left' ⟨fun hlist => ?_, ?_⟩
  · obtain ⟨ss, m, m', e, e'⟩ := hlist (fun _ => Outcome.fine) fun _ => rfl
    have hdec : Reflink.Decodes h.fs S :=
      (Reflink.getAllSnapshots_ok_iff (h := { h with outcomes := fun _ => Outcome.fine }) hS
        fun _ => rfl).mp ⟨ss, m, e⟩
    have hdec' : Reflink.Decodes h'.fs S :=
      (Reflink.getAllSnapshots_ok_iff (h := { h' with outcomes := fun _ => Outcome.fine }) hS
        fun _ => rfl).mp ⟨ss, m', e'⟩
    obtain ⟨_, e₁⟩ := hone h (fun _ => Outcome.fine) (fun _ => rfl) hdec
    obtain ⟨_, e₂⟩ := hone h' (fun _ => Outcome.fine) (fun _ => rfl) hdec'
    have heq := Except.ok.inj (Prod.mk.inj (e₁.symm.trans e)).1
    have heq' := Except.ok.inj (Prod.mk.inj (e₂.symm.trans e')).1
    exact ⟨hdec, hdec', heq'.trans heq.symm⟩
  · rintro ⟨hdec, hdec', heq⟩ outcomes hf
    obtain ⟨m, e₁⟩ := hone h outcomes hf hdec
    obtain ⟨m', e₂⟩ := hone h' outcomes hf hdec'
    rw [heq] at e₂
    exact ⟨_, m, m', e₁, e₂⟩

/-- Where the directory of the snapshot is there, the request works if the source is read. -/
lemma works_of_present (site : hpc.Site (getStoragePoolNameFromMap req.parameters) p S L)
    (hname : req.name ≠ "") (hv : req.sourceVolumeId ≠ "") (hS : h.fs.node S ≠ none)
    (hl : locate (join [p.path, req.name]) = some l) (hdir : h.fs.node l = some Node.dir) :
    hpc.Works req h ↔ Reflink.sourceOf h.fs l = some req.sourceVolumeId := by
  constructor
  · intro hw
    exact (createSnapshot_present_iff (h := { h with outcomes := fun _ => Outcome.fine }) site hname
      hv (fun _ => rfl) hS hl hdir).mp (hw _ fun _ => rfl)
  · intro hsrc outcomes hf
    exact (createSnapshot_present_iff (h := { h with outcomes }) site hname hv hf hS hl hdir).mpr hsrc

lemma works_of_missing (site : hpc.Site (getStoragePoolNameFromMap req.parameters) p S L)
    (hname : req.name ≠ "") (hv : req.sourceVolumeId ≠ "") (hS : h.fs.node S ≠ none)
    (hl : locate (join [p.path, req.name]) = some l)
    (hw : locate (p.sourceDir req.name req.sourceVolumeId) = some w)
    (hs : locate (p.sourcePoolDir req.sourceVolumeId) = some s) (hnone : h.fs.node l = none)
    (hb : h.fs.blocked l = false) :
    hpc.Works req h ↔ h.fs.node s ≠ none ∧ Reflink.Fillable h.fs (l ++ [dataPath]) w s := by
  constructor
  · intro hworks
    exact (createSnapshot_missing_iff (h := { h with outcomes := fun _ => Outcome.fine }) site hname
      hv (fun _ => rfl) hS hl hw hs hnone hb).mp (hworks _ fun _ => rfl)
  · intro hfill outcomes hf
    exact (createSnapshot_missing_iff (h := { h with outcomes }) site hname hv hf hS hl hw hs hnone
      hb).mpr hfill

/-- **The first `MkdirAll` failed.** -/
lemma harmless_of_data (site : hpc.Site (getStoragePoolNameFromMap req.parameters) p S L)
    (hname : req.name ≠ "") (hv : req.sourceVolumeId ≠ "") (hS : h.fs.node S = some Node.dir)
    (hl : locate (join [p.path, req.name]) = some l) (hnone : h.fs.node l = none)
    (hb : h.fs.blocked l = false) {m : Host} (hq : Quiet h m) (reach : Loc → Bool) :
    hpc.Harmless p req h (m.made (l ++ [dataPath]) fun q => reach q && q ≠ l ++ [dataPath])
      ↔ Reflink.Decodes h.fs S
        ∧ (∀ q, h.fs.created l reach q → q ≠ l ∧ Reflink.Unseen h S m.now q) ∧ hpc.Works req h := by
  have hd := Reflink.locate_dataDir_at site.snapshots hl
  have hbd : h.fs.blocked (l ++ [dataPath]) = false := h.fs.blocked_append _ hnone hb
  set k := m.made (l ++ [dataPath]) fun q => reach q && q ≠ l ++ [dataPath] with hk
  have hkfs : k.fs = h.fs.create (l ++ [dataPath]) fun q => reach q && q ≠ l ++ [dataPath] := by
    rw [hk, made_fs, hq.fs]
  have hnew : ∀ q, h.fs.node q = none ∧ k.fs.node q ≠ none ↔ h.fs.created l reach q := fun q => by
    rw [hkfs, h.fs.new_iff_created hbd (locate_valid hd), h.fs.created_concat]
  have hA : Reflink.Adds S m.now h k := Reflink.adds_made S _ _ hq
  have hworks : hpc.Works req k ↔ k.fs.node l = none ∧ hpc.Works req h := by
    have hkS : k.fs.node S ≠ none := by rw [hA.keeps S (by simp [hS]), hS]; simp
    by_cases hkl : k.fs.node l = none
    · have hkb : k.fs.blocked l = false := by
        rw [hkfs]
        exact h.fs.blocked_create hb _ _
      have hw := locate_join site.snapshots [req.name, req.sourceVolumeId]
      have hs := locate_join site.volumes [req.sourceVolumeId]
      rw [works_of_missing site hname hv hkS hl hw hs hkl hkb,
        works_of_missing site hname hv (by simp [hS]) hl hw hs hnone hb, hkfs,
        Reflink.fillable_create_iff hbd (locate_valid hd)]
      simp only [← hkfs, hkl, true_and]
      refine and_congr_left fun hfill => ?_
      rw [hkfs, FileTree.create_node_off_way _ _ hfill.2.2.2.2.1]
    · have hdir : k.fs.node l = some Node.dir := made_new_dir (by rw [hq.fs]; exact hnone) hkl
      rw [works_of_present site hname hv hkS hl hdir]
      refine iff_of_false (fun hsrc => ?_) fun hno => hkl hno.1
      have hin := (Reflink.dir_of_sourceOf hsrc).1
      have hbelow : h.fs.node (l ++ [req.sourceVolumeId]) = none :=
        FileTree.node_none_of_below (List.prefix_append l _) hnone
      have hlong := ((hnew _).mp ⟨hbelow, by rw [hin]; simp⟩).1.length_le
      simp at hlong
  rw [harmless_iff site.snapshots, hworks]
  refine and_congr_right fun hdec => ?_
  rw [hA.listing_iff site.snapshots hdec]
  constructor
  · rintro ⟨hun, hkl, hwork⟩
    refine ⟨fun q hq' => ?_, hwork⟩
    obtain ⟨hqn, hqk⟩ := (hnew q).mpr hq'
    exact ⟨fun heq => hqk (heq ▸ hkl), hun q hqn hqk⟩
  · rintro ⟨hmade, hwork⟩
    refine ⟨fun q hqn hqk => (hmade q ((hnew q).mp ⟨hqn, hqk⟩)).2, ?_, hwork⟩
    by_contra hkl
    exact (hmade l ((hnew l).mp ⟨hnone, hkl⟩)).1 rfl

/-- **The second `MkdirAll` failed**: the snapshot's directory is there without its source. -/
lemma not_works_of_source (site : hpc.Site (getStoragePoolNameFromMap req.parameters) p S L)
    (hname : req.name ≠ "") (hv : req.sourceVolumeId ≠ "") (hS : h.fs.node S = some Node.dir)
    (hl : locate (join [p.path, req.name]) = some l) (hnone : h.fs.node l = none)
    (hb : h.fs.blocked l = false) {m : Host} (hq : Quiet h m)
    (hcut : Reflink.MkdirCut (m.made (l ++ [dataPath]) fun _ => true)
      (p.sourceDir req.name req.sourceVolumeId) h') : ¬ hpc.Works req h' := by
  have hd := Reflink.locate_dataDir_at site.snapshots hl
  set m₁ := m.made (l ++ [dataPath]) fun _ => true with hm₁
  have hm₁fs : m₁.fs = h.fs.create (l ++ [dataPath]) fun _ => true := by rw [hm₁, made_fs, hq.fs]
  have hkeep : ∀ q x, m₁.fs.node q = some x → h'.fs.node q = some x := by
    intro q x hx
    rcases hcut with ⟨rfl, _⟩ | ⟨w, reach, _, _, rfl⟩
    · exact hx
    · exact FileTree.create_node_of_some _ _ hx
  have hdir : h'.fs.node l = some Node.dir := hkeep l _ (by
    rw [hm₁fs]
    exact h.fs.create_node_on_way (h.fs.blocked_append _ hnone hb) (locate_valid hd)
      (List.prefix_append l _))
  have hS' : h'.fs.node S ≠ none := by
    rw [hkeep S _ (by rw [hm₁fs]; exact h.fs.create_node_of_some _ hS)]
    simp
  rw [works_of_present site hname hv hS' hl hdir]
  intro hsrc
  obtain ⟨hin, hvd⟩ := Reflink.dir_of_sourceOf hsrc
  have hw := Reflink.locate_sourceDir_at site.snapshots hl
    (h'.fs.valid (l := l) (n := req.sourceVolumeId) (by rw [hin]; simp))
  -- the directory that would name the source is the one that was not made
  have hmiss : m₁.fs.node (l ++ [req.sourceVolumeId]) = none := by
    rw [hm₁fs, FileTree.create_node_off_way _ _ fun hp => (apart_of_ne hvd).1 hp]
    exact FileTree.node_none_of_below (List.prefix_append l _) hnone
  rcases hcut with ⟨rfl, _⟩ | ⟨w, reach, hw', _, rfl⟩
  · cases hmiss.symm.trans hin
  · cases hw.symm.trans hw'
    have hgone : (m₁.fs.create (l ++ [req.sourceVolumeId])
        fun q => reach q && q ≠ l ++ [req.sourceVolumeId]).node (l ++ [req.sourceVolumeId]) = none :=
      m₁.fs.create_node_of_none hmiss fun _ => by simp
    cases hgone.symm.trans hin

/-- **The copy failed**, after both directories were made. -/
lemma harmless_of_copy (site : hpc.Site (getStoragePoolNameFromMap req.parameters) p S L)
    (hname : req.name ≠ "") (hv : req.sourceVolumeId ≠ "") (hS : h.fs.node S = some Node.dir)
    (hl : locate (join [p.path, req.name]) = some l) (hnone : h.fs.node l = none) {m m₂ : Host}
    (hq : Quiet h m)
    (hprep : Reflink.Prepared p req.name req.sourceVolumeId m m₂ (l ++ [dataPath]) w)
    (hcopy : h' = m₂.tick ∨ ∃ s keep, h' = m₂.tick.overlaid s (l ++ [dataPath]) keep) :
    hpc.Harmless p req h h' ↔ Reflink.Decodes h.fs S ∧ ValidName req.sourceVolumeId
      ∧ req.sourceVolumeId ≠ dataPath
      ∧ ∀ q, h.fs.created l (fun _ => true) q → Reflink.Unseen h S m.tick.now q := by
  have hout : ∀ q, ¬ l ++ [dataPath] <+: q → h'.fs.node q = m₂.fs.node q := by
    intro q hq'
    rcases hcopy with rfl | ⟨s, keep, rfl⟩
    · rfl
    · exact FileTree.overlay_node_outside _ _ hq'
  have hkeep : ∀ q, ¬ l ++ [dataPath] <+: q →
      (m.fs.create (l ++ [dataPath]) fun _ => true).node q = some Node.dir →
      h'.fs.node q = some Node.dir := by
    intro q hq' hx
    rw [hout q hq', hprep.after]
    exact FileTree.create_node_of_some _ _ hx
  have hdir : h'.fs.node l = some Node.dir :=
    hkeep l (fun hp => by simpa using hp.length_le) (m.fs.create_node_on_way hprep.data
      (locate_valid hprep.locData) (List.prefix_append l _))
  have hS' : h'.fs.node S ≠ none := by
    rw [hkeep S (Reflink.outside_data hnone (by simp [hS])).1
      (m.fs.create_node_of_some _ (by rw [hq.fs]; exact hS))]
    simp
  rw [harmless_iff site.snapshots, works_of_present site hname hv hS' hl hdir]
  refine and_congr_right fun hdec => ?_
  -- a source that is read back is a plain name, and then both directories are in the snapshot
  have hplain : Reflink.sourceOf h'.fs l = some req.sourceVolumeId →
      ValidName req.sourceVolumeId ∧ req.sourceVolumeId ≠ dataPath := fun hsrc => by
    obtain ⟨hin, hvd⟩ := Reflink.dir_of_sourceOf hsrc
    exact ⟨h'.fs.valid (l := l) (by rw [hin]; simp), hvd⟩
  have hgrown : ValidName req.sourceVolumeId → req.sourceVolumeId ≠ dataPath →
      Reflink.Grown l req.sourceVolumeId h.fs h'.fs ∧ Reflink.Adds S m.tick.now h h' := by
    intro hvn hvd
    cases (Reflink.locate_sourceDir_at site.snapshots hl hvn).symm.trans hprep.locSource
    have hG := hprep.grown
    rw [hq.fs] at hG
    have hA := hprep.adds hq hnone hS
    rcases hcopy with rfl | ⟨s, keep, rfl⟩
    · exact ⟨hG, hA.keeps, hA.entry, hA.inside, hA.ctime⟩
    · exact ⟨hG.overlay hvd hnone s keep, hA.overlaid hG hvd hnone hS s keep⟩
  constructor
  · rintro ⟨hlist, hsrc⟩
    obtain ⟨hvn, hvd⟩ := hplain hsrc
    obtain ⟨hG, hA⟩ := hgrown hvn hvd
    refine ⟨hvn, hvd, fun q hc => (hA.listing_iff site.snapshots hdec).mp hlist q hc.2.1 ?_⟩
    rw [hG.way q (Or.inl (hc.1.trans (List.prefix_append l _)))]
    simp
  · rintro ⟨hvn, hvd, hmade⟩
    obtain ⟨hG, hA⟩ := hgrown hvn hvd
    refine ⟨(hA.listing_iff site.snapshots hdec).mpr fun q hqn hqn' => ?_, hG.source hvd hnone⟩
    have hun : ∀ x, l ≠ S ++ [x] := fun x =>
      (hmade l ⟨List.prefix_refl l, hnone, fun _ _ _ => rfl⟩ x).1
    have hway : ∀ y, q <+: l ++ [y] → Reflink.Unseen h S m.tick.now q := by
      intro y hp
      rcases List.prefix_concat_iff.mp hp with rfl | hp'
      · exact Reflink.unseen_below hnone hS hun y []
      · exact hmade q ⟨hp', hqn, fun _ _ _ => rfl⟩
    rcases hG.new_cases hqn hqn' with hp | hp | ⟨k, rfl⟩
    · exact hway _ hp
    · exact hway _ hp
    · rw [List.append_assoc]
      exact Reflink.unseen_below hnone hS hun dataPath k

/--
  **Which failed requests do no harm.**

  Take any state in which the snapshot directory is there, and any request in which one of the
  calls that make directories or copy fails.  The snapshots that are listed are what they were
  before, and the request succeeds later, exactly if the listing worked before and the failure was
  one of the two kinds of `FailsSafely`.
-/
theorem failed_snapshot_harmless_iff {err : Err}
    (site : hpc.Site (getStoragePoolNameFromMap req.parameters) p S L)
    (hS : h.fs.node S = some Node.dir) (hl : locate (join [p.path, req.name]) = some l)
    (e : h.exec (hpc.createSnapshot (some req)) = (Except.error err, h'))
    (hfail : ¬ Along step Reflink.Succeeds (hpc.createSnapshot (some req)).run h) :
    hpc.Harmless p req h h' ↔ p.Listable h ∧ FailsSafely p req h S l := by
  obtain ⟨hname, hv⟩ := createSnapshot_named hfail
  obtain ⟨hnone, hb, hff⟩ := failed_createSnapshot site (by simp [hS]) hl e hfail
  have hq : Quiet h h.tick.tick.tick.tick := ⟨4, rfl⟩
  rw [Reflink.listable_iff site.snapshots]
  cases hff with
  | @data reach hf =>
      rw [harmless_of_data site hname hv hS hl hnone hb (hq.trans (Quiet.tick _)) reach]
      have hworks := fun {w s : Loc} (hw : locate (p.sourceDir req.name req.sourceVolumeId) = some w)
        (hs : locate (p.sourcePoolDir req.sourceVolumeId) = some s) =>
        works_of_missing site hname hv (by simp [hS]) hl hw hs hnone hb
      have hw := locate_join site.snapshots [req.name, req.sourceVolumeId]
      have hs := locate_join site.volumes [req.sourceVolumeId]
      refine and_congr_right fun _ => ⟨fun ⟨hmade, hwork⟩ =>
        FailsSafely.data hf hmade hw hs ((hworks hw hs).mp hwork), ?_⟩
      rintro (⟨hf', hmade, hw', hs', hfill⟩ | ⟨hf', _⟩)
      · cases hf.symm.trans hf'
        exact ⟨hmade, (hworks hw' hs').mpr hfill⟩
      · cases hf.symm.trans hf'
  | source hf hcut =>
      have hno := not_works_of_source site hname hv hS hl hnone hb (hq.trans (Quiet.tick _)) hcut
      refine iff_of_false (fun hh => hno hh.2) ?_
      rintro ⟨_, ⟨hf', _⟩ | ⟨_, hf₁, hvn, hvd, _⟩⟩
      · cases hf.symm.trans hf'
      · have hw := Reflink.locate_sourceDir_at site.snapshots hl hvn
        rcases hcut with ⟨_, hblocked⟩ | ⟨_, reach, _, hf', _⟩
        · have hd := Reflink.locate_dataDir_at site.snapshots hl
          have hdir : (h.fs.create (l ++ [dataPath]) fun _ => true).node l = some Node.dir :=
            h.fs.create_node_on_way (h.fs.blocked_append _ hnone hb) (locate_valid hd)
              (List.prefix_append l _)
          have hfree := FileTree.blocked_concat (n := req.sourceVolumeId) _ hdir (Or.inl (by
            rw [FileTree.create_node_off_way _ _ fun hp => (apart_of_ne hvd).1 hp]
            exact FileTree.node_none_of_below (List.prefix_append l _) hnone))
          cases hfree.symm.trans (hblocked _ hw)
        · cases hf₁.symm.trans hf'
  | copy hf₀ hf₁ hprep hcopy =>
      rw [harmless_of_copy site hname hv hS hl hnone hq hprep hcopy]
      refine and_congr_right fun _ => ⟨fun ⟨hvn, hvd, hmade⟩ => FailsSafely.copy hf₀ hf₁ hvn hvd hmade,
        ?_⟩
      rintro (⟨hf', _⟩ | ⟨_, _, hvn, hvd, hmade⟩)
      · cases hf₀.symm.trans hf'
      · exact ⟨hvn, hvd, hmade⟩

end HostPathController

namespace Sample

/-- The first `MkdirAll` of a request fails at once. -/
def failingHost : Host :=
  { host with outcomes := fun n =>
      if n = 4 then { Outcome.fine with fault := some fun _ => false } else Outcome.fine }

def failedHost : Host := (failingHost.exec (controller.createSnapshot (some snapshotRequest))).2

/-- The volume is there and can be copied. -/
lemma host_fillable : failingHost.fs.node ["pool", "vol"] ≠ none ∧ Reflink.Fillable failingHost.fs
    ["snapshots", "snap", dataPath] ["snapshots", "snap", "vol"] ["pool", "vol"] :=
  ⟨by decide, by decide, by decide, by decide, by decide, by decide, by decide +kernel⟩

def secondRequest : CreateSnapshotRequest := ⟨"second", "vol", parameters⟩

/-- The host after a second request, of which the call number `k` failed. -/
def brokenHost (k : ℕ) : Host :=
  (Host.exec { listedHost with outcomes := Outcome.failAt k }
    (controller.createSnapshot (some secondRequest))).2

end Sample

/-- A request that fails before anything is made does no harm. -/
theorem sample_failed_harmless :
    Sample.controller.Harmless Sample.provider Sample.snapshotRequest Sample.failingHost
      Sample.failedHost := by
  have hfail : (Sample.failingHost.exec
      (Sample.controller.createSnapshot (some Sample.snapshotRequest))).1.toOption.isNone = true := by
    decide +kernel
  obtain ⟨err, hfail⟩ := exec_eq_error hfail
  refine (HostPathController.failed_snapshot_harmless_iff (l := ["snapshots", "snap"]) Sample.site
    (by decide) (by decide) hfail (by decide +kernel)).mpr ⟨?_, ?_⟩
  · refine (Reflink.listable_iff (S := ["snapshots"]) (by decide)).mpr ⟨by decide, fun n hn => ?_⟩
    have hmem : n ∈ Sample.failingHost.fs.list ["snapshots"] :=
      Sample.failingHost.fs.mem_list.mpr (by rw [hn]; simp)
    rw [show Sample.failingHost.fs.list ["snapshots"] = [] by decide] at hmem
    cases hmem
  · have hfault : (Sample.failingHost.outcomes 4).fault = some fun _ => false := rfl
    refine HostPathController.FailsSafely.data hfault (fun q hq => ?_)
      (w := ["snapshots", "snap", "vol"]) (s := ["pool", "vol"]) (by decide) (by decide)
      Sample.host_fillable
    cases hq.2.2 q ((List.mem_inits q q).mpr (List.prefix_refl q)) hq.2.1

/-- In a state that is reached, a request whose second `MkdirAll` fails leaves a listing and a
request that fail, and one whose copy fails leaves a snapshot in the listing that was never
taken. -/
theorem failed_snapshot_shows :
    Run (Sample.driver.Step SnapshotRequest) Sample.freshHost Sample.firstSnapshot Sample.listedHost
      ∧ (∃ m, Sample.listedHost.exec Sample.provider.getAllSnapshots
        = (Except.ok [⟨"snap", "vol", 0, true⟩], m))
      ∧ (∃ err, Host.exec { Sample.listedHost with outcomes := Outcome.failAt 5 }
        (Sample.controller.createSnapshot (some Sample.secondRequest))
          = (Except.error err, Sample.brokenHost 5))
      ∧ (∃ err m, (Sample.brokenHost 5).exec Sample.provider.getAllSnapshots = (Except.error err, m))
      ∧ (∃ err m, (Sample.brokenHost 5).exec
        (Sample.controller.createSnapshot (some Sample.secondRequest)) = (Except.error err, m))
      ∧ (∃ err, Host.exec { Sample.listedHost with outcomes := Outcome.failAt 6 }
        (Sample.controller.createSnapshot (some Sample.secondRequest))
          = (Except.error err, Sample.brokenHost 6))
      ∧ ∃ m, (Sample.brokenHost 6).exec Sample.provider.getAllSnapshots
        = (Except.ok [⟨"second", "vol", 0, true⟩, ⟨"snap", "vol", 0, true⟩], m) := by
  have hfive : (Host.exec { Sample.listedHost with outcomes := Outcome.failAt 5 }
      (Sample.controller.createSnapshot (some Sample.secondRequest))).1.toOption.isNone = true := by
    decide +kernel
  have hlist : ((Sample.brokenHost 5).exec Sample.provider.getAllSnapshots).1.toOption.isNone
      = true := by decide +kernel
  have hagain : ((Sample.brokenHost 5).exec
      (Sample.controller.createSnapshot (some Sample.secondRequest))).1.toOption.isNone = true := by
    decide +kernel
  have hsix : (Host.exec { Sample.listedHost with outcomes := Outcome.failAt 6 }
      (Sample.controller.createSnapshot (some Sample.secondRequest))).1.toOption.isNone = true := by
    decide +kernel
  obtain ⟨err₁, hlist⟩ := exec_eq_error hlist
  obtain ⟨err₂, hagain⟩ := exec_eq_error hagain
  exact ⟨Sample.firstSnapshot_run, ⟨_, exec_eq_ok (by decide +kernel)⟩, exec_eq_error hfive,
    ⟨err₁, _, hlist⟩, ⟨err₂, _, hagain⟩, exec_eq_error hsix, ⟨_, exec_eq_ok (by decide +kernel)⟩⟩

end Hostpath
