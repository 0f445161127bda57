import Hostpath.Csi.Layout

/-!
# What the requests do to a snapshot directory

A *site* is a pool that has a snapshot provider, with the locations of its two directories.  For
every controller request this file says what can happen at one snapshot `id` of one site: nothing
(`Untouched`), it is taken (`createSnapshot_site`), or it is removed (`deleteSnapshot_site`).
-/

namespace Hostpath

open Lib FilePath Prog Host

namespace HostPathController

variable {hpc : HostPathController} {h h' m : Host} {a b id : String} {p p' : Reflink}
  {S S' L L' : Loc} {P : Host → Syscall → Prop}

/-- The pool `a` has the provider `p`, its volumes are in `L` and its snapshots in `S`. -/
structure Site (hpc : HostPathController) (a : String) (p : Reflink) (S L : Loc) : Prop where
  provider : hpc.snapshotproviders.lookup a = some p
  pool : ∃ info, hpc.cfg.storagePoolInfo.lookup a = some info ∧ info.loc = some L
    ∧ info.snapshotLoc = some S
  snapshots : locate p.path = some S
  volumes : locate p.sourcePath = some L

lemma exists_site (hlay : hpc.cfg.Layout) (hwf : hpc.WellFormed)
    (hp : hpc.snapshotproviders.lookup a = some p) : ∃ S L, hpc.Site a p S L := by
  obtain ⟨info, hi, hpath, hsrc⟩ := hwf a p hp
  obtain ⟨S, hS⟩ := hlay.snapshot_loc hi hpath
  obtain ⟨L, hL⟩ := hlay.pool_loc hi
  refine ⟨S, L, hp, ⟨info, hi, hL, ?_⟩, hS, ?_⟩
  · rw [StoragePoolInfo.snapshotLoc, hpath]
    exact hS
  · rw [← hsrc]
    exact hL

namespace Site

lemma apart_pool {info : StoragePoolInfo} {k : Loc} (hlay : hpc.cfg.Layout)
    (site : hpc.Site a p S L) (hb : hpc.cfg.storagePoolInfo.lookup b = some info)
    (hk : info.loc = some k) : Apart k S := by
  obtain ⟨info', hi, _, hS⟩ := site.pool
  exact hlay.across hb hi hk hS

lemma apart_self (hlay : hpc.cfg.Layout) (site : hpc.Site a p S L) : Apart L S := by
  obtain ⟨info, hi, hL, _⟩ := site.pool
  exact site.apart_pool hlay hi hL

lemma apart (hlay : hpc.cfg.Layout) (site : hpc.Site a p S L) (site' : hpc.Site b p' S' L')
    (hab : a ≠ b) : Apart S S' := by
  obtain ⟨i, hi, _, hS⟩ := site.pool
  obtain ⟨j, hj, _, hS'⟩ := site'.pool
  exact hlay.snapshots hi hj hab hS hS'

lemma unique (site : hpc.Site a p S L) (site' : hpc.Site a p' S' L') :
    p = p' ∧ S = S' ∧ L = L' := by
  obtain ⟨hp, _, hS, hL⟩ := site
  obtain ⟨hp', _, hS', hL'⟩ := site'
  rw [hp] at hp'
  cases hp'
  rw [hS] at hS'
  rw [hL] at hL'
  cases hS'
  cases hL'
  exact ⟨rfl, rfl, rfl⟩

lemma not_mountedBelow (hu : hpc.cfg.Unmounted h) (site : hpc.Site a p S L) :
    ¬ h.MountedBelow S := by
  obtain ⟨info, hi, _, hS⟩ := site.pool
  exact hu.snapshot hi hS

/-- Two snapshots of different names or sites do not meet. -/
lemma not_area (hlay : hpc.cfg.Layout) (site : hpc.Site a p S L) (site' : hpc.Site b p' S' L')
    {id' : String} (hne : ¬ (a = b ∧ id = id')) {q : Loc} (hq : S ++ [id] <+: q) :
    ¬ Reflink.Area S' id' q := by
  by_cases hab : a = b
  · subst hab
    obtain ⟨_, rfl, _⟩ := site.unique site'
    rintro (h₁ | h₁)
    · exact not_prefix_of_below hq h₁
    · exact (apart_of_ne fun hid => hne ⟨rfl, hid⟩).not_below hq h₁
  · have hap := site.apart hlay site' hab
    rintro (h₁ | h₁)
    · exact hap.1 ((List.prefix_append S _).trans (hq.trans h₁))
    · exact hap.not_below ((List.prefix_append S _).trans hq) ((List.prefix_append S' _).trans h₁)

end Site

/-! ## Taking a snapshot -/

lemma Initialized.frame {path : String} (hS : locate p.path = some S)
    (hi : Initialized h p path m) : Frame (fun q => q <+: S) h m := by
  rcases hi with ⟨hq, _⟩ | ⟨_, l, m₀, hq, hl, _, rfl⟩
  · exact Frame.of_quiet hq
  · rw [hS] at hl
    cases hl
    exact (Frame.of_quiet hq).trans (Frame.made _ fun q hq _ => hq)

/-- Looking for a snapshot changes nothing unless there is none, and then fills it. -/
lemma Sought.cases {v : String} {res : Except Err Snapshot} (hS : locate p.path = some S)
    (hid : ValidName id) (hs : Sought P p id v m res h') :
    (Quiet m h' ∧ ∀ snap, res = Except.ok snap →
        p.Found m.fs snap ∧ snap.snapshotId = id ∧ snap.sourceVolumeId = v)
      ∨ m.fs.node (S ++ [id]) = none ∧ m.at? (p.sourcePoolDir v) ≠ none
        ∧ ∃ m', Quiet m m' ∧ p.Filled P id v m' res h' := by
  cases hs with
  | failed hq => exact Or.inl ⟨hq, by simp⟩
  | found hq hf hid hsrc =>
      refine Or.inl ⟨hq, fun snap hsnap => ?_⟩
      cases hsnap
      exact ⟨hf, hid, hsrc⟩
  | new hq habs he hP =>
      have hnone : m.fs.node (S ++ [id]) = none := by
        rwa [at?, locate_join_valid hS hid] at habs
      have hdata : ∀ {m' : Host}, m'.fs = m.fs → m'.at? (p.dataDir id) = none := by
        intro m' hfs
        rw [at?, Reflink.locate_dataDir hS hid, Option.bind_some, hfs]
        exact FileTree.node_none_of_below ⟨[dataPath], by simp⟩ hnone
      rcases Reflink.createSnapshot_new he hP (hdata hq.fs) with ⟨hq', hno⟩ | ⟨m', hq', hsrc, hf⟩
      · exact Or.inl ⟨hq.trans hq', fun snap hsnap => absurd hsnap (hno snap)⟩
      · refine Or.inr ⟨hnone, ?_, m', hq.trans hq', hf⟩
        unfold at? at hsrc ⊢
        rwa [hq.fs] at hsrc

/-- **What a request for a snapshot does**, in terms of the site it is for. -/
lemma createSnapshot_effect {r : Option CreateSnapshotRequest} {res : Except Err Snapshot}
    (hlay : hpc.cfg.Layout) (hwf : hpc.WellFormed)
    (hreq : ∀ req, r = some req → ValidName req.name)
    (e : h.exec (hpc.createSnapshot r) = (res, h'))
    (hP : Along step P (hpc.createSnapshot r).run h) :
    (Quiet h h' ∧ ∀ snap, res ≠ Except.ok snap)
      ∨ ∃ req p S L, r = some req ∧ hpc.Site (getStoragePoolNameFromMap req.parameters) p S L
        ∧ ((Frame (fun q => q <+: S) h h' ∧ ∀ snap, res = Except.ok snap →
              p.Found h.fs snap ∧ snap.snapshotId = req.name
                ∧ snap.sourceVolumeId = req.sourceVolumeId)
          ∨ h.fs.node (S ++ [req.name]) = none
            ∧ ∃ m, Frame (fun q => q <+: S) h m ∧ m.at? (p.sourcePoolDir req.sourceVolumeId) ≠ none
              ∧ p.Filled P req.name req.sourceVolumeId m res h') := by
  rcases createSnapshot_cases e hP with hq | ⟨req, info, path, p, rfl, hi, hpath, hp, hcases⟩
  · exact Or.inl hq
  obtain ⟨S, L, site⟩ := exists_site hlay hwf hp
  have hS := site.snapshots
  refine Or.inr ⟨req, p, S, L, rfl, site, ?_⟩
  rcases hcases with ⟨hno, m, hq, hcut⟩ | ⟨m, hini, hsought⟩
  · exact Or.inl ⟨(Frame.of_quiet hq).trans (Frame.mkdirCut hS hcut fun q hq _ => hq),
      fun snap hsnap => absurd hsnap (hno snap)⟩
  · have hf := hini.frame hS
    have hid := hreq req rfl
    rcases hsought.cases hS hid with ⟨hq, hfound⟩ | ⟨hnone, hsrc, m', hq, hfill⟩
    · refine Or.inl ⟨hf.trans (Frame.of_quiet hq), fun snap hsnap => ?_⟩
      obtain ⟨⟨l, hl, hne, hdir⟩, hsid, hsv⟩ := hfound snap hsnap
      refine ⟨⟨l, hl, hne, ?_⟩, hsid, hsv⟩
      rw [hsid, locate_join_valid hS hid] at hl
      cases hl
      rwa [← hf.node _ (not_prefix_of_below (n := req.name) ⟨[snap.sourceVolumeId], rfl⟩)]
    · refine Or.inr ⟨?_, m', hf.trans (Frame.of_quiet hq), ?_, hfill⟩
      · rwa [← hf.node _ (not_prefix_of_below (List.prefix_refl (S ++ [req.name])))]
      · unfold at? at hsrc ⊢
        rwa [hq.fs]

lemma createSnapshot_mounts {r : Option CreateSnapshotRequest} {res : Except Err Snapshot}
    (hlay : hpc.cfg.Layout) (hwf : hpc.WellFormed)
    (hreq : ∀ req, r = some req → ValidName req.name ∧ ValidName req.sourceVolumeId)
    (e : h.exec (hpc.createSnapshot r) = (res, h')) : h'.mounts = h.mounts := by
  have htrue : Along step (fun _ _ => True) (hpc.createSnapshot r).run h := along_true _ _
  rcases createSnapshot_effect hlay hwf (fun req hr => (hreq req hr).1) e htrue with
    ⟨hq, _⟩ | ⟨req, p, S, L, rfl, site, ⟨hf, _⟩ | ⟨_, m, hf, _, hfill⟩⟩
  · exact hq.mounts
  · exact hf.mounts
  · obtain ⟨hid, hv⟩ := hreq req rfl
    exact (hfill.frame site.snapshots hid hv).mounts.trans hf.mounts

/-- **A request for a snapshot leaves every snapshot alone, or takes the one it names.** -/
lemma createSnapshot_site {r : Option CreateSnapshotRequest} {res : Except Err Snapshot}
    (hlay : hpc.cfg.Layout) (hwf : hpc.WellFormed) (site : hpc.Site a p S L)
    (hreq : ∀ req, r = some req → ValidName req.name ∧ ValidName req.sourceVolumeId)
    (e : h.exec (hpc.createSnapshot r) = (res, h'))
    (hP : Along step P (hpc.createSnapshot r).run h) (id : String) :
    Untouched (S ++ [id]) h h'
      ∨ ∃ req m, r = some req ∧ getStoragePoolNameFromMap req.parameters = a ∧ req.name = id
        ∧ h.fs.node (S ++ [id]) = none ∧ Frame (fun q => q <+: S) h m
        ∧ m.at? (p.sourcePoolDir req.sourceVolumeId) ≠ none
        ∧ p.Filled P id req.sourceVolumeId m res h' := by
  rcases createSnapshot_effect hlay hwf (fun req hr => (hreq req hr).1) e hP with
    ⟨hq, _⟩ | ⟨req, p', S', L', rfl, site', hcases⟩
  · exact Or.inl (Untouched.of_quiet hq)
  obtain ⟨hname, hv⟩ := hreq req rfl
  by_cases hsame : a = getStoragePoolNameFromMap req.parameters ∧ id = req.name
  · obtain ⟨rfl, rfl⟩ := hsame
    obtain ⟨rfl, rfl, rfl⟩ := site.unique site'
    rcases hcases with ⟨hf, _⟩ | ⟨hnone, m, hf, hsrc, hfill⟩
    · exact Or.inl (Untouched.of_frame hf fun q hq => not_prefix_of_below hq)
    · exact Or.inr ⟨req, m, rfl, rfl, rfl, hnone, hf, hsrc, hfill⟩
  · refine Or.inl (Untouched.of_frame (S := Reflink.Area S' req.name) ?_ fun q hq =>
      site.not_area hlay site' hsame hq)
    rcases hcases with ⟨hf, _⟩ | ⟨_, m, hf, _, hfill⟩
    · exact hf.mono fun q hq => Or.inl hq
    · exact (hf.mono fun q hq => Or.inl hq).trans (hfill.frame site'.snapshots hname hv)

/-! ## Deleting a snapshot -/

/-- Deleting from one provider touches one directory, and takes all of it unless removing
fails. -/
lemma deleteSnapshot_provider {res : Except Err Unit} (hS : locate p.path = some S)
    (hid : ValidName id) (hm : ¬ h.MountedBelow S)
    (hrem : ∀ m path, P m (Syscall.removeAll path) → (m.outcomes 0).fault = none)
    (e : h.exec (p.deleteSnapshot id) = (res, h'))
    (hP : Along step P (p.deleteSnapshot id).run h) :
    Frame (fun q => S ++ [id] <+: q) h h'
      ∧ (Quiet h h' ∨ h'.fs.node (S ++ [id]) = none) := by
  rcases Reflink.deleteSnapshot_cases e hP with hq | ⟨l, m, gone, hq, hl, rfl, hcall, hgone⟩
  · exact ⟨Frame.of_quiet hq, Or.inl hq⟩
  rw [locate_join_valid hS hid] at hl
  cases hl
  cases hgone (hrem _ _ hcall)
  have hq' : Quiet h m.tick := hq.trans (Quiet.tick m)
  have hm' : ¬ m.tick.MountedBelow (S ++ [id]) :=
    (Frame.of_quiet (S := fun _ => False) hq').not_mountedBelow
      (not_mountedBelow_of_below (List.prefix_append S _) hm)
  refine ⟨(Frame.of_quiet hq').trans (Frame.cleared _ hm' fun q hq => hq), Or.inr ?_⟩
  rw [cleared_fs, removed_node (by simp) hm', if_pos (List.prefix_refl _)]

/-- Deleting from a list of providers stays in their directories of that name. -/
lemma deleteFromProviders_frame {ps : List Reflink} {res : Except Err Unit}
    (hps : ∀ p ∈ ps, ∃ S, locate p.path = some S ∧ ¬ h.MountedBelow S) (hid : ValidName id)
    (hrem : ∀ m path, P m (Syscall.removeAll path) → (m.outcomes 0).fault = none)
    (e : h.exec (deleteFromProviders id ps) = (res, h'))
    (hP : Along step P (deleteFromProviders id ps).run h) :
    Frame (fun q => ∃ p ∈ ps, ∃ S, locate p.path = some S ∧ S ++ [id] <+: q) h h' := by
  induction ps generalizing h with
  | nil =>
      cases e
      exact Frame.of_quiet (Quiet.refl _)
  | cons p ps ih =>
      rw [deleteFromProviders] at e hP
      obtain ⟨S, hS, hm⟩ := hps p List.mem_cons_self
      rcases hd : h.exec (p.deleteSnapshot id) with ⟨d, m⟩
      have hf := (deleteSnapshot_provider hS hid hm hrem hd (along_bind_run.mp hP).1).1.mono
        (T := fun q => ∃ p' ∈ p :: ps, ∃ S, locate p'.path = some S ∧ S ++ [id] <+: q)
        fun q hq => ⟨p, List.mem_cons_self, S, hS, hq⟩
      cases d with
      | error err =>
          cases (exec_bind_of_error step hd).symm.trans e
          exact hf
      | ok u =>
          replace e := (exec_bind_of_ok step hd).symm.trans e
          replace hP := (along_bind_run.mp hP).2 _ _ hd
          refine hf.trans ((ih (fun p' hp' => ?_) e hP).mono ?_)
          · obtain ⟨S', hS', hm'⟩ := hps p' (List.mem_cons_of_mem _ hp')
            exact ⟨S', hS', hf.not_mountedBelow hm'⟩
          · rintro q ⟨p', hp', hq⟩
            exact ⟨p', List.mem_cons_of_mem _ hp', hq⟩

/-- At one of these directories, nothing happens or all of it goes. -/
lemma deleteFromProviders_erases {ps : List Reflink} {res : Except Err Unit}
    (hps : ∀ p ∈ ps, ∃ S', locate p.path = some S' ∧ ¬ h.MountedBelow S' ∧ (S' = S ∨ Apart S' S))
    (hid : ValidName id)
    (hrem : ∀ m path, P m (Syscall.removeAll path) → (m.outcomes 0).fault = none)
    (e : h.exec (deleteFromProviders id ps) = (res, h'))
    (hP : Along step P (deleteFromProviders id ps).run h) :
    Untouched (S ++ [id]) h h' ∨ h'.fs.node (S ++ [id]) = none := by
  induction ps generalizing h with
  | nil =>
      cases e
      exact Or.inl (Untouched.of_quiet (Quiet.refl _))
  | cons p ps ih =>
      rw [deleteFromProviders] at e hP
      obtain ⟨S', hS', hm, hor⟩ := hps p List.mem_cons_self
      rcases hd : h.exec (p.deleteSnapshot id) with ⟨d, m⟩
      obtain ⟨hf, hone⟩ := deleteSnapshot_provider hS' hid hm hrem hd (along_bind_run.mp hP).1
      have hfirst : Untouched (S ++ [id]) h m ∨ m.fs.node (S ++ [id]) = none := by
        rcases hor with rfl | hap
        · exact hone.imp Untouched.of_quiet fun hgone => hgone
        · exact Or.inl (Untouched.of_frame hf fun q hq hq' => hap.not_below
            ((List.prefix_append S' _).trans hq') ((List.prefix_append S _).trans hq))
      cases d with
      | error err =>
          cases (exec_bind_of_error step hd).symm.trans e
          exact hfirst
      | ok u =>
          replace e := (exec_bind_of_ok step hd).symm.trans e
          replace hP := (along_bind_run.mp hP).2 _ _ hd
          have hps' : ∀ p' ∈ ps, ∃ S', locate p'.path = some S' ∧ ¬ m.MountedBelow S'
              ∧ (S' = S ∨ Apart S' S) := by
            intro p' hp'
            obtain ⟨S₁, hS₁, hm₁, hor₁⟩ := hps p' (List.mem_cons_of_mem _ hp')
            exact ⟨S₁, hS₁, hf.not_mountedBelow hm₁, hor₁⟩
          rcases ih hps' e hP with hu | hgone
          · rcases hfirst with hu' | hgone
            · exact Or.inl (hu'.trans hu)
            · exact Or.inr ((hu _ (List.prefix_refl _)).trans hgone)
          · exact Or.inr hgone

lemma mem_providers : p ∈ hpc.providers ↔ ∃ a, hpc.snapshotproviders.lookup a = some p := by
  constructor
  · intro h
    obtain ⟨⟨a, i⟩, he, rfl⟩ := List.mem_map.mp h
    exact ⟨a, AList.mem_lookup_iff.mpr he⟩
  · rintro ⟨a, ha⟩
    exact List.mem_map.mpr ⟨⟨a, p⟩, AList.mem_lookup_iff.mp ha, rfl⟩

/-- The sites of all providers. -/
lemma site_of_mem (hlay : hpc.cfg.Layout) (hwf : hpc.WellFormed) (hp : p ∈ hpc.providers) :
    ∃ a S L, hpc.Site a p S L := by
  obtain ⟨a, ha⟩ := mem_providers.mp hp
  exact ⟨a, exists_site hlay hwf ha⟩

lemma deleteSnapshot_run {r : Option DeleteSnapshotRequest} {res : Except Err Unit}
    (e : h.exec (hpc.deleteSnapshot r) = (res, h'))
    (hP : Along step P (hpc.deleteSnapshot r).run h) :
    h' = h ∨ ∃ req, r = some req
      ∧ h.exec (deleteFromProviders req.snapshotId hpc.providers) = (res, h')
      ∧ Along step P (deleteFromProviders req.snapshotId hpc.providers).run h := by
  cases r with
  | none =>
      cases e
      exact Or.inl rfl
  | some req =>
      unfold deleteSnapshot at e hP
      dsimp only at e hP
      split_ifs at e hP with hempty
      · cases e
        exact Or.inl rfl
      · exact Or.inr ⟨req, rfl, e, hP⟩

/-- **Deleting a snapshot leaves every snapshot alone, or removes the one it names.** -/
lemma deleteSnapshot_site {r : Option DeleteSnapshotRequest} {res : Except Err Unit}
    (hlay : hpc.cfg.Layout) (hwf : hpc.WellFormed) (hu : hpc.cfg.Unmounted h)
    (site : hpc.Site a p S L) (hreq : ∀ req, r = some req → ValidName req.snapshotId)
    (hrem : ∀ m path, P m (Syscall.removeAll path) → (m.outcomes 0).fault = none)
    (e : h.exec (hpc.deleteSnapshot r) = (res, h'))
    (hP : Along step P (hpc.deleteSnapshot r).run h) (id : String) :
    h'.mounts = h.mounts ∧ (Untouched (S ++ [id]) h h' ∨ h'.fs.node (S ++ [id]) = none) := by
  rcases deleteSnapshot_run e hP with rfl | ⟨req, rfl, e', hP'⟩
  · exact ⟨rfl, Or.inl (Untouched.of_quiet (Quiet.refl _))⟩
  have hid := hreq req rfl
  have hps : ∀ p' ∈ hpc.providers, ∃ S', locate p'.path = some S' ∧ ¬ h.MountedBelow S'
      ∧ (S' = S ∨ Apart S' S) := by
    intro p' hp'
    obtain ⟨b, S', L', site'⟩ := site_of_mem hlay hwf hp'
    refine ⟨S', site'.snapshots, site'.not_mountedBelow hu, ?_⟩
    by_cases hab : b = a
    · subst hab
      exact Or.inl (site'.unique site).2.1
    · exact Or.inr (site'.apart hlay site hab)
  have hf := deleteFromProviders_frame (fun p' hp' => by
    obtain ⟨S', hS', hm, _⟩ := hps p' hp'
    exact ⟨S', hS', hm⟩) hid hrem e' hP'
  refine ⟨hf.mounts, ?_⟩
  by_cases hne : id = req.snapshotId
  · subst hne
    exact deleteFromProviders_erases hps hid hrem e' hP'
  · refine Or.inl (Untouched.of_frame hf fun q hq => ?_)
    rintro ⟨p', hp', S', hS', hq'⟩
    obtain ⟨S'', hS'', _, hor⟩ := hps p' hp'
    rw [hS'] at hS''
    cases hS''
    rcases hor with rfl | hap
    · exact (apart_of_ne hne).not_below hq hq'
    · exact hap.not_below ((List.prefix_append S' _).trans hq')
        ((List.prefix_append S _).trans hq)

/-! ## The volume requests -/

lemma lookup_of_pool_loc {cfg : Config} {l : Loc} (hl : (cfg.pool a).loc = some l) :
    cfg.storagePoolInfo.lookup a = some (cfg.pool a) := by
  unfold Config.pool at hl ⊢
  cases hi : cfg.storagePoolInfo.lookup a with
  | none =>
      rw [hi] at hl
      cases hl
  | some info => rfl

lemma createVolume_untouched {r : Option CreateVolumeRequest} {res : Except Err Volume}
    (hlay : hpc.cfg.Layout) (hu : hpc.cfg.Unmounted h) (site : hpc.Site a p S L)
    (hreq : ∀ req, r = some req → ValidName req.name)
    (e : h.exec (hpc.createVolume r) = (res, h')) :
    h'.mounts = h.mounts ∧ Untouched S h h' := by
  cases r with
  | none =>
      cases e
      exact ⟨rfl, Untouched.of_quiet (Quiet.refl _)⟩
  | some req =>
      have hf := createVolume_frame hu.pool (hreq req rfl) e
      refine ⟨hf.mounts, Untouched.of_frame hf fun q hq => ?_⟩
      rintro ⟨l, hl, hlq⟩
      exact (site.apart_pool hlay (lookup_of_pool_loc hl) hl).not_below
        ((List.prefix_append l _).trans hlq) hq

/-- A deletion is rejected or removes a volume by its name. -/
lemma deleteVolume_cases {r : Option DeleteVolumeRequest} {res : Except Err Unit}
    (e : h.exec (hpc.deleteVolume r) = (res, h')) :
    (h' = h ∧ res.isOk = false) ∨ ∃ req failed, r = some req
      ∧ h.exec (removeVolumeNamed hpc.cfg.pools req.volumeId failed) = (res, h') := by
  cases r with
  | none =>
      cases e
      exact Or.inl ⟨rfl, rfl⟩
  | some req =>
      unfold deleteVolume validateDeleteVolumeRequest at e
      dsimp only at e
      split_ifs at e with hempty
      · cases e
        exact Or.inl ⟨rfl, rfl⟩
      · exact Or.inr ⟨req, _, rfl, e⟩

/-- Removing a volume by its name takes something away or leaves it. -/
lemma removeVolumeNamed_node_or {h h' : Host} {infos : List StoragePoolInfo} {id : String}
    {failed : String → String} {res : Except Err Unit}
    (e : h.exec (removeVolumeNamed infos id failed) = (res, h')) (q : Loc) :
    h'.fs.node q = h.fs.node q ∨ h'.fs.node q = none := by
  cases res with
  | ok u =>
      rcases (removeVolumeNamed_ok e).2 with ⟨hq, _⟩ | ⟨_, _, l, m, _, _, _, _, hq, rfl⟩
      · exact Or.inl (by rw [hq.fs])
      · rw [← hq.fs]
        exact cleared_node_or m _ _ q
  | error err =>
      rcases removeVolumeNamed_error e with hq | ⟨_, _, l, m, gone, _, _, _, hq, rfl⟩
      · exact Or.inl (by rw [hq.fs])
      · rw [← hq.fs]
        exact cleared_node_or m _ _ q

lemma deleteVolume_node_or {r : Option DeleteVolumeRequest} {res : Except Err Unit}
    (e : h.exec (hpc.deleteVolume r) = (res, h')) (q : Loc) :
    h'.fs.node q = h.fs.node q ∨ h'.fs.node q = none := by
  rcases deleteVolume_cases e with ⟨rfl, _⟩ | ⟨req, failed, rfl, he⟩
  · exact Or.inl rfl
  · exact removeVolumeNamed_node_or he q

lemma deleteVolume_untouched {r : Option DeleteVolumeRequest} {res : Except Err Unit}
    (hlay : hpc.cfg.Layout) (hu : hpc.cfg.Unmounted h) (site : hpc.Site a p S L)
    (e : h.exec (hpc.deleteVolume r) = (res, h')) :
    h'.mounts = h.mounts ∧ Untouched S h h' := by
  rcases deleteVolume_cases e with ⟨rfl, _⟩ | ⟨req, failed, rfl, he⟩
  · exact ⟨rfl, Untouched.of_quiet (Quiet.refl _)⟩
  · have hf := removeVolumeNamed_frame hu.pool he
    refine ⟨hf.mounts, Untouched.of_frame hf fun q hq => ?_⟩
    rintro ⟨b, info, l, hb, hl, hlq⟩
    exact (site.apart_pool hlay hb hl).not_below ((List.prefix_append l _).trans hlq) hq

end HostPathController

end Hostpath
