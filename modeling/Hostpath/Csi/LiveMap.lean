import Hostpath.Csi.Confinement
import Hostpath.Csi.MapOrder
import Hostpath.Csi.Refinement

/-!
# The map of the volumes, call by call

`Config.Holds` relates the map of the volumes to the pools before and after a request.  Here the
same relation is followed through single calls: calls that look, calls that stay in the snapshot
directories, making the directory of a volume and removing it, each of which may be cut short.  The
last part says what a listing of the pools tells of one volume.
-/

namespace Hostpath

open Lib FilePath Prog Host

/-! ## The map under the calls -/

/-- The pools hold the map, and nothing is mounted in the storage. -/
def Config.Shows (cfg : Config) (pool : String → String) (h : Host) (live : GoMap String) : Prop :=
  cfg.Holds pool live h ∧ cfg.Unmounted h

/-- The path leads into a snapshot directory. -/
def Config.InSnapshots (cfg : Config) (p : String) : Prop :=
  ∃ a info k l, cfg.storagePoolInfo.lookup a = some info ∧ info.snapshotLoc = some k
    ∧ locate p = some l ∧ k <+: l

namespace Config.Shows

variable {cfg cfg' : Config} {pool : String → String} {live live' : GoMap String} {h h' : Host}
  {a n : String} {info : StoragePoolInfo} {l : Loc}

lemma of_host (hs : cfg.Shows pool h live) (hfs : h'.fs = h.fs) (hm : h'.mounts = h.mounts) :
    cfg.Shows pool h' live :=
  ⟨hs.1.of_host hfs hm, hs.2.of_mounts hm⟩

lemma of_quiet (hs : cfg.Shows pool h live) (hq : Quiet h h') : cfg.Shows pool h' live :=
  hs.of_host hq.fs hq.mounts

lemma reorders_iff (hre : cfg.Reorders cfg') :
    cfg'.Shows pool h live ↔ cfg.Shows pool h live :=
  ⟨fun hs => ⟨hs.1.reorders hre.symm, hre.symm.unmounted hs.2⟩,
    fun hs => ⟨hs.1.reorders hre, hre.unmounted hs.2⟩⟩

/-- Maps with the same entries describe the same volumes. -/
lemma of_lookup (hs : cfg.Shows pool h live) (hlive : ∀ n, live'.lookup n = live.lookup n) :
    cfg.Shows pool h live' := by
  obtain ⟨⟨h₁, h₂, h₃, h₄⟩, h₅⟩ := hs
  refine ⟨⟨h₁, ?_, ?_, h₄⟩, h₅⟩ <;> simp only [hlive] <;> assumption

/-- Changes away from the pools and the directories of volumes do not matter. -/
lemma of_frame {S : Loc → Prop} (hs : cfg.Shows pool h live) (hf : Frame S h h')
    (hS : ∀ {b info k}, cfg.storagePoolInfo.lookup b = some info → info.loc = some k →
      ¬ S k ∧ ∀ m, ¬ S (k ++ [m])) : cfg.Shows pool h' live := by
  refine ⟨⟨fun b i hb => ?_, fun b i k m hb hk => ?_, hs.1.names,
    hs.1.unmounted.of_mounts hf.mounts⟩, hs.2.of_mounts hf.mounts⟩
  · obtain ⟨k, hk, hkd⟩ := hs.1.pools hb
    exact ⟨k, hk, (hf.node k (hS hb hk).1).trans hkd⟩
  · rw [hf.node _ ((hS hb hk).2 m), hs.1.volumes m hb hk]

/-- The directory of one volume changes, and the map with it. -/
lemma of_volume (hap : cfg.PoolsApart) (hs : cfg.Shows pool h live)
    (ha : cfg.storagePoolInfo.lookup (pool n) = some info) (hl : info.loc = some l)
    (hf : Frame (fun q => l ++ [n] <+: q) h h')
    (hothers : ∀ m, m ≠ n → live'.lookup m = live.lookup m)
    (hn : live'.lookup n = some (pool n) ∧ h'.fs.node (l ++ [n]) = some Node.dir
      ∨ live'.lookup n = none ∧ h'.fs.node (l ++ [n]) = none) : cfg.Shows pool h' live' := by
  refine ⟨⟨fun b i hb => ?_, fun b i k m hb hk => ?_, fun m b hm => ?_,
    hs.1.unmounted.of_mounts hf.mounts⟩, hs.2.of_mounts hf.mounts⟩
  · obtain ⟨k, hk, hkd⟩ := hs.1.pools hb
    exact ⟨k, hk, (hf.node k (hap.pool_not_below ha hl hb hk n)).trans hkd⟩
  · by_cases hmn : m = n
    · subst hmn
      by_cases hbn : pool m = b
      · subst hbn
        cases ha.symm.trans hb
        cases hl.symm.trans hk
        rcases hn with ⟨h₁, h₂⟩ | ⟨h₁, h₂⟩
        · rw [h₂, if_pos h₁]
        · rw [h₂, h₁, if_neg nofun]
      · -- the other pools have no volume of that name, before and after
        have hnot : ¬ (pool m = b ∧ m = m) := fun hc => hbn hc.1
        rw [hf.node _ (hap.volume_not_below ha hl hb hk hnot), hs.1.volumes m hb hk,
          if_neg fun hc => hbn (hs.1.names hc).1.symm, if_neg fun hc => ?_]
        rcases hn with ⟨h₁, _⟩ | ⟨h₁, _⟩
        · exact hbn (Option.some.inj (h₁.symm.trans hc))
        · cases h₁.symm.trans hc
    · have hnot : ¬ (pool n = b ∧ n = m) := fun hc => hmn hc.2.symm
      rw [hf.node _ (hap.volume_not_below ha hl hb hk hnot), hs.1.volumes m hb hk, hothers m hmn]
  · by_cases hmn : m = n
    · subst hmn
      rcases hn with ⟨h₁, _⟩ | ⟨h₁, _⟩
      · cases h₁.symm.trans hm
        exact ⟨rfl, info, ha⟩
      · cases h₁.symm.trans hm
    · rw [hothers m hmn] at hm
      exact hs.1.names hm

/-- A volume is in the map if its directory is in its pool. -/
lemma lookup_iff (hs : cfg.Shows pool h live)
    (ha : cfg.storagePoolInfo.lookup (pool n) = some info) (hl : info.loc = some l) :
    live.lookup n ≠ none ↔ h.fs.node (l ++ [n]) ≠ none := by
  constructor
  · intro hn
    obtain ⟨b, hb⟩ := Option.ne_none_iff_exists'.mp hn
    rw [(hs.1.names hb).1] at hb
    simp [hs.1.dir_of_live hb ha hl]
  · intro hn
    simp [hs.1.live_of_node ha hl hn]

/-- Calls that look keep the map. -/
lemma of_looks (hs : cfg.Shows pool h live) {c : Syscall} (hc : c.Looks) :
    cfg.Shows pool (h.step c).2 live := by
  have hq : Quiet h (h.step c).2 := by
    cases c with
    | statfs | stat | readDir | isNotMountPoint | findmnt => exact Quiet.tick h
    | _ => exact hc.elim
  exact hs.of_quiet hq

/-- What is in a snapshot directory, or on the way to one and missing, is no volume. -/
lemma apart_of_snapshot (hlay : cfg.Layout) (hs : cfg.Shows pool h live) {j : StoragePoolInfo}
    {b c : String} {i : StoragePoolInfo} {k L q : Loc} (hj : cfg.storagePoolInfo.lookup b = some j)
    (hk : j.snapshotLoc = some k) (hkq : k <+: q) (hi : cfg.storagePoolInfo.lookup c = some i)
    (hL : i.loc = some L) :
    ¬ (k <+: L ∨ L <+: q ∧ h.fs.node L = none)
      ∧ ∀ m, ¬ (k <+: L ++ [m] ∨ L ++ [m] <+: q ∧ h.fs.node (L ++ [m]) = none) := by
  have hapart := hlay.across hi hj hL hk
  have hm : ∀ m, ¬ k <+: L ++ [m] := fun m => hapart.not_below (List.prefix_append L _)
  refine ⟨?_, fun m => ?_⟩
  · rintro (hkL | ⟨_, hnone⟩)
    · exact hapart.2 hkL
    · obtain ⟨L', hL', hd⟩ := hs.1.pools hi
      cases hL.symm.trans hL'
      rw [hnone] at hd
      cases hd
  · rintro (hkL | ⟨hLq, _⟩)
    · exact hm m hkL
    · exact hapart.not_below ((List.prefix_append L [m]).trans hLq) hkq

/-- Calls that stay in the snapshot directories keep the map. -/
lemma of_confined (hlay : cfg.Layout) (hs : cfg.Shows pool h live) {c : Syscall}
    (hc : c.Confined cfg.InSnapshots (fun _ => False) cfg.InSnapshots) :
    cfg.Shows pool (h.step c).2 live := by
  have htick := hs.of_quiet (Quiet.tick h)
  cases c with
  | statfs | stat | readDir | isNotMountPoint | findmnt => exact htick
  | mkdir p => exact hc.elim
  | mount s t f o => exact hc.2.elim
  | unmount t => exact hc.elim
  | mkdirAll p =>
      obtain ⟨b, j, k, q, hj, hk, hq, hkq⟩ : cfg.InSnapshots p := hc.elim id id
      have hmade : ∀ keep, cfg.Shows pool (h.tick.made q keep) live := fun keep =>
        htick.of_frame (Frame.made (S := fun x => k <+: x ∨ x <+: q ∧ h.tick.fs.node x = none) keep
          fun x hx hn => Or.inr ⟨hx, hn⟩) (htick.apart_of_snapshot hlay hj hk hkq)
      rcases he : h.step (Syscall.mkdirAll p) with ⟨rep, m⟩
      cases rep with
      | ok u =>
          obtain ⟨q', hq', _, rfl⟩ := mkdirAll_ok he
          cases hq.symm.trans hq'
          exact hmade _
      | error e =>
          rcases mkdirAll_error he with ⟨rfl, _⟩ | ⟨q', reach, hq', _, _, rfl⟩
          · exact htick
          · cases hq.symm.trans hq'
            exact hmade _
  | removeAll p =>
      obtain ⟨b, j, k, q, hj, hk, hq, hkq⟩ : cfg.InSnapshots p := hc.elim id False.elim
      rcases he : h.step (Syscall.removeAll p) with ⟨rep, m⟩
      rcases removeAll_cases he with rfl | ⟨q', gone, hq', rfl, _⟩
      · exact htick
      · cases hq.symm.trans hq'
        have hmb := not_mountedBelow_of_below hkq (htick.2.snapshot hj hk)
        exact htick.of_frame (Frame.cleared (S := fun x => k <+: x
          ∨ x <+: q ∧ h.tick.fs.node x = none) gone hmb fun x hx => Or.inl (hkq.trans hx))
          (htick.apart_of_snapshot hlay hj hk hkq)
  | copyReflink s d =>
      obtain ⟨b, j, k, q, hj, hk, hq, hkq⟩ : cfg.InSnapshots d := hc
      refine htick.of_frame (Frame.copyReflink (S := fun x => k <+: x
        ∨ x <+: q ∧ h.tick.fs.node x = none) fun q' x hq' hx => ?_)
        (htick.apart_of_snapshot hlay hj hk hkq)
      cases hq.symm.trans hq'
      exact Or.inl (hkq.trans hx)

/-! ## Making and removing the directory of a volume -/

/-- The map with a volume that is in its pool. -/
lemma insert (hap : cfg.PoolsApart) (hs : cfg.Shows pool h live)
    {n : String} (ha : cfg.storagePoolInfo.lookup (pool n) = some info)
    (hl : info.loc = some l) (hf : Frame (fun q => l ++ [n] <+: q) h h')
    (hd : h'.fs.node (l ++ [n]) = some Node.dir) :
    cfg.Shows pool h' (live.insert n (pool n)) :=
  hs.of_volume hap ha hl hf (fun _ hm => AList.lookup_insert_ne hm)
    (Or.inl ⟨AList.lookup_insert _, hd⟩)

/-- Making the directory of a volume makes nothing else, since its pool is there. -/
lemma frame_made (hs : cfg.Shows pool h live) {a n : String}
    (ha : cfg.storagePoolInfo.lookup a = some info) (hl : info.loc = some l)
    (keep : Loc → Bool) : Frame (fun q => l ++ [n] <+: q) h (h.made (l ++ [n]) keep) := by
  refine Frame.made keep fun q hq hnone => ?_
  rcases prefix_cases hq with hql | hql
  · obtain ⟨l', hl', hd⟩ := hs.1.pools ha
    cases hl.symm.trans hl'
    rw [FileTree.node_none_of_below hql hnone] at hd
    cases hd
  · exact hql

/-- The directory of a volume that could not be made is not there afterwards, and nothing else
is made. -/
lemma made_failed (hs : cfg.Shows pool h live) {a n : String}
    (ha : cfg.storagePoolInfo.lookup a = some info) (hl : info.loc = some l)
    (reach : Loc → Bool) :
    cfg.Shows pool (h.made (l ++ [n]) fun q => reach q && q ≠ l ++ [n]) live := by
  refine hs.of_frame (S := fun _ => False) ⟨fun q _ => ?_, rfl⟩ fun _ _ => ⟨id, fun _ => id⟩
  cases hn : h.fs.node q with
  | some x => exact FileTree.create_node_of_some _ _ hn
  | none =>
      refine FileTree.create_node_of_none _ hn fun hq => ?_
      rcases prefix_cases hq with hql | hql
      · obtain ⟨l', hl', hd⟩ := hs.1.pools ha
        cases hl.symm.trans hl'
        rw [FileTree.node_none_of_below hql hn] at hd
        cases hd
      · have heq : q = l ++ [n] := hq.eq_of_length (le_antisymm hq.length_le hql.length_le)
        simp [heq]

/-- The map without a volume that is not in its pool. -/
lemma erase (hap : cfg.PoolsApart) (hs : cfg.Shows pool h live)
    (ha : cfg.storagePoolInfo.lookup (pool n) = some info) (hl : info.loc = some l)
    (hf : Frame (fun q => l ++ [n] <+: q) h h') (hd : h'.fs.node (l ++ [n]) = none) :
    cfg.Shows pool h' (live.erase n) :=
  hs.of_volume hap ha hl hf (fun _ hm => AList.lookup_erase_ne hm)
    (Or.inr ⟨AList.lookup_erase _ _, hd⟩)

/-- Taking out what is not in the map. -/
lemma erase_missing (hs : cfg.Shows pool h live) (hn : live.lookup n = none) :
    cfg.Shows pool h (live.erase n) := by
  refine hs.of_lookup fun m => ?_
  by_cases hm : m = n
  · rw [hm, AList.lookup_erase, hn]
  · rw [AList.lookup_erase_ne hm]

/-- A removal that was cut short left the directory of the volume or took it away. -/
lemma cleared (hap : cfg.PoolsApart) (hs : cfg.Shows pool h live)
    (ha : cfg.storagePoolInfo.lookup (pool n) = some info) (hl : info.loc = some l)
    (gone : Loc → Bool) :
    cfg.Shows pool (h.cleared (l ++ [n]) gone) live
      ∨ cfg.Shows pool (h.cleared (l ++ [n]) gone) (live.erase n) := by
  have hmb := not_mountedBelow_of_below (List.prefix_append l [n]) (hs.1.unmounted ha hl)
  have hf : Frame (fun q => l ++ [n] <+: q) h (h.cleared (l ++ [n]) gone) :=
    Frame.cleared gone hmb fun q hq => hq
  rcases cleared_node_or h (l ++ [n]) gone (l ++ [n]) with hsame | hnone
  · refine Or.inl (hs.of_volume hap ha hl hf (fun _ _ => rfl) ?_)
    rw [hsame, hs.1.volumes n ha hl]
    by_cases hn : live.lookup n = some (pool n)
    · exact Or.inl ⟨hn, if_pos hn⟩
    · refine Or.inr ⟨?_, if_neg hn⟩
      by_contra hne
      obtain ⟨b, hb⟩ := Option.ne_none_iff_exists'.mp hne
      exact hn ((hs.1.names hb).1 ▸ hb)
  · exact Or.inr (hs.erase hap ha hl hf hnone)

end Config.Shows

/-! ## What a listing tells of a volume -/

lemma nodup_pools {cfg : Config} (hlay : cfg.Layout) : cfg.pools.Nodup := by
  refine List.Nodup.map_on ?_ cfg.storagePoolInfo.nodupKeys.nodup
  rintro ⟨a, i⟩ hi ⟨b, j⟩ hj rfl
  by_contra hne
  have ha := AList.mem_lookup_iff.mpr hi
  obtain ⟨l, hl⟩ := hlay.pool_loc ha
  refine (hlay.pools ha (AList.mem_lookup_iff.mpr hj) ?_ hl hl).1 (List.prefix_refl l)
  rintro rfl
  exact hne rfl

/-- The listing `ds` has the volume `n` at the path `p` and nowhere else. -/
structure ListedAt (ds : List String) (n p : String) : Prop where
  validName : ValidName n
  ne : p ≠ ""
  mem : p ∈ ds
  base_eq : base p = n
  unique : ∀ d ∈ ds, base d = n → d = p

/-- The listing `ds` has no volume `n`. -/
def NotListed (ds : List String) (n : String) : Prop := ∀ d ∈ ds, base d ≠ n

section Listing

variable {cfg : Config} {pool : String → String} {info home : StoragePoolInfo} {n p : String}
  {h : Host} {live : GoMap String} {ds rest : List String}

lemma volumePathOf_of_listedAt (hd : ListedAt ds n p) : volumePathOf ds n = p := by
  rcases volumePathOf_cases ds n with ⟨_, hno⟩ | ⟨hmem, hb⟩
  · exact absurd hd.base_eq (hno p hd.mem hd.ne)
  · exact hd.unique _ hmem hb

lemma volumePathOf_of_notListed (hd : NotListed ds n) : volumePathOf ds n = "" := by
  rcases volumePathOf_cases ds n with ⟨he, _⟩ | ⟨hmem, hb⟩
  · exact he
  · exact absurd hb (hd _ hmem)

lemma ListedAt.of_perm (hd : ListedAt ds n p) (hp : rest.Perm ds) : ListedAt rest n p :=
  { hd with
    mem := hp.mem_iff.mpr hd.mem
    unique := fun d hmem => hd.unique d (hp.mem_iff.mp hmem) }

lemma NotListed.of_perm (hd : NotListed ds n) (hp : rest.Perm ds) : NotListed rest n :=
  fun d hmem => hd d (hp.mem_iff.mp hmem)

lemma NotListed.append (hd : NotListed ds n) (hr : NotListed rest n) : NotListed (ds ++ rest) n :=
  fun d hmem => (List.mem_append.mp hmem).elim (hd d) (hr d)

lemma ListedAt.append_left (hd : NotListed ds n) (hr : ListedAt rest n p) :
    ListedAt (ds ++ rest) n p := by
  refine { hr with mem := List.mem_append_right _ hr.mem, unique := fun d hmem hb => ?_ }
  rcases List.mem_append.mp hmem with hmem | hmem
  · exact absurd hb (hd d hmem)
  · exact hr.unique d hmem hb

lemma ListedAt.append_right (hd : ListedAt ds n p) (hr : NotListed rest n) :
    ListedAt (ds ++ rest) n p :=
  (ListedAt.append_left hr hd).of_perm List.perm_append_comm

/-- A pool that is not the one of the volume does not list it. -/
lemma Config.Shows.notListed (hs : cfg.Shows pool h live) (hinfo : info ∈ cfg.pools)
    (hne : cfg.storagePoolInfo.lookup (pool n) ≠ some info) : NotListed (dirsOf h.fs info) n := by
  intro d hd hb
  obtain ⟨l, m, hl, hv, hm, rfl⟩ := mem_dirsOf.mp hd
  rw [base_join _ hv] at hb
  subst hb
  obtain ⟨a, ha⟩ := Config.mem_pools.mp hinfo
  have hlive : live.lookup m = some a := hs.1.live_of_node ha hl (by simp [hm])
  rw [← (hs.1.names hlive).1] at hne
  exact hne ha

/-- The pool of a volume lists it if the volume is in the map. -/
lemma Config.Shows.listed (hs : cfg.Shows pool h live)
    (ha : cfg.storagePoolInfo.lookup (pool n) = some home) :
    live.lookup n = none ∧ NotListed (dirsOf h.fs home) n
      ∨ live.lookup n ≠ none ∧ ListedAt (dirsOf h.fs home) n (join [home.path, n]) := by
  obtain ⟨l, hl, _⟩ := hs.1.pools ha
  have hbase : ∀ d ∈ dirsOf h.fs home, base d = n →
      d = join [home.path, n] ∧ h.fs.node (l ++ [n]) ≠ none := by
    intro d hd hb
    obtain ⟨l', m, hl', hv, hm, rfl⟩ := mem_dirsOf.mp hd
    cases hl.symm.trans hl'
    rw [base_join _ hv] at hb
    subst hb
    exact ⟨rfl, by simp [hm]⟩
  by_cases hn : live.lookup n = none
  · refine Or.inl ⟨hn, fun d hd hb => ?_⟩
    exact (hs.lookup_iff ha hl).mpr (hbase d hd hb).2 hn
  · obtain ⟨b, hb⟩ := Option.ne_none_iff_exists'.mp hn
    have hv := hs.1.validName hn
    have hdir := hs.1.dir_of_live ((hs.1.names hb).1 ▸ hb) ha hl
    refine Or.inr ⟨hn, hv, (locate_eq_some.mp (locate_join_valid hl hv)).1,
      mem_dirsOf.mpr ⟨l, n, hl, hv, hdir, rfl⟩, base_join _ hv, fun d hd hb => ?_⟩
    exact (hbase d hd hb).1

end Listing

end Hostpath
