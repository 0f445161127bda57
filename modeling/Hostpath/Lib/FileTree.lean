import Hostpath.Lib.FilePath

/-!
# File trees

A file tree says what is at each location: nothing, a directory, or a file with its data.  The
structure carries what makes it a tree — the root is a directory, everything else sits in a
directory under a name an entry can have — so no operation can build anything else, and finitely
many locations are in use.

Three operations change a tree, and each can be cut short: `create` makes the missing directories
on the way to a location, `prune` takes away a downward closed set, `overlay` copies the contents
of one directory over another.  What is known about them is what they do at every location
(`create_node`, `prune_node`, `overlay_node`); `list` is the sorted directory listing.
-/

namespace Lib

open FilePath

/-- What a location holds. -/
inductive Node (D : Type) where
  | dir : Node D
  | file (d : D) : Node D
  deriving DecidableEq

structure FileTree (D : Type) where
  node : Loc → Option (Node D)
  /-- A finite list of locations outside of which there is nothing. -/
  bound : List Loc
  mem_bound : ∀ {l : Loc}, node l ≠ none → l ∈ bound
  root : node [] = some Node.dir
  closed : ∀ {l : Loc} {n : String}, node (l ++ [n]) ≠ none → node l = some Node.dir
  valid : ∀ {l : Loc} {n : String}, node (l ++ [n]) ≠ none → ValidName n

namespace FileTree

variable {D : Type} (t : FileTree D)

/-- Everything below a location, by relative location. -/
def contents (l : Loc) : Loc → Option (Node D) := fun r => t.node (l ++ r)

variable {t}

lemma node_of_below {p q : Loc} (h : p <+: q) (hne : p ≠ q) (hq : t.node q ≠ none) :
    t.node p = some Node.dir := by
  obtain ⟨r, rfl⟩ := h
  induction r using List.reverseRecOn with
  | nil => exact absurd (List.append_nil p).symm hne
  | append_singleton r n ih =>
      rw [← List.append_assoc] at hq
      have hr : t.node (p ++ r) = some Node.dir := t.closed hq
      cases r with
      | nil => simpa using hr
      | cons m r => exact ih (by simp) (by simp [hr])

/-- Nothing is below a location that holds nothing. -/
lemma node_none_of_below {p q : Loc} (h : p <+: q) (hp : t.node p = none) :
    t.node q = none := by
  by_contra hq
  by_cases hpq : p = q
  · exact hq (hpq ▸ hp)
  · rw [node_of_below h hpq hq] at hp
    cases hp

variable (t)

/-! ## Making directories -/

/-- A file stands on the way to `l`, or at `l`. -/
def blocked (l : Loc) : Bool :=
  l.inits.any fun p => match t.node p with
    | some (Node.file _) => true
    | _ => false

/-- The missing directories on the way to `l`, and `l` itself, as far as `keep` lets them be
made. -/
def created (l : Loc) (keep : Loc → Bool) (q : Loc) : Prop :=
  q <+: l ∧ t.node q = none ∧ ∀ p ∈ q.inits, t.node p = none → keep p = true

instance [DecidableEq D] (l : Loc) (keep : Loc → Bool) (q : Loc) :
    Decidable (t.created l keep q) :=
  inferInstanceAs (Decidable (q <+: l ∧ t.node q = none ∧ ∀ p ∈ q.inits, t.node p = none →
    keep p = true))

lemma blocked_eq_false {l : Loc} (h : t.blocked l = false) {p : Loc} (hp : p <+: l) {x : Node D}
    (hx : t.node p = some x) : x = Node.dir := by
  rw [blocked, List.any_eq_false] at h
  have h' := h p ((List.mem_inits p l).mpr hp)
  rw [hx] at h'
  cases x with
  | dir => rfl
  | file d => simp at h'

/-- Make the directories on the way to `l`; a file on the way or a name no entry can have leaves
the tree as it is. -/
def create [DecidableEq D] (l : Loc) (keep : Loc → Bool) : FileTree D :=
  if h : t.blocked l = false ∧ ∀ n ∈ l, ValidName n then
    { node := fun q => if t.created l keep q then some Node.dir else t.node q
      bound := l.inits ++ t.bound
      mem_bound := by
        intro q hq
        rw [List.mem_append]
        by_cases hc : t.created l keep q
        · exact Or.inl ((List.mem_inits q l).mpr hc.1)
        · rw [if_neg hc] at hq
          exact Or.inr (t.mem_bound hq)
      root := by
        rw [if_neg (fun hc => absurd hc.2.1 (by simp [t.root]))]
        exact t.root
      closed := by
        intro q n hq
        by_cases hc : t.created l keep (q ++ [n])
        · have hql : q <+: l := (List.prefix_append q [n]).trans hc.1
          cases hn : t.node q with
          | none =>
              refine if_pos ⟨hql, hn, fun p hp hpn => hc.2.2 p ?_ hpn⟩
              rw [List.mem_inits] at hp ⊢
              exact hp.trans (List.prefix_append q [n])
          | some x =>
              rw [if_neg (fun hc' => absurd hc'.2.1 (by simp [hn])),
                t.blocked_eq_false h.1 hql hn]
        · rw [if_neg hc] at hq
          have hd := t.closed hq
          rw [if_neg (fun hc' => absurd hc'.2.1 (by simp [hd]))]
          exact hd
      valid := by
        intro q n hq
        by_cases hc : t.created l keep (q ++ [n])
        · exact h.2 n (hc.1.subset (by simp))
        · rw [if_neg hc] at hq
          exact t.valid hq }
  else t

lemma create_node [DecidableEq D] {l : Loc} (hb : t.blocked l = false)
    (hv : ∀ n ∈ l, ValidName n) (keep : Loc → Bool) (q : Loc) :
    (t.create l keep).node q = if t.created l keep q then some Node.dir else t.node q := by
  rw [create, dif_pos ⟨hb, hv⟩]

lemma create_node_on_way [DecidableEq D] {l q : Loc} (hb : t.blocked l = false)
    (hv : ∀ n ∈ l, ValidName n) (hq : q <+: l) :
    (t.create l fun _ => true).node q = some Node.dir := by
  rw [t.create_node hb hv]
  split_ifs with hc
  · rfl
  · cases hn : t.node q with
    | none => exact absurd ⟨hq, hn, fun _ _ _ => rfl⟩ hc
    | some x => rw [t.blocked_eq_false hb hq hn]

/-- Only what is in a directory itself can be in the way of making an entry of it. -/
lemma blocked_concat {l : Loc} {n : String} (hl : t.node l = some Node.dir)
    (hn : t.node (l ++ [n]) = none ∨ t.node (l ++ [n]) = some Node.dir) :
    t.blocked (l ++ [n]) = false := by
  rw [blocked, List.any_eq_false]
  intro p hp
  rcases List.prefix_concat_iff.mp ((List.mem_inits p _).mp hp) with rfl | hpl
  · rcases hn with hn | hn <;> simp [hn]
  · by_cases hpe : p = l
    · simp [hpe, hl]
    · have hdir : t.node p = some Node.dir := node_of_below hpl hpe (by simp [hl])
      simp [hdir]

/-- Nothing can be in the way below a place where nothing is. -/
lemma blocked_append {l : Loc} (r : Loc) (hl : t.node l = none) (hb : t.blocked l = false) :
    t.blocked (l ++ r) = false := by
  rw [blocked, List.any_eq_false]
  intro p hp
  rcases List.prefix_or_prefix_of_prefix ((List.mem_inits p _).mp hp) (List.prefix_append l r) with
    hpl | hlp
  · cases hx : t.node p with
    | none => simp
    | some x => simp [t.blocked_eq_false hb hpl hx]
  · simp [node_none_of_below hlp hl]

/-- A place can only become blocked by a file that was not there. -/
lemma blocked_of_no_file {t t' : FileTree D} {l : Loc}
    (hno : ∀ q, q <+: l → ∀ c, t'.node q = some (Node.file c) → t.node q = some (Node.file c))
    (hb : t.blocked l = false) : t'.blocked l = false := by
  rw [blocked, List.any_eq_false]
  intro p hp
  have hpl := (List.mem_inits p l).mp hp
  cases hx : t'.node p with
  | none => simp
  | some x =>
      cases x with
      | dir => simp
      | file c => cases t.blocked_eq_false hb hpl (hno p hpl c hx)

/-- What is there stays. -/
lemma create_node_of_some [DecidableEq D] {l q : Loc} (keep : Loc → Bool) {x : Node D}
    (h : t.node q = some x) : (t.create l keep).node q = some x := by
  unfold create
  split_ifs with hv
  · refine (if_neg fun hc => ?_).trans h
    rw [hc.2.1] at h
    cases h
  · exact h

/-- Nothing is made off the way, nor where the making was cut short. -/
lemma create_node_of_none [DecidableEq D] {l q : Loc} {keep : Loc → Bool} (h : t.node q = none)
    (hq : q <+: l → keep q = false) : (t.create l keep).node q = none := by
  unfold create
  split_ifs with hv
  · refine (if_neg fun hc => ?_).trans h
    have hk := hc.2.2 q ((List.mem_inits q q).mpr (List.prefix_refl q)) h
    rw [hq hc.1] at hk
    cases hk
  · exact h

lemma create_node_off_way [DecidableEq D] {l q : Loc} (keep : Loc → Bool) (hq : ¬ q <+: l) :
    (t.create l keep).node q = t.node q := by
  cases hn : t.node q with
  | none => exact t.create_node_of_none hn fun h => absurd h hq
  | some x => exact t.create_node_of_some keep hn

/-- Whether a file is on the way depends on what is on the way. -/
lemma blocked_congr {t t' : FileTree D} {l : Loc} (h : ∀ q, q <+: l → t'.node q = t.node q) :
    t'.blocked l = t.blocked l := by
  unfold blocked
  rw [Bool.eq_iff_iff, List.any_eq_true, List.any_eq_true]
  refine exists_congr fun q => and_congr_right fun hq => ?_
  rw [h q ((List.mem_inits q l).mp hq)]

/-- The directories on the way to an entry of `l`, without the entry. -/
lemma created_concat {l q : Loc} {n : String} {keep : Loc → Bool} :
    t.created (l ++ [n]) (fun q => keep q && q ≠ l ++ [n]) q ↔ t.created l keep q := by
  have hself : q ∈ q.inits := (List.mem_inits q q).mpr (List.prefix_refl q)
  constructor
  · rintro ⟨hq, hnone, hkeep⟩
    simp only [Bool.and_eq_true, decide_eq_true_eq] at hkeep
    rcases List.prefix_concat_iff.mp hq with heq | hl
    · exact absurd heq (hkeep q hself hnone).2
    · exact ⟨hl, hnone, fun p hp hpn => (hkeep p hp hpn).1⟩
  · rintro ⟨hl, hnone, hkeep⟩
    refine ⟨hl.trans (List.prefix_append l _), hnone, fun p hp hpn => ?_⟩
    simp only [Bool.and_eq_true, decide_eq_true_eq]
    refine ⟨hkeep p hp hpn, ?_⟩
    rintro rfl
    have hlen := (((List.mem_inits _ q).mp hp).trans hl).length_le
    simp at hlen

/-- What is new after making directories is what was created. -/
lemma new_iff_created [DecidableEq D] {l : Loc} (hb : t.blocked l = false)
    (hv : ∀ n ∈ l, ValidName n) {keep : Loc → Bool} {q : Loc} :
    t.node q = none ∧ (t.create l keep).node q ≠ none ↔ t.created l keep q := by
  rw [t.create_node hb hv]
  constructor
  · rintro ⟨hnone, hnew⟩
    by_contra hc
    rw [if_neg hc] at hnew
    exact hnew hnone
  · intro hc
    rw [if_pos hc]
    exact ⟨hc.2.1, by simp⟩

/-- Making directories puts no file in the way. -/
lemma blocked_create [DecidableEq D] {k : Loc} (hb : t.blocked k = false) (l : Loc)
    (keep : Loc → Bool) : (t.create l keep).blocked k = false := by
  refine blocked_of_no_file (fun p _ c hc => ?_) hb
  unfold create at hc
  split_ifs at hc
  · dsimp only at hc
    split_ifs at hc with hnew
    · cases hc
    · exact hc
  · exact hc

/-- What is made depends on what is there. -/
lemma create_congr [DecidableEq D] {t t' : FileTree D} (h : ∀ q, t'.node q = t.node q) (l : Loc)
    (keep : Loc → Bool) (q : Loc) : (t'.create l keep).node q = (t.create l keep).node q := by
  have hb : t'.blocked l = t.blocked l := blocked_congr fun q _ => h q
  by_cases hc : t.blocked l = false ∧ ∀ n ∈ l, ValidName n
  · rw [t.create_node hc.1 hc.2, t'.create_node (hb.trans hc.1) hc.2]
    exact if_congr (by simp only [created, h]) rfl (h q)
  · have hc' : ¬ (t'.blocked l = false ∧ ∀ n ∈ l, ValidName n) := by rwa [hb]
    rw [create, create, dif_neg hc, dif_neg hc', h]

/-- A directory that is made is empty. -/
lemma contents_create_new [DecidableEq D] {l : Loc} (hb : t.blocked l = false)
    (hv : ∀ n ∈ l, ValidName n) (hl : t.node l = none) (r : Loc) :
    (t.create l fun _ => true).contents l r = if r = [] then some Node.dir else none := by
  rw [contents]
  split_ifs with hr
  · rw [hr, List.append_nil]
    exact t.create_node_on_way hb hv (List.prefix_refl l)
  · rw [create_node_off_way _ _ fun hpre => hr ?_]
    · exact node_none_of_below (List.prefix_append l r) hl
    · simpa using hpre.length_le

/-- Making directories leaves everything that they are not made in. -/
lemma contents_create_of_not_below [DecidableEq D] {l k : Loc} (hk : ¬ k <+: l)
    (keep : Loc → Bool) : (t.create l keep).contents k = t.contents k := by
  funext r
  exact t.create_node_off_way keep fun hpre => hk ((List.prefix_append k r).trans hpre)

/-- Making the directories in two attempts, the first cut short, is making them. -/
lemma create_create [DecidableEq D] {l : Loc} (hb : t.blocked l = false)
    (hv : ∀ n ∈ l, ValidName n) (keep : Loc → Bool) (q : Loc) :
    ((t.create l keep).create l fun _ => true).node q = (t.create l fun _ => true).node q := by
  have hb' := t.blocked_create hb l keep
  by_cases hq : q <+: l
  · rw [FileTree.create_node_on_way _ hb' hv hq, t.create_node_on_way hb hv hq]
  · rw [create_node_off_way _ _ hq, create_node_off_way _ _ hq, create_node_off_way _ _ hq]

/-! ## Taking away -/

/-- A set of locations that holds everything below each of its members. -/
def DownClosed (S : Loc → Prop) : Prop := ∀ p q, p <+: q → S p → S q

/-- Take away what is at the locations of `S`, as long as `gone` says so of a location and of
everything below it.  The root stays. -/
def prune (S : Loc → Prop) [DecidablePred S] (hS : DownClosed S) (gone : Loc → Bool) :
    FileTree D where
  node q := if q ≠ [] ∧ S q ∧ ∀ r ∈ t.bound, q <+: r → gone r = true then none else t.node q
  bound := t.bound
  mem_bound := by
    intro q hq
    split_ifs at hq with hc
    · exact absurd rfl hq
    · exact t.mem_bound hq
  root := by
    rw [if_neg (by simp)]
    exact t.root
  closed := by
    intro q n hq
    split_ifs at hq with hc
    · exact absurd rfl hq
    · have hd := t.closed hq
      rw [if_neg ?_]
      · exact hd
      · intro hc'
        refine hc ⟨by simp, hS _ _ (List.prefix_append q [n]) hc'.2.1, fun r hr hqr => ?_⟩
        exact hc'.2.2 r hr ((List.prefix_append q [n]).trans hqr)
  valid := by
    intro q n hq
    split_ifs at hq with hc
    · exact absurd rfl hq
    · exact t.valid hq

lemma prune_node (S : Loc → Prop) [DecidablePred S] (hS : DownClosed S) (gone : Loc → Bool)
    (q : Loc) :
    (t.prune S hS gone).node q
      = if q ≠ [] ∧ S q ∧ ∀ r ∈ t.bound, q <+: r → gone r = true then none else t.node q := rfl

lemma prune_all_node (S : Loc → Prop) [DecidablePred S] (hS : DownClosed S) (q : Loc) :
    (t.prune S hS fun _ => true).node q = if q ≠ [] ∧ S q then none else t.node q := by
  rw [prune_node]
  simp

/-! ## Copying one directory over another -/

/-- A directory would replace a file, or a file a directory. -/
def clash (src dst r : Loc) : Bool :=
  match t.node (src ++ r), t.node (dst ++ r) with
  | some Node.dir, some (Node.file _) => true
  | some (Node.file _), some Node.dir => true
  | _, _ => false

/-- What a copy from `src` to `dst` writes at the relative location `r`: it is in the source, no
part of the way to it clashes, and the copy got that far. -/
def copied (src dst : Loc) (keep : Loc → Bool) (r : Loc) : Prop :=
  r ≠ [] ∧ ∀ p ∈ r.inits, p ≠ [] →
    t.node (src ++ p) ≠ none ∧ keep p = true ∧ t.clash src dst p = false

instance [DecidableEq D] (src dst : Loc) (keep : Loc → Bool) (r : Loc) :
    Decidable (t.copied src dst keep r) :=
  inferInstanceAs (Decidable (r ≠ [] ∧ ∀ p ∈ r.inits, p ≠ [] →
    t.node (src ++ p) ≠ none ∧ keep p = true ∧ t.clash src dst p = false))

lemma copied_of_append {src dst : Loc} {keep : Loc → Bool} {r : Loc} {n : String} (hr : r ≠ [])
    (h : t.copied src dst keep (r ++ [n])) : t.copied src dst keep r := by
  refine ⟨hr, fun p hp hne => h.2 p ?_ hne⟩
  rw [List.mem_inits] at hp ⊢
  exact hp.trans (List.prefix_append r [n])

lemma copied_self {src dst : Loc} {keep : Loc → Bool} {r : Loc}
    (h : t.copied src dst keep r) :
    t.node (src ++ r) ≠ none ∧ keep r = true ∧ t.clash src dst r = false :=
  h.2 r ((List.mem_inits r r).mpr (List.prefix_refl r)) h.1

/-- Copy the contents of `src` over those of the directory `dst`. -/
def overlay [DecidableEq D] (src dst : Loc) (keep : Loc → Bool) : FileTree D :=
  if h : t.node dst = some Node.dir then
    { node := fun q =>
        if dst <+: q ∧ t.copied src dst keep (q.drop dst.length) then
          t.node (src ++ q.drop dst.length)
        else t.node q
      bound := t.bound.map (fun b => dst ++ b.drop src.length) ++ t.bound
      mem_bound := by
        intro q hq
        rw [List.mem_append]
        split_ifs at hq with hc
        · obtain ⟨⟨r, rfl⟩, hr⟩ := hc
          rw [List.drop_left] at hq
          exact Or.inl (List.mem_map.mpr ⟨src ++ r, t.mem_bound hq, by simp⟩)
        · exact Or.inr (t.mem_bound hq)
      root := by
        rw [if_neg ?_]
        · exact t.root
        · rintro ⟨_, hr⟩
          exact hr.1 (by simp)
      closed := by
        intro q n hq
        have hstay : t.node q = some Node.dir →
            (if dst <+: q ∧ t.copied src dst keep (q.drop dst.length) then
              t.node (src ++ q.drop dst.length) else t.node q) = some Node.dir := by
          intro hd
          split_ifs with hc
          · obtain ⟨⟨r, rfl⟩, hr⟩ := hc
            rw [List.drop_left] at hr ⊢
            obtain ⟨hsrc, _, hcl⟩ := t.copied_self hr
            rw [clash, hd] at hcl
            cases hx : t.node (src ++ r) with
            | none => exact absurd hx hsrc
            | some x =>
                cases x with
                | dir => rfl
                | file d => rw [hx] at hcl; simp at hcl
          · exact hd
        split_ifs at hq with hc
        · obtain ⟨hpre, hr⟩ := hc
          by_cases hqd : dst <+: q
          · obtain ⟨r, rfl⟩ := hqd
            rw [List.append_assoc, List.drop_left] at hr hq
            by_cases hrn : r = []
            · subst hrn
              exact hstay (by simpa using h)
            · rw [if_pos ⟨List.prefix_append dst r, by
                rw [List.drop_left]; exact t.copied_of_append hrn hr⟩, List.drop_left]
              rw [← List.append_assoc] at hq
              exact t.closed hq
          · -- `dst` is `q ++ [n]` itself, so nothing was copied there
            obtain ⟨r, hr'⟩ := hpre
            exfalso
            rcases List.prefix_concat_iff.mp (⟨r, hr'⟩ : dst <+: q ++ [n]) with heq | hpre'
            · exact hr.1 (by simp [heq])
            · exact hqd hpre'
        · exact hstay (t.closed hq)
      valid := by
        intro q n hq
        split_ifs at hq with hc
        · obtain ⟨hpre, hr⟩ := hc
          rcases List.prefix_concat_iff.mp hpre with heq | ⟨r, rfl⟩
          · exact absurd (by simp [heq]) hr.1
          · rw [List.append_assoc, List.drop_left, ← List.append_assoc] at hq
            exact t.valid hq
        · exact t.valid hq }
  else t

lemma overlay_node [DecidableEq D] {src dst : Loc} (h : t.node dst = some Node.dir)
    (keep : Loc → Bool) (q : Loc) :
    (t.overlay src dst keep).node q
      = if dst <+: q ∧ t.copied src dst keep (q.drop dst.length) then
          t.node (src ++ q.drop dst.length)
        else t.node q := by
  rw [overlay, dif_pos h]

/-- Nothing in `src` clashes with what is in `dst`. -/
def fits (src dst : Loc) : Bool :=
  t.bound.all fun b => !t.clash src dst (b.drop src.length)

lemma clash_of_fits {src dst : Loc} (h : t.fits src dst = true) (r : Loc) :
    t.clash src dst r = false := by
  cases hx : t.node (src ++ r) with
  | none => rw [clash, hx]
  | some x =>
      rw [fits, List.all_eq_true] at h
      have hb := h (src ++ r) (t.mem_bound (by simp [hx]))
      simpa using hb

lemma fits_iff {src dst : Loc} : t.fits src dst = true ↔ ∀ r, t.clash src dst r = false := by
  refine ⟨t.clash_of_fits, fun h => ?_⟩
  rw [fits, List.all_eq_true]
  intro b _
  rw [h, Bool.not_false]

/-- A directory without entries takes any copy. -/
lemma fits_of_empty {src dst : Loc} (hs : t.node src = some Node.dir)
    (hd : t.node dst = some Node.dir) (he : ∀ r ≠ [], t.node (dst ++ r) = none) :
    t.fits src dst = true := by
  rw [fits, List.all_eq_true]
  intro b _
  by_cases hr : b.drop src.length = []
  · simp [clash, hr, hs, hd]
  · rw [clash, he _ hr]
    split <;> simp_all

lemma copied_of_fits {src dst : Loc} (h : t.fits src dst = true) {r : Loc} :
    t.copied src dst (fun _ => true) r ↔ r ≠ [] ∧ t.node (src ++ r) ≠ none := by
  constructor
  · exact fun hc => ⟨hc.1, (t.copied_self hc).1⟩
  · rintro ⟨hr, hn⟩
    refine ⟨hr, fun p hp _ => ⟨fun hpn => hn ?_, rfl, t.clash_of_fits h p⟩⟩
    rw [List.mem_inits] at hp
    exact node_none_of_below ((List.prefix_append_right_inj src).mpr hp) hpn

/-- **A complete copy**: the target holds what the source holds, and what it held where the
source holds nothing. -/
lemma overlay_contents [DecidableEq D] {src dst : Loc} (hd : t.node dst = some Node.dir)
    (hf : t.fits src dst = true) {r : Loc} (hr : r ≠ []) :
    (t.overlay src dst fun _ => true).contents dst r
      = if t.contents src r ≠ none then t.contents src r else t.contents dst r := by
  rw [contents, contents, contents, t.overlay_node hd, List.drop_left]
  by_cases hs : t.node (src ++ r) = none
  · have hc : ¬ t.copied src dst (fun _ => true) r := fun hc =>
      ((t.copied_of_fits hf).mp hc).2 hs
    rw [if_neg fun h => hc h.2, if_neg fun h => h hs]
  · have hc : t.copied src dst (fun _ => true) r := (t.copied_of_fits hf).mpr ⟨hr, hs⟩
    rw [if_pos ⟨List.prefix_append dst r, hc⟩, if_pos hs]

/-- Nothing is copied to the target directory itself. -/
lemma overlay_node_self [DecidableEq D] {src dst : Loc} (hd : t.node dst = some Node.dir)
    (keep : Loc → Bool) : (t.overlay src dst keep).node dst = some Node.dir := by
  rw [t.overlay_node hd, if_neg, hd]
  rintro ⟨_, hc⟩
  exact hc.1 (by simp)

/-- **A copy into an empty directory** is the source. -/
lemma overlay_contents_of_empty [DecidableEq D] {src dst : Loc} (hs : t.node src = some Node.dir)
    (hd : t.node dst = some Node.dir) (he : ∀ r ≠ [], t.node (dst ++ r) = none) :
    (t.overlay src dst fun _ => true).contents dst = t.contents src := by
  funext r
  by_cases hr : r = []
  · subst hr
    rw [contents, contents, List.append_nil, List.append_nil, t.overlay_node_self hd, hs]
  · rw [t.overlay_contents hd (t.fits_of_empty hs hd he) hr]
    split_ifs with hne
    · rfl
    · rw [contents, he r hr]
      exact (not_not.mp hne).symm

lemma overlay_node_outside [DecidableEq D] {src dst : Loc} (keep : Loc → Bool) {q : Loc}
    (h : ¬ dst <+: q) : (t.overlay src dst keep).node q = t.node q := by
  unfold overlay
  split_ifs with hd
  · exact if_neg fun hc => h hc.1
  · rfl

/-! ## Listing a directory -/

/-- The name of `b` in the directory `l`, if it is an entry of `l`. -/
def childName (l b : Loc) : Option String :=
  if b.dropLast = l then b.getLast? else none

/-- The names in the directory `l`, sorted. -/
def list (l : Loc) : List String :=
  ((t.bound.filterMap (childName l)).filter fun n => (t.node (l ++ [n])).isSome).dedup.insertionSort
    (· ≤ ·)

lemma childName_eq_some {l b : Loc} {n : String} : childName l b = some n ↔ b = l ++ [n] := by
  unfold childName
  constructor
  · intro h
    split_ifs at h with hb
    obtain ⟨l', rfl⟩ := List.getLast?_eq_some_iff.mp h
    rw [List.dropLast_concat] at hb
    rw [hb]
  · rintro rfl
    rw [List.dropLast_concat, if_pos rfl, List.getLast?_concat]

lemma mem_list {l : Loc} {n : String} : n ∈ t.list l ↔ t.node (l ++ [n]) ≠ none := by
  rw [list, List.mem_insertionSort, List.mem_dedup, List.mem_filter, List.mem_filterMap]
  constructor
  · rintro ⟨_, h⟩
    exact Option.isSome_iff_ne_none.mp h
  · intro h
    exact ⟨⟨l ++ [n], t.mem_bound h, childName_eq_some.mpr rfl⟩, Option.isSome_iff_ne_none.mpr h⟩

lemma nodup_list (l : Loc) : (t.list l).Nodup :=
  (List.perm_insertionSort _ _).nodup_iff.mpr (List.nodup_dedup _)

lemma pairwise_list (l : Loc) : (t.list l).Pairwise (· ≤ ·) := List.pairwise_insertionSort _ _

/-- The names in a directory are determined by what is there. -/
lemma list_congr {t t' : FileTree D} {l l' : Loc}
    (h : ∀ n, t.node (l ++ [n]) ≠ none ↔ t'.node (l' ++ [n]) ≠ none) : t.list l = t'.list l' := by
  refine List.Perm.eq_of_pairwise' (List.pairwise_insertionSort _ _)
    (List.pairwise_insertionSort _ _) ?_
  refine (List.perm_ext_iff_of_nodup (t.nodup_list l) (t'.nodup_list l')).mpr fun n => ?_
  rw [t.mem_list, t'.mem_list, h n]

/-! ## Two trees to start from -/

/-- Nothing but the root. -/
def empty : FileTree D where
  node l := if l = [] then some Node.dir else none
  bound := [[]]
  mem_bound := by intro l hl; by_contra h; simp_all
  root := rfl
  closed := by intro l n h; simp at h
  valid := by intro l n h; simp at h

/-- Write the file `l ++ [n]` in the existing directory `l`, unless a directory has that name. -/
def write [DecidableEq D] (l : Loc) (n : String) (d : D) : FileTree D :=
  if h : t.node l = some Node.dir ∧ t.node (l ++ [n]) ≠ some Node.dir ∧ ValidName n then
    { node := fun q => if q = l ++ [n] then some (Node.file d) else t.node q
      bound := (l ++ [n]) :: t.bound
      mem_bound := by
        intro q hq
        split_ifs at hq with hc
        · exact hc ▸ List.mem_cons_self
        · exact List.mem_cons_of_mem _ (t.mem_bound hq)
      root := by simp [t.root]
      closed := by
        intro q m hq
        split_ifs at hq with hc
        · obtain ⟨rfl, _⟩ := List.append_inj_left' hc rfl, hc
          rw [if_neg (by simp)]
          exact h.1
        · have hd := t.closed hq
          rw [if_neg ?_]
          · exact hd
          · rintro rfl
            exact h.2.1 hd
      valid := by
        intro q m hq
        split_ifs at hq with hc
        · have := List.append_inj_right' hc rfl
          rw [List.singleton_inj.mp this]
          exact h.2.2
        · exact t.valid hq }
  else t

end FileTree

end Lib
