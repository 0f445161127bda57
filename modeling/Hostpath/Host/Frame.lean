import Hostpath.Host.Calls

/-!
# What stays as it is

A `Frame` bounds where a handler can have changed something; `Untouched` says that nothing changed
at a location or below it.  Both follow from what the calls do, and from locations being `Apart`.
-/

namespace Hostpath

open Lib FilePath Host

/-! ## Locations that do not overlap -/

/-- Neither location is inside the other. -/
def Apart (a b : Loc) : Prop := ¬ a <+: b ∧ ¬ b <+: a

namespace Apart

variable {a b q : Loc}

lemma symm (h : Apart a b) : Apart b a := ⟨h.2, h.1⟩

lemma not_below (h : Apart a b) (ha : a <+: q) : ¬ b <+: q := by
  intro hb
  rcases List.prefix_or_prefix_of_prefix ha hb with h' | h'
  · exact h.1 h'
  · exact h.2 h'

/-- What is below the one is apart from what is below the other. -/
lemma below (h : Apart a b) {a' b' : Loc} (ha : a <+: a') (hb : b <+: b') : Apart a' b' :=
  ⟨fun h' => h.not_below (ha.trans h') hb, fun h' => h.symm.not_below (hb.trans h') ha⟩

end Apart

/-- Two entries of one directory are apart. -/
lemma apart_of_ne {l : Loc} {m n : String} (h : m ≠ n) : Apart (l ++ [m]) (l ++ [n]) := by
  have key : ∀ {x y : String}, x ≠ y → ¬ l ++ [x] <+: l ++ [y] := by
    intro x y hxy hp
    have heq := hp.eq_of_length (by simp)
    exact hxy (by simpa using heq)
  exact ⟨key h, key h.symm⟩

/-- A location below `l` is not on the way to `l`. -/
lemma not_prefix_of_below {l q : Loc} {n : String} (h : l ++ [n] <+: q) : ¬ q <+: l := by
  intro hq
  have hlen := (h.trans hq).length_le
  simp at hlen

/-- A location on the way to something below `l ++ [n]` is on the way to `l` or at least
`l ++ [n]`. -/
lemma prefix_cases {l q r : Loc} {n : String} (h : q <+: l ++ n :: r) :
    q <+: l ∨ l ++ [n] <+: q := by
  have hn : l ++ [n] <+: l ++ n :: r := ⟨r, by simp⟩
  rcases List.prefix_or_prefix_of_prefix h hn with hq | hq
  · rcases List.prefix_concat_iff.mp hq with rfl | hq
    · exact Or.inr (List.prefix_refl _)
    · exact Or.inl hq
  · exact Or.inr hq

/-! ## Frames -/

/-- Nothing changes outside of `S`, and no mount does. -/
structure Frame (S : Loc → Prop) (h h' : Host) : Prop where
  node : ∀ q, ¬ S q → h'.fs.node q = h.fs.node q
  mounts : h'.mounts = h.mounts

namespace Frame

variable {S T : Loc → Prop} {h m h' : Host}

lemma of_quiet (hq : Quiet h h') : Frame S h h' := ⟨fun q _ => by rw [hq.fs], hq.mounts⟩

lemma trans (h₁ : Frame S h m) (h₂ : Frame S m h') : Frame S h h' :=
  ⟨fun q hq => (h₂.node q hq).trans (h₁.node q hq), h₂.mounts.trans h₁.mounts⟩

lemma mono (hS : ∀ q, S q → T q) (hf : Frame S h h') : Frame T h h' :=
  ⟨fun q hq => hf.node q fun hs => hq (hS q hs), hf.mounts⟩

lemma made {l : Loc} (keep : Loc → Bool) (hS : ∀ q, q <+: l → h.fs.node q = none → S q) :
    Frame S h (h.made l keep) := by
  refine ⟨fun q hq => ?_, rfl⟩
  rw [made_fs]
  unfold FileTree.create
  split_ifs with hv
  · exact if_neg fun hc => hq (hS q hc.1 hc.2.1)
  · rfl

lemma cleared {l : Loc} (gone : Loc → Bool) (hm : ¬ h.MountedBelow l)
    (hS : ∀ q, l <+: q → S q) : Frame S h (h.cleared l gone) := by
  refine ⟨fun q hq => ?_, rfl⟩
  rw [cleared_fs, removed, FileTree.prune_node]
  exact if_neg fun hc => hq (hS q ((removed_iff_below hm q).mp hc.2.1))

lemma overlaid {s d : Loc} (keep : Loc → Bool) (hS : ∀ q, d <+: q → S q) :
    Frame S h (h.overlaid s d keep) :=
  ⟨fun q hq => FileTree.overlay_node_outside _ _ fun hd => hq (hS q hd), rfl⟩

/-- Only the directory itself is made, and not those on the way to it. -/
lemma made_self {d : Loc} (keep : Loc → Bool) (hS : S d) :
    Frame S h (h.made d fun q => q = d && keep q) := by
  refine ⟨fun q hq => ?_, rfl⟩
  have hne : q ≠ d := fun heq => hq (heq ▸ hS)
  rw [made_fs]
  cases hn : h.fs.node q with
  | none => exact FileTree.create_node_of_none _ hn fun _ => by simp [hne]
  | some x => exact FileTree.create_node_of_some _ _ hn

/-- A copy changes something at its target and below it only, also where it makes the target. -/
lemma copyReflink {o : Outcome} {src dst : String}
    (hS : ∀ d q, locate dst = some d → d <+: q → S q) :
    Frame S h (h.copyReflink o src dst).2 := by
  rcases e : h.copyReflink o src dst with ⟨rep, h'⟩
  rcases copyReflink_cases e with ⟨_, rfl⟩ | ⟨s, d, _, hd, _, ⟨_, hc⟩ | ⟨_, keep, hc⟩⟩
  · exact of_quiet (Quiet.refl _)
  · obtain ⟨keep, hk⟩ := copyInto_overlaid h o s d
    rw [show h' = _ from (congrArg Prod.snd hc).symm.trans hk]
    exact overlaid keep fun q hq => hS d q hd hq
  · obtain ⟨keep', hk⟩ := copyInto_overlaid (h.made d fun q => q = d && keep q) o s d
    rw [show h' = _ from (congrArg Prod.snd hc).symm.trans hk]
    exact (made_self keep (hS d d hd (List.prefix_refl d))).trans
      (overlaid keep' fun q hq => hS d q hd hq)

lemma not_mountedBelow {l : Loc} (hf : Frame S h h') (hm : ¬ h.MountedBelow l) :
    ¬ h'.MountedBelow l := by
  unfold MountedBelow at hm ⊢
  rwa [hf.mounts]

end Frame

lemma not_mountedBelow_of_below {h : Host} {l q : Loc} (hlq : l <+: q)
    (hm : ¬ h.MountedBelow l) : ¬ h.MountedBelow q := by
  rintro ⟨m, hmem, hq⟩
  exact hm ⟨m, hmem, hlq.trans hq⟩

/-! ## Untouched locations -/

/-- Nothing at `d` or below it changed. -/
def Untouched (d : Loc) (h h' : Host) : Prop := ∀ q, d <+: q → h'.fs.node q = h.fs.node q

namespace Untouched

variable {d l : Loc} {h m h' : Host}

lemma of_quiet (hq : Quiet h h') : Untouched d h h' := fun q _ => by rw [hq.fs]

lemma trans (h₁ : Untouched d h m) (h₂ : Untouched d m h') : Untouched d h h' := fun q hq =>
  (h₂ q hq).trans (h₁ q hq)

lemma of_frame {S : Loc → Prop} (hf : Frame S h h') (hS : ∀ q, d <+: q → ¬ S q) :
    Untouched d h h' := fun q hq => hf.node q (hS q hq)

lemma contents (hu : Untouched d h h') (hd : d <+: l) :
    h'.fs.contents l = h.fs.contents l :=
  funext fun r => hu (l ++ r) (hd.trans (List.prefix_append l r))

end Untouched

/-- Nothing at `d` or below it changed, nor did the change time of `d`. -/
structure AsItWas (d : Loc) (h h' : Host) : Prop where
  untouched : Untouched d h h'
  ctime : h'.ctime d = h.ctime d

namespace AsItWas

variable {d l s t : Loc} {h m h' : Host}

lemma of_quiet (hq : Quiet h h') : AsItWas d h h' :=
  ⟨Untouched.of_quiet hq, by rw [hq.files.2.2]⟩

lemma trans (h₁ : AsItWas d h m) (h₂ : AsItWas d m h') : AsItWas d h h' :=
  ⟨h₁.untouched.trans h₂.untouched, h₂.ctime.trans h₁.ctime⟩

/-- The change time of a directory follows what is in it. -/
lemma of_setFs {fs : FileTree FileData} {touched : Loc → Bool} (ht : touched d = false)
    (hu : Untouched d h (h.setFs fs touched)) : AsItWas d h (h.setFs fs touched) := by
  refine ⟨hu, setFs_ctime_of_same ht (hu d (List.prefix_refl d)) (FileTree.list_congr fun n => ?_)⟩
  rw [show fs.node (d ++ [n]) = _ from hu _ (List.prefix_append d [n])]

lemma made (keep : Loc → Bool) (hu : Untouched d h (h.made l keep)) : AsItWas d h (h.made l keep) :=
  of_setFs rfl hu

lemma cleared (gone : Loc → Bool) (hu : Untouched d h (h.cleared l gone)) :
    AsItWas d h (h.cleared l gone) :=
  of_setFs rfl hu

/-- A copy to something that is apart. -/
lemma overlaid (keep : Loc → Bool) (hap : Apart t d) : AsItWas d h (h.overlaid s t keep) := by
  refine of_setFs ?_ (Untouched.of_frame (Frame.overlaid keep fun q hq => hq)
    fun q hq => hap.symm.not_below hq)
  have hpre : t.isPrefixOf d = false := by
    rw [Bool.eq_false_iff, ne_eq, List.isPrefixOf_iff_prefix]
    exact hap.1
  rw [hpre, Bool.false_and]

lemma mkdirAll {o : Outcome} {path : String} (hu : Untouched d h (h.mkdirAll o path).2) :
    AsItWas d h (h.mkdirAll o path).2 := by
  rcases e : h.mkdirAll o path with ⟨rep, h'⟩
  rw [e] at hu
  cases rep with
  | ok u =>
      obtain ⟨z, _, _, rfl⟩ := mkdirAll_ok e
      exact made _ hu
  | error err =>
      rcases mkdirAll_error e with ⟨rfl, _⟩ | ⟨z, reach, _, _, _, rfl⟩
      · exact of_quiet (Quiet.refl _)
      · exact made _ hu

lemma removeAll {o : Outcome} {path : String} (hu : Untouched d h (h.removeAll o path).2) :
    AsItWas d h (h.removeAll o path).2 := by
  rcases e : h.removeAll o path with ⟨rep, h'⟩
  rw [e] at hu
  rcases removeAll_cases e with rfl | ⟨z, gone, _, rfl, _⟩
  · exact of_quiet (Quiet.refl _)
  · exact cleared _ hu

/-- A copy may make its target first. -/
lemma copyReflink {o : Outcome} {src dst : String} (hap : ∀ z, locate dst = some z → Apart z d) :
    AsItWas d h (h.copyReflink o src dst).2 := by
  rcases e : h.copyReflink o src dst with ⟨rep, h'⟩
  rcases copyReflink_cases e with ⟨_, rfl⟩ | ⟨x, z, _, hz, _, ⟨_, hc⟩ | ⟨_, keep, hc⟩⟩
  · exact of_quiet (Quiet.refl _)
  · obtain ⟨keep, hk⟩ := copyInto_overlaid h o x z
    rw [show h' = _ from (congrArg Prod.snd hc).symm.trans hk]
    exact overlaid keep (hap z hz)
  · obtain ⟨keep', hk⟩ := copyInto_overlaid (h.made z fun q => q = z && keep q) o x z
    rw [show h' = _ from (congrArg Prod.snd hc).symm.trans hk]
    refine (made _ (Untouched.of_frame (Frame.made_self (S := fun q => q = z) keep rfl)
      fun q hq heq => ?_)).trans (overlaid keep' (hap z hz))
    exact (hap z hz).2 (heq ▸ hq)

end AsItWas

/-! ## Places where no file appears -/

/-- A file at `q` was there before. -/
def NoNewFile (q : Loc) (h h' : Host) : Prop :=
  ∀ c, h'.fs.node q = some (Node.file c) → h.fs.node q = some (Node.file c)

namespace NoNewFile

variable {q l s d : Loc} {h m h' : Host}

lemma of_eq (he : h'.fs.node q = h.fs.node q) : NoNewFile q h h' := fun c hc => by rwa [← he]

lemma of_quiet (hq : Quiet h h') : NoNewFile q h h' := of_eq (by rw [hq.fs])

lemma trans (h₁ : NoNewFile q h m) (h₂ : NoNewFile q m h') : NoNewFile q h h' := fun c hc =>
  h₁ c (h₂ c hc)

lemma made (keep : Loc → Bool) : NoNewFile q h (h.made l keep) := by
  intro c hc
  rw [made_fs] at hc
  unfold FileTree.create at hc
  split_ifs at hc
  · simp only at hc
    split_ifs at hc
    · cases hc
    · exact hc
  · exact hc

lemma cleared (gone : Loc → Bool) : NoNewFile q h (h.cleared l gone) := by
  intro c hc
  rw [cleared_fs, removed, FileTree.prune_node] at hc
  split_ifs at hc
  exact hc

/-- A copy into a directory leaves it a directory. -/
lemma overlaid (keep : Loc → Bool) (hd : h.fs.node d = some Node.dir) :
    NoNewFile d h (h.overlaid s d keep) := by
  intro c hc
  rw [overlaid_fs, FileTree.overlay_node_self _ hd] at hc
  cases hc

end NoNewFile

/-- What `MkdirAll` makes is a directory. -/
lemma made_new_dir {h : Host} {q d : Loc} {keep : Loc → Bool} (hq : h.fs.node q = none)
    (hq' : (h.made d keep).fs.node q ≠ none) : (h.made d keep).fs.node q = some Node.dir := by
  cases hx : (h.made d keep).fs.node q with
  | none => exact absurd hx hq'
  | some x =>
      cases x with
      | dir => rfl
      | file c => cases hq.symm.trans (NoNewFile.made keep c hx)

/-- A removal takes away some of what it is to remove, and nothing else. -/
lemma cleared_node_cases (h : Host) (l : Loc) (gone : Loc → Bool) (q : Loc) :
    (h.cleared l gone).fs.node q = h.fs.node q
      ∨ (h.cleared l gone).fs.node q = none ∧ h.Removed l q := by
  rw [cleared_fs, removed, FileTree.prune_node]
  split_ifs with hc
  · exact Or.inr ⟨rfl, hc.2.1⟩
  · exact Or.inl rfl

lemma cleared_node_or (h : Host) (l : Loc) (gone : Loc → Bool) (q : Loc) :
    (h.cleared l gone).fs.node q = h.fs.node q ∨ (h.cleared l gone).fs.node q = none :=
  (cleared_node_cases h l gone q).imp_right And.left

end Hostpath
