import Hostpath.Host.Calls

/-!
# The calls around mounts

What `IsNotMountPoint`, `Mkdir`, `Mount` and `Unmount` do, in the form the node service needs: a
mount goes on top of the others on its target, an unmount takes the newest off.
-/

namespace Hostpath

namespace Host

open Lib FilePath

variable {h h' : Host} {o : Outcome} {p : String} {l : Loc}

/-! ## Is something mounted? -/

lemma top_eq_none : h.top l = none ↔ ∀ m ∈ h.mounts, m.target ≠ l := by
  simp [top]

lemma top_congr (hm : h'.mounts = h.mounts) : h'.top l = h.top l := by
  rw [top, hm, top]

/-- A new mount is on top of its target. -/
lemma top_cons {x : Mount} (hm : h'.mounts = x :: h.mounts) :
    h'.top l = if x.target = l then some x else h.top l := by
  rw [top, hm, top, List.find?_cons]
  by_cases hx : x.target = l <;> simp [hx]

/-- Taking a mount off one target leaves the others. -/
lemma top_eraseP {t : Loc} (hm : h'.mounts = h.mounts.eraseP fun m => m.target = t)
    (hne : l ≠ t) : h'.top l = h.top l := by
  rw [top, hm, top]
  induction h.mounts with
  | nil => rfl
  | cons x rest ih =>
      by_cases hx : x.target = t
      · simp [hx, hne.symm]
      · simp only [hx, decide_false, Bool.false_eq_true, not_false_eq_true, List.eraseP_cons_of_neg,
          List.find?_cons, ih]

lemma isNotMountPoint_ok {b : Bool}
    (e : h.step (Syscall.isNotMountPoint p) = (Except.ok b, h')) :
    h' = h.tick ∧ ∃ l, locate p = some l ∧ h.fs.node l ≠ none ∧ b = (h.top l).isNone := by
  obtain ⟨hr, rfl⟩ := Prod.mk.inj e
  obtain ⟨_, hs⟩ := ask_ok hr
  refine ⟨rfl, ?_⟩
  unfold isNotMountPoint at hs
  cases hl : h.tick.lookup p with
  | error n => simp [hl, Except.map] at hs
  | ok x =>
      obtain ⟨hloc, hn⟩ := lookup_eq_ok.mp hl
      rw [hl] at hs
      refine ⟨x.1, hloc, ?_, (Except.ok.inj hs).symm⟩
      rw [tick_fs] at hn
      simp [hn]

lemma isNotMountPoint_error {err : OsError}
    (e : h.step (Syscall.isNotMountPoint p) = (Except.error err, h')) :
    h' = h.tick ∧ (err.isNotExist = true → h.at? p = none) := by
  obtain ⟨hr, rfl⟩ := Prod.mk.inj e
  refine ⟨rfl, ?_⟩
  rcases ask_error hr with ⟨hf, rfl⟩ | ⟨n, hs, rfl⟩
  · exact fun he => absurd he (by simp [OsError.isNotExist])
  · unfold isNotMountPoint at hs
    cases hl : h.tick.lookup p with
    | ok x => simp [hl, Except.map] at hs
    | error m => exact fun _ => (lookup_eq_error hl).1

lemma isNotMountPoint_of_noFault (hf : (h.outcomes 0).fault = none) (hl : locate p = some l)
    (hn : h.fs.node l ≠ none) :
    h.step (Syscall.isNotMountPoint p) = (Except.ok (h.top l).isNone, h.tick) := by
  obtain ⟨x, hx⟩ := Option.ne_none_iff_exists'.mp hn
  have hlook : h.tick.lookup p = Except.ok (l, x) := lookup_eq_ok.mpr ⟨hl, hx⟩
  refine Prod.ext ?_ rfl
  show (h.outcomes 0).ask _ (h.tick.isNotMountPoint p) = _
  rw [ask_of_noFault hf, isNotMountPoint, hlook]
  rfl

lemma isNotMountPoint_of_missing (hf : (h.outcomes 0).fault = none) (hl : locate p = some l)
    (hn : h.fs.node l = none) (hb : h.fs.blocked l = false) :
    h.step (Syscall.isNotMountPoint p)
      = (Except.error (OsError.path "stat" p Errno.notExist), h.tick) := by
  have hlook : h.tick.lookup p = Except.error Errno.notExist := lookup_error_of_none hl hn hb
  refine Prod.ext ?_ rfl
  show (h.outcomes 0).ask _ (h.tick.isNotMountPoint p) = _
  rw [ask_of_noFault hf, isNotMountPoint, hlook]
  rfl

/-! ## Making the target -/

lemma mkdir_ok {u : Unit} (e : h.mkdir o p = (Except.ok u, h')) :
    ∃ l, locate p = some l ∧ h.fs.node l = none ∧ h.fs.blocked l = false
      ∧ h.fs.node l.dropLast ≠ none ∧ h' = h.made l fun _ => true := by
  unfold mkdir at e
  cases hl : locate p with
  | none =>
      rw [hl] at e
      cases e
  | some l =>
      simp only [hl] at e
      split_ifs at e with hf hn hb hpar <;> cases e
      exact ⟨l, rfl, by simpa using hn, by simpa using hb, hpar, rfl⟩

lemma mkdir_error {err : OsError} (e : h.mkdir o p = (Except.error err, h')) : h' = h := by
  unfold mkdir at e
  cases hl : locate p with
  | none =>
      rw [hl] at e
      cases e
      rfl
  | some l =>
      simp only [hl] at e
      split_ifs at e <;> cases e <;> rfl

lemma mkdir_of_noFault (hf : o.fault = none) (hl : locate p = some l) (hn : h.fs.node l = none)
    (hb : h.fs.blocked l = false) (hpar : h.fs.node l.dropLast ≠ none) :
    h.mkdir o p = (Except.ok (), h.made l fun _ => true) := by
  simp [mkdir, hl, hf, hn, hb, hpar]

/-! ## Mounting -/

variable {s t : String} {opts : List String}

/-- The host with a bind mount put on top of the target. -/
def mounted (h : Host) (m : Mount) : Host := { h with mounts := m :: h.mounts }

@[simp] lemma mounted_fs (h : Host) (m : Mount) : (h.mounted m).fs = h.fs := rfl

@[simp] lemma mounted_mounts (h : Host) (m : Mount) : (h.mounted m).mounts = m :: h.mounts := rfl

/-- The options of a bind mount that is in place: those that were asked for, or, if the mount
failed, none beyond `bind`. -/
def bindOptions (opts : List String) (ok : Bool) : List String := if ok then opts else ["bind"]

/-- A mount binds one directory to another, or does not happen. -/
lemma mount_cases {rep : Except OsError Unit} (e : h.mount o s t opts = (rep, h')) :
    (h' = h ∧ rep.isOk = false) ∨ ∃ sl tl, locate s = some sl ∧ locate t = some tl
      ∧ h.fs.node sl = some Node.dir ∧ h.fs.node tl = some Node.dir
      ∧ h' = h.mounted ⟨tl, sl, bindOptions opts rep.isOk⟩ := by
  unfold mount at e
  dsimp only at e
  split at e
  · rename_i sl tl hs ht
    obtain ⟨hsl, hsd⟩ := lookup_eq_ok.mp hs
    obtain ⟨htl, htd⟩ := lookup_eq_ok.mp ht
    split at e
    · cases e
      exact Or.inr ⟨sl, tl, hsl, htl, hsd, htd, rfl⟩
    · split_ifs at e with hreach
      · cases e
        exact Or.inr ⟨sl, tl, hsl, htl, hsd, htd, rfl⟩
      · cases e
        exact Or.inl ⟨rfl, rfl⟩
  · cases e
    exact Or.inl ⟨rfl, rfl⟩

lemma mount_fs (h : Host) (o : Outcome) (s t : String) (opts : List String) :
    (h.mount o s t opts).2.fs = h.fs := by
  rcases e : h.mount o s t opts with ⟨rep, h'⟩
  rcases mount_cases e with ⟨rfl, _⟩ | ⟨_, _, _, _, _, _, rfl⟩ <;> rfl

lemma mount_of_noFault {sl tl : Loc} (hf : o.fault = none) (hs : locate s = some sl)
    (ht : locate t = some tl) (hsd : h.fs.node sl = some Node.dir)
    (htd : h.fs.node tl = some Node.dir) :
    h.mount o s t opts = (Except.ok (), h.mounted ⟨tl, sl, opts⟩) := by
  have hls : h.lookup s = Except.ok (sl, Node.dir) := lookup_eq_ok.mpr ⟨hs, hsd⟩
  have hlt : h.lookup t = Except.ok (tl, Node.dir) := lookup_eq_ok.mpr ⟨ht, htd⟩
  simp only [mount, hls, hlt, hf]
  rfl

/-! ## Unmounting -/

/-- The host with the newest mount taken off the target. -/
def unmounted (h : Host) (l : Loc) : Host :=
  { h with mounts := h.mounts.eraseP fun m => m.target = l }

@[simp] lemma unmounted_fs (h : Host) (l : Loc) : (h.unmounted l).fs = h.fs := rfl

@[simp] lemma unmounted_mounts (h : Host) (l : Loc) :
    (h.unmounted l).mounts = h.mounts.eraseP fun m => m.target = l := rfl

lemma unmount_ok {u : Unit} (e : h.unmount o t = (Except.ok u, h')) :
    ∃ l, locate t = some l ∧ h.top l ≠ none ∧ h' = h.unmounted l := by
  unfold unmount at e
  cases hl : locate t with
  | none =>
      rw [hl] at e
      cases e
  | some l =>
      simp only [hl] at e
      split_ifs at e with hc <;> cases e
      exact ⟨l, rfl, fun h0 => hc (Or.inr h0), rfl⟩

lemma unmount_error {err : OsError} (e : h.unmount o t = (Except.error err, h')) : h' = h := by
  unfold unmount at e
  cases hl : locate t with
  | none =>
      rw [hl] at e
      cases e
      rfl
  | some l =>
      simp only [hl] at e
      split_ifs at e <;> cases e
      rfl

lemma unmount_fs (h : Host) (o : Outcome) (t : String) : (h.unmount o t).2.fs = h.fs := by
  rcases e : h.unmount o t with ⟨rep, h'⟩
  cases rep with
  | ok u =>
      obtain ⟨_, _, _, rfl⟩ := unmount_ok e
      rfl
  | error err => rw [unmount_error e]

end Host

end Hostpath
