import Hostpath.Host.Syscall

/-!
# What the calls do

For each call that changes something, what is true of the host after it, split by whether it
reported an error.  Handlers are reasoned about through these lemmas only.
-/

namespace Hostpath

open Lib FilePath Prog

namespace Host

/-! ## Executing a program -/

/-- Execute a program on a host: its result and the host it leaves. -/
def exec {E α : Type} (h : Host) (x : ExceptT E (Prog Syscall Reply) α) : Except E α × Host :=
  Prog.exec step x h

/-- A single call, as a program, does what `step` does. -/
lemma exec_perform_eq {E : Type} {h h' : Host} {c : Syscall} {r : Reply c} :
    h.exec (perform c : ExceptT E (Prog Syscall Reply) (Reply c)) = (Except.ok r, h')
      ↔ h.step c = (r, h') := by
  rw [exec, exec_perform]
  constructor
  · intro e
    obtain ⟨hr, hh⟩ := Prod.mk.inj e
    exact Prod.ext (Except.ok.inj hr) hh
  · intro e
    rw [e]

/-- A call that fails is a reply; the program goes on and decides what to do about it. -/
lemma exec_perform_ne_error {E : Type} {h h' : Host} {c : Syscall} {err : E} :
    h.exec (perform c : ExceptT E (Prog Syscall Reply) (Reply c)) ≠ (Except.error err, h') := by
  intro e
  cases (Prod.mk.inj e).1

/-- What is attempted may fail, and its result is inspected. -/
lemma exec_attempt_eq {E α : Type} {h h' : Host} {x : ExceptT E (Prog Syscall Reply) α}
    {r : Except E α} : h.exec (attempt x) = (Except.ok r, h') ↔ h.exec x = (r, h') := by
  rw [exec, exec_attempt]
  constructor
  · intro e
    obtain ⟨hr, hh⟩ := Prod.mk.inj e
    exact Prod.ext (Except.ok.inj hr) hh
  · intro e
    rw [exec] at e
    rw [e]

/-- An attempt itself does not fail. -/
lemma exec_attempt_ne_error {E α : Type} {h h' : Host} {x : ExceptT E (Prog Syscall Reply) α}
    {err : E} : h.exec (attempt x) ≠ (Except.error err, h') := by
  intro e
  rw [exec, exec_attempt] at e
  cases (Prod.mk.inj e).1

@[simp] lemma tick_fs (h : Host) : h.tick.fs = h.fs := rfl

@[simp] lemma tick_mounts (h : Host) : h.tick.mounts = h.mounts := rfl

@[simp] lemma tick_ctime (h : Host) : h.tick.ctime = h.ctime := rfl

/-- Time passing uses up one outcome. -/
@[simp] lemma tick_outcomes (h : Host) (n : ℕ) : h.tick.outcomes n = h.outcomes (n + 1) := rfl

/-- Only time passed: calls were made that look and change nothing. -/
def Quiet (h h' : Host) : Prop := ∃ k, h' = tick^[k] h

namespace Quiet

variable {h h' h'' : Host}

lemma refl (h : Host) : Quiet h h := ⟨0, rfl⟩

lemma tick (h : Host) : Quiet h h.tick := ⟨1, rfl⟩

/-- Looking twice is looking. -/
lemma trans (h₁ : Quiet h h') (h₂ : Quiet h' h'') : Quiet h h'' := by
  obtain ⟨k, rfl⟩ := h₁
  obtain ⟨m, rfl⟩ := h₂
  exact ⟨m + k, (Function.iterate_add_apply _ _ _ _).symm⟩

/-- Nothing of what a client can see is different. -/
lemma files (hq : Quiet h h') : h'.fs = h.fs ∧ h'.mounts = h.mounts ∧ h'.ctime = h.ctime := by
  obtain ⟨k, rfl⟩ := hq
  induction k with
  | zero => exact ⟨rfl, rfl, rfl⟩
  | succ k ih =>
      rw [Function.iterate_succ_apply']
      exact ih

lemma fs (hq : Quiet h h') : h'.fs = h.fs := hq.files.1

lemma mounts (hq : Quiet h h') : h'.mounts = h.mounts := hq.files.2.1

end Quiet

@[simp] lemma made_fs (h : Host) (l : Loc) (keep : Loc → Bool) :
    (h.made l keep).fs = h.fs.create l keep := rfl

@[simp] lemma made_mounts (h : Host) (l : Loc) (keep : Loc → Bool) :
    (h.made l keep).mounts = h.mounts := rfl

@[simp] lemma cleared_fs (h : Host) (l : Loc) (gone : Loc → Bool) :
    (h.cleared l gone).fs = h.removed l gone := rfl

@[simp] lemma cleared_mounts (h : Host) (l : Loc) (gone : Loc → Bool) :
    (h.cleared l gone).mounts = h.mounts := rfl

@[simp] lemma overlaid_fs (h : Host) (s d : Loc) (keep : Loc → Bool) :
    (h.overlaid s d keep).fs = h.fs.overlay s d keep := rfl

@[simp] lemma overlaid_mounts (h : Host) (s d : Loc) (keep : Loc → Bool) :
    (h.overlaid s d keep).mounts = h.mounts := rfl

/-- A copy touches the directory that it copies to. -/
lemma overlaid_ctime_self (h : Host) (s d : Loc) (keep : Loc → Bool) :
    (h.overlaid s d keep).ctime d = h.now := by
  simp [overlaid, setFs]

/-- The change time stays where neither what is there nor its entries are different. -/
lemma setFs_ctime_of_same {h : Host} {fs : FileTree FileData} {touched : Loc → Bool} {q : Loc}
    (ht : touched q = false) (hn : fs.node q = h.fs.node q) (hl : fs.list q = h.fs.list q) :
    (h.setFs fs touched).ctime q = h.ctime q := by
  simp [setFs, ht, hn, hl]

/-- Making directories leaves alone what is there. -/
lemma made_keeps {h : Host} {d q : Loc} (keep : Loc → Bool) (hq : h.fs.node q ≠ none) :
    (h.made d keep).fs.node q = h.fs.node q := by
  obtain ⟨x, hx⟩ := Option.ne_none_iff_exists'.mp hq
  rw [hx]
  exact FileTree.create_node_of_some _ _ hx

/-! ## Failures -/

@[simp] lemma mkdir_outcomes (h : Host) (o : Outcome) (p : String) :
    (h.mkdir o p).2.outcomes = h.outcomes := by
  unfold mkdir
  dsimp only
  split <;> [rfl; (split_ifs <;> rfl)]

@[simp] lemma mkdirAll_outcomes (h : Host) (o : Outcome) (p : String) :
    (h.mkdirAll o p).2.outcomes = h.outcomes := by
  unfold mkdirAll
  split
  · rfl
  · split_ifs
    · rfl
    · split <;> rfl

@[simp] lemma removeAll_outcomes (h : Host) (o : Outcome) (p : String) :
    (h.removeAll o p).2.outcomes = h.outcomes := by
  unfold removeAll
  split
  · rfl
  · split
    · rfl
    · split
      · rfl
      · split <;> rfl

@[simp] lemma copyReflink_outcomes (h : Host) (o : Outcome) (s d : String) :
    (h.copyReflink o s d).2.outcomes = h.outcomes := by
  unfold copyReflink
  split
  · dsimp only
    split_ifs <;> rfl
  · rfl

@[simp] lemma mount_outcomes (h : Host) (o : Outcome) (s t : String) (opts : List String) :
    (h.mount o s t opts).2.outcomes = h.outcomes := by
  unfold mount
  dsimp only
  split
  · split
    · rfl
    · split_ifs <;> rfl
  · rfl

@[simp] lemma unmount_outcomes (h : Host) (o : Outcome) (t : String) :
    (h.unmount o t).2.outcomes = h.outcomes := by
  unfold unmount
  dsimp only
  split
  · rfl
  · split_ifs <;> rfl

/-- A call uses up one outcome. -/
lemma step_outcomes (h : Host) (c : Syscall) :
    (h.step c).2.outcomes = fun n => h.outcomes (n + 1) := by
  cases c with
  | statfs | stat | readDir | isNotMountPoint | findmnt => rfl
  | mkdir p => exact mkdir_outcomes h.tick _ p
  | mkdirAll p => exact mkdirAll_outcomes h.tick _ p
  | removeAll p => exact removeAll_outcomes h.tick _ p
  | copyReflink s d => exact copyReflink_outcomes h.tick _ s d
  | mount s t f o => exact mount_outcomes h.tick _ s t o
  | unmount t => exact unmount_outcomes h.tick _ t

/-- Without failures to come there are none afterwards either. -/
lemma NoFaults.exec {E α : Type} {h : Host} (hf : h.NoFaults)
    (x : ExceptT E (Prog Syscall Reply) α) : (h.exec x).2.NoFaults := by
  refine exec_invariant (fun s c hs n => ?_) x hf
  rw [step_outcomes]
  exact hs (n + 1)

/-- The form in which it is used, with the execution as an equation. -/
lemma NoFaults.of_exec {E α : Type} {h h' : Host} (hf : h.NoFaults)
    {x : ExceptT E (Prog Syscall Reply) α} {r : Except E α} (hx : h.exec x = (r, h')) :
    h'.NoFaults := by
  have := hf.exec x
  rwa [hx] at this

/-- Looking uses up outcomes, but those to come do not fail either. -/
lemma NoFaults.quiet {h h' : Host} (hf : h.NoFaults) (hq : Quiet h h') : h'.NoFaults := by
  obtain ⟨k, rfl⟩ := hq
  induction k with
  | zero => exact hf
  | succ k ih =>
      rw [Function.iterate_succ_apply']
      exact fun n => ih (n + 1)

/-! ## Looking -/

/-- What is at a path. -/
def at? (h : Host) (p : String) : Option (Node FileData) := (locate p).bind h.fs.node

/-- A path leads somewhere exactly if something is there; no component is a link. -/
lemma lookup_eq_ok {h : Host} {p : String} {x : Loc × Node FileData} :
    h.lookup p = Except.ok x ↔ locate p = some x.1 ∧ h.fs.node x.1 = some x.2 := by
  unfold lookup
  cases hl : locate p with
  | none => simp
  | some l =>
      dsimp only
      split
      · rename_i y hn
        simp only [Except.ok.injEq, Option.some.injEq]
        constructor
        · rintro rfl
          exact ⟨rfl, hn⟩
        · rintro ⟨rfl, hy⟩
          rw [hn] at hy
          rw [Option.some.inj hy]
      · rename_i hn
        simp only [reduceCtorEq, Option.some.injEq, false_iff, not_and]
        rintro rfl
        simp [hn]

/-- A path that leads nowhere has nothing at its end, or a file on the way. -/
lemma lookup_eq_error {h : Host} {p : String} {e : Errno} (he : h.lookup p = Except.error e) :
    h.at? p = none ∧ (e = Errno.notExist ∨ e = Errno.notDir) := by
  unfold lookup at he
  unfold at?
  cases hl : locate p with
  | none => rw [hl] at he; exact ⟨rfl, Or.inl (by simpa using he.symm)⟩
  | some l =>
      rw [hl] at he
      cases hn : h.fs.node l with
      | none =>
          simp only [hn, Except.error.injEq] at he
          refine ⟨hn, ?_⟩
          split_ifs at he
          · exact Or.inr he.symm
          · exact Or.inl he.symm
      | some y => simp [hn] at he

variable {h h' : Host} {o : Outcome} {p : String}

/-- Where nothing is in the way, what is missing does not exist. -/
lemma lookup_error_of_none {l : Loc} (hl : locate p = some l) (hn : h.fs.node l = none)
    (hb : h.fs.blocked l = false) : h.lookup p = Except.error Errno.notExist := by
  simp [lookup, hl, hn, hb]

/-- Below a file nothing can be looked up. -/
lemma lookup_error_of_blocked {l q : Loc} {c : FileData} (hl : locate p = some l) (hq : q <+: l)
    (hne : q ≠ l) (hfile : h.fs.node q = some (Node.file c)) :
    h.lookup p = Except.error Errno.notDir := by
  have hn : h.fs.node l = none := by
    by_contra hn
    cases (FileTree.node_of_below hq hne hn).symm.trans hfile
  have hb : h.fs.blocked l = true := by
    by_contra hb
    cases h.fs.blocked_eq_false (by simpa using hb) hq hfile
  simp [lookup, hl, hn, hb]

/-- A question that was answered did not fail, and the answer is the true one. -/
lemma ask_ok {α : Type} {e : Errno → OsError} {r : Except Errno α} {a : α}
    (hr : o.ask e r = Except.ok a) : o.fault = none ∧ r = Except.ok a := by
  unfold Outcome.ask at hr
  cases hf : o.fault with
  | some reach => simp [hf] at hr
  | none =>
      cases r with
      | ok b => simpa [hf, Except.mapError] using hr
      | error b => simp [hf, Except.mapError] at hr

/-- A question can fail by itself, or because of what it is about. -/
lemma ask_error {α : Type} {e : Errno → OsError} {r : Except Errno α} {err : OsError}
    (hr : o.ask e r = Except.error err) :
    (o.fault ≠ none ∧ err = e Errno.io) ∨ ∃ n, r = Except.error n ∧ err = e n := by
  unfold Outcome.ask at hr
  cases hf : o.fault with
  | some reach => exact Or.inl ⟨by simp, by simpa [hf] using hr.symm⟩
  | none =>
      cases r with
      | ok b => simp [hf, Except.mapError] at hr
      | error n => exact Or.inr ⟨n, rfl, by simpa [hf, Except.mapError] using hr.symm⟩

lemma ask_of_noFault {α : Type} {e : Errno → OsError} {r : Except Errno α}
    (hf : o.fault = none) : o.ask e r = r.mapError e := by
  simp [Outcome.ask, hf]

/-- What `os.Stat` says of something is true of it. -/
lemma stat_ok {info : FileInfo} (e : h.step (Syscall.stat p) = (Except.ok info, h')) :
    h' = h.tick ∧ ∃ l x, locate p = some l ∧ h.fs.node l = some x ∧ info.ctime = h.ctime l
      ∧ info.isDir = (x = Node.dir : Bool) := by
  obtain ⟨hr, rfl⟩ := Prod.mk.inj e
  obtain ⟨_, hs⟩ := ask_ok hr
  refine ⟨rfl, ?_⟩
  unfold stat at hs
  cases hl : h.tick.lookup p with
  | error n => simp [hl, Except.map] at hs
  | ok x =>
      obtain ⟨hloc, hn⟩ := lookup_eq_ok.mp hl
      refine ⟨x.1, x.2, hloc, hn, ?_⟩
      rw [hl] at hs
      obtain ⟨l, x⟩ := x
      cases x <;> cases hs <;> exact ⟨rfl, rfl⟩

/-- Only if there is nothing does `os.Stat` say so; other errors say nothing about what is there. -/
lemma stat_error {err : OsError} (e : h.step (Syscall.stat p) = (Except.error err, h')) :
    h' = h.tick ∧ (err.isNotExist = true → h.at? p = none)
      ∧ ((h.outcomes 0).fault = none → h.lookup p = Except.error Errno.notExist →
        err.isNotExist = true) := by
  obtain ⟨hr, rfl⟩ := Prod.mk.inj e
  refine ⟨rfl, ?_⟩
  rcases ask_error hr with ⟨hf, rfl⟩ | ⟨n, hs, rfl⟩
  · exact ⟨fun he => absurd he (by simp [OsError.isNotExist]), fun h0 => absurd h0 hf⟩
  · unfold stat at hs
    cases hl : h.tick.lookup p with
    | ok x => simp [hl, Except.map] at hs
    | error m =>
        rw [hl] at hs
        cases hs
        refine ⟨fun _ => (lookup_eq_error hl).1, fun _ hne => ?_⟩
        have hm : Except.error n = Except.error Errno.notExist := hl.symm.trans hne
        simpa [OsError.isNotExist] using hm

/-- A check that found nothing found that nothing is in the way either. -/
lemma lookup_of_stat_notExist {err : OsError}
    (e : h.step (Syscall.stat p) = (Except.error err, h')) (hne : err.isNotExist = true) :
    h.lookup p = Except.error Errno.notExist := by
  obtain ⟨hr, _⟩ := Prod.mk.inj e
  rcases ask_error hr with ⟨_, rfl⟩ | ⟨n, hs, rfl⟩
  · simp [OsError.isNotExist] at hne
  · have hn : n = Errno.notExist := by simpa [OsError.isNotExist] using hne
    subst hn
    have hs' : (h.lookup p).map _ = Except.error Errno.notExist := hs
    cases hl : h.lookup p with
    | ok x => simp [hl, Except.map] at hs'
    | error n =>
        rw [hl] at hs'
        cases hs'
        rfl

/-- What does not exist could be made there. -/
lemma node_of_lookup_notExist {l : Loc} (hl : locate p = some l)
    (hx : h.lookup p = Except.error Errno.notExist) :
    h.fs.node l = none ∧ h.fs.blocked l = false := by
  unfold lookup at hx
  rw [hl] at hx
  cases hnode : h.fs.node l with
  | some x => simp [hnode] at hx
  | none =>
      refine ⟨rfl, ?_⟩
      by_contra hb
      rw [Bool.not_eq_false] at hb
      simp [hnode, hb] at hx

lemma stat_of_fault {reach : Loc → Bool} (hf : (h.outcomes 0).fault = some reach) :
    h.step (Syscall.stat p) = (Except.error (OsError.path "stat" p Errno.io), h.tick) := by
  refine Prod.ext ?_ rfl
  show (h.outcomes 0).ask _ (h.tick.stat p) = _
  rw [Outcome.ask, hf]

lemma stat_of_noFault (hf : (h.outcomes 0).fault = none) :
    (h.step (Syscall.stat p)).1 = (h.stat p).mapError (OsError.path "stat" p) :=
  ask_of_noFault hf

/-- Without a failure a directory is seen, with its change time. -/
lemma stat_of_dir {l : Loc} (hf : (h.outcomes 0).fault = none) (hl : locate p = some l)
    (hdir : h.fs.node l = some Node.dir) :
    h.step (Syscall.stat p) = (Except.ok ⟨true, "drwxr-xr-x", h.ctime l⟩, h.tick) := by
  have hlook : h.lookup p = Except.ok (l, Node.dir) := lookup_eq_ok.mpr ⟨hl, hdir⟩
  refine Prod.ext ((stat_of_noFault hf).trans ?_) rfl
  rw [stat, hlook]
  rfl

/-- The entries of the directory at `l`. -/
def entries (h : Host) (l : Loc) : List DirEntry :=
  (h.fs.list l).map fun n => ⟨n, h.fs.node (l ++ [n]) = some Node.dir⟩

/-- A listing that was returned is that of a directory, and complete. -/
lemma readDir_ok {es : List DirEntry} (e : h.step (Syscall.readDir p) = (Except.ok es, h')) :
    h' = h.tick ∧ ∃ l, locate p = some l ∧ h.fs.node l = some Node.dir ∧ es = h.entries l := by
  obtain ⟨hr, rfl⟩ := Prod.mk.inj e
  obtain ⟨_, hs⟩ := ask_ok hr
  refine ⟨rfl, ?_⟩
  unfold readDir at hs
  cases hl : h.tick.lookup p with
  | error n => simp [hl] at hs
  | ok x =>
      obtain ⟨hloc, hn⟩ := lookup_eq_ok.mp hl
      obtain ⟨l, x⟩ := x
      rw [hl] at hs
      cases x with
      | dir => exact ⟨l, hloc, hn, (Except.ok.inj hs).symm⟩
      | file d => cases hs

/-- Without a failure every directory can be listed. -/
lemma readDir_of_noFault (hf : (h.outcomes 0).fault = none) {l : Loc} (hl : locate p = some l)
    (hn : h.fs.node l = some Node.dir) :
    h.step (Syscall.readDir p) = (Except.ok (h.entries l), h.tick) := by
  have hlook : h.tick.lookup p = Except.ok (l, Node.dir) := lookup_eq_ok.mpr ⟨hl, hn⟩
  refine Prod.ext ?_ rfl
  show (h.outcomes 0).ask _ (h.tick.readDir p) = _
  rw [ask_of_noFault hf, readDir, hlook]
  rfl

/-- Space is reported only of something that is there. -/
lemma statfs_ok {s : Statfs} (e : (h.step (Syscall.statfs p)).1 = Except.ok s) :
    (h.outcomes 0).fault = none ∧ ∃ l, locate p = some l ∧ h.fs.node l ≠ none := by
  obtain ⟨hf, hs⟩ := ask_ok e
  refine ⟨hf, ?_⟩
  unfold statfs at hs
  cases hl : h.tick.lookup p with
  | error n => simp [hl, Except.map] at hs
  | ok x =>
      obtain ⟨hloc, hn⟩ := lookup_eq_ok.mp hl
      exact ⟨x.1, hloc, by rw [tick_fs] at hn; simp [hn]⟩

lemma statfs_of_noFault (hf : (h.outcomes 0).fault = none) {l : Loc} (hl : locate p = some l)
    (hn : h.fs.node l ≠ none) :
    (h.step (Syscall.statfs p)).1 = Except.ok ((h.outcomes 0).space l) := by
  obtain ⟨x, hx⟩ := Option.ne_none_iff_exists'.mp hn
  have hlook : h.tick.lookup p = Except.ok (l, x) := lookup_eq_ok.mpr ⟨hl, hx⟩
  show (h.outcomes 0).ask _ (h.tick.statfs (h.outcomes 0) p) = _
  rw [ask_of_noFault hf, statfs, hlook]
  rfl

/-! ## Making directories -/

/-- **`os.MkdirAll` succeeded**: nothing was in the way, and everything on the way is there. -/
lemma mkdirAll_ok {u : Unit} (e : h.mkdirAll o p = (Except.ok u, h')) :
    ∃ l, locate p = some l ∧ h.fs.blocked l = false
      ∧ h' = h.made l fun _ => true := by
  unfold mkdirAll at e
  cases hl : locate p with
  | none => simp [hl] at e
  | some l =>
      rw [hl] at e
      dsimp only at e
      split_ifs at e with hb
      · cases e
      · cases hf : o.fault with
        | none =>
            rw [hf] at e
            cases e
            exact ⟨l, rfl, by simpa using hb, rfl⟩
        | some reach =>
            rw [hf] at e
            cases e

/-- **`os.MkdirAll` failed**: a file is in the way, or the call was cut short before it made the
last directory. -/
lemma mkdirAll_error {err : OsError} (e : h.mkdirAll o p = (Except.error err, h')) :
    (h' = h ∧ ∀ l, locate p = some l → h.fs.blocked l = true)
      ∨ ∃ l reach, locate p = some l ∧ h.fs.blocked l = false ∧ o.fault = some reach
        ∧ h' = h.made l fun q => reach q && q ≠ l := by
  unfold mkdirAll at e
  cases hl : locate p with
  | none =>
      rw [hl] at e
      cases e
      exact Or.inl ⟨rfl, by simp⟩
  | some l =>
      rw [hl] at e
      dsimp only at e
      split_ifs at e with hb
      · cases e
        exact Or.inl ⟨rfl, by simpa using hb⟩
      · cases hf : o.fault with
        | none =>
            rw [hf] at e
            cases e
        | some reach =>
            rw [hf] at e
            cases e
            exact Or.inr ⟨l, reach, rfl, by simpa using hb, rfl, rfl⟩

/-- Without a failure directories are made wherever no file is in the way. -/
lemma mkdirAll_of_noFault {l : Loc} (hf : o.fault = none) (hl : locate p = some l)
    (hb : h.fs.blocked l = false) :
    h.mkdirAll o p = (Except.ok (), h.made l fun _ => true) := by
  simp only [mkdirAll, hl, hb, hf, Bool.false_eq_true, if_false]

/-- How far a call gets that is cut short is part of its outcome. -/
lemma mkdirAll_of_fault {l : Loc} {reach : Loc → Bool} (hf : o.fault = some reach)
    (hl : locate p = some l) (hb : h.fs.blocked l = false) :
    h.mkdirAll o p = (Except.error (OsError.path "mkdir" p Errno.io),
      h.made l fun q => reach q && q ≠ l) := by
  simp only [mkdirAll, hl, hb, hf, Bool.false_eq_true, if_false]

/-! ## Removing -/

/-- Where nothing is mounted, removing takes what is below and nothing else. -/
lemma removed_iff_below {l : Loc} (hm : ¬ h.MountedBelow l) (q : Loc) :
    h.Removed l q ↔ l <+: q := by
  constructor
  · rintro (⟨hl, _⟩ | ⟨m, hmem, hl, _⟩)
    · exact hl
    · exact absurd ⟨m, hmem, hl⟩ hm
  · exact fun hl => Or.inl ⟨hl, fun m hmem hlm => absurd ⟨m, hmem, hlm⟩ hm⟩

/-- The tree after everything below `l` was removed. -/
lemma removed_node {l : Loc} (hl : l ≠ []) (hm : ¬ h.MountedBelow l) (q : Loc) :
    (h.removed l fun _ => true).node q = if l <+: q then none else h.fs.node q := by
  rw [removed, FileTree.prune_all_node]
  by_cases hq : l <+: q
  · have hne : q ≠ [] := by
      rintro rfl
      exact hl (List.prefix_nil.mp hq)
    rw [if_pos ⟨hne, (removed_iff_below hm q).mpr hq⟩, if_pos hq]
  · rw [if_neg fun hc => hq ((removed_iff_below hm q).mp hc.2), if_neg hq]

/-- A removal that reported no error removed what was there; a path that names nothing removes
nothing. -/
lemma removeAll_ok {u : Unit} (e : h.removeAll o p = (Except.ok u, h')) :
    (locate p = none ∧ h' = h) ∨ ∃ l, locate p = some l ∧ l ≠ [] ∧ ¬ h.MountedBelow l
      ∧ o.fault = none ∧ h' = h.cleared l fun _ => true := by
  unfold removeAll at e
  cases hl : locate p with
  | none =>
      rw [hl] at e
      cases e
      exact Or.inl ⟨rfl, rfl⟩
  | some l =>
      rw [hl] at e
      dsimp only at e
      split at e
      · cases e
      · split at e
        · cases e
        · cases hf : o.fault with
          | none =>
              rw [hf] at e
              dsimp only at e
              split_ifs at e with hbusy
              · cases e
              · rw [not_or] at hbusy
                cases e
                exact Or.inr ⟨l, rfl, hbusy.1, hbusy.2, rfl, rfl⟩
          | some reach =>
              rw [hf] at e
              cases e

/-- A removal that failed may have removed a part.  It never says that there was nothing. -/
lemma removeAll_error {err : OsError} (e : h.removeAll o p = (Except.error err, h')) :
    err.isNotExist = false ∧ (h' = h ∨ ∃ l gone, locate p = some l
      ∧ h' = h.cleared l gone) := by
  unfold removeAll at e
  cases hl : locate p with
  | none => simp [hl] at e
  | some l =>
      rw [hl] at e
      dsimp only at e
      split at e
      · cases e
        exact ⟨rfl, Or.inl rfl⟩
      · split at e
        · cases e
          exact ⟨rfl, Or.inl rfl⟩
        · cases hf : o.fault with
          | none =>
              rw [hf] at e
              dsimp only at e
              split_ifs at e with hbusy
              · cases e
                exact ⟨rfl, Or.inr ⟨l, _, rfl, rfl⟩⟩
              · cases e
          | some reach =>
              rw [hf] at e
              cases e
              exact ⟨rfl, Or.inr ⟨l, _, rfl, rfl⟩⟩

/-- A removal changes nothing or removes, and without a failure it removes everything. -/
lemma removeAll_cases {rep : Except OsError Unit} (e : h.removeAll o p = (rep, h')) :
    h' = h ∨ ∃ l gone, locate p = some l ∧ h' = h.cleared l gone
      ∧ (o.fault = none → gone = fun _ => true) := by
  unfold removeAll at e
  cases hl : locate p with
  | none =>
      rw [hl] at e
      cases e
      exact Or.inl rfl
  | some l =>
      rw [hl] at e
      dsimp only at e
      split at e
      · cases e
        exact Or.inl rfl
      · split at e
        · cases e
          exact Or.inl rfl
        · cases hf : o.fault with
          | none =>
              rw [hf] at e
              cases e
              exact Or.inr ⟨l, _, rfl, rfl, fun _ => rfl⟩
          | some reach =>
              rw [hf] at e
              cases e
              exact Or.inr ⟨l, _, rfl, rfl, fun hn => by cases hn⟩

/-- Without a failure, what is there is removed, unless it is the root or something is mounted in
it. -/
lemma removeAll_of_noFault {l : Loc} (hf : o.fault = none) (hl : locate p = some l)
    (hdot : endsWithDot p = false) (hne : l ≠ []) (hm : ¬ h.MountedBelow l)
    (hb : h.fs.node l ≠ none ∨ h.fs.blocked l = false) :
    h.removeAll o p = (Except.ok (), h.cleared l fun _ => true) := by
  have hb' : ¬ (h.fs.node l = none ∧ h.fs.blocked l = true) := by
    rintro ⟨h₁, h₂⟩
    rcases hb with hb | hb
    · exact hb h₁
    · rw [hb] at h₂
      cases h₂
  have hbusy : ¬ (l = [] ∨ h.MountedBelow l) := by
    rw [not_or]
    exact ⟨hne, hm⟩
  simp only [removeAll, hl, hdot, hf, if_neg hb', if_neg hbusy, Bool.false_eq_true, if_false]

/-! ## Copying -/

/-- `cp` succeeded: no directory met a file, and the target is not in the source. -/
lemma copyInto_ok {s d : Loc} {u : Unit} (e : h.copyInto o s d = (Except.ok u, h')) :
    ¬ s <+: d ∧ h.fs.fits s d = true ∧ o.fault = none ∧ h' = h.overlaid s d fun _ => true := by
  obtain ⟨hr, rfl⟩ := Prod.mk.inj e
  split_ifs at hr with hok
  simp only [Bool.and_eq_true, Option.isNone_iff_eq_none, Bool.not_eq_true',
    List.isPrefixOf_iff_prefix, Bool.eq_false_iff, ne_eq] at hok
  obtain ⟨⟨hf, hsd⟩, hfit⟩ := hok
  have hpre : s.isPrefixOf d = false := by
    rw [Bool.eq_false_iff, ne_eq, List.isPrefixOf_iff_prefix]
    exact hsd
  exact ⟨hsd, hfit, hf, by simp [hpre, hf]⟩

lemma copyInto_overlaid (h : Host) (o : Outcome) (s d : Loc) :
    ∃ keep, (h.copyInto o s d).2 = h.overlaid s d keep := ⟨_, rfl⟩

/-- What is at the source and at the target decides what a copy does. -/
lemma copyReflink_cases {src dst : String} {rep : Except OsError Unit}
    (e : h.copyReflink o src dst = (rep, h')) :
    (∃ err, rep = Except.error err) ∧ h' = h
      ∨ ∃ s d, locate src = some s ∧ locate dst = some d ∧ h.fs.node s = some Node.dir
        ∧ (h.fs.node d = some Node.dir ∧ h.copyInto o s d = (rep, h')
          ∨ h.fs.node d = none ∧ ∃ keep : Loc → Bool,
            (h.made d fun q => q = d && keep q).copyInto o s d = (rep, h')) := by
  unfold copyReflink at e
  cases hs : locate src with
  | none =>
      rw [hs] at e
      cases e
      exact Or.inl ⟨⟨_, rfl⟩, rfl⟩
  | some s =>
  cases hd : locate dst with
  | none =>
      rw [hs, hd] at e
      cases e
      exact Or.inl ⟨⟨_, rfl⟩, rfl⟩
  | some d =>
  rw [hs, hd] at e
  dsimp only at e
  split_ifs at e with hsrc hdst hnew
  · cases e
    exact Or.inl ⟨⟨_, rfl⟩, rfl⟩
  · exact Or.inr ⟨s, d, rfl, rfl, not_not.mp hsrc, Or.inl ⟨hdst, e⟩⟩
  · exact Or.inr ⟨s, d, rfl, rfl, not_not.mp hsrc, Or.inr ⟨hnew.1, _, e⟩⟩
  · cases e
    exact Or.inl ⟨⟨_, rfl⟩, rfl⟩

/-- A copy to something that is there, and that reported no error, copied everything. -/
lemma copyReflink_ok {src dst : String} {u : Unit} (hat : h.at? dst ≠ none)
    (e : h.copyReflink o src dst = (Except.ok u, h')) :
    ∃ s d, locate src = some s ∧ locate dst = some d ∧ h.fs.node s = some Node.dir
      ∧ h.fs.node d = some Node.dir ∧ ¬ s <+: d ∧ h.fs.fits s d = true ∧ o.fault = none
      ∧ h' = h.overlaid s d fun _ => true := by
  rcases copyReflink_cases e with ⟨⟨_, he⟩, _⟩ | ⟨s, d, hs, hd, hsrc, ⟨hdst, hc⟩ | ⟨hnone, _⟩⟩
  · cases he
  · obtain ⟨hsd, hfit, hf, rfl⟩ := copyInto_ok hc
    exact ⟨s, d, hs, hd, hsrc, hdst, hsd, hfit, hf, rfl⟩
  · exact absurd hnone (by simpa [at?, hd] using hat)

/-- Without a failure the contents of one directory are copied over those of another. -/
lemma copyReflink_of_noFault {src dst : String} {s d : Loc} (hf : o.fault = none)
    (hs : locate src = some s) (hd : locate dst = some d) (hsd : h.fs.node s = some Node.dir)
    (hdd : h.fs.node d = some Node.dir) (hnot : ¬ s <+: d) (hfit : h.fs.fits s d = true) :
    h.copyReflink o src dst = (Except.ok (), h.overlaid s d fun _ => true) := by
  have hpre : s.isPrefixOf d = false := by
    rw [Bool.eq_false_iff, ne_eq, List.isPrefixOf_iff_prefix]
    exact hnot
  simp [copyReflink, copyInto, hs, hd, hsd, hdd, hf, hpre, hfit]

/-- A copy to something that is there, and that failed, copied a part. -/
lemma copyReflink_error {src dst : String} {err : OsError} (hat : h.at? dst ≠ none)
    (e : h.copyReflink o src dst = (Except.error err, h')) :
    h' = h ∨ ∃ s d keep, locate src = some s ∧ locate dst = some d
      ∧ h.fs.node d = some Node.dir ∧ h' = h.overlaid s d keep := by
  rcases copyReflink_cases e with ⟨_, he⟩ | ⟨s, d, hs, hd, _, ⟨hdst, hc⟩ | ⟨hnone, _⟩⟩
  · exact Or.inl he
  · obtain ⟨keep, hk⟩ := copyInto_overlaid h o s d
    exact Or.inr ⟨s, d, keep, hs, hd, hdst, (congrArg Prod.snd hc).symm.trans hk⟩
  · exact absurd hnone (by simpa [at?, hd] using hat)

end Host

end Hostpath
