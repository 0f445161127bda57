import Hostpath.Lib.Interleave

/-!
# Operations that take effect at once

An operation on a shared object makes several calls, and other operations make theirs in between.
It is *atomic* if nobody can tell: if it is as though it took effect all at once, at one of its own
calls, on an abstract state of the object.

* `Commits` — **a program takes effect once.**  Whatever state the others have left, each of its
  calls either leaves the abstract state as it is or takes it to the next one as the specification
  says, and only one call does the latter.  There is one rule for each way to build a program.
* `AtomicObject` — the object whose operations are single steps: an operation starts, takes effect
  at some later point, and ends with what was observed at that point.
* `AtomicObject.holds_after` — what an operation has established stays until another undoes it.
* `Pool.linearizable` — **programs that take effect once run like an atomic object**: every
  interleaving is matched, move by move, by a run of the atomic object.
-/

namespace Lib

open Prog

variable {C : Type} {R : C → Type} {E σ τ ι O α β : Type}

/-! ## Taking effect once -/

/-- A call that leaves the state `s'`: nothing has happened to the abstract state `t`, or the
operation takes effect now, which it can do only if it has not yet. -/
def Advances (Rel : σ → τ → Prop) (spec : τ → O → τ → Prop) (st : Option O) (t : τ) (s' : σ)
    (P : Option O → Prop) : Prop :=
  Rel s' t ∧ P st ∨ st = none ∧ ∃ o t', spec t o t' ∧ Rel s' t' ∧ P (some o)

/-- The program makes one call and returns. -/
def Prog.Once (x : Prog C R α) : Prop :=
  ∃ c k, x = Prog.call c k ∧ ∀ r, ∃ a, k r = Prog.ret a

/-- The program takes effect at most once, in whatever states its calls are made.  `st` is what was
observed when it did, and `Q` relates that to what the program returns. -/
def Commits (step : σ → (c : C) → R c × σ) (Rel : σ → τ → Prop) (spec : τ → O → τ → Prop)
    (Q : Option O → α → Prop) : Option O → Prog C R α → Prop
  | st, Prog.ret a => Q st a
  | st, Prog.call c k => ∀ s t, Rel s t →
      Advances Rel spec st t (step s c).2 fun st' => Commits step Rel spec Q st' (k (step s c).1)

section Commits

variable {step : σ → (c : C) → R c × σ} {Rel : σ → τ → Prop} {spec : τ → O → τ → Prop}
  {st : Option O}

lemma Advances.mono {t : τ} {s' : σ} {P P' : Option O → Prop}
    (h : Advances Rel spec st t s' P) (hP : ∀ st', P st' → P' st') :
    Advances Rel spec st t s' P' := by
  rcases h with ⟨hrel, hst⟩ | ⟨hnone, o, t', hspec, hrel, ho⟩
  · exact Or.inl ⟨hrel, hP st hst⟩
  · exact Or.inr ⟨hnone, o, t', hspec, hrel, hP (some o) ho⟩

namespace Commits

lemma bind_prog {Q : Option O → α → Prop} {S : Option O → β → Prop} {x : Prog C R α}
    {f : α → Prog C R β} (hx : Commits step Rel spec Q st x)
    (hf : ∀ st' a, Q st' a → Commits step Rel spec S st' (f a)) :
    Commits step Rel spec S st (x.bind f) := by
  induction x generalizing st with
  | ret a => exact hf st a hx
  | call c k ih => exact fun s t hrel => (hx s t hrel).mono fun st' hk => ih _ hk

lemma mono {Q S : Option O → α → Prop} {x : Prog C R α} (hx : Commits step Rel spec Q st x)
    (hQ : ∀ st' a, Q st' a → S st' a) : Commits step Rel spec S st x := by
  induction x generalizing st with
  | ret a => exact hQ st a hx
  | call c k ih => exact fun s t hrel => (hx s t hrel).mono fun st' hk => ih _ hk

/-- The same effect under another name, on states of which more is known. -/
lemma imp {O' : Type} {Rel' : σ → τ → Prop} {spec' : τ → O' → τ → Prop} {Q : Option O → α → Prop}
    {Q' : Option O' → α → Prop} {x : Prog C R α} (f : O → O') (hx : Commits step Rel spec Q st x)
    (hrel : ∀ s t, Rel' s t → Rel s t)
    (hstep : ∀ s t c t', Rel' s t → Rel (step s c).2 t' → Rel' (step s c).2 t')
    (hspec : ∀ t o t', spec t o t' → spec' t (f o) t')
    (hQ : ∀ st' a, Q st' a → Q' (st'.map f) a) : Commits step Rel' spec' Q' (st.map f) x := by
  induction x generalizing st with
  | ret a => exact hQ st a hx
  | call c k ih =>
      intro s t hst
      rcases hx s t (hrel s t hst) with ⟨hr, hk⟩ | ⟨rfl, o, t', hs, hr, hk⟩
      · exact Or.inl ⟨hstep s t c t hst hr, ih _ hk⟩
      · exact Or.inr ⟨rfl, f o, t', hspec t o t' hs, hstep s t c t' hst hr, ih _ hk⟩

/-- A sequence, whose second half does not run if the first fails. -/
lemma bind {Q : Option O → Except E α → Prop} {S : Option O → Except E β → Prop}
    {x : ExceptT E (Prog C R) α} {f : α → ExceptT E (Prog C R) β}
    (hx : Commits step Rel spec Q st x.run)
    (hok : ∀ st' a, Q st' (Except.ok a) → Commits step Rel spec S st' (f a).run)
    (herror : ∀ st' e, Q st' (Except.error e) → S st' (Except.error e)) :
    Commits step Rel spec S st (x >>= f).run := by
  refine bind_prog hx fun st' r hr => ?_
  cases r with
  | ok a => exact hok st' a hr
  | error e => exact herror st' e hr

/-- A program whose error is looked at does not fail. -/
lemma attempt {Q : Option O → Except E α → Prop} {S : Option O → Except E β → Prop}
    {x : ExceptT E (Prog C R) α} {f : Except E α → ExceptT E (Prog C R) β}
    (hx : Commits step Rel spec Q st x.run)
    (hf : ∀ st' r, Q st' r → Commits step Rel spec S st' (f r).run) :
    Commits step Rel spec S st (Prog.attempt x >>= f).run := by
  refine bind (Q := fun st' r => ∃ a, r = Except.ok a ∧ Q st' a)
    (bind_prog hx fun st' r hr => ⟨r, rfl, hr⟩) ?_ ?_
  · rintro st' r ⟨_, heq, hr⟩
    cases heq
    exact hf st' r hr
  · rintro st' e ⟨_, heq, _⟩
    cases heq

/-- A program that makes a single call is described by its sequential execution. -/
lemma of_once {Q : Option O → α → Prop} {x : Prog C R α} (hx : x.Once)
    (h : ∀ s t, Rel s t →
      Advances Rel spec st t (run step x s).2 fun st' => Q st' (run step x s).1) :
    Commits step Rel spec Q st x := by
  obtain ⟨c, k, rfl, hk⟩ := hx
  intro s t hrel
  obtain ⟨a, ha⟩ := hk (step s c).1
  have hrun : run step (Prog.call c k) s = (a, (step s c).2) := by
    rw [run, ha, run]
  have hadv := h s t hrel
  rw [hrun] at hadv
  refine hadv.mono fun st' hst' => ?_
  rwa [ha]

/-- A program that only makes calls which keep the abstract state does not take effect. -/
lemma of_uses {P : C → Prop} {V : (c : C) → R c → Prop} {Q : α → Prop} {x : Prog C R α}
    (hstep : ∀ s t c, Rel s t → P c → V c (step s c).1 ∧ Rel (step s c).2 t)
    (hx : Uses P V Q x) : Commits step Rel spec (fun st' a => st' = st ∧ Q a) st x := by
  induction x with
  | ret a => exact ⟨rfl, hx⟩
  | call c k ih =>
      intro s t hrel
      obtain ⟨hV, hrel'⟩ := hstep s t c hrel hx.1
      exact Or.inl ⟨hrel', ih _ (hx.2 _ hV)⟩

end Commits

end Commits

/-! ## The atomic object -/

/-- The abstract state of an object, and the operations that have started: what was observed of an
operation, if it has taken effect. -/
structure AtomicObject (τ ι O : Type) where
  state : τ
  ops : ℕ → Option (ι × Option O)

namespace AtomicObject

/-- Nothing has started. -/
def idle (t : τ) : AtomicObject τ ι O := ⟨t, fun _ => none⟩

/-- The moves of a pool, as the atomic object sees them.  At a call an operation may take effect;
it ends with a result that agrees with whether it did, and with what was observed then. -/
inductive Step (spec : ι → τ → O → τ → Prop) (obs : ι → Option O → α → Prop) :
    AtomicObject τ ι O → Pool σ ι C R α × Move ι C R → AtomicObject τ ι O → Prop where
  | start {A : AtomicObject τ ι O} {w : Pool σ ι C R α} {i : ℕ} {a : ι} (hi : A.ops i = none) :
      Step spec obs A (w, Move.start i a) ⟨A.state, Function.update A.ops i (some (a, none))⟩
  | wait {A : AtomicObject τ ι O} {w : Pool σ ι C R α} {i : ℕ} {a : ι} {c : C} {r : R c} :
      Step spec obs A (w, Move.call i a c r) A
  | commit {A : AtomicObject τ ι O} {w : Pool σ ι C R α} {i : ℕ} {a : ι} {c : C} {r : R c} {o : O}
      {t : τ} (hi : A.ops i = some (a, none)) (hspec : spec a A.state o t) :
      Step spec obs A (w, Move.call i a c r) ⟨t, Function.update A.ops i (some (a, some o))⟩
  | finish {A : AtomicObject τ ι O} {w : Pool σ ι C R α} {i : ℕ} {a : ι} {r : α}
      {st : Option O} (hi : A.ops i = some (a, st)) (hr : w.threads i = some (a, Prog.ret r))
      (hobs : obs a st r) :
      Step spec obs A (w, Move.finish i) ⟨A.state, Function.update A.ops i none⟩

variable {spec : ι → τ → O → τ → Prop} {obs : ι → Option O → α → Prop} {K : ℕ → ι → Prop}
  {V : ι → Prop} {P : τ → Prop}

/-- No operation of kind `V` runs; and `P` holds, unless no operation of kind `K` has taken effect,
nor ended after it had.  The kind `K` can depend on the place at which the operation runs. -/
structure Established (K : ℕ → ι → Prop) (V : ι → Prop) (P : τ → Prop)
    (tr : List (AtomicObject τ ι O × Pool σ ι C R α × Move ι C R)) (A : AtomicObject τ ι O) :
    Prop where
  others : ∀ i a st, A.ops i = some (a, st) → ¬ V a
  holds : P A.state ∨ (∀ i a o, A.ops i = some (a, some o) → ¬ K i a)
    ∧ ∀ x ∈ tr, ∀ i a o, x.2.2 = Move.finish i → x.1.ops i = some (a, some o) → ¬ K i a

/-- A step keeps what was established, if it starts nothing that can undo it. -/
lemma Established.next {A A' : AtomicObject τ ι O} {x : Pool σ ι C R α × Move ι C R}
    {tr : List (AtomicObject τ ι O × Pool σ ι C R α × Move ι C R)}
    (hK : ∀ i a t o t', K i a → spec a t o t' → P t')
    (hV : ∀ a t o t', ¬ V a → spec a t o t' → P t → P t') (h : Established K V P tr A)
    (hs : Step spec obs A x A') (hstart : ∀ i a, x.2 = Move.start i a → ¬ V a) :
    Established K V P (tr ++ [(A, x)]) A' := by
  -- the history grows by an entry that does not count, unless an operation ends
  have hgrow : (∀ i, x.2 ≠ Move.finish i) →
      (∀ x ∈ tr, ∀ i a o, x.2.2 = Move.finish i → x.1.ops i = some (a, some o) → ¬ K i a) →
      ∀ y ∈ tr ++ [(A, x)], ∀ i a o, y.2.2 = Move.finish i → y.1.ops i = some (a, some o) →
        ¬ K i a := by
    intro hx htr y hy i a o hmv
    rcases List.mem_append.mp hy with hy | hy
    · exact htr y hy i a o hmv
    · rw [List.mem_singleton.mp hy] at hmv
      exact absurd hmv (hx i)
  cases hs with
  | @start w i a hi =>
      refine ⟨fun j b st hj => ?_, ?_⟩
      · rcases Pool.update_eq_some.mp hj with ⟨_, hnew⟩ | ⟨_, hold⟩
        · cases hnew
          exact hstart i a rfl
        · exact h.others j b st hold
      · refine h.holds.imp id fun hno => ⟨fun j b o hj => ?_, hgrow nofun hno.2⟩
        rcases Pool.update_eq_some.mp hj with ⟨_, hnew⟩ | ⟨_, hold⟩
        · cases hnew
        · exact hno.1 j b o hold
  | wait => exact ⟨h.others, h.holds.imp id fun hno => ⟨hno.1, hgrow nofun hno.2⟩⟩
  | @commit w i a c r o t hi hspec =>
      refine ⟨fun j b st hj => ?_, ?_⟩
      · rcases Pool.update_eq_some.mp hj with ⟨_, hnew⟩ | ⟨_, hold⟩
        · cases hnew
          exact h.others i a none hi
        · exact h.others j b st hold
      · by_cases ha : K i a
        · exact Or.inl (hK i a _ _ _ ha hspec)
        · refine h.holds.imp (hV a _ _ _ (h.others i a none hi) hspec) fun hno =>
            ⟨fun j b o' hj => ?_, hgrow nofun hno.2⟩
          rcases Pool.update_eq_some.mp hj with ⟨rfl, hnew⟩ | ⟨_, hold⟩
          · cases hnew
            exact ha
          · exact hno.1 j b o' hold
  | @finish w i a r st hi hr hobs =>
      have hbefore : ∀ {j b st}, Function.update A.ops i none j = some (b, st) →
          A.ops j = some (b, st) := by
        intro j b st hj
        rcases Pool.update_eq_some.mp hj with ⟨_, hnew⟩ | ⟨_, hold⟩
        · cases hnew
        · exact hold
      refine ⟨fun j b st hj => h.others j b st (hbefore hj), h.holds.imp id fun hno =>
        ⟨fun j b o hj => hno.1 j b o (hbefore hj), fun y hy j b o hmv hops => ?_⟩⟩
      rcases List.mem_append.mp hy with hy | hy
      · exact hno.2 y hy j b o hmv hops
      · rw [List.mem_singleton.mp hy] at hops
        exact hno.1 j b o hops

lemma established {A A' : AtomicObject τ ι O}
    {tr : List (AtomicObject τ ι O × Pool σ ι C R α × Move ι C R)}
    (hK : ∀ i a t o t', K i a → spec a t o t' → P t')
    (hV : ∀ a t o t', ¬ V a → spec a t o t' → P t → P t')
    (h : Established K V P ([] : List (AtomicObject τ ι O × Pool σ ι C R α × Move ι C R)) A)
    (hr : Run (Step spec obs) A tr A')
    (hstart : ∀ x ∈ tr, ∀ i a, x.2.2 = Move.start i a → ¬ V a) : Established K V P tr A' := by
  induction hr with
  | nil => exact h
  | snoc _ hs ih =>
      refine (ih fun x hx => hstart x (List.mem_append_left _ hx)).next hK hV hs ?_
      exact hstart _ (List.mem_append_right _ (List.mem_singleton_self _))

/-- **What an operation has established stays**, as long as no operation runs that can undo it. -/
theorem holds_after {A A' : AtomicObject τ ι O}
    {tr : List (AtomicObject τ ι O × Pool σ ι C R α × Move ι C R)}
    (hK : ∀ i a t o t', K i a → spec a t o t' → P t')
    (hV : ∀ a t o t', ¬ V a → spec a t o t' → P t → P t')
    (hquiet : ∀ i a st, A.ops i = some (a, st) → ¬ K i a ∧ ¬ V a)
    (hr : Run (Step spec obs) A tr A')
    (hstart : ∀ x ∈ tr, ∀ i a, x.2.2 = Move.start i a → ¬ V a)
    (hfinish : ∃ x ∈ tr, ∃ i a o, x.2.2 = Move.finish i ∧ x.1.ops i = some (a, some o) ∧ K i a) :
    P A'.state := by
  have hest : Established K V P tr A' := established hK hV ⟨fun i a st hi => (hquiet i a st hi).2,
    Or.inr ⟨fun i a o hi => (hquiet i a _ hi).1, by simp⟩⟩ hr hstart
  rcases hest.holds with hP | ⟨_, hnone⟩
  · exact hP
  · obtain ⟨x, hx, i, a, o, hmv, hops, ha⟩ := hfinish
    exact absurd ha (hnone x hx i a o hmv hops)

/-- **What holds stays**, as long as no operation runs that can undo it. -/
theorem holds_along {A A' : AtomicObject τ ι O}
    {tr : List (AtomicObject τ ι O × Pool σ ι C R α × Move ι C R)}
    (hV : ∀ a t o t', ¬ V a → spec a t o t' → P t → P t')
    (hquiet : ∀ i a st, A.ops i = some (a, st) → ¬ V a) (hP : P A.state)
    (hr : Run (Step spec obs) A tr A')
    (hstart : ∀ x ∈ tr, ∀ i a, x.2.2 = Move.start i a → ¬ V a) : P A'.state := by
  induction hr with
  | nil => exact hP
  | snoc hr hs ih =>
      have hbefore := fun x hx => hstart x (List.mem_append_left _ hx)
      have hothers := (established (K := fun _ _ => False) (P := fun _ => True)
        (fun _ _ _ _ _ _ _ => trivial) (fun _ _ _ _ _ _ _ => trivial)
        ⟨hquiet, Or.inl trivial⟩ hr hbefore).others
      cases hs with
      | commit hi hspec => exact hV _ _ _ _ (hothers _ _ _ hi) hspec (ih hbefore)
      | start _ => exact ih hbefore
      | wait => exact ih hbefore
      | finish _ _ _ => exact ih hbefore

/-- An operation that ended was observed as it reports. -/
lemma observed {A A' : AtomicObject τ ι O}
    {tr : List (AtomicObject τ ι O × Pool σ ι C R α × Move ι C R)} {w : Pool σ ι C R α} {i : ℕ}
    {a : ι} {r : α} (hr : Run (Step spec obs) A tr A')
    (hx : (w, Move.finish i) ∈ tr.map Prod.snd) (hi : w.threads i = some (a, Prog.ret r)) :
    ∃ B st, (B, w, Move.finish i) ∈ tr ∧ B.ops i = some (a, st) ∧ obs a st r := by
  obtain ⟨⟨B, x⟩, hmem, rfl⟩ := List.mem_map.mp hx
  obtain ⟨B', hs⟩ := hr.steps _ hmem
  cases hs with
  | @finish _ _ a' r' st hops hret hobs =>
      cases hi.symm.trans hret
      exact ⟨B, st, hmem, hops, hobs⟩

end AtomicObject

/-! ## Pools -/

namespace Pool

variable {step : σ → (c : C) → R c × σ} {prog : ι → Prog C R α}
  {may : Pool σ ι C R α → ι → Prop} {Rel : σ → τ → Prop} {spec : ι → τ → O → τ → Prop}
  {obs : ι → Option O → α → Prop}

/-- What is left of a program can still take effect as the atomic object expects. -/
def Pending (step : σ → (c : C) → R c × σ) (Rel : σ → τ → Prop) (spec : ι → τ → O → τ → Prop)
    (obs : ι → Option O → α → Prop) : Option (ι × Prog C R α) → Option (ι × Option O) → Prop
  | none, none => True
  | some (a, p), some (b, st) => a = b ∧ Commits step Rel (spec a) (obs a) st p
  | _, _ => False

/-- The pool and the atomic object are in corresponding states. -/
structure Matches (step : σ → (c : C) → R c × σ) (Rel : σ → τ → Prop)
    (spec : ι → τ → O → τ → Prop) (obs : ι → Option O → α → Prop) (w : Pool σ ι C R α)
    (A : AtomicObject τ ι O) : Prop where
  state : Rel w.shared A.state
  ops : ∀ i, Pending step Rel spec obs (w.threads i) (A.ops i)

/-- One thread and its operation change together. -/
lemma pending_update {w : Pool σ ι C R α} {A : AtomicObject τ ι O}
    (hw : ∀ i, Pending step Rel spec obs (w.threads i) (A.ops i)) {i : ℕ}
    {x : Option (ι × Prog C R α)} {y : Option (ι × Option O)}
    (hxy : Pending step Rel spec obs x y) (j : ℕ) :
    Pending step Rel spec obs (Function.update w.threads i x j) (Function.update A.ops i y j) := by
  by_cases hj : j = i
  · subst hj
    rwa [Function.update_self, Function.update_self]
  · rw [Function.update_of_ne hj, Function.update_of_ne hj]
    exact hw j

lemma Pending.ops_none {y : Option (ι × Option O)}
    (h : Pending step Rel spec obs (none : Option (ι × Prog C R α)) y) : y = none := by
  cases y with
  | none => rfl
  | some y => exact h.elim

lemma Pending.ops_some {a : ι} {p : Prog C R α} {y : Option (ι × Option O)}
    (h : Pending step Rel spec obs (some (a, p)) y) :
    ∃ st, y = some (a, st) ∧ Commits step Rel (spec a) (obs a) st p := by
  cases y with
  | none => exact h.elim
  | some y =>
      obtain ⟨b, st⟩ := y
      obtain ⟨rfl, hc⟩ := h
      exact ⟨st, rfl, hc⟩

/-- **One move is matched by one step of the atomic object.** -/
lemma Matches.next {w w' : Pool σ ι C R α} {A : AtomicObject τ ι O} {mv : Move ι C R}
    (hm : Matches step Rel spec obs w A)
    (hstart : ∀ w a, may w a → Commits step Rel (spec a) (obs a) none (prog a))
    (hs : Step step prog may w mv w') :
    ∃ A', AtomicObject.Step spec obs A (w, mv) A' ∧ Matches step Rel spec obs w' A' := by
  cases hs with
  | @start i a hi ha =>
      have hnone : A.ops i = none := (hi ▸ hm.ops i).ops_none
      exact ⟨_, AtomicObject.Step.start hnone,
        hm.state, pending_update hm.ops ⟨rfl, hstart w a ha⟩⟩
  | @call i a c k hi =>
      obtain ⟨st, hA, hc⟩ := (hi ▸ hm.ops i).ops_some
      rcases hc w.shared A.state hm.state with ⟨hrel, hk⟩ | ⟨rfl, o, t', hspec, hrel, hk⟩
      · refine ⟨A, AtomicObject.Step.wait, hrel, fun j => ?_⟩
        have hupd := pending_update hm.ops (i := i) (x := some (a, k (step w.shared c).1))
          (y := some (a, st)) ⟨rfl, hk⟩ j
        rwa [← hA, Function.update_eq_self] at hupd
      · exact ⟨_, AtomicObject.Step.commit hA hspec, hrel, pending_update hm.ops ⟨rfl, hk⟩⟩
  | @finish i a r hi =>
      obtain ⟨st, hA, hobs⟩ := (hi ▸ hm.ops i).ops_some
      exact ⟨_, AtomicObject.Step.finish hA hi hobs, hm.state, pending_update hm.ops trivial⟩

/-- An operation has started if its program runs. -/
lemma Matches.thread {w : Pool σ ι C R α} {A : AtomicObject τ ι O} {i : ℕ} {a : ι}
    {st : Option O} (hm : Matches step Rel spec obs w A) (hi : A.ops i = some (a, st)) :
    ∃ p, w.threads i = some (a, p) := by
  have hp := hm.ops i
  rw [hi] at hp
  cases hw : w.threads i with
  | none =>
      rw [hw] at hp
      exact hp.elim
  | some x =>
      obtain ⟨b, p⟩ := x
      rw [hw] at hp
      exact ⟨p, by rw [hp.1]⟩

lemma matches_idle {s : σ} {t : τ} (hs : Rel s t) :
    Matches step Rel spec obs (idle s) (AtomicObject.idle t) := ⟨hs, fun _ => trivial⟩

/-- **Programs that take effect once run like an atomic object.** -/
theorem linearizable {w w' : Pool σ ι C R α} {A : AtomicObject τ ι O}
    {tr : List (Pool σ ι C R α × Move ι C R)}
    (hstart : ∀ w a, may w a → Commits step Rel (spec a) (obs a) none (prog a))
    (hm : Matches step Rel spec obs w A) (hr : Run (Step step prog may) w tr w') :
    ∃ tr' A', Run (AtomicObject.Step spec obs) A tr' A' ∧ tr'.map Prod.snd = tr
      ∧ Matches step Rel spec obs w' A' :=
  hr.simulates hm fun _ _ _ _ hm hs => hm.next hstart hs

end Pool

end Lib
