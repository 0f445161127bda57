import Mathlib

/-!
# Programs that call an environment

A program is a tree of calls: it either returns, or makes one call and continues with whatever
the environment replied.  The same tree is executed in two ways — from start to end against a
deterministic environment (`Prog.run`), and one call at a time between the calls of other
programs (`Lib/Interleave.lean`) — so a handler is written down once.

* `Prog` — the tree, with its monad structure.
* `run`, `exec` — sequential execution; `exec` is `run` for programs that may fail.
* `Along` — **every call made during an execution satisfies a predicate**, evaluated in the state
  in which the call is made.  This is how effects are bounded.
* `Uses` — the same without the environment: every call the tree can make, whatever admissible
  replies it gets, with what is then true of the result.  `Ensures` is `Uses` for programs that
  may fail, with one rule for each way to build a program, and `along_of_ensures` turns the
  static statement into the dynamic one.
* `Turns`, `InTurn` — a static bound that changes once on the way: first calls of one kind, then
  calls of another.  What needs an invariant that the calls of the second kind break is shown of
  the first kind only (`Turns.along`).
-/

namespace Lib

/-- A program over the calls `C`, where a call `c` is answered by an `R c`. -/
inductive Prog (C : Type) (R : C → Type) (α : Type) : Type where
  | ret (a : α) : Prog C R α
  | call (c : C) (k : R c → Prog C R α) : Prog C R α

namespace Prog

variable {C : Type} {R : C → Type} {E σ α β : Type}

def bind : Prog C R α → (α → Prog C R β) → Prog C R β
  | ret a, f => f a
  | call c k, f => call c fun r => (k r).bind f

instance : Monad (Prog C R) where
  pure := ret
  bind := bind

/-- Make one call and return the reply. -/
def perform (c : C) : ExceptT E (Prog C R) (R c) := ExceptT.lift (call c ret)

/-- Run a program that may fail and look at its error instead of failing with it. -/
def attempt (x : ExceptT E (Prog C R) α) : ExceptT E (Prog C R) (Except E α) :=
  ExceptT.lift x.run

/-! ## Sequential execution -/

/-- Execute against a deterministic environment. -/
def run (step : σ → (c : C) → R c × σ) : Prog C R α → σ → α × σ
  | ret a, s => (a, s)
  | call c k, s => run step (k (step s c).1) (step s c).2

/-- Execute a program that may fail.  The state reached is kept on failure too: an error does
not undo the calls made before it. -/
def exec (step : σ → (c : C) → R c × σ) (x : ExceptT E (Prog C R) α) (s : σ) :
    Except E α × σ :=
  run step x.run s

variable (step : σ → (c : C) → R c × σ)

lemma run_bind (x : Prog C R α) (f : α → Prog C R β) (s : σ) :
    run step (x.bind f) s = run step (f (run step x s).1) (run step x s).2 := by
  induction x generalizing s with
  | ret a => rfl
  | call c k ih => exact ih _ _

@[simp] lemma exec_pure (a : α) (s : σ) :
    exec step (pure a : ExceptT E (Prog C R) α) s = (Except.ok a, s) := rfl

@[simp] lemma exec_throw (e : E) (s : σ) :
    exec step (throw e : ExceptT E (Prog C R) α) s = (Except.error e, s) := rfl

@[simp] lemma exec_perform (c : C) (s : σ) :
    exec step (perform c : ExceptT E (Prog C R) (R c)) s
      = (Except.ok (step s c).1, (step s c).2) := rfl

@[simp] lemma exec_attempt (x : ExceptT E (Prog C R) α) (s : σ) :
    exec step (attempt x) s = (Except.ok (exec step x s).1, (exec step x s).2) :=
  run_bind step x.run (fun a => ret (Except.ok a)) s

lemma exec_bind (x : ExceptT E (Prog C R) α) (f : α → ExceptT E (Prog C R) β) (s : σ) :
    exec step (x >>= f) s
      = match exec step x s with
        | (Except.ok a, s') => exec step (f a) s'
        | (Except.error e, s') => (Except.error e, s') := by
  have h : exec step (x >>= f) s
      = run step (ExceptT.bindCont f (run step x.run s).1) (run step x.run s).2 :=
    run_bind step x.run (ExceptT.bindCont f) s
  rw [h]
  simp only [exec]
  rcases run step x.run s with ⟨r, s'⟩
  cases r <;> rfl

@[simp] lemma exec_ite (p : Prop) [Decidable p] (x y : ExceptT E (Prog C R) α) (s : σ) :
    exec step (if p then x else y) s = if p then exec step x s else exec step y s := by
  split_ifs <;> rfl

/-- The first half of a sequence that succeeded: its value and the state it left. -/
lemma exec_bind_of_ok {x : ExceptT E (Prog C R) α} {f : α → ExceptT E (Prog C R) β} {s s' : σ}
    {a : α} (h : exec step x s = (Except.ok a, s')) :
    exec step (x >>= f) s = exec step (f a) s' := by
  rw [exec_bind, h]

/-- A sequence stops at the first failure. -/
lemma exec_bind_of_error {x : ExceptT E (Prog C R) α} {f : α → ExceptT E (Prog C R) β}
    {s s' : σ} {e : E} (h : exec step x s = (Except.error e, s')) :
    exec step (x >>= f) s = (Except.error e, s') := by
  rw [exec_bind, h]

/-- Computing a result from the value of a program. -/
lemma exec_bind_pure (x : ExceptT E (Prog C R) α) (f : α → β) (s : σ) :
    exec step (x >>= fun a => pure (f a)) s = ((exec step x s).1.map f, (exec step x s).2) := by
  rw [exec_bind]
  rcases exec step x s with ⟨r, m⟩
  cases r <;> rfl

variable {step} in
lemma exec_bind_eq_ok {x : ExceptT E (Prog C R) α} {f : α → ExceptT E (Prog C R) β} {s s' : σ}
    {b : β} : exec step (x >>= f) s = (Except.ok b, s')
      ↔ ∃ a m, exec step x s = (Except.ok a, m) ∧ exec step (f a) m = (Except.ok b, s') := by
  rw [exec_bind]
  rcases exec step x s with ⟨r, m⟩
  cases r <;> simp

variable {step} in
lemma exec_bind_eq_error {x : ExceptT E (Prog C R) α} {f : α → ExceptT E (Prog C R) β}
    {s s' : σ} {e : E} : exec step (x >>= f) s = (Except.error e, s')
      ↔ exec step x s = (Except.error e, s')
        ∨ ∃ a m, exec step x s = (Except.ok a, m) ∧ exec step (f a) m = (Except.error e, s') := by
  rw [exec_bind]
  rcases exec step x s with ⟨r, m⟩
  cases r <;> simp

/-! ## Predicates along an execution -/

/-- Every call made while executing satisfies `P` in the state in which it is made. -/
def Along (P : σ → C → Prop) : Prog C R α → σ → Prop
  | ret _, _ => True
  | call c k, s => P s c ∧ Along P (k (step s c).1) (step s c).2

instance decidableAlong {P : σ → C → Prop} [∀ s c, Decidable (P s c)] :
    ∀ (x : Prog C R α) (s : σ), Decidable (Along step P x s)
  | ret _, _ => isTrue trivial
  | call c k, s =>
      have : Decidable (Along step P (k (step s c).1) (step s c).2) := decidableAlong _ _
      inferInstanceAs (Decidable (P s c ∧ Along step P (k (step s c).1) (step s c).2))

/-- As long as replies satisfy `V`, every call the program can make satisfies `P` and every result
it can return satisfies `Q`. -/
def Uses (P : C → Prop) (V : (c : C) → R c → Prop) (Q : α → Prop) : Prog C R α → Prop
  | ret a => Q a
  | call c k => P c ∧ ∀ r, V c r → Uses P V Q (k r)

/-- `Uses` for a program that may fail; nothing is asked of its errors. -/
def Ensures (P : C → Prop) (V : (c : C) → R c → Prop) (Q : α → Prop)
    (x : ExceptT E (Prog C R) α) : Prop :=
  Uses P V (fun r => ∀ a, r = Except.ok a → Q a) x.run

variable {step}

lemma along_bind {P : σ → C → Prop} {x : Prog C R α} {f : α → Prog C R β} {s : σ} :
    Along step P (x.bind f) s
      ↔ Along step P x s ∧ Along step P (f (run step x s).1) (run step x s).2 := by
  induction x generalizing s with
  | ret a => exact ⟨fun h => ⟨trivial, h⟩, fun h => h.2⟩
  | call c k ih =>
      show P s c ∧ Along step P ((k (step s c).1).bind f) (step s c).2 ↔ _
      rw [ih]
      exact and_assoc.symm

/-- A sequence stays within `P` if its first half does, and its second half from every state the
first leaves. -/
lemma along_bind_run {P : σ → C → Prop} {x : ExceptT E (Prog C R) α}
    {f : α → ExceptT E (Prog C R) β} {s : σ} :
    Along step P (x >>= f).run s
      ↔ Along step P x.run s
        ∧ ∀ a m, exec step x s = (Except.ok a, m) → Along step P (f a).run m := by
  show Along step P (x.run.bind (ExceptT.bindCont f)) s ↔ _
  rw [along_bind, exec]
  refine and_congr_right fun _ => ?_
  rcases run step x.run s with ⟨r, m⟩
  cases r with
  | ok a =>
      constructor
      · rintro h a' m' he
        cases he
        exact h
      · exact fun h => h a m rfl
  | error e => exact ⟨fun _ a m he => (by cases he), fun _ => trivial⟩

/-- Where the first half of a sequence stays within `P` and the sequence does not, the first half
succeeded and the second does not. -/
lemma not_along_bind_run {P : σ → C → Prop} {x : ExceptT E (Prog C R) α}
    {f : α → ExceptT E (Prog C R) β} {s : σ} (hx : Along step P x.run s)
    (h : ¬ Along step P (x >>= f).run s) :
    ∃ a m, exec step x s = (Except.ok a, m) ∧ ¬ Along step P (f a).run m := by
  by_contra hno
  push Not at hno
  exact h (along_bind_run.mpr ⟨hx, hno⟩)

lemma along_true (x : Prog C R α) (s : σ) : Along step (fun _ _ => True) x s := by
  induction x generalizing s with
  | ret a => trivial
  | call c k ih => exact ⟨trivial, ih _ _⟩

lemma along_perform {P : σ → C → Prop} {c : C} {s : σ} :
    Along step P (perform c : ExceptT E (Prog C R) (R c)).run s ↔ P s c :=
  ⟨fun h => h.1, fun h => ⟨h, trivial⟩⟩

lemma along_attempt {P : σ → C → Prop} {x : ExceptT E (Prog C R) α} {s : σ} :
    Along step P (attempt x).run s ↔ Along step P x.run s := by
  show Along step P (x.run.bind fun a => ret (Except.ok a)) s ↔ _
  rw [along_bind]
  exact ⟨fun h => h.1, fun h => ⟨h, trivial⟩⟩

/-! ## Static bounds -/

section Static

variable {P : C → Prop} {V : (c : C) → R c → Prop}

lemma Uses.bind {Q : α → Prop} {S : β → Prop} {x : Prog C R α} {f : α → Prog C R β}
    (hx : Uses P V Q x) (hf : ∀ a, Q a → Uses P V S (f a)) : Uses P V S (x.bind f) := by
  induction x with
  | ret a => exact hf a hx
  | call c k ih => exact ⟨hx.1, fun r hr => ih r (hx.2 r hr)⟩

lemma Uses.mono {Q S : α → Prop} {x : Prog C R α} (hx : Uses P V Q x) (hQ : ∀ a, Q a → S a) :
    Uses P V S x := by
  induction x with
  | ret a => exact hQ a hx
  | call c k ih => exact ⟨hx.1, fun r hr => ih r (hx.2 r hr)⟩

/-- Weaker bounds, if less is admitted as a reply. -/
lemma Uses.imp {P' : C → Prop} {V' : (c : C) → R c → Prop} {Q : α → Prop} {x : Prog C R α}
    (hx : Uses P V Q x) (hP : ∀ c, P c → P' c) (hV : ∀ c r, V' c r → V c r) : Uses P' V' Q x := by
  induction x with
  | ret a => exact hx
  | call c k ih => exact ⟨hP c hx.1, fun r hr => ih r (hx.2 r (hV c r hr))⟩

/-- **The static bound is a dynamic one**, in an environment whose replies are admissible in
every state that satisfies the invariant `I`. -/
lemma along_of_uses {Q : α → Prop} {I : σ → Prop}
    (hstep : ∀ s c, I s → P c → V c (step s c).1 ∧ I (step s c).2)
    {x : Prog C R α} (hx : Uses P V Q x) {s : σ} (hs : I s) :
    Along step (fun _ c => P c) x s := by
  induction x generalizing s with
  | ret a => trivial
  | call c k ih =>
      obtain ⟨hV, hI⟩ := hstep s c hs hx.1
      exact ⟨hx.1, ih _ (hx.2 _ hV) hI⟩

namespace Ensures

variable {Q : α → Prop} {S : β → Prop} {x : ExceptT E (Prog C R) α}

lemma ret {a : α} (ha : Q a) : Ensures P V Q (pure a : ExceptT E (Prog C R) α) := by
  rintro b hb
  cases hb
  exact ha

lemma fail (e : E) : Ensures P V Q (throw e : ExceptT E (Prog C R) α) := by
  rintro b hb
  cases hb

lemma perform {c : C} (hc : P c) :
    Ensures P V (V c) (perform c : ExceptT E (Prog C R) (R c)) := by
  refine ⟨hc, fun r hr a ha => ?_⟩
  cases ha
  exact hr

lemma bind {f : α → ExceptT E (Prog C R) β} (hx : Ensures P V Q x)
    (hf : ∀ a, Q a → Ensures P V S (f a)) : Ensures P V S (x >>= f) := by
  refine Uses.bind hx fun r hr => ?_
  cases r with
  | ok a => exact hf a (hr a rfl)
  | error e => exact fun b hb => by cases hb

lemma mono {S : α → Prop} (hx : Ensures P V Q x) (hQ : ∀ a, Q a → S a) : Ensures P V S x :=
  Uses.mono hx fun _ hr a ha => hQ a (hr a ha)

lemma imp {P' : C → Prop} {V' : (c : C) → R c → Prop} (hx : Ensures P V Q x)
    (hP : ∀ c, P c → P' c) (hV : ∀ c r, V' c r → V c r) : Ensures P' V' Q x :=
  Uses.imp hx hP hV

lemma attempt (hx : Ensures P V Q x) :
    Ensures P V (fun r => ∀ a, r = Except.ok a → Q a) (attempt x) := by
  refine Uses.bind hx fun r hr a ha => ?_
  cases ha
  exact hr

end Ensures

/-- An invariant that the calls of the program keep. -/
lemma exec_of_ensures {Q : α → Prop} {I : σ → Prop}
    (hstep : ∀ s c, I s → P c → V c (step s c).1 ∧ I (step s c).2)
    {x : ExceptT E (Prog C R) α} (hx : Ensures P V Q x) {s : σ} (hs : I s) :
    I (exec step x s).2 := by
  have hrun : ∀ {Q : Except E α → Prop} (y : Prog C R (Except E α)), Uses P V Q y →
      ∀ s, I s → I (run step y s).2 := by
    intro Q y
    induction y with
    | ret a => exact fun _ s hs => hs
    | call c k ih =>
        intro hy s hs
        obtain ⟨hV, hI⟩ := hstep s c hs hy.1
        exact ih _ (hy.2 _ hV) _ hI
  exact hrun x.run hx s hs

lemma Along.mono {P S : σ → C → Prop} {x : Prog C R α} {s : σ} (hx : Along step P x s)
    (hP : ∀ s c, P s c → S s c) : Along step S x s := by
  induction x generalizing s with
  | ret a => trivial
  | call c k ih => exact ⟨hP _ _ hx.1, ih _ hx.2⟩

end Static

/-! ## Two phases -/

section Phases

variable {A B : C → Prop} {V : (c : C) → R c → Prop}

/-- The program makes calls that satisfy `A`, and from some point on only calls that satisfy `B`;
every result it can return satisfies `Q`. -/
def Turns (A B : C → Prop) (V : (c : C) → R c → Prop) (Q : α → Prop) : Prog C R α → Prop
  | ret a => Q a
  | call c k => (A c ∧ ∀ r, V c r → Turns A B V Q (k r)) ∨ (B c ∧ ∀ r, V c r → Uses B V Q (k r))

/-- `Turns` for a program that may fail; nothing is asked of its errors. -/
def InTurn (A B : C → Prop) (V : (c : C) → R c → Prop) (Q : α → Prop)
    (x : ExceptT E (Prog C R) α) : Prop :=
  Turns A B V (fun r => ∀ a, r = Except.ok a → Q a) x.run

namespace Turns

variable {Q : α → Prop} {S : β → Prop} {x : Prog C R α} {f : α → Prog C R β}

lemma of_uses (hx : Uses B V Q x) : Turns A B V Q x := by
  cases x with
  | ret a => exact hx
  | call c k => exact Or.inr hx

lemma bind_of_first (hx : Uses A V Q x) (hf : ∀ a, Q a → Turns A B V S (f a)) :
    Turns A B V S (x.bind f) := by
  induction x with
  | ret a => exact hf a hx
  | call c k ih => exact Or.inl ⟨hx.1, fun r hr => ih r (hx.2 r hr)⟩

lemma bind_of_last (hx : Turns A B V Q x) (hf : ∀ a, Q a → Uses B V S (f a)) :
    Turns A B V S (x.bind f) := by
  induction x with
  | ret a => exact of_uses (hf a hx)
  | call c k ih =>
      rcases hx with ⟨hc, hk⟩ | ⟨hc, hk⟩
      · exact Or.inl ⟨hc, fun r hr => ih r (hk r hr)⟩
      · exact Or.inr ⟨hc, fun r hr => (hk r hr).bind hf⟩

/-- One bound for both phases. -/
lemma uses {P : C → Prop} (hA : ∀ c, A c → P c) (hB : ∀ c, B c → P c) (hx : Turns A B V Q x) :
    Uses P V Q x := by
  induction x with
  | ret a => exact hx
  | call c k ih =>
      rcases hx with ⟨hc, hk⟩ | ⟨hc, hk⟩
      · exact ⟨hA c hc, fun r hr => ih r (hk r hr)⟩
      · exact ⟨hB c hc, fun r hr => (hk r hr).imp hB fun _ _ hV => hV⟩

/-- **What holds of both phases holds along the execution**, where the invariant `I` is needed for
the first phase only, and only the calls of the first phase have to keep it. -/
lemma along {P : σ → C → Prop} {I : σ → Prop} (hV : ∀ s c, V c (step s c).1)
    (hA : ∀ s c, I s → A c → P s c ∧ I (step s c).2) (hB : ∀ s c, B c → P s c)
    (hx : Turns A B V Q x) {s : σ} (hs : I s) : Along step P x s := by
  induction x generalizing s with
  | ret a => trivial
  | call c k ih =>
      rcases hx with ⟨hc, hk⟩ | ⟨hc, hk⟩
      · obtain ⟨hP, hI⟩ := hA s c hs hc
        exact ⟨hP, ih _ (hk _ (hV s c)) hI⟩
      · have hrest := along_of_uses (I := fun _ => True) (fun s c _ _ => ⟨hV s c, trivial⟩)
          (hk _ (hV s c)) (s := (step s c).2) trivial
        exact ⟨hB s c hc, hrest.mono hB⟩

end Turns

namespace InTurn

variable {Q : α → Prop} {S : β → Prop} {x : ExceptT E (Prog C R) α}
  {f : α → ExceptT E (Prog C R) β}

lemma last (hx : Ensures B V Q x) : InTurn A B V Q x := Turns.of_uses hx

lemma bind (hx : Ensures A V Q x) (hf : ∀ a, Q a → InTurn A B V S (f a)) :
    InTurn A B V S (x >>= f) := by
  refine Turns.bind_of_first hx fun r hr => ?_
  cases r with
  | ok a => exact hf a (hr a rfl)
  | error e => exact fun b hb => by cases hb

lemma bind_last (hx : InTurn A B V Q x) (hf : ∀ a, Q a → Ensures B V S (f a)) :
    InTurn A B V S (x >>= f) := by
  refine Turns.bind_of_last hx fun r hr => ?_
  cases r with
  | ok a => exact hf a (hr a rfl)
  | error e => exact fun b hb => by cases hb

lemma ensures {P : C → Prop} (hA : ∀ c, A c → P c) (hB : ∀ c, B c → P c)
    (hx : InTurn A B V Q x) : Ensures P V Q x := Turns.uses hA hB hx

end InTurn

end Phases

/-- An invariant that no call breaks. -/
lemma exec_invariant {I : σ → Prop} (hstep : ∀ s c, I s → I (step s c).2)
    (x : ExceptT E (Prog C R) α) {s : σ} (hs : I s) : I (exec step x s).2 := by
  have hrun : ∀ (y : Prog C R (Except E α)) (s : σ), I s → I (run step y s).2 := by
    intro y
    induction y with
    | ret a => exact fun s hs => hs
    | call c k ih => exact fun s hs => ih _ _ (hstep s c hs)
  exact hrun x.run s hs

end Prog

end Lib
