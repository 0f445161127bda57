import Hostpath.Lib.Prog

/-!
# Environments that stand still

A program that only looks gets the same replies however often and in whatever order it asks, as long
as nobody changes what it looks at.  What it returns then depends on those replies alone.

* `answer` — the result of a program whose calls are answered by a table.  It takes programs to
  their results step by step: sequences to sequences, failures to failures.
* `Settled` — from a state on, the calls of one kind are answered by a table.
* `exec_of_settled` — **a program that makes only such calls returns what it returns with the
  table**, and leaves the environment settled.
* `calls` — the calls of an execution, in order.
-/

namespace Lib

namespace Prog

variable {C : Type} {R : C → Type} {E σ α β : Type}

/-! ## Tables -/

/-- The result of a program whose calls are answered by the table `ρ`. -/
def answer (ρ : (c : C) → R c) (x : ExceptT E (Prog C R) α) : Except E α :=
  (exec (fun u c => (ρ c, u)) x ()).1

section Tables

variable {ρ : (c : C) → R c}

/-- Returning asks nothing of the table. -/
@[simp] lemma answer_pure (a : α) :
    answer ρ (pure a : ExceptT E (Prog C R) α) = Except.ok a := rfl

/-- A failure is the same in every table. -/
@[simp] lemma answer_throw (e : E) :
    answer ρ (throw e : ExceptT E (Prog C R) α) = Except.error e := rfl

/-- A single call is answered by its entry. -/
@[simp] lemma answer_perform (c : C) :
    answer ρ (perform c : ExceptT E (Prog C R) (R c)) = Except.ok (ρ c) := rfl

/-- A sequence is answered part by part, by the same table. -/
@[simp] lemma answer_bind (x : ExceptT E (Prog C R) α) (f : α → ExceptT E (Prog C R) β) :
    answer ρ (x >>= f) = (answer ρ x).bind fun a => answer ρ (f a) := by
  unfold answer
  rw [exec_bind]
  rcases exec (fun u c => (ρ c, u)) x () with ⟨r, m⟩
  cases r <;> rfl

end Tables

/-! ## Settled environments -/

variable (step : σ → (c : C) → R c × σ)

/-- From `s` on, the calls in `L` are answered by the table `ρ`, as long as no others are made. -/
def Settled (L : C → Prop) (ρ : (c : C) → R c) (s : σ) : Prop :=
  ∀ cs : List C, (∀ c ∈ cs, L c) →
    ∀ c, L c → (step (cs.foldl (fun m c => (step m c).2) s) c).1 = ρ c

/-- The program makes only calls in `L`. -/
def Only (L : C → Prop) (x : ExceptT E (Prog C R) α) : Prop :=
  Ensures L (fun _ _ => True) (fun _ => True) x

variable {step} {L : C → Prop} {ρ : (c : C) → R c} {s : σ}

/-- An environment is settled if an invariant fixes its replies and the calls keep the invariant. -/
lemma settled_of_invariant {I : σ → Prop}
    (hI : ∀ m c, I m → L c → (step m c).1 = ρ c ∧ I (step m c).2) (hs : I s) :
    Settled step L ρ s := by
  intro cs
  induction cs generalizing s with
  | nil => exact fun _ c hc => (hI s c hs hc).1
  | cons c cs ih =>
      intro hcs
      obtain ⟨hc, hcs⟩ := List.forall_mem_cons.mp hcs
      exact ih (hI s c hs hc).2 hcs

/-- The next reply is that of the table. -/
lemma Settled.reply (hs : Settled step L ρ s) {c : C} (hc : L c) : (step s c).1 = ρ c :=
  hs [] (fun _ h => absurd h List.not_mem_nil) c hc

/-- Calls of the kind leave the environment settled. -/
lemma Settled.next (hs : Settled step L ρ s) {c : C} (hc : L c) :
    Settled step L ρ (step s c).2 :=
  fun cs hcs => hs (c :: cs) (List.forall_mem_cons.mpr ⟨hc, hcs⟩)

/-- The induction behind `exec_of_settled`: it is on the program, one call at a time. -/
lemma run_of_settled {Q : α → Prop} {x : Prog C R α} (hx : Uses L (fun _ _ => True) Q x)
    (hs : Settled step L ρ s) :
    (run step x s).1 = (run (fun u c => (ρ c, u)) x ()).1 ∧ Settled step L ρ (run step x s).2 := by
  induction x generalizing s with
  | ret a => exact ⟨rfl, hs⟩
  | call c k ih =>
      have hnext := ih (step s c).1 (hx.2 _ trivial) (hs.next hx.1)
      refine ⟨hnext.1.trans ?_, hnext.2⟩
      rw [hs.reply hx.1]
      rfl

/-- **A program that only looks depends on the table alone.** -/
lemma exec_of_settled {x : ExceptT E (Prog C R) α} (hx : Only L x) (hs : Settled step L ρ s) :
    ∃ m, exec step x s = (answer ρ x, m) ∧ Settled step L ρ m :=
  ⟨_, Prod.ext (run_of_settled hx hs).1 rfl, (run_of_settled hx hs).2⟩

namespace Only

variable {x : ExceptT E (Prog C R) α} {f : α → ExceptT E (Prog C R) β}

lemma ret (a : α) : Only L (pure a : ExceptT E (Prog C R) α) := Ensures.ret trivial

lemma fail (e : E) : Only L (throw e : ExceptT E (Prog C R) α) := Ensures.fail e

lemma perform {c : C} (hc : L c) : Only L (perform c : ExceptT E (Prog C R) (R c)) :=
  Ensures.perform hc

lemma bind (hx : Only L x) (hf : ∀ a, Only L (f a)) : Only L (x >>= f) :=
  Ensures.bind hx fun a _ => hf a

lemma attempt (hx : Only L x) : Only L (attempt x) :=
  (Ensures.attempt hx).mono fun _ _ => trivial

lemma ite {p : Prop} [Decidable p] {y : ExceptT E (Prog C R) α} (hx : Only L x) (hy : Only L y) :
    Only L (if p then x else y) := by
  split_ifs
  · exact hx
  · exact hy

end Only

/-! ## The calls of an execution -/

variable (step) in
def calls : Prog C R α → σ → List C
  | ret _, _ => []
  | call c k, s => c :: calls (k (step s c).1) (step s c).2

variable (step) in
lemma calls_bind (x : Prog C R α) (f : α → Prog C R β) (s : σ) :
    calls step (x.bind f) s
      = calls step x s ++ calls step (f (run step x s).1) (run step x s).2 := by
  induction x generalizing s with
  | ret a => rfl
  | call c k ih => exact congrArg (c :: ·) (ih _ _)

/-- The calls of a sequence whose first part succeeded. -/
lemma calls_of_ok {x : ExceptT E (Prog C R) α} {f : α → ExceptT E (Prog C R) β} {m : σ} {a : α}
    (h : exec step x s = (Except.ok a, m)) :
    calls step (x >>= f).run s = calls step x.run s ++ calls step (f a).run m := by
  have hb := calls_bind step x.run (ExceptT.bindCont f) s
  rw [show run step x.run s = (Except.ok a, m) from h] at hb
  exact hb

/-- The second part makes no calls if the first one failed. -/
lemma calls_of_error {x : ExceptT E (Prog C R) α} {f : α → ExceptT E (Prog C R) β} {m : σ} {e : E}
    (h : exec step x s = (Except.error e, m)) :
    calls step (x >>= f).run s = calls step x.run s := by
  have hb := calls_bind step x.run (ExceptT.bindCont f) s
  rw [show run step x.run s = (Except.error e, m) from h] at hb
  exact hb.trans (List.append_nil _)

lemma calls_attempt (x : ExceptT E (Prog C R) α) (s : σ) :
    calls step (attempt x).run s = calls step x.run s :=
  (calls_bind step x.run (fun a => ret (Except.ok a)) s).trans (List.append_nil _)

/-- A static bound on the calls holds of the calls that are made. -/
lemma mem_calls_of_uses {Q : α → Prop} {x : Prog C R α} (hx : Uses L (fun _ _ => True) Q x) {c : C}
    (hc : c ∈ calls step x s) : L c := by
  induction x generalizing s with
  | ret a => exact absurd hc List.not_mem_nil
  | call d k ih =>
      rcases List.mem_cons.mp hc with rfl | hc
      · exact hx.1
      · exact ih _ (hx.2 _ trivial) hc

end Prog

end Lib
