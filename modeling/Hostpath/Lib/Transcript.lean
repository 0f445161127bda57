import Hostpath.Lib.Prog

/-!
# What a program does, given what it was told

`Uses` bounds the calls of a program one by one.  Here the bound may refer to the transcript, the
calls that the program made so far together with their replies: that a call is made only after
another one succeeded, or that a result is returned only if a certain reply was seen.

* `Logs` — whatever admissible replies the program gets, every call satisfies `P` and every result
  satisfies `Q`, given the transcript so far.  The rules are equivalences, so that a statement about
  a program can be computed from its text.
-/

namespace Lib

namespace Prog

variable {C : Type} {R : C → Type} {E α β : Type}

/-- As long as replies satisfy `V`, every call satisfies `P` and every result `Q`, given the
transcript, which starts with `t`. -/
def Logs (P : List (Sigma R) → C → Prop) (V : (c : C) → R c → Prop)
    (Q : List (Sigma R) → α → Prop) : List (Sigma R) → Prog C R α → Prop
  | t, ret a => Q t a
  | t, call c k => P t c ∧ ∀ r, V c r → Logs P V Q (t ++ [⟨c, r⟩]) (k r)

variable {P : List (Sigma R) → C → Prop} {V : (c : C) → R c → Prop} {t : List (Sigma R)}

lemma logs_bind {Q : List (Sigma R) → β → Prop} {x : Prog C R α} {f : α → Prog C R β} :
    Logs P V Q t (x.bind f) ↔ Logs P V (fun t a => Logs P V Q t (f a)) t x := by
  induction x generalizing t with
  | ret a => rfl
  | call c k ih => exact and_congr_right fun _ => forall_congr' fun r => imp_congr_right fun _ => ih r

lemma Logs.mono {Q S : List (Sigma R) → α → Prop} {x : Prog C R α} (hx : Logs P V Q t x)
    (hQ : ∀ t a, Q t a → S t a) : Logs P V S t x := by
  induction x generalizing t with
  | ret a => exact hQ t a hx
  | call c k ih => exact ⟨hx.1, fun r hr => ih r (hx.2 r hr)⟩

lemma logs_true (t : List (Sigma R)) (x : Prog C R α) :
    Logs (fun _ _ => True) (fun _ _ => True) (fun _ _ => True) t x := by
  induction x generalizing t with
  | ret a => trivial
  | call c k ih => exact ⟨trivial, fun r _ => ih r _⟩

/-- A bound that does not look at the transcript, and what is in the transcript then. -/
lemma logs_of_uses {S : C → Prop} {Q : α → Prop} {x : Prog C R α} (hx : Uses S V Q x)
    (hS : ∀ t c, S c → P t c) :
    Logs P V (fun t' a => Q a ∧ ∃ u, t' = t ++ u ∧ ∀ s ∈ u, S s.1) t x := by
  induction x generalizing t with
  | ret a => exact ⟨hx, [], by simp, by simp⟩
  | call c k ih =>
      refine ⟨hS t c hx.1, fun r hr => (ih r (hx.2 r hr)).mono ?_⟩
      rintro t' a ⟨hQ, u, rfl, hu⟩
      refine ⟨hQ, ⟨c, r⟩ :: u, by simp, ?_⟩
      simpa using ⟨hx.1, hu⟩

lemma uses_of_logs {S : C → Prop} {Q : α → Prop} {x : Prog C R α}
    (hx : Logs (fun _ c => S c) V (fun _ a => Q a) t x) : Uses S V Q x := by
  induction x generalizing t with
  | ret a => exact hx
  | call c k ih => exact ⟨hx.1, fun r hr => ih r (hx.2 r hr)⟩

section Failing

variable {Q : List (Sigma R) → Except E β → Prop} {S : List (Sigma R) → Except E α → Prop}

lemma logs_seq {x : ExceptT E (Prog C R) α} {f : α → ExceptT E (Prog C R) β} :
    Logs P V Q t (x >>= f).run ↔ Logs P V (fun t r => match r with
      | Except.ok a => Logs P V Q t (f a).run
      | Except.error e => Q t (Except.error e)) t x.run := by
  have h : Logs P V Q t (x >>= f).run ↔ Logs P V (fun t r => Logs P V Q t
      (ExceptT.bindCont f r)) t x.run := logs_bind
  rw [h]
  have hcases : (fun t r => Logs P V Q t (ExceptT.bindCont f r)) = fun t r => match r with
      | Except.ok a => Logs P V Q t (f a).run
      | Except.error e => Q t (Except.error e) := by
    funext t r
    cases r <;> rfl
  rw [hcases]

/-- A call, and what follows. -/
lemma logs_perform {c : C} {f : R c → ExceptT E (Prog C R) β} :
    Logs P V Q t (perform c >>= f).run
      ↔ P t c ∧ ∀ r, V c r → Logs P V Q (t ++ [⟨c, r⟩]) (f r).run := Iff.rfl

/-- What needs no call, and what follows. -/
lemma logs_pure {a : α} {f : α → ExceptT E (Prog C R) β} :
    Logs P V Q t (pure a >>= f).run ↔ Logs P V Q t (f a).run := Iff.rfl

/-- What follows a program whose calls are bounded. -/
lemma logs_ensures {S' : C → Prop} {A : α → Prop} {x : ExceptT E (Prog C R) α}
    {f : α → ExceptT E (Prog C R) β} (hx : Ensures S' V A x) (hS : ∀ t c, S' c → P t c)
    (hf : ∀ u, (∀ s ∈ u, S' s.1) → ∀ a, A a → Logs P V (fun _ _ => True) (t ++ u) (f a).run) :
    Logs P V (fun _ _ => True) t (x >>= f).run := by
  refine logs_seq.mpr ((logs_of_uses hx hS).mono ?_)
  rintro t' r ⟨hA, u, rfl, hu⟩
  cases r with
  | ok a => exact hf u hu a (hA a rfl)
  | error e => trivial

lemma logs_ite {p : Prop} [Decidable p] {x y : ExceptT E (Prog C R) α} :
    Logs P V S t (if p then x else y).run
      ↔ (p → Logs P V S t x.run) ∧ (¬ p → Logs P V S t y.run) := by
  split_ifs with hp <;> simp [hp]

end Failing

end Prog

end Lib
