import Mathlib

/-!
# Runs of a labelled system, with their history

A run is a sequence of labelled steps.  Its history lists every label together with the state in
which the step was taken, oldest first, so that a property of a state can refer to what happened
before and to what the state was then.
-/

namespace Lib

/-- Runs of the relation `step` from the state `s`: the history and the state reached. -/
inductive Run {σ ε : Type} (step : σ → ε → σ → Prop) (s : σ) : List (σ × ε) → σ → Prop where
  | nil : Run step s [] s
  | snoc {tr : List (σ × ε)} {m m' : σ} {e : ε} (h : Run step s tr m) (hs : step m e m') :
      Run step s (tr ++ [(m, e)]) m'

/-- `P` holds of each entry of a history, given what came before it. -/
def Each {τ : Type} (P : List τ → τ → Prop) : List τ → List τ → Prop
  | _, [] => True
  | before, x :: tr => P before x ∧ Each P (before ++ [x]) tr

lemma each_snoc {τ : Type} {P : List τ → τ → Prop} {before tr : List τ} {x : τ} :
    Each P before (tr ++ [x]) ↔ Each P before tr ∧ P (before ++ tr) x := by
  induction tr generalizing before with
  | nil => simp [Each]
  | cons y tr ih => simp [Each, ih, and_assoc]

namespace Run

variable {σ ε : Type} {step : σ → ε → σ → Prop} {s s' : σ} {tr : List (σ × ε)}

/-- **Invariants of runs.**  What holds at the start and is kept by every step, given the history
so far, holds in every state that is reached. -/
theorem invariant {I : List (σ × ε) → σ → Prop} (hr : Run step s tr s') (h₀ : I [] s)
    (hstep : ∀ tr m e m', I tr m → step m e m' → I (tr ++ [(m, e)]) m') : I tr s' := by
  induction hr with
  | nil => exact h₀
  | snoc _ hs ih => exact hstep _ _ _ _ ih hs

/-- An invariant that does not look at the history. -/
theorem preserves {I : σ → Prop} (hr : Run step s tr s') (h₀ : I s)
    (hstep : ∀ m e m', I m → step m e m' → I m') : I s' :=
  hr.invariant (I := fun _ m => I m) h₀ fun _ m e m' => hstep m e m'

/-- An invariant that is kept by the steps of this run. -/
theorem preserves_along {I : σ → Prop} (hr : Run step s tr s') (h₀ : I s)
    (hstep : ∀ x ∈ tr, ∀ m', step x.1 x.2 m' → I x.1 → I m') : I s' := by
  induction hr with
  | nil => exact h₀
  | snoc _ hs ih =>
      refine hstep _ (List.mem_append_right _ (List.mem_singleton_self _)) _ hs (ih ?_)
      exact fun x hx => hstep x (List.mem_append_left _ hx)

/-- **Simulation.**  If every step is matched by a step of an abstract system, which is told the
state as well as the label, then every run is matched by an abstract run. -/
theorem simulates {τ : Type} {A : τ → σ × ε → τ → Prop} {R : σ → τ → Prop} {t : τ}
    (hr : Run step s tr s') (h₀ : R s t)
    (hstep : ∀ m t e m', R m t → step m e m' → ∃ t', A t (m, e) t' ∧ R m' t') :
    ∃ tr' t', Run A t tr' t' ∧ tr'.map Prod.snd = tr ∧ R s' t' := by
  induction hr with
  | nil => exact ⟨[], t, Run.nil, rfl, h₀⟩
  | @snoc tr m m' e _ hs ih =>
      obtain ⟨tr', u, hrun, rfl, hR⟩ := ih
      obtain ⟨u', ha, hR'⟩ := hstep m u e m' hR hs
      exact ⟨tr' ++ [(u, (m, e))], u', hrun.snoc ha, by simp, hR'⟩

/-- One run after another. -/
theorem trans {m : σ} {tr' : List (σ × ε)} (h : Run step s tr m) (h' : Run step m tr' s') :
    Run step s (tr ++ tr') s' := by
  induction h' with
  | nil => rwa [List.append_nil]
  | snoc _ hs ih =>
      rw [← List.append_assoc]
      exact Run.snoc ih hs

/-- A sequence of labels that can be taken one after the other is a run. -/
theorem of_foldlM {next : σ → ε → Option σ} {es : List ε} (h : es.foldlM next s = some s')
    (hstep : ∀ m e m', next m e = some m' → step m e m') : ∃ tr, Run step s tr s' := by
  induction es generalizing s with
  | nil =>
      obtain rfl := Option.some.inj h
      exact ⟨[], nil⟩
  | cons e es ih =>
      obtain ⟨m, hm, hrest⟩ := Option.bind_eq_some_iff.mp h
      obtain ⟨tr, hr⟩ := ih hrest
      exact ⟨_, (nil.snoc (hstep s e m hm)).trans hr⟩

/-- Every entry of the history is the state and the label of a step that was taken. -/
theorem steps (hr : Run step s tr s') : ∀ x ∈ tr, ∃ m', step x.1 x.2 m' := by
  refine hr.invariant (I := fun tr _ => ∀ x ∈ tr, ∃ m', step x.1 x.2 m') (by simp) ?_
  intro tr m e m' ih hs x hx
  rcases List.mem_append.mp hx with hx | hx
  · exact ih x hx
  · rw [List.mem_singleton.mp hx]
    exact ⟨m', hs⟩

end Run

end Lib
