import Hostpath.Lib.Interleave
import Hostpath.Lib.Transcript

/-!
# What the programs of a pool have seen

`Pool.calls_of_uses` bounds the calls of the programs in a pool one by one.  Here a bound may refer
to the transcript of the program that makes the call, and to what the program knows of the shared
state because of its transcript.

* `transcript` — the calls and replies of one program, read off the history of the pool.
* `calls_own` — the transcript is the program's own, also where a number was used before.
* `logs_of_run` — what the text of a program says of its result given its transcript holds in every
  run.
* `calls_of_logs` — if a program's calls are bounded given its transcript (`Logs`), and what it knows
  is kept by its own calls and by those of the others, then both hold at every call of every run.
  What the history is assumed to satisfy, entry by entry, is the parameter `cond`.
-/

namespace Lib

/-- Two properties of the entries of a history. -/
lemma Each.and {τ : Type} {P Q : List τ → τ → Prop} {before tr : List τ} (hP : Each P before tr)
    (hQ : Each Q before tr) : Each (fun b x => P b x ∧ Q b x) before tr := by
  induction tr generalizing before with
  | nil => trivial
  | cons y tr ih => exact ⟨⟨hP.1, hQ.1⟩, ih hP.2 hQ.2⟩

/-- An entry of a history, with what came before it. -/
lemma Each.of_mem {τ : Type} {P : List τ → τ → Prop} {before tr : List τ} {x : τ}
    (h : Each P before tr) (hx : x ∈ tr) : ∃ earlier later, tr = earlier ++ x :: later
      ∧ P (before ++ earlier) x := by
  induction tr generalizing before with
  | nil => cases hx
  | cons y tr ih =>
      rcases List.mem_cons.mp hx with rfl | hx
      · exact ⟨[], tr, rfl, by simpa using h.1⟩
      · obtain ⟨earlier, later, rfl, hP⟩ := ih h.2 hx
        exact ⟨y :: earlier, later, rfl, by simpa using hP⟩

lemma Each.imp {τ : Type} {P Q : List τ → τ → Prop} {before tr : List τ} (h : Each P before tr)
    (hPQ : ∀ earlier x later, tr = earlier ++ x :: later → P (before ++ earlier) x →
      Q (before ++ earlier) x) : Each Q before tr := by
  induction tr generalizing before with
  | nil => trivial
  | cons y tr ih =>
      refine ⟨by simpa using hPQ [] y tr rfl (by simpa using h.1), ih h.2 ?_⟩
      intro earlier x later htr hP
      have hQ := hPQ (y :: earlier) x later (by rw [htr, List.cons_append]) (by simpa using hP)
      simpa using hQ

lemma each_of_forall {τ : Type} {P : List τ → τ → Prop} {before tr : List τ}
    (h : ∀ x ∈ tr, ∀ before, P before x) : Each P before tr := by
  induction tr generalizing before with
  | nil => trivial
  | cons x tr ih =>
      exact ⟨h x List.mem_cons_self _, ih fun y hy => h y (List.mem_cons_of_mem x hy)⟩

namespace Pool

open Prog

variable {σ ι C : Type} {R : C → Type} {α : Type} {step : σ → (c : C) → R c × σ}
  {prog : ι → Prog C R α} {may : Pool σ ι C R α → ι → Prop}

/-- The reply in the history is the one of the environment. -/
lemma Step.reply {w w' : Pool σ ι C R α} {i : ℕ} {a : ι} {c : C} {r : R c}
    (h : Step step prog may w (Move.call i a c r) w') : (step w.shared c).1 = r := by
  cases h
  rfl

/-- The transcript of the program number `i` after a move. -/
def logged (i : ℕ) (t : List (Sigma R)) : Move ι C R → List (Sigma R)
  | Move.start j _ => if j = i then [] else t
  | Move.call j _ c r => if j = i then t ++ [⟨c, r⟩] else t
  | Move.finish _ => t

/-- What the program number `i` has called since it was started, and the replies. -/
def transcript (i : ℕ) (tr : List (Pool σ ι C R α × Move ι C R)) : List (Sigma R) :=
  tr.foldl (fun t x => logged i t x.2) []

lemma transcript_snoc {i : ℕ} {tr : List (Pool σ ι C R α × Move ι C R)}
    {x : Pool σ ι C R α × Move ι C R} :
    transcript i (tr ++ [x]) = logged i (transcript i tr) x.2 := by
  simp [transcript]

/-- What is in a transcript has happened. -/
lemma exists_of_mem_transcript {i : ℕ} {tr : List (Pool σ ι C R α × Move ι C R)} {c : C} {r : R c}
    (h : (⟨c, r⟩ : Sigma R) ∈ transcript i tr) : ∃ x ∈ tr, ∃ a, x.2 = Move.call i a c r := by
  induction tr using List.reverseRecOn with
  | nil => cases h
  | append_singleton tr x ih =>
      have hkeep : (⟨c, r⟩ : Sigma R) ∈ transcript i tr →
          ∃ x' ∈ tr ++ [x], ∃ a, x'.2 = Move.call i a c r := by
        intro hmem
        obtain ⟨y, hy, hcall⟩ := ih hmem
        exact ⟨y, List.mem_append_left _ hy, hcall⟩
      rw [transcript_snoc] at h
      obtain ⟨w, mv⟩ := x
      cases mv with
      | start j a =>
          by_cases hj : j = i
          · simp [logged, hj] at h
          · exact hkeep (by simpa [logged, hj] using h)
      | finish j => exact hkeep h
      | call j a c' r' =>
          by_cases hj : j = i
          · subst hj
            rw [logged, if_pos rfl, List.mem_append, List.mem_singleton] at h
            rcases h with hmem | heq
            · exact hkeep hmem
            · cases heq
              exact ⟨_, List.mem_append_right _ (List.mem_singleton_self _), a, rfl⟩
          · exact hkeep (by simpa [logged, hj] using h)

/-- What is in the transcript of a program that makes a call was called by the same program, and not by
an earlier one of the same number. -/
theorem calls_own {s : σ} {w' : Pool σ ι C R α} {tr : List (Pool σ ι C R α × Move ι C R)}
    (hr : Run (Step step prog may) (idle s) tr w') :
    Each (fun before x => ∀ i a c r, x.2 = Move.call i a c r →
      ∀ c' r', (⟨c', r'⟩ : Sigma R) ∈ transcript i before →
        ∃ y ∈ before, y.2 = Move.call i a c' r') [] tr := by
  suffices h : (∀ i a p, w'.threads i = some (a, p) → ∀ c r,
      (⟨c, r⟩ : Sigma R) ∈ transcript i tr → ∃ y ∈ tr, y.2 = Move.call i a c r)
      ∧ Each (fun before x => ∀ i a c r, x.2 = Move.call i a c r →
        ∀ c' r', (⟨c', r'⟩ : Sigma R) ∈ transcript i before →
          ∃ y ∈ before, y.2 = Move.call i a c' r') [] tr from h.2
  induction hr with
  | nil => exact ⟨nofun, trivial⟩
  | @snoc tr m m' mv _ hs ih =>
      obtain ⟨hown, hall⟩ := ih
      have hkeep : ∀ i a p c r, m.threads i = some (a, p) → (⟨c, r⟩ : Sigma R) ∈ transcript i tr →
          ∃ y ∈ tr ++ [(m, mv)], y.2 = Move.call i a c r := by
        intro i a p c r hi hmem
        obtain ⟨y, hy, hcall⟩ := hown i a p hi c r hmem
        exact ⟨y, List.mem_append_left _ hy, hcall⟩
      rw [each_snoc, List.nil_append]
      cases hs with
      | @start j b hj hb =>
          refine ⟨fun i a p hi c r hmem => ?_, hall, nofun⟩
          rw [transcript_snoc, logged] at hmem
          rcases update_eq_some.mp hi with ⟨rfl, _⟩ | ⟨hij, hold⟩
          · simp at hmem
          · rw [if_neg (Ne.symm hij)] at hmem
            exact hkeep i a p c r hold hmem
      | @call j b c' k hj =>
          refine ⟨fun i a p hi c r hmem => ?_, hall, fun i a c r heq => ?_⟩
          · rw [transcript_snoc, logged] at hmem
            rcases update_eq_some.mp hi with ⟨rfl, hnew⟩ | ⟨hij, hold⟩
            · cases hnew
              rw [if_pos rfl, List.mem_append, List.mem_singleton] at hmem
              rcases hmem with hmem | heq
              · exact hkeep i b _ c r hj hmem
              · cases heq
                exact ⟨_, List.mem_append_right _ (List.mem_singleton_self _), rfl⟩
            · rw [if_neg (Ne.symm hij)] at hmem
              exact hkeep i a p c r hold hmem
          · cases heq
            exact hown j b _ hj
      | @finish j b r' hj =>
          refine ⟨fun i a p hi c r hmem => ?_, hall, nofun⟩
          rw [transcript_snoc, logged] at hmem
          rcases update_eq_some.mp hi with ⟨_, hnone⟩ | ⟨_, hold⟩
          · cases hnone
          · exact hkeep i a p c r hold hmem

/-- **What a program returns depends on its replies**, whatever the others do: what its text says
of the result given the transcript holds of the calls it has made. -/
theorem logs_of_run {w w' : Pool σ ι C R α} {i : ℕ} {a : ι} {p : Prog C R α}
    {tr : List (Pool σ ι C R α × Move ι C R)} {P : List (Sigma R) → C → Prop}
    {V : (c : C) → R c → Prop} {Q : List (Sigma R) → α → Prop}
    (hi : w.threads i = some (a, p)) (hp : Logs P V Q [] p) (hV : ∀ s c, V c (step s c).1)
    (hr : Run (Step step prog may) w tr w') (hno : ∀ x ∈ tr, x.2 ≠ Move.finish i) :
    ∃ p', w'.threads i = some (a, p') ∧ Logs P V Q (transcript i tr) p' := by
  induction hr with
  | nil => exact ⟨p, hi, hp⟩
  | @snoc tr m m' mv _ hs ih =>
      obtain ⟨p', hp', hlogs⟩ := ih fun x hx => hno x (List.mem_append_left _ hx)
      have hmv := hno (m, mv) (List.mem_append_right _ (List.mem_singleton_self _))
      rw [transcript_snoc]
      cases hs with
      | @start j b hj hb =>
          have hji : i ≠ j := by
            rintro rfl
            cases hj.symm.trans hp'
          exact ⟨p', (Function.update_of_ne hji _ _).trans hp', by rwa [logged, if_neg (Ne.symm hji)]⟩
      | @call j b c k hj =>
          by_cases hji : i = j
          · subst hji
            cases hp'.symm.trans hj
            exact ⟨_, Function.update_self _ _ _, by rw [logged, if_pos rfl]; exact hlogs.2 _ (hV _ c)⟩
          · exact ⟨p', (Function.update_of_ne hji _ _).trans hp', by rwa [logged, if_neg (Ne.symm hji)]⟩
      | @finish j b r hj =>
          have hji : i ≠ j := fun h => hmv (congrArg Move.finish h.symm)
          exact ⟨p', (Function.update_of_ne hji _ _).trans hp', hlogs⟩

section Logs

variable {good : ι → Prop} {I : σ → Prop} {V : (c : C) → R c → Prop}
  {P : ι → List (Sigma R) → C → Prop} {J : ι → List (Sigma R) → σ → Prop}
  {cond : List (Pool σ ι C R α × Move ι C R) → Pool σ ι C R α × Move ι C R → Prop}

/-- What holds of each program that runs: its calls to come are bounded, and what it knows is so. -/
def Aware (good : ι → Prop) (V : (c : C) → R c → Prop) (P : ι → List (Sigma R) → C → Prop)
    (J : ι → List (Sigma R) → σ → Prop) (tr : List (Pool σ ι C R α × Move ι C R))
    (w : Pool σ ι C R α) : Prop :=
  ∀ i a p, w.threads i = some (a, p) → good a
    ∧ Logs (P a) V (fun _ _ => True) (transcript i tr) p ∧ J a (transcript i tr) w.shared

/-- **Every call keeps to its bound, given the transcript, and every program is right about what it
knows**, whatever the order of the calls. -/
theorem calls_of_logs {s : σ} {w' : Pool σ ι C R α} {tr : List (Pool σ ι C R α × Move ι C R)}
    (hstart : ∀ w a, may w a → good a ∧ Logs (P a) V (fun _ _ => True) [] (prog a))
    (hnil : ∀ a s, J a [] s)
    (hown : ∀ before w i a c, cond before (w, Move.call i a c (step w.shared c).1) → good a →
      I w.shared → P a (transcript i before) c → J a (transcript i before) w.shared →
      V c (step w.shared c).1 ∧ I (step w.shared c).2
        ∧ J a (transcript i before ++ [⟨c, (step w.shared c).1⟩]) (step w.shared c).2)
    (hother : ∀ before w i a c j b p, cond before (w, Move.call i a c (step w.shared c).1) →
      good a → I w.shared → P a (transcript i before) c → w.threads j = some (b, p) → j ≠ i →
      J b (transcript j before) w.shared → J b (transcript j before) (step w.shared c).2)
    (hr : Run (Step step prog may) (idle s) tr w') (hcond : Each cond [] tr) (hs : I s) :
    I w'.shared ∧ Each (fun before x => I x.1.shared ∧ ∀ i a c r, x.2 = Move.call i a c r →
      good a ∧ P a (transcript i before) c ∧ J a (transcript i before) x.1.shared) [] tr := by
  suffices h : I w'.shared ∧ Aware good V P J tr w' ∧ Each (fun before x => I x.1.shared
      ∧ ∀ i a c r, x.2 = Move.call i a c r → good a ∧ P a (transcript i before) c
        ∧ J a (transcript i before) x.1.shared) [] tr from ⟨h.1, h.2.2⟩
  induction hr with
  | nil => exact ⟨hs, nofun, trivial⟩
  | @snoc tr m m' mv _ hstep ih =>
      rw [each_snoc] at hcond
      obtain ⟨hI, haware, hall⟩ := ih hcond.1
      have hmove := hcond.2
      rw [List.nil_append] at hmove
      rw [each_snoc, List.nil_append]
      cases hstep with
      | @start i a hi ha =>
          refine ⟨hI, fun j b p hj => ?_, hall, hI, nofun⟩
          rw [transcript_snoc, logged]
          rcases update_eq_some.mp hj with ⟨rfl, hnew⟩ | ⟨hji, hold⟩
          · cases hnew
            rw [if_pos rfl]
            exact ⟨(hstart m a ha).1, (hstart m a ha).2, hnil a m.shared⟩
          · rw [if_neg (Ne.symm hji)]
            exact haware j b p hold
      | @call i a c k hi =>
          obtain ⟨hgood, hlogs, hJ⟩ := haware i a _ hi
          obtain ⟨hV, hI', hJ'⟩ := hown tr m i a c hmove hgood hI hlogs.1 hJ
          refine ⟨hI', fun j b p hj => ?_, hall, hI, ?_⟩
          · rw [transcript_snoc, logged]
            rcases update_eq_some.mp hj with ⟨rfl, hnew⟩ | ⟨hji, hold⟩
            · cases hnew
              rw [if_pos rfl]
              exact ⟨hgood, hlogs.2 _ hV, hJ'⟩
            · obtain ⟨hb, hlog, hknown⟩ := haware j b p hold
              rw [if_neg (Ne.symm hji)]
              exact ⟨hb, hlog, hother tr m i a c j b p hmove hgood hI hlogs.1 hold hji hknown⟩
          · intro i' a' c' r' heq
            cases heq
            exact ⟨hgood, hlogs.1, hJ⟩
      | @finish i a r hi =>
          refine ⟨hI, fun j b p hj => ?_, hall, hI, nofun⟩
          rw [transcript_snoc, logged]
          rcases update_eq_some.mp hj with ⟨_, hnew⟩ | ⟨_, hold⟩
          · cases hnew
          · exact haware j b p hold

end Logs

end Pool

end Lib
