import Hostpath.Lib.Mutex

/-!
# Giving a mutex back

A program that takes a mutex has to give it back, on every path and before it returns, and must not
ask for it while it holds it.  `Mutex.Balanced` says so of a program.  In a pool of such programs the
mutex is held by one of those that run or by nobody (`Mutex.Owned`), the one that holds it can always
go on, and so **no run gets stuck**: from any state all that runs can be brought to its end
(`Mutex.can_finish`).  `Mutex.erase` is a program without its mutex.
-/

namespace Lib

open Prog

namespace Mutex

variable {C : Type} {R : C → Type} {E σ ι α β : Type}

/-! ## Programs -/

/-- The program without the mutex. -/
def erase : Prog (Call C) (Reply R) α → Prog C R α
  | Prog.ret a => Prog.ret a
  | Prog.call Call.lock k => erase (k ())
  | Prog.call Call.unlock k => erase (k ())
  | Prog.call (Call.inner c) k => Prog.call c fun r => erase (k r)

@[simp] lemma erase_plain (x : Prog C R α) : erase (plain x) = x := by
  induction x with
  | ret a => rfl
  | call c k ih => exact congrArg (Prog.call c) (funext fun r => ih r)

@[simp] lemma erase_inside (x : Prog C R α) : erase (inside x) = x := by
  induction x with
  | ret a => rfl
  | call c k ih => exact congrArg (Prog.call c) (funext fun r => ih r)

@[simp] lemma erase_locked (x : Prog C R α) : erase (locked x) = x := erase_inside x

lemma erase_bind (x : Prog (Call C) (Reply R) α) (f : α → Prog (Call C) (Reply R) β) :
    erase (x.bind f) = (erase x).bind fun a => erase (f a) := by
  induction x with
  | ret a => rfl
  | call c k ih =>
      cases c with
      | lock => exact ih ()
      | unlock => exact ih ()
      | inner c => exact congrArg (Prog.call c) (funext fun r => ih r)

/-- The program asks for the mutex only if it does not hold it, gives it back only if it does, and
does not return with it. -/
def Balanced : Bool → Prog (Call C) (Reply R) α → Prop
  | held, Prog.ret _ => held = false
  | held, Prog.call Call.lock k => held = false ∧ Balanced true (k ())
  | held, Prog.call Call.unlock k => held = true ∧ Balanced false (k ())
  | held, Prog.call (Call.inner _) k => ∀ r, Balanced held (k r)

lemma balanced_plain (x : Prog C R α) : Balanced false (plain x) := by
  induction x with
  | ret a => rfl
  | call c k ih => exact fun r => ih r

lemma balanced_inside (x : Prog C R α) : Balanced true (inside x) := by
  induction x with
  | ret a => exact ⟨rfl, rfl⟩
  | call c k ih => exact fun r => ih r

lemma balanced_locked (x : Prog C R α) : Balanced false (locked x) := ⟨rfl, balanced_inside x⟩

lemma Balanced.bind {held : Bool} {x : Prog (Call C) (Reply R) α}
    {f : α → Prog (Call C) (Reply R) β} (hx : Balanced held x) (hf : ∀ a, Balanced false (f a)) :
    Balanced held (x.bind f) := by
  induction x generalizing held with
  | ret a =>
      cases hx
      exact hf a
  | call c k ih =>
      cases c with
      | lock => exact ⟨hx.1, ih () hx.2⟩
      | unlock => exact ⟨hx.1, ih () hx.2⟩
      | inner c => exact fun r => ih r (hx r)

/-- `Balanced` for a program that may fail and does not start with the mutex. -/
def GivesBack (x : ExceptT E (Prog (Call C) (Reply R)) α) : Prop := Balanced false x.run

namespace GivesBack

variable {x : ExceptT E (Prog (Call C) (Reply R)) α}

lemma ret (a : α) : GivesBack (pure a : ExceptT E (Prog (Call C) (Reply R)) α) := rfl

lemma fail (e : E) : GivesBack (throw e : ExceptT E (Prog (Call C) (Reply R)) α) := rfl

lemma bind {f : α → ExceptT E (Prog (Call C) (Reply R)) β} (hx : GivesBack x)
    (hf : ∀ a, GivesBack (f a)) : GivesBack (x >>= f) := by
  refine Balanced.bind hx fun r => ?_
  cases r with
  | ok a => exact hf a
  | error e => rfl

lemma attempt (hx : GivesBack x) : GivesBack (attempt x) := Balanced.bind hx fun _ => rfl

end GivesBack

/-! ## Pools -/

section Pools

variable {act : σ → (c : C) → R c × σ} {prog : ι → Prog (Call C) (Reply R) α}
  {may : Pool (Guard σ) ι (Call C) (Reply R) α → ι → Prop}
  {w w' : Pool (Guard σ) ι (Call C) (Reply R) α} {holder : Option ℕ} {i : ℕ}

/-- The mutex is held by `holder`, which runs, and everybody who runs gives back what they hold. -/
structure Owned (w : Pool (Guard σ) ι (Call C) (Reply R) α) (holder : Option ℕ) : Prop where
  held : w.shared.held = holder.isSome
  runs : ∀ i, holder = some i → w.threads i ≠ none
  balanced : ∀ i a p, w.threads i = some (a, p) → Balanced (decide (holder = some i)) p

namespace Owned

/-- What one program does with the mutex does not concern the others. -/
lemma update (ho : Owned w holder) {holder' : Option ℕ} {s' : Guard σ}
    {x : Option (ι × Prog (Call C) (Reply R) α)} (hheld : s'.held = holder'.isSome)
    (hothers : ∀ j, j ≠ i → (holder' = some j ↔ holder = some j))
    (hruns : holder' = some i → x ≠ none)
    (hx : ∀ a p, x = some (a, p) → Balanced (decide (holder' = some i)) p) :
    Owned ⟨s', Function.update w.threads i x⟩ holder' where
  held := hheld
  runs j hj := by
    by_cases hji : j = i
    · subst hji
      simpa using hruns hj
    · simpa [Function.update_of_ne hji] using ho.runs j ((hothers j hji).mp hj)
  balanced j a p hj := by
    rcases Pool.update_eq_some.mp hj with ⟨rfl, hnew⟩ | ⟨hji, hold⟩
    · exact hx a p hnew
    · rw [decide_eq_decide.mpr (hothers j hji)]
      exact ho.balanced j a p hold

variable (act) in
/-- A call of the program `i`, after which it may hold the mutex. -/
lemma call (ho : Owned w holder) {a : ι} {c : Call C} {k : Reply R c → Prog (Call C) (Reply R) α}
    (hi : w.threads i = some (a, Prog.call c k)) (hfree : c = Call.lock → w.shared.held = false) :
    ∃ holder', Owned ⟨(step act w.shared c).2,
        Function.update w.threads i (some (a, k (step act w.shared c).1))⟩ holder'
      ∧ ((holder = none ∨ holder = some i) → holder' = none ∨ holder' = some i) := by
  have hb := ho.balanced i a _ hi
  cases c with
  | lock =>
      have hnone : holder = none := by simpa using ho.held.symm.trans (hfree rfl)
      subst hnone
      refine ⟨some i, ho.update rfl (fun j hj => by simp [hj.symm]) (by simp) ?_, fun _ => Or.inr rfl⟩
      rintro b p ⟨⟩
      rw [decide_eq_true rfl]
      exact hb.2
  | unlock =>
      have hself : holder = some i := of_decide_eq_true hb.1
      subst hself
      refine ⟨none, ho.update rfl (fun j hj => by simp [hj.symm]) (by simp) ?_, fun _ => Or.inl rfl⟩
      rintro b p ⟨⟩
      exact hb.2
  | inner c =>
      refine ⟨holder, ho.update ho.held (fun _ _ => Iff.rfl) (by simp) ?_, fun h => h⟩
      rintro b p ⟨⟩
      exact hb _

/-- A program that returns does not hold the mutex. -/
lemma finish (ho : Owned w holder) {a : ι} {r : α} (hi : w.threads i = some (a, Prog.ret r)) :
    holder ≠ some i ∧ Owned ⟨w.shared, Function.update w.threads i none⟩ holder := by
  have hne : holder ≠ some i := of_decide_eq_false (ho.balanced i a _ hi)
  exact ⟨hne, ho.update ho.held (fun _ _ => Iff.rfl) (fun h => absurd h hne) (by simp)⟩

/-- **A step keeps the mutex owned.** -/
lemma next (ho : Owned w holder) (hprog : ∀ w a, may w a → Balanced false (prog a))
    {mv : Move ι (Call C) (Reply R)} (hs : Step act prog may w mv w') :
    ∃ holder', Owned w' holder' := by
  obtain ⟨hs, hfree⟩ := hs
  cases hs with
  | @start i a hi ha =>
      have hne : holder ≠ some i := fun h => ho.runs i h hi
      refine ⟨holder, ho.update ho.held (fun _ _ => Iff.rfl) (by simp) ?_⟩
      rintro b p ⟨⟩
      rw [decide_eq_false hne]
      exact hprog w _ ha
  | @call i a c k hi =>
      obtain ⟨holder', ho', _⟩ := ho.call act hi fun hc => by
        subst hc
        exact hfree i a _ rfl
      exact ⟨holder', ho'⟩
  | @finish i a r hi => exact ⟨holder, (ho.finish hi).2⟩

end Owned

lemma owned_idle (s : σ) :
    Owned (Pool.idle ⟨s, false⟩ : Pool (Guard σ) ι (Call C) (Reply R) α) none :=
  ⟨rfl, by simp, by simp [Pool.idle]⟩

/-- A run that starts nothing. -/
def Finishing (act : σ → (c : C) → R c × σ) (prog : ι → Prog (Call C) (Reply R) α)
    (may : Pool (Guard σ) ι (Call C) (Reply R) α → ι → Prop)
    (w w' : Pool (Guard σ) ι (Call C) (Reply R) α) : Prop :=
  ∃ tr, Run (Step act prog may) w tr w' ∧ ∀ x ∈ tr, ∀ i a, x.2 ≠ Move.start i a

lemma Finishing.refl (w : Pool (Guard σ) ι (Call C) (Reply R) α) :
    Finishing act prog may w w := ⟨[], Run.nil, by simp⟩

lemma Finishing.trans {m : Pool (Guard σ) ι (Call C) (Reply R) α}
    (h : Finishing act prog may w m) (h' : Finishing act prog may m w') :
    Finishing act prog may w w' := by
  obtain ⟨tr, hr, hno⟩ := h
  obtain ⟨tr', hr', hno'⟩ := h'
  refine ⟨tr ++ tr', hr.trans hr', fun x hx => ?_⟩
  exact (List.mem_append.mp hx).elim (hno x) (hno' x)

lemma Finishing.one {mv : Move ι (Call C) (Reply R)} (hs : Step act prog may w mv w')
    (hmv : ∀ i a, mv ≠ Move.start i a) : Finishing act prog may w w' :=
  ⟨_, Run.nil.snoc hs, by simpa using hmv⟩

variable (act prog may) in
/-- A program that holds the mutex, or that runs while nobody does, can run to its end. -/
lemma Owned.finish_one {a : ι} {p : Prog (Call C) (Reply R) α} (ho : Owned w holder)
    (hi : w.threads i = some (a, p)) (hh : holder = none ∨ holder = some i) :
    ∃ w', Finishing act prog may w w' ∧ Owned w' none
      ∧ w'.threads = Function.update w.threads i none := by
  -- the program is a finite tree, of which one call is taken off at a time
  induction p generalizing w holder with
  | ret r =>
      obtain ⟨hne, ho'⟩ := ho.finish hi
      have hnone : holder = none := hh.resolve_right hne
      subst hnone
      exact ⟨_, Finishing.one ⟨Pool.Step.finish hi, nofun⟩ nofun, ho', rfl⟩
  | call c k ih =>
      have hfree : c = Call.lock → w.shared.held = false := by
        rintro rfl
        have hne : holder ≠ some i := of_decide_eq_false (ho.balanced i a _ hi).1
        rw [ho.held, hh.resolve_right hne]
        rfl
      obtain ⟨holder', ho', hh'⟩ := ho.call act hi hfree
      have hstep : Step act prog may w (Move.call i a c (step act w.shared c).1) _ :=
        ⟨Pool.Step.call hi, fun j b r hmv => by
          cases hmv
          exact hfree rfl⟩
      obtain ⟨w', hrun, hown, hthreads⟩ := ih _ ho' (Function.update_self _ _ _) (hh' hh)
      refine ⟨w', (Finishing.one hstep nofun).trans hrun, hown, ?_⟩
      rw [hthreads, Function.update_idem]

/-- **Nothing gets stuck.**  All that runs can be brought to its end, and then the mutex is free. -/
theorem Owned.can_finish {s : Finset ℕ} (ho : Owned w holder)
    (hs : ∀ i, w.threads i ≠ none → i ∈ s) :
    ∃ w', Finishing act prog may w w' ∧ (∀ i, w'.threads i = none) ∧ w'.shared.held = false := by
  -- the one that holds the mutex is first, and after it nobody does
  have hfree : ∀ (s : Finset ℕ) (w : Pool (Guard σ) ι (Call C) (Reply R) α), Owned w none →
      (∀ i, w.threads i ≠ none → i ∈ s) →
      ∃ w', Finishing act prog may w w' ∧ (∀ i, w'.threads i = none) ∧ w'.shared.held = false := by
    intro s
    induction s using Finset.induction_on with
    | empty => exact fun w ho hs => ⟨w, Finishing.refl w, fun i => by simpa using hs i, ho.held⟩
    | insert j s _ ih =>
        intro w ho hs
        cases hj : w.threads j with
        | none =>
            refine ih w ho fun i hi => (Finset.mem_insert.mp (hs i hi)).resolve_left ?_
            rintro rfl
            exact hi hj
        | some x =>
            obtain ⟨m, hrun, hm, hthreads⟩ := ho.finish_one act prog may
              (i := j) (a := x.1) (p := x.2) hj (Or.inl rfl)
            obtain ⟨w', hrun', hend⟩ := ih m hm fun i hi => by
              rw [hthreads] at hi
              by_cases hij : i = j
              · subst hij
                simp at hi
              · rw [Function.update_of_ne hij] at hi
                exact (Finset.mem_insert.mp (hs i hi)).resolve_left hij
            exact ⟨w', hrun.trans hrun', hend⟩
  cases hh : holder with
  | none => exact hfree s w (hh ▸ ho) hs
  | some i =>
      obtain ⟨x, hx⟩ := Option.ne_none_iff_exists'.mp (ho.runs i hh)
      obtain ⟨m, hrun, hm, hthreads⟩ := ho.finish_one act prog may
        (i := i) (a := x.1) (p := x.2) hx (Or.inr hh)
      obtain ⟨w', hrun', hend⟩ := hfree s m hm fun j hj => by
        rw [hthreads] at hj
        by_cases hji : j = i
        · subst hji
          simp at hj
        · exact hs j (by rwa [Function.update_of_ne hji] at hj)
      exact ⟨w', hrun.trans hrun', hend⟩

/-- Only finitely many programs run at a time. -/
lemma running_finite {s : σ} {tr : List (Pool (Guard σ) ι (Call C) (Reply R) α
      × Move ι (Call C) (Reply R))} (hr : Run (Step act prog may) (Pool.idle ⟨s, false⟩) tr w) :
    ∃ s : Finset ℕ, ∀ i, w.threads i ≠ none → i ∈ s := by
  refine hr.preserves (I := fun w => ∃ s : Finset ℕ, ∀ i, w.threads i ≠ none → i ∈ s)
    ⟨∅, by simp [Pool.idle]⟩ ?_
  rintro m mv m' ⟨s, hs⟩ ⟨hstep, _⟩
  have hgrow : ∀ j x, ∀ i, Function.update m.threads j x i ≠ none → i ∈ insert j s := by
    intro j x i hi
    by_cases hij : i = j
    · exact Finset.mem_insert.mpr (Or.inl hij)
    · exact Finset.mem_insert_of_mem (hs i (by rwa [Function.update_of_ne hij] at hi))
  cases hstep with
  | @start j a _ _ => exact ⟨insert j s, hgrow j _⟩
  | @call j a c k _ => exact ⟨insert j s, hgrow j _⟩
  | @finish j a r _ => exact ⟨insert j s, hgrow j _⟩

/-- **In every state that is reached** the mutex is held by one program that runs or by nobody, and
all that runs can be brought to its end. -/
theorem owned_of_run {s : σ} {tr : List (Pool (Guard σ) ι (Call C) (Reply R) α
      × Move ι (Call C) (Reply R))} (hprog : ∀ w a, may w a → Balanced false (prog a))
    (hr : Run (Step act prog may) (Pool.idle ⟨s, false⟩) tr w) :
    ∃ holder, Owned w holder ∧ ∃ w', Finishing act prog may w w' ∧ (∀ i, w'.threads i = none)
      ∧ w'.shared.held = false := by
  obtain ⟨holder, ho⟩ := hr.preserves (I := fun w => ∃ holder, Owned w holder)
    ⟨none, owned_idle s⟩ fun m mv m' ⟨_, ho⟩ hs => ho.next hprog hs
  obtain ⟨s', hs'⟩ := running_finite hr
  exact ⟨holder, ho, ho.can_finish hs'⟩

end Pools

end Mutex

end Lib
