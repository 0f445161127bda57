import Hostpath.Lib.Prog
import Hostpath.Lib.Run

/-!
# Programs that run at the same time

Several programs run against one environment, and between two calls of one of them the others can
make any number of calls.  A `Pool` is the state of the environment together with what is left of
each program that runs; `Pool.Step` starts a program, lets one of them make its next call, or ends
one that has returned.

* `Guarded` — **rely and guarantee**: under interference that stays within `rely`, every call the
  program makes satisfies `P` and changes the state within `guar`.  It has the rules of `Ensures`,
  and it is not disturbed by interference (`Guarded.of_rely`).
* `Pool.Sound` — every program in the pool is guarded, and what one guarantees is what the others
  rely on.
* `Pool.calls_satisfy` — in a run that starts only programs that get along with those running,
  every call satisfies its `P`.
* `Pool.calls_of_uses` — the same for programs that are bounded by `Uses`, which need not know of each
  other.
* `Pool.play` — a schedule made executable, for concrete interleavings.
-/

namespace Lib

open Prog

variable {C : Type} {R : C → Type} {E σ ι α β : Type}

/-! ## Rely and guarantee -/

/-- What one program relies on, guarantees, and keeps to in its calls.  Interference may be any
number of steps, so what is relied on is reflexive and transitive. -/
structure Contract (σ : Type) (C : Type) where
  rely : σ → σ → Prop
  guar : σ → σ → Prop
  calls : σ → C → Prop
  refl : ∀ s, rely s s
  trans : ∀ {a b c}, rely a b → rely b c → rely a c

/-- Whatever happens in between within `rely`, the calls of the program are as the contract says,
and `Q` holds of what it returns, in the state it leaves. -/
def Guarded (step : σ → (c : C) → R c × σ) (K : Contract σ C) (Q : α → σ → Prop) :
    Prog C R α → σ → Prop
  | Prog.ret a, s => Q a s
  | Prog.call c k, s => ∀ s', K.rely s s' →
      K.calls s' c ∧ K.guar s' (step s' c).2 ∧ Guarded step K Q (k (step s' c).1) (step s' c).2

namespace Guarded

variable {step : σ → (c : C) → R c × σ} {K : Contract σ C} {Q S : α → σ → Prop}

/-- What a guarded program does next is not disturbed by interference. -/
lemma of_rely {x : Prog C R α} {s s' : σ} (hx : Guarded step K (fun _ _ => True) x s)
    (hs : K.rely s s') : Guarded step K (fun _ _ => True) x s' := by
  cases x with
  | ret a => trivial
  | call c k => exact fun s'' hs'' => hx s'' (K.trans hs hs'')

lemma mono {x : Prog C R α} {s : σ} (hx : Guarded step K Q x s)
    (hQ : ∀ a s, Q a s → S a s) : Guarded step K S x s := by
  induction x generalizing s with
  | ret a => exact hQ a s hx
  | call c k ih =>
      intro s' hs'
      obtain ⟨hc, hg, hk⟩ := hx s' hs'
      exact ⟨hc, hg, ih _ hk⟩

lemma bind {S : β → σ → Prop} {x : Prog C R α} {f : α → Prog C R β} {s : σ}
    (hx : Guarded step K Q x s) (hf : ∀ a s, Q a s → Guarded step K S (f a) s) :
    Guarded step K S (x.bind f) s := by
  induction x generalizing s with
  | ret a => exact hf a s hx
  | call c k ih =>
      intro s' hs'
      obtain ⟨hc, hg, hk⟩ := hx s' hs'
      exact ⟨hc, hg, ih _ hk⟩

end Guarded

/-- `Guarded` for a program that may fail: `Q` is about what it returns if it does not. -/
def Keeps (step : σ → (c : C) → R c × σ) (K : Contract σ C) (Q : α → σ → Prop)
    (x : ExceptT E (Prog C R) α) (s : σ) : Prop :=
  Guarded step K (fun r s => ∀ a, r = Except.ok a → Q a s) x.run s

namespace Keeps

variable {step : σ → (c : C) → R c × σ} {K : Contract σ C} {Q : α → σ → Prop}
  {S : β → σ → Prop} {s : σ}

lemma ret {a : α} (ha : Q a s) : Keeps step K Q (pure a : ExceptT E (Prog C R) α) s := by
  rintro b hb
  cases hb
  exact ha

lemma fail (e : E) : Keeps step K Q (throw e : ExceptT E (Prog C R) α) s := by
  rintro b hb
  cases hb

lemma perform {c : C} {Q : R c → σ → Prop}
    (hc : ∀ s', K.rely s s' → K.calls s' c ∧ K.guar s' (step s' c).2
      ∧ Q (step s' c).1 (step s' c).2) :
    Keeps step K Q (perform c : ExceptT E (Prog C R) (R c)) s := by
  intro s' hs'
  obtain ⟨h₁, h₂, h₃⟩ := hc s' hs'
  refine ⟨h₁, h₂, fun a ha => ?_⟩
  cases ha
  exact h₃

lemma bind {x : ExceptT E (Prog C R) α} {f : α → ExceptT E (Prog C R) β}
    (hx : Keeps step K Q x s) (hf : ∀ a s, Q a s → Keeps step K S (f a) s) :
    Keeps step K S (x >>= f) s := by
  refine Guarded.bind hx fun r s hr => ?_
  cases r with
  | ok a => exact hf a s (hr a rfl)
  | error e => exact fun b hb => by cases hb

end Keeps

/-! ## Pools -/

/-- The state of the environment, and what is left of each program that runs; `ι` says what the
programs were started for. -/
structure Pool (σ ι : Type) (C : Type) (R : C → Type) (α : Type) where
  shared : σ
  threads : ℕ → Option (ι × Prog C R α)

/-- What happens in a pool: the program number `i` starts, makes a call and gets a reply, or
ends. -/
inductive Move (ι : Type) (C : Type) (R : C → Type) where
  | start (i : ℕ) (a : ι)
  | call (i : ℕ) (a : ι) (c : C) (r : R c)
  | finish (i : ℕ)

namespace Pool

/-- One step of a pool, in which programs are started as `may` allows. -/
inductive Step (step : σ → (c : C) → R c × σ) (prog : ι → Prog C R α)
    (may : Pool σ ι C R α → ι → Prop) :
    Pool σ ι C R α → Move ι C R → Pool σ ι C R α → Prop where
  | start {w : Pool σ ι C R α} {i : ℕ} {a : ι} (hi : w.threads i = none) (ha : may w a) :
      Step step prog may w (Move.start i a)
        ⟨w.shared, Function.update w.threads i (some (a, prog a))⟩
  | call {w : Pool σ ι C R α} {i : ℕ} {a : ι} {c : C} {k : R c → Prog C R α}
      (hi : w.threads i = some (a, Prog.call c k)) :
      Step step prog may w (Move.call i a c (step w.shared c).1)
        ⟨(step w.shared c).2,
          Function.update w.threads i (some (a, k (step w.shared c).1))⟩
  | finish {w : Pool σ ι C R α} {i : ℕ} {a : ι} {r : α}
      (hi : w.threads i = some (a, Prog.ret r)) :
      Step step prog may w (Move.finish i) ⟨w.shared, Function.update w.threads i none⟩

variable {step : σ → (c : C) → R c × σ} {prog : ι → Prog C R α}
  {may : Pool σ ι C R α → ι → Prop} {K : ι → Contract σ C}

/-- Two programs get along: what each guarantees the other can rely on. -/
def Compatible (K : ι → Contract σ C) (a b : ι) : Prop :=
  (∀ s s', (K a).guar s s' → (K b).rely s s') ∧ ∀ s s', (K b).guar s s' → (K a).rely s s'

lemma Compatible.symm {a b : ι} (h : Compatible K a b) : Compatible K b a := ⟨h.2, h.1⟩

/-- What runs after one place was changed. -/
lemma update_eq_some {τ : Type} {f : ℕ → Option τ} {v : Option τ} {i j : ℕ} {x : τ} :
    Function.update f i v j = some x ↔ j = i ∧ v = some x ∨ j ≠ i ∧ f j = some x := by
  by_cases hij : j = i
  · subst hij
    simp
  · simp [hij]

/-- The program gets along with those that run. -/
def Fits (K : ι → Contract σ C) (w : Pool σ ι C R α) (a : ι) : Prop :=
  ∀ i b p, w.threads i = some (b, p) → Compatible K a b

/-- The programs of the pool are guarded and get along, and the state satisfies the invariant. -/
structure Sound (step : σ → (c : C) → R c × σ) (K : ι → Contract σ C) (I : σ → Prop)
    (w : Pool σ ι C R α) : Prop where
  inv : I w.shared
  guarded : ∀ i a p, w.threads i = some (a, p) →
    Guarded step (K a) (fun _ _ => True) p w.shared
  compatible : ∀ i j a b p q, i ≠ j → w.threads i = some (a, p) → w.threads j = some (b, q) →
    Compatible K a b

/-- Nothing runs yet. -/
def idle (s : σ) : Pool σ ι C R α := ⟨s, fun _ => none⟩

section Sound

variable {I : σ → Prop} {w w' : Pool σ ι C R α} {mv : Move ι C R}

lemma sound_idle {s : σ} (hs : I s) : Sound step K I (idle s : Pool σ ι C R α) :=
  ⟨hs, nofun, nofun⟩

/-- A call of a sound pool keeps to its contract. -/
lemma Sound.call (hw : Sound step K I w) {i : ℕ} {a : ι} {c : C} {k : R c → Prog C R α}
    (hi : w.threads i = some (a, Prog.call c k)) :
    (K a).calls w.shared c ∧ (K a).guar w.shared (step w.shared c).2
      ∧ Guarded step (K a) (fun _ _ => True) (k (step w.shared c).1) (step w.shared c).2 :=
  hw.guarded i a _ hi _ ((K a).refl _)

/-- **A step keeps a pool sound**, if only programs start that get along with those running. -/
lemma Sound.next (hw : Sound step K I w) (hI : ∀ a s s', (K a).guar s s' → I s → I s')
    (hstart : ∀ w a, I w.shared → may w a → Fits K w a
      ∧ Guarded step (K a) (fun _ _ => True) (prog a) w.shared)
    (hs : Step step prog may w mv w') : Sound step K I w' := by
  obtain ⟨hinv, hguard, hcomp⟩ := hw
  cases hs with
  | @start i a hi ha =>
      obtain ⟨hfit, hprog⟩ := hstart w a hinv ha
      refine ⟨hinv, fun j b p hj => ?_, fun j j' b b' p q hne hj hj' => ?_⟩
      · rcases update_eq_some.mp hj with ⟨_, hnew⟩ | ⟨_, hold⟩
        · cases hnew
          exact hprog
        · exact hguard j b p hold
      · rcases update_eq_some.mp hj with ⟨rfl, hnew⟩ | ⟨_, hold⟩ <;>
          rcases update_eq_some.mp hj' with ⟨rfl, hnew'⟩ | ⟨_, hold'⟩
        · exact absurd rfl hne
        · cases hnew
          exact hfit j' b' q hold'
        · cases hnew'
          exact (hfit j b p hold).symm
        · exact hcomp j j' b b' p q hne hold hold'
  | @call i a c k hi =>
      obtain ⟨_, hg, hk⟩ := Sound.call ⟨hinv, hguard, hcomp⟩ hi
      -- a call changes what is left of one program, not what it runs for
      have hbefore : ∀ {j b p}, Function.update w.threads i
          (some (a, k (step w.shared c).1)) j = some (b, p) → ∃ q, w.threads j = some (b, q) := by
        intro j b p hj
        rcases update_eq_some.mp hj with ⟨rfl, hnew⟩ | ⟨_, hold⟩
        · cases hnew
          exact ⟨_, hi⟩
        · exact ⟨p, hold⟩
      refine ⟨hI a _ _ hg hinv, fun j b p hj => ?_, fun j j' b b' p q hne hj hj' => ?_⟩
      · rcases update_eq_some.mp hj with ⟨_, hnew⟩ | ⟨hij, hold⟩
        · cases hnew
          exact hk
        · exact (hguard j b p hold).of_rely ((hcomp i j a b _ p (Ne.symm hij) hi hold).1 _ _ hg)
      · obtain ⟨p₀, hp₀⟩ := hbefore hj
        obtain ⟨q₀, hq₀⟩ := hbefore hj'
        exact hcomp j j' b b' p₀ q₀ hne hp₀ hq₀
  | @finish i a r hi =>
      have hbefore : ∀ {j b p}, Function.update w.threads i none j = some (b, p) →
          w.threads j = some (b, p) := by
        intro j b p hj
        rcases update_eq_some.mp hj with ⟨_, hnew⟩ | ⟨_, hold⟩
        · cases hnew
        · exact hold
      exact ⟨hinv, fun j b p hj => hguard j b p (hbefore hj),
        fun j j' b b' p q hne hj hj' => hcomp j j' b b' p q hne (hbefore hj) (hbefore hj')⟩

/-- **Every call keeps to its contract**, whatever the order of the calls. -/
theorem calls_satisfy {tr : List (Pool σ ι C R α × Move ι C R)}
    (hI : ∀ a s s', (K a).guar s s' → I s → I s')
    (hstart : ∀ w a, I w.shared → may w a → Fits K w a
      ∧ Guarded step (K a) (fun _ _ => True) (prog a) w.shared)
    (hr : Run (Step step prog may) w tr w') (hw : Sound step K I w) :
    ∀ x ∈ tr, I x.1.shared ∧ ∀ i a c r, x.2 = Move.call i a c r → (K a).calls x.1.shared c := by
  suffices h : Sound step K I w' ∧ ∀ x ∈ tr, I x.1.shared ∧ ∀ i a c r,
      x.2 = Move.call i a c r → (K a).calls x.1.shared c from h.2
  refine hr.invariant (I := fun tr w' => Sound step K I w' ∧ ∀ x ∈ tr, I x.1.shared ∧ ∀ i a c r,
    x.2 = Move.call i a c r → (K a).calls x.1.shared c) ⟨hw, by simp⟩ ?_
  rintro tr m mv m' ⟨hm, hall⟩ hs
  refine ⟨hm.next hI hstart hs, fun x hx => ?_⟩
  rcases List.mem_append.mp hx with hx | hx
  · exact hall x hx
  · rw [List.mem_singleton.mp hx]
    refine ⟨hm.inv, fun i a c r hmv => ?_⟩
    cases hs with
    | start => cases hmv
    | finish => cases hmv
    | call hi =>
        cases hmv
        exact (hm.call hi).1

end Sound

/-! ## Static bounds -/

section Static

variable {P : ι → C → Prop} {V : (c : C) → R c → Prop} {I : σ → Prop}

/-- **The static bounds of the programs are bounds on every run**, whatever the order of the calls,
if calls within their bounds keep the invariant and are answered as the bounds expect. -/
theorem calls_of_uses {good : ι → Prop} {s : σ} {w' : Pool σ ι C R α}
    {tr : List (Pool σ ι C R α × Move ι C R)}
    (hstep : ∀ a s c, good a → I s → P a c → V c (step s c).1 ∧ I (step s c).2)
    (hstart : ∀ w a, may w a → good a ∧ Uses (P a) V (fun _ => True) (prog a))
    (hr : Run (Step step prog may) (idle s) tr w') (hs : I s) :
    ∀ x ∈ tr, I x.1.shared ∧ ∀ i a c r, x.2 = Move.call i a c r → good a ∧ P a c := by
  suffices h : (I w'.shared ∧ ∀ i a p, w'.threads i = some (a, p) →
      good a ∧ Uses (P a) V (fun _ => True) p) ∧ ∀ x ∈ tr, I x.1.shared ∧ ∀ i a c r,
        x.2 = Move.call i a c r → good a ∧ P a c from h.2
  refine hr.invariant (I := fun tr w' => (I w'.shared ∧ ∀ i a p, w'.threads i = some (a, p) →
    good a ∧ Uses (P a) V (fun _ => True) p) ∧ ∀ x ∈ tr, I x.1.shared ∧ ∀ i a c r,
      x.2 = Move.call i a c r → good a ∧ P a c) ⟨⟨hs, nofun⟩, by simp⟩ ?_
  rintro tr m mv m' ⟨⟨hm, hthreads⟩, hall⟩ hs
  refine ⟨?_, fun x hx => ?_⟩
  · cases hs with
    | @start i a _ ha =>
        refine ⟨hm, fun j b p hj => ?_⟩
        rcases update_eq_some.mp hj with ⟨_, hnew⟩ | ⟨_, hold⟩
        · cases hnew
          exact hstart m a ha
        · exact hthreads j b p hold
    | @call i a c k hi =>
        obtain ⟨hgood, hP, hk⟩ := hthreads i a _ hi
        obtain ⟨hV, hI⟩ := hstep a m.shared c hgood hm hP
        refine ⟨hI, fun j b p hj => ?_⟩
        rcases update_eq_some.mp hj with ⟨_, hnew⟩ | ⟨_, hold⟩
        · cases hnew
          exact ⟨hgood, hk _ hV⟩
        · exact hthreads j b p hold
    | @finish i a r _ =>
        refine ⟨hm, fun j b p hj => ?_⟩
        rcases update_eq_some.mp hj with ⟨_, hnew⟩ | ⟨_, hold⟩
        · cases hnew
        · exact hthreads j b p hold
  · rcases List.mem_append.mp hx with hx | hx
    · exact hall x hx
    · rw [List.mem_singleton.mp hx]
      refine ⟨hm, fun i a c r hmv => ?_⟩
      cases hs with
      | start => cases hmv
      | finish => cases hmv
      | call hi =>
          cases hmv
          exact ⟨(hthreads _ _ _ hi).1, (hthreads _ _ _ hi).2.1⟩

end Static

/-- A run in which only programs of one kind start. -/
theorem run_restrict {K : ι → Prop} {w w' : Pool σ ι C R α}
    {tr : List (Pool σ ι C R α × Move ι C R)} (hr : Run (Step step prog may) w tr w')
    (hK : ∀ x ∈ tr, ∀ i a, x.2 = Move.start i a → K a) :
    Run (Step step prog fun w a => may w a ∧ K a) w tr w' := by
  induction hr with
  | nil => exact Run.nil
  | snoc _ hs ih =>
      refine Run.snoc (ih fun x hx => hK x (List.mem_append_left _ hx)) ?_
      have hmv := hK _ (List.mem_append_right _ (List.mem_singleton_self _))
      cases hs with
      | start hi ha => exact Step.start hi ⟨ha, hmv _ _ rfl⟩
      | call hi => exact Step.call hi
      | finish hi => exact Step.finish hi

/-! ## Schedules -/

/-- What a schedule can choose: to start a program, or to let one go on. -/
inductive Choice (ι : Type) where
  | start (i : ℕ) (a : ι)
  | go (i : ℕ)

/-- What a choice does, if it can be made. -/
def next (step : σ → (c : C) → R c × σ) (prog : ι → Prog C R α) (w : Pool σ ι C R α) :
    Choice ι → Option (Move ι C R × Pool σ ι C R α)
  | Choice.start i a =>
      match w.threads i with
      | some _ => none
      | none => some (Move.start i a,
          ⟨w.shared, Function.update w.threads i (some (a, prog a))⟩)
  | Choice.go i =>
      match w.threads i with
      | none => none
      | some (a, Prog.call c k) => some (Move.call i a c (step w.shared c).1,
          ⟨(step w.shared c).2, Function.update w.threads i (some (a, k (step w.shared c).1))⟩)
      | some (_, Prog.ret _) => some (Move.finish i, ⟨w.shared, Function.update w.threads i none⟩)

/-- The run of a schedule. -/
def play (step : σ → (c : C) → R c × σ) (prog : ι → Prog C R α) :
    List (Choice ι) → Pool σ ι C R α → Option (List (Pool σ ι C R α × Move ι C R) × Pool σ ι C R α)
  | [], w => some ([], w)
  | x :: xs, w =>
      match next step prog w x with
      | none => none
      | some (mv, w') => (play step prog xs w').map fun r => ((w, mv) :: r.1, r.2)

/-- A choice is a step, if what it starts may start. -/
lemma step_of_next {w w' : Pool σ ι C R α} {x : Choice ι} {mv : Move ι C R}
    (hmay : ∀ i a, x = Choice.start i a → may w a) (h : next step prog w x = some (mv, w')) :
    Step step prog may w mv w' := by
  cases x with
  | start i a =>
      cases hi : w.threads i with
      | some t => simp [next, hi] at h
      | none =>
          simp only [next, hi, Option.some.injEq, Prod.mk.injEq] at h
          obtain ⟨rfl, rfl⟩ := h
          exact Step.start hi (hmay i a rfl)
  | go i =>
      rcases hi : w.threads i with _ | ⟨a, c | r⟩
      · simp [next, hi] at h
      · simp only [next, hi, Option.some.injEq, Prod.mk.injEq] at h
        obtain ⟨rfl, rfl⟩ := h
        exact Step.finish hi
      · simp only [next, hi, Option.some.injEq, Prod.mk.injEq] at h
        obtain ⟨rfl, rfl⟩ := h
        exact Step.call hi

/-- The run of a schedule is a run. -/
theorem run_of_play {xs : List (Choice ι)} {w w' : Pool σ ι C R α}
    {tr : List (Pool σ ι C R α × Move ι C R)}
    (hmay : ∀ i a, Choice.start i a ∈ xs → ∀ w, may w a)
    (h : play step prog xs w = some (tr, w')) : Run (Step step prog may) w tr w' := by
  induction xs generalizing w tr with
  | nil =>
      cases h
      exact Run.nil
  | cons x xs ih =>
      rw [play] at h
      split at h
      · cases h
      · rename_i mv m hm
        obtain ⟨⟨tr₁, w₁⟩, hr, heq⟩ := Option.map_eq_some_iff.mp h
        cases heq
        have hx := step_of_next (fun i a ha => hmay i a (ha ▸ List.mem_cons_self) w) hm
        exact Run.trans (Run.snoc Run.nil hx)
          (ih (fun i a ha => hmay i a (List.mem_cons_of_mem _ ha)) hr)

/-- What starts in the run of a schedule is started by the schedule. -/
lemma start_of_play {xs : List (Choice ι)} {w w' : Pool σ ι C R α}
    {tr : List (Pool σ ι C R α × Move ι C R)} (h : play step prog xs w = some (tr, w')) :
    ∀ x ∈ tr, ∀ i a, x.2 = Move.start i a → Choice.start i a ∈ xs := by
  induction xs generalizing w tr with
  | nil =>
      cases h
      simp
  | cons y xs ih =>
      rw [play] at h
      split at h
      · cases h
      · rename_i mv m hm
        obtain ⟨⟨tr₁, w₁⟩, hr, heq⟩ := Option.map_eq_some_iff.mp h
        cases heq
        intro x hx i a hxa
        rcases List.mem_cons.mp hx with rfl | hx
        · cases y with
          | start j b =>
              cases hj : w.threads j with
              | some t => simp [next, hj] at hm
              | none =>
                  simp only [next, hj, Option.some.injEq, Prod.mk.injEq] at hm
                  cases hm.1.trans hxa
                  exact List.mem_cons_self
          | go j =>
              rcases hj : w.threads j with _ | ⟨b, c | r⟩ <;>
                simp only [next, hj, Option.some.injEq, Prod.mk.injEq, reduceCtorEq] at hm
              · cases hm.1.trans hxa
              · cases hm.1.trans hxa
        · exact List.mem_cons_of_mem _ (ih hr x hx i a hxa)

end Pool

end Lib
