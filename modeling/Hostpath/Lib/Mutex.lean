import Hostpath.Lib.Linearizable

/-!
# A mutex

Programs that run at the same time share a mutex: some of them make their calls between taking it
and giving it back, the others do not use it.  The mutex *protects* a part of the shared state, which
nobody changes without holding it.

* `Mutex.Step` — the moves of a pool in which nobody takes a mutex that is held.
* `Mutex.During` — what a program does while it holds the mutex, under whatever the others do
  meanwhile to what is not protected.  It may take effect at one of its calls, as in `Commits`, and
  what is protected has to be in order again only when the mutex is given back.
* `Mutex.linearizable` — **programs that take effect once, with or without the mutex, run like one
  atomic object**, whose state has a free and a protected part.
-/

namespace Lib

open Prog

namespace Mutex

variable {C : Type} {R : C → Type} {E σ τ μ ι O α β : Type}

/-! ## Programs with a mutex -/

inductive Call (C : Type) where
  | lock
  | unlock
  | inner (c : C)

def Reply (R : C → Type) : Call C → Type
  | Call.lock => Unit
  | Call.unlock => Unit
  | Call.inner c => R c

/-- The shared state, and whether somebody holds the mutex. -/
structure Guard (σ : Type) where
  state : σ
  held : Bool

def step (act : σ → (c : C) → R c × σ) (s : Guard σ) : (c : Call C) → Reply R c × Guard σ
  | Call.lock => ((), ⟨s.state, true⟩)
  | Call.unlock => ((), ⟨s.state, false⟩)
  | Call.inner c => ((act s.state c).1, ⟨(act s.state c).2, s.held⟩)

/-- A program that does not use the mutex. -/
def plain : Prog C R α → Prog (Call C) (Reply R) α
  | Prog.ret a => Prog.ret a
  | Prog.call c k => Prog.call (Call.inner c) fun r => plain (k r)

/-- A program that holds the mutex and gives it back when it returns. -/
def inside : Prog C R α → Prog (Call C) (Reply R) α
  | Prog.ret a => Prog.call Call.unlock fun _ => Prog.ret a
  | Prog.call c k => Prog.call (Call.inner c) fun r => inside (k r)

/-- The program runs with the mutex. -/
def locked (x : Prog C R α) : Prog (Call C) (Reply R) α := Prog.call Call.lock fun _ => inside x

lemma plain_bind (x : Prog C R α) (f : α → Prog C R β) :
    plain (x.bind f) = (plain x).bind fun a => plain (f a) := by
  induction x with
  | ret a => rfl
  | call c k ih => exact congrArg (Prog.call (Call.inner c)) (funext fun r => ih r)

/-- What is made of the result can be made before or after the mutex is given back. -/
lemma inside_bind_ret (x : Prog C R α) (f : α → β) :
    (inside x).bind (fun a => Prog.ret (f a)) = inside (x.bind fun a => Prog.ret (f a)) := by
  induction x with
  | ret a => rfl
  | call c k ih => exact congrArg (Prog.call (Call.inner c)) (funext fun r => ih r)

/-- A move of the pool.  Nobody takes a mutex that is held. -/
def Step (act : σ → (c : C) → R c × σ) (prog : ι → Prog (Call C) (Reply R) α)
    (may : Pool (Guard σ) ι (Call C) (Reply R) α → ι → Prop)
    (w : Pool (Guard σ) ι (Call C) (Reply R) α) (mv : Move ι (Call C) (Reply R))
    (w' : Pool (Guard σ) ι (Call C) (Reply R) α) : Prop :=
  Pool.Step (step act) prog may w mv w'
    ∧ ∀ i a r, mv = Move.call i a Call.lock r → w.shared.held = false

/-- A run in which nobody takes a mutex that is held. -/
lemma run_of_free {act : σ → (c : C) → R c × σ} {prog : ι → Prog (Call C) (Reply R) α}
    {may : Pool (Guard σ) ι (Call C) (Reply R) α → ι → Prop}
    {w w' : Pool (Guard σ) ι (Call C) (Reply R) α}
    {tr : List (Pool (Guard σ) ι (Call C) (Reply R) α × Move ι (Call C) (Reply R))}
    (hr : Run (Pool.Step (step act) prog may) w tr w')
    (hfree : ∀ x ∈ tr, ∀ i a r, x.2 = Move.call i a Call.lock r → x.1.shared.held = false) :
    Run (Step act prog may) w tr w' := by
  induction hr with
  | nil => exact Run.nil
  | snoc _ hs ih =>
      refine Run.snoc (ih fun x hx => hfree x (List.mem_append_left _ hx)) ⟨hs, ?_⟩
      exact hfree _ (List.mem_append_right _ (List.mem_singleton_self _))

/-! ## What the mutex protects -/

/-- The free part of the shared state shows the first part of the abstract state at any time, and the
protected part keeps the second while nobody holds the mutex.  `same` is what can happen to the
protected part while somebody else holds it. -/
@[ext] structure Terms (σ τ μ : Type) where
  shown : σ → τ → Prop
  kept : σ → μ → Prop
  same : σ → σ → Prop
  refl : ∀ s, same s s
  trans : ∀ {a b c}, same a b → same b c → same a c
  stable : ∀ {s s' m}, same s s' → kept s m → kept s' m

/-- What a program does while it holds the mutex: whatever the others have done in the meantime, a
call keeps the free part as it is, and at one of the calls the program takes effect on the protected
part. -/
def During (act : σ → (c : C) → R c × σ) (T : Terms σ τ μ) (own : τ → μ → O → μ → Prop)
    (Q : Option O → α → σ → μ → Prop) : Option O → Prog C R α → σ → μ → Prop
  | st, Prog.ret a, s, m => Q st a s m
  | st, Prog.call c k, s, m => ∀ s' t, T.same s s' → T.shown s' t → T.shown (act s' c).2 t
      ∧ (During act T own Q st (k (act s' c).1) (act s' c).2 m
        ∨ st = none ∧ ∃ o m', own t m o m'
          ∧ During act T own Q (some o) (k (act s' c).1) (act s' c).2 m')

/-- The mutex can be given back, at the latest with the effect of the program. -/
def Leaves (T : Terms σ τ μ) (own : τ → μ → O → μ → Prop) (Q : Option O → α → Prop)
    (st : Option O) (a : α) (s : σ) (m : μ) : Prop :=
  ∀ s' t, T.same s s' → T.shown s' t → Advances T.kept (own t) st m s' fun st' => Q st' a

section During

variable {act : σ → (c : C) → R c × σ} {T : Terms σ τ μ} {own : τ → μ → O → μ → Prop}
  {st : Option O} {s s' : σ} {m : μ}

namespace During

/-- What the others do in between is allowed for. -/
lemma of_same {Q : Option O → α → Prop} {x : Prog C R α}
    (hx : During act T own (Leaves T own Q) st x s m) (hs : T.same s s') :
    During act T own (Leaves T own Q) st x s' m := by
  cases x with
  | ret a => exact fun s'' t hs' => hx s'' t (T.trans hs hs')
  | call c k => exact fun s'' t hs' => hx s'' t (T.trans hs hs')

lemma bind_prog {Q : Option O → α → σ → μ → Prop} {Q' : Option O → β → σ → μ → Prop}
    {x : Prog C R α} {f : α → Prog C R β} (hx : During act T own Q st x s m)
    (hf : ∀ st' a s' m', Q st' a s' m' → During act T own Q' st' (f a) s' m') :
    During act T own Q' st (x.bind f) s m := by
  induction x generalizing st s m with
  | ret a => exact hf st a s m hx
  | call c k ih =>
      intro s' t hs ht
      obtain ⟨hshown, hk | ⟨hnone, o, m', hown, hk⟩⟩ := hx s' t hs ht
      · exact ⟨hshown, Or.inl (ih _ hk)⟩
      · exact ⟨hshown, Or.inr ⟨hnone, o, m', hown, ih _ hk⟩⟩

/-- A sequence, whose second half does not run if the first fails. -/
lemma bind {Q : Option O → Except E α → σ → μ → Prop}
    {Q' : Option O → Except E β → σ → μ → Prop} {x : ExceptT E (Prog C R) α}
    {f : α → ExceptT E (Prog C R) β} (hx : During act T own Q st x.run s m)
    (hok : ∀ st' a s' m', Q st' (Except.ok a) s' m' →
      During act T own Q' st' (f a).run s' m')
    (herror : ∀ st' e s' m', Q st' (Except.error e) s' m' → Q' st' (Except.error e) s' m') :
    During act T own Q' st (x >>= f).run s m := by
  refine bind_prog hx fun st' r s' m' hr => ?_
  cases r with
  | ok a => exact hok st' a s' m' hr
  | error e => exact herror st' e s' m' hr

/-- A program whose error is looked at does not fail. -/
lemma attempt {Q : Option O → Except E α → σ → μ → Prop}
    {Q' : Option O → Except E β → σ → μ → Prop} {x : ExceptT E (Prog C R) α}
    {f : Except E α → ExceptT E (Prog C R) β} (hx : During act T own Q st x.run s m)
    (hf : ∀ st' r s' m', Q st' r s' m' → During act T own Q' st' (f r).run s' m') :
    During act T own Q' st (Prog.attempt x >>= f).run s m := by
  refine bind (Q := fun st' r s' m' => ∃ a, r = Except.ok a ∧ Q st' a s' m')
    (bind_prog hx fun st' r s' m' hr => ⟨r, rfl, hr⟩) ?_ ?_
  · rintro st' r s' m' ⟨_, heq, hr⟩
    cases heq
    exact hf st' r s' m' hr
  · rintro st' e s' m' ⟨_, heq, _⟩
    cases heq

lemma mono {Q Q' : Option O → α → σ → μ → Prop} {x : Prog C R α}
    (hx : During act T own Q st x s m)
    (h : ∀ st' a s' m', Q st' a s' m' → Q' st' a s' m') :
    During act T own Q' st x s m := by
  induction x generalizing st s m with
  | ret a => exact h st a s m hx
  | call c k ih =>
      intro s' t hs ht
      obtain ⟨hshown, hk | ⟨hnone, o, m', hown, hk⟩⟩ := hx s' t hs ht
      · exact ⟨hshown, Or.inl (ih _ hk)⟩
      · exact ⟨hshown, Or.inr ⟨hnone, o, m', hown, ih _ hk⟩⟩

/-- A program that makes a single call is described by its sequential execution. -/
lemma of_once {Q : Option O → α → σ → μ → Prop} {x : Prog C R α} (hx : x.Once)
    (h : ∀ s' t, T.same s s' → T.shown s' t → T.shown (run act x s').2 t
      ∧ (Q st (run act x s').1 (run act x s').2 m
        ∨ st = none ∧ ∃ o m', own t m o m'
          ∧ Q (some o) (run act x s').1 (run act x s').2 m')) :
    During act T own Q st x s m := by
  obtain ⟨c, k, rfl, hk⟩ := hx
  intro s' t hs ht
  obtain ⟨a, ha⟩ := hk (act s' c).1
  have hrun : run act (Prog.call c k) s' = (a, (act s' c).2) := by
    rw [run, ha, run]
  have hone := h s' t hs ht
  rw [hrun] at hone
  rwa [ha]

end During

end During

/-! ## Pools -/

/-- An operation takes effect on the free part, or under the mutex on the protected part. -/
def Joint (free : ι → τ → O → τ → Prop) (own : ι → τ → μ → O → μ → Prop) (a : ι) (x : τ × μ) (o : O)
    (y : τ × μ) : Prop :=
  free a x.1 o y.1 ∧ y.2 = x.2 ∨ own a x.1 x.2 o y.2 ∧ y.1 = x.1

section Pools

variable {act : σ → (c : C) → R c × σ} {T : Terms σ τ μ} {free : ι → τ → O → τ → Prop}
  {own : ι → τ → μ → O → μ → Prop} {obs : ι → Option O → α → Prop} {P : ι → C → Prop}
  {V : (c : C) → R c → Prop} {prog : ι → Prog (Call C) (Reply R) α}
  {may : Pool (Guard σ) ι (Call C) (Reply R) α → ι → Prop}

/-- What is left of a program that does not hold the mutex: it never takes it, and stays away from
what is protected; or it is about to take it. -/
def Outside (act : σ → (c : C) → R c × σ) (T : Terms σ τ μ) (free : ι → τ → O → τ → Prop)
    (own : ι → τ → μ → O → μ → Prop) (obs : ι → Option O → α → Prop) (P : ι → C → Prop)
    (V : (c : C) → R c → Prop) (a : ι) (st : Option O) (p : Prog (Call C) (Reply R) α) : Prop :=
  (∃ x, p = plain x ∧ Commits act T.shown (free a) (obs a) st x ∧ Uses (P a) V (fun _ => True) x)
    ∨ ∃ x, p = locked x ∧ st = none
      ∧ ∀ s m, T.kept s m → During act T (own a) (Leaves T (own a) (obs a)) none x s m

/-- What is left of a program that holds the mutex. -/
def Holding (act : σ → (c : C) → R c × σ) (T : Terms σ τ μ) (own : ι → τ → μ → O → μ → Prop)
    (obs : ι → Option O → α → Prop) (a : ι) (st : Option O) (p : Prog (Call C) (Reply R) α) (s : σ)
    (m : μ) : Prop :=
  ∃ x, p = inside x ∧ During act T (own a) (Leaves T (own a) (obs a)) st x s m

/-- The pool and the atomic object are in corresponding states, and `holder` has the mutex. -/
structure Matches (act : σ → (c : C) → R c × σ) (T : Terms σ τ μ) (free : ι → τ → O → τ → Prop)
    (own : ι → τ → μ → O → μ → Prop) (obs : ι → Option O → α → Prop) (P : ι → C → Prop)
    (V : (c : C) → R c → Prop) (w : Pool (Guard σ) ι (Call C) (Reply R) α)
    (A : AtomicObject (τ × μ) ι O) (holder : Option ℕ) : Prop where
  shown : T.shown w.shared.state A.state.1
  held : w.shared.held = holder.isSome
  kept : holder = none → T.kept w.shared.state A.state.2
  idle : ∀ i, w.threads i = none ↔ A.ops i = none
  holding : ∀ i, holder = some i → ∃ a p st, w.threads i = some (a, p) ∧ A.ops i = some (a, st)
    ∧ Holding act T own obs a st p w.shared.state A.state.2
  outside : ∀ i a p, w.threads i = some (a, p) → holder ≠ some i →
    ∃ st, A.ops i = some (a, st) ∧ Outside act T free own obs P V a st p

variable {w w' : Pool (Guard σ) ι (Call C) (Reply R) α} {A : AtomicObject (τ × μ) ι O}
  {holder holder' : Option ℕ} {i : ℕ} {s' : Guard σ} {t' : τ × μ}

namespace Matches

/-- A move of a program that does not hold the mutex, and does not get it. -/
lemma move_outside (hm : Matches act T free own obs P V w A holder) {x y} (hi : holder ≠ some i)
    (hsame : T.same w.shared.state s'.state) (hheld : s'.held = w.shared.held)
    (hshown : T.shown s'.state t'.1) (ht : t'.2 = A.state.2) (hxy : x = none ↔ y = none)
    (hout : ∀ a p, x = some (a, p) → ∃ st, y = some (a, st) ∧ Outside act T free own obs P V a st p) :
    Matches act T free own obs P V ⟨s', Function.update w.threads i x⟩
      ⟨t', Function.update A.ops i y⟩ holder where
  shown := hshown
  held := hheld.trans hm.held
  kept hnone := ht ▸ T.stable hsame (hm.kept hnone)
  idle j := by
    by_cases hj : j = i
    · subst hj
      simpa using hxy
    · simpa [Function.update_of_ne hj] using hm.idle j
  holding j hj := by
    have hne : j ≠ i := fun h => hi (h ▸ hj)
    obtain ⟨a, p, st, hp, ho, z, rfl, hz⟩ := hm.holding j hj
    refine ⟨a, _, st, (Function.update_of_ne hne _ _).trans hp,
      (Function.update_of_ne hne _ _).trans ho, z, rfl, ?_⟩
    exact ht ▸ hz.of_same hsame
  outside j a p hj hne := by
    rcases Pool.update_eq_some.mp hj with ⟨rfl, hx⟩ | ⟨hji, hold⟩
    · obtain ⟨st, rfl, hst⟩ := hout a p hx
      exact ⟨st, Function.update_self _ _ _, hst⟩
    · obtain ⟨st, hst, ho⟩ := hm.outside j a p hold hne
      exact ⟨st, (Function.update_of_ne hji _ _).trans hst, ho⟩

/-- A move of the program that holds the mutex, gets it or gives it back. -/
lemma move_holder (hm : Matches act T free own obs P V w A holder)
    (hh : ∀ j, holder = some j → j = i) {a : ι} {p : Prog (Call C) (Reply R) α} {st : Option O}
    (hshown : T.shown s'.state t'.1) (hheld : s'.held = holder'.isSome)
    (hkept : holder' = none → T.kept s'.state t'.2) (hh' : ∀ j, holder' = some j → j = i)
    (hin : holder' = some i → Holding act T own obs a st p s'.state t'.2)
    (hout : holder' ≠ some i → Outside act T free own obs P V a st p) :
    Matches act T free own obs P V ⟨s', Function.update w.threads i (some (a, p))⟩
      ⟨t', Function.update A.ops i (some (a, st))⟩ holder' where
  shown := hshown
  held := hheld
  kept := hkept
  idle j := by
    by_cases hj : j = i
    · subst hj
      simp
    · simpa [Function.update_of_ne hj] using hm.idle j
  holding j hj := by
    cases hh' j hj
    exact ⟨a, p, st, Function.update_self _ _ _, Function.update_self _ _ _, hin hj⟩
  outside j b q hj hne := by
    rcases Pool.update_eq_some.mp hj with ⟨rfl, hx⟩ | ⟨hji, hold⟩
    · cases hx
      exact ⟨st, Function.update_self _ _ _, hout hne⟩
    · obtain ⟨st', hst', ho⟩ := hm.outside j b q hold fun h => hji (hh j h)
      exact ⟨st', (Function.update_of_ne hji _ _).trans hst', ho⟩

/-- An operation that goes on as it is. -/
lemma of_wait {y : ι × Option O} (hy : A.ops i = some y)
    (hm : Matches act T free own obs P V w' ⟨A.state, Function.update A.ops i (some y)⟩ holder) :
    Matches act T free own obs P V w' A holder := by
  rwa [← hy, Function.update_eq_self] at hm

/-- The next call of a program that does not use the mutex. -/
lemma next_plain (hm : Matches act T free own obs P V w A holder) (hi : holder ≠ some i)
    (hkeep : ∀ a s t c, T.shown s t → P a c → V c (act s c).1 ∧ T.same s (act s c).2)
    {a : ι} {c : C} {k : R c → Prog C R α} {st : Option O} (hA : A.ops i = some (a, st))
    (hc : Commits act T.shown (free a) (obs a) st (Prog.call c k))
    (hu : Uses (P a) V (fun _ => True) (Prog.call c k)) {r : Reply R (Call.inner c)} :
    ∃ A', AtomicObject.Step (Joint free own) obs A (w, Move.call i a (Call.inner c) r) A'
      ∧ Matches act T free own obs P V ⟨⟨(act w.shared.state c).2, w.shared.held⟩,
        Function.update w.threads i (some (a, plain (k (act w.shared.state c).1)))⟩ A' holder := by
  obtain ⟨hV, hsame⟩ := hkeep a _ _ c hm.shown hu.1
  have hu' := hu.2 _ hV
  rcases hc w.shared.state A.state.1 hm.shown with ⟨hrel, hk⟩ | ⟨rfl, o, t', hspec, hrel, hk⟩
  · refine ⟨A, AtomicObject.Step.wait, of_wait hA (hm.move_outside hi hsame rfl hrel rfl
      (by simp) ?_)⟩
    rintro b p ⟨⟩
    exact ⟨st, rfl, Or.inl ⟨_, rfl, hk, hu'⟩⟩
  · refine ⟨_, AtomicObject.Step.commit (t := (t', A.state.2)) hA (Or.inl ⟨hspec, rfl⟩),
      hm.move_outside hi hsame rfl hrel rfl (by simp) ?_⟩
    rintro b p ⟨⟩
    exact ⟨some o, rfl, Or.inl ⟨_, rfl, hk, hu'⟩⟩

/-- The next call of the program that holds the mutex. -/
lemma next_inside (hm : Matches act T free own obs P V w A (some i)) {a : ι} {c : C}
    {k : R c → Prog C R α} {st : Option O} (hA : A.ops i = some (a, st))
    (hd : During act T (own a) (Leaves T (own a) (obs a)) st (Prog.call c k) w.shared.state A.state.2)
    {r : Reply R (Call.inner c)} :
    ∃ A', AtomicObject.Step (Joint free own) obs A (w, Move.call i a (Call.inner c) r) A'
      ∧ Matches act T free own obs P V ⟨⟨(act w.shared.state c).2, w.shared.held⟩,
        Function.update w.threads i (some (a, inside (k (act w.shared.state c).1)))⟩ A'
        (some i) := by
  have hself : ∀ j, some i = some j → j = i := fun j hj => (Option.some.inj hj).symm
  obtain ⟨hshown, hk | ⟨rfl, o, m', hown, hk⟩⟩ := hd _ _ (T.refl _) hm.shown
  · exact ⟨A, AtomicObject.Step.wait, of_wait hA (hm.move_holder hself hshown hm.held
      nofun hself (fun _ => ⟨_, rfl, hk⟩) fun h => absurd rfl h)⟩
  · exact ⟨_, AtomicObject.Step.commit (t := (A.state.1, m')) hA (Or.inr ⟨hown, rfl⟩),
      hm.move_holder hself hshown hm.held nofun hself (fun _ => ⟨_, rfl, hk⟩)
        fun h => absurd rfl h⟩

/-- Giving the mutex back. -/
lemma next_unlock (hm : Matches act T free own obs P V w A (some i)) {a : ι} {x : α}
    {st : Option O} (hA : A.ops i = some (a, st))
    (hd : Leaves T (own a) (obs a) st x w.shared.state A.state.2)
    {r : Reply R (Call.unlock : Call C)} :
    ∃ A', AtomicObject.Step (Joint free own) obs A (w, Move.call i a Call.unlock r) A'
      ∧ Matches act T free own obs P V ⟨⟨w.shared.state, false⟩,
        Function.update w.threads i (some (a, Prog.ret x))⟩ A' none := by
  have hself : ∀ j, some i = some j → j = i := fun j hj => (Option.some.inj hj).symm
  have hnone : ∀ j, none = some j → j = i := by simp
  rcases hd _ _ (T.refl _) hm.shown with ⟨hkept, hobs⟩ | ⟨rfl, o, m', hown, hkept, hobs⟩
  · exact ⟨A, AtomicObject.Step.wait, of_wait hA (hm.move_holder hself hm.shown rfl
      (fun _ => hkept) hnone (by simp) fun _ => Or.inl ⟨Prog.ret x, rfl, hobs, trivial⟩)⟩
  · exact ⟨_, AtomicObject.Step.commit (t := (A.state.1, m')) hA (Or.inr ⟨hown, rfl⟩),
      hm.move_holder hself hm.shown rfl (fun _ => hkept) hnone (by simp)
        fun _ => Or.inl ⟨Prog.ret x, rfl, hobs, trivial⟩⟩

/-- **One move is matched by one step of the atomic object.** -/
lemma next (hm : Matches act T free own obs P V w A holder)
    (hkeep : ∀ a s t c, T.shown s t → P a c → V c (act s c).1 ∧ T.same s (act s c).2)
    (hstart : ∀ w a, may w a → Outside act T free own obs P V a none (prog a))
    {mv : Move ι (Call C) (Reply R)} (hs : Step act prog may w mv w') :
    ∃ A' holder', AtomicObject.Step (Joint free own) obs A (w, mv) A'
      ∧ Matches act T free own obs P V w' A' holder' := by
  obtain ⟨hs, hfree⟩ := hs
  cases hs with
  | @start i a hi ha =>
      have hne : holder ≠ some i := by
        rintro rfl
        obtain ⟨_, _, _, hp, _⟩ := hm.holding i rfl
        cases hi.symm.trans hp
      refine ⟨_, holder, AtomicObject.Step.start ((hm.idle i).mp hi),
        hm.move_outside hne (T.refl _) rfl hm.shown rfl (by simp) ?_⟩
      rintro b p ⟨⟩
      exact ⟨none, rfl, hstart w _ ha⟩
  | @call i a c k hi =>
      by_cases hh : holder = some i
      · subst hh
        obtain ⟨b, p, st, hp, hA, x, rfl, hd⟩ := hm.holding i rfl
        obtain ⟨rfl, heq⟩ : a = b ∧ Prog.call c k = inside x := by
          simpa using hi.symm.trans hp
        cases x with
        | ret x =>
            cases heq
            obtain ⟨A', hA', hm'⟩ := hm.next_unlock hA hd
            exact ⟨A', none, hA', hm'⟩
        | call c k =>
            cases heq
            obtain ⟨A', hA', hm'⟩ := hm.next_inside hA hd
            exact ⟨A', some i, hA', hm'⟩
      · obtain ⟨st, hA, ⟨x, heq, hc, hu⟩ | ⟨x, heq, rfl, hd⟩⟩ := hm.outside i a _ hi hh
        · cases x with
          | ret x => cases heq
          | call c k =>
              cases heq
              obtain ⟨A', hA', hm'⟩ := hm.next_plain hh hkeep hA hc hu
              exact ⟨A', holder, hA', hm'⟩
        · cases heq
          -- the mutex is free, so what it protects is in order
          have hnone : holder = none := by
            have hheld := hm.held.symm.trans (hfree i a _ rfl)
            simpa using hheld
          refine ⟨A, some i, AtomicObject.Step.wait, of_wait hA (hm.move_holder ?_ hm.shown rfl
            (by simp) (fun j hj => (Option.some.inj hj).symm)
            (fun _ => ⟨x, rfl, hd _ _ (hm.kept hnone)⟩) fun h => absurd rfl h)⟩
          rintro j rfl
          cases hnone
  | @finish i a r hi =>
      have hne : holder ≠ some i := by
        rintro rfl
        obtain ⟨b, p, st, hp, _, x, rfl, _⟩ := hm.holding i rfl
        obtain ⟨_, heq⟩ : a = b ∧ Prog.ret r = inside x := by
          simpa using hi.symm.trans hp
        cases x <;> cases heq
      obtain ⟨st, hA, ⟨x, heq, hobs, _⟩ | ⟨x, heq, _⟩⟩ := hm.outside i a _ hi hne
      · cases x with
        | call c k => cases heq
        | ret x =>
            cases heq
            exact ⟨_, holder, AtomicObject.Step.finish hA hi hobs,
              hm.move_outside hne (T.refl _) rfl hm.shown rfl (by simp) (by simp)⟩
      · cases heq

end Matches

lemma matches_idle {s : σ} {t : τ} {m : μ} (ht : T.shown s t) (hm : T.kept s m) :
    Matches act T free own obs P V (Pool.idle ⟨s, false⟩) (AtomicObject.idle (t, m)) none :=
  ⟨ht, rfl, fun _ => hm, fun _ => by simp [Pool.idle, AtomicObject.idle], by simp, by simp [Pool.idle]⟩

/-- **Programs that take effect once run like an atomic object**, whether they hold the mutex while
they do or stay away from what it protects. -/
theorem linearizable {tr : List (Pool (Guard σ) ι (Call C) (Reply R) α × Move ι (Call C) (Reply R))}
    (hkeep : ∀ a s t c, T.shown s t → P a c → V c (act s c).1 ∧ T.same s (act s c).2)
    (hstart : ∀ w a, may w a → Outside act T free own obs P V a none (prog a))
    (hm : Matches act T free own obs P V w A holder) (hr : Run (Step act prog may) w tr w') :
    ∃ tr' A' holder', Run (AtomicObject.Step (Joint free own) obs) A tr' A'
      ∧ tr'.map Prod.snd = tr ∧ Matches act T free own obs P V w' A' holder' := by
  obtain ⟨tr', A', hrun, hmap, h', hm'⟩ := hr.simulates
    (R := fun w A => ∃ h, Matches act T free own obs P V w A h) ⟨holder, hm⟩
    fun _ _ _ _ ⟨_, hm⟩ hs =>
      let ⟨A', h', hA, hm'⟩ := hm.next hkeep hstart hs
      ⟨A', hA, h', hm'⟩
  exact ⟨tr', A', h', hrun, hmap, hm'⟩

end Pools

end Mutex

end Lib
