import Hostpath.Lib.Run
import Hostpath.Lib.WorkQueue
import Hostpath.Legacy.StoreTruth

/-!
# Storing volumes in the background

The other volume store keeps the volumes that it could not store and has workers store them.  The
volumes are in a map, their names in a work queue, and callers and workers change the two in
separate steps: a worker that has stored a volume removes its name from the map, which may by then
be the entry of another caller.

`QueueStore.next` is one step of a caller, of a worker or of the queue's waiting loop, so that a run
is any interleaving of any number of them.  The calls to the API server end as the run says.

* `Inv` — what every step keeps.  Per name: until some call reports the volume as stored, it is in
  the map, and its name is scheduled or a worker is about to store it.
* `no_volume_lost` — what this means for a call of `StoreVolume` that has returned.
-/

namespace Hostpath.Legacy

open Lib

/-- How a call that creates an object ends. -/
inductive CreateOutcome where
  | stored
  | alreadyExists
  | failed
  deriving DecidableEq, Repr

/-- Whether `doSaveVolume` takes the outcome for a success. -/
def CreateOutcome.saved : CreateOutcome → Bool
  | stored => true
  | alreadyExists => true
  | failed => false

lemma CreateOutcome.saved_iff {outcome : CreateOutcome} :
    outcome.saved = true ↔ outcome = stored ∨ outcome = alreadyExists := by
  cases outcome <;> simp [saved]

/-- What a call of `StoreVolume` does next. -/
inductive CallerPhase where
  | save (volume : PersistentVolume)
  | store (volume : PersistentVolume)
  | add (volume : PersistentVolume)

/-- What a worker that has taken a name does next. -/
inductive WorkerPhase where
  | load (name : String)
  | save (name : String) (volume : PersistentVolume)
  | addRateLimited (name : String)
  | delete (name : String)
  | forget (name : String)
  | done (name : String)

namespace WorkerPhase

/-- The name that the worker holds. -/
def name : WorkerPhase → String
  | load n => n
  | save n _ => n
  | addRateLimited n => n
  | delete n => n
  | forget n => n
  | done n => n

/-- The name that the worker is about to store, or to add to the queue again. -/
def pursues : WorkerPhase → Option String
  | load n => some n
  | save n _ => some n
  | addRateLimited n => some n
  | delete _ => none
  | forget _ => none
  | done _ => none

lemma name_of_pursues {ph : WorkerPhase} {n : String} (h : ph.pursues = some n) : ph.name = n := by
  cases ph <;> simp_all [pursues, name]

end WorkerPhase

structure QueueStore where
  volumes : String → Option PersistentVolume
  queue : WorkQueue String
  callers : ℕ → Option CallerPhase
  workers : ℕ → Option WorkerPhase

/-- A step of the caller or of the worker number `i`, or of the waiting loop.  Calls to the API server
end with an outcome, and the rate limiter gives any delay. -/
inductive StoreEvent where
  | storeVolume (i : ℕ) (volume : PersistentVolume)
  | callerSave (i : ℕ) (outcome : CreateOutcome)
  | callerStore (i : ℕ)
  | callerAdd (i : ℕ)
  | get (i : ℕ)
  | load (i : ℕ)
  | workerSave (i : ℕ) (outcome : CreateOutcome)
  | addRateLimited (i : ℕ) (delay : ℕ)
  | delete (i : ℕ)
  | forget (i : ℕ)
  | done (i : ℕ)
  | receive (due : Bool)
  | expire (name : String)

namespace QueueStore

def empty : QueueStore := ⟨fun _ => none, WorkQueue.empty, fun _ => none, fun _ => none⟩

def setCaller (s : QueueStore) (i : ℕ) (ph : Option CallerPhase) : QueueStore :=
  { s with callers := Function.update s.callers i ph }

def setWorker (s : QueueStore) (i : ℕ) (ph : Option WorkerPhase) : QueueStore :=
  { s with workers := Function.update s.workers i ph }

def next (s : QueueStore) : StoreEvent → Option QueueStore
  | StoreEvent.storeVolume i volume =>
      match s.callers i with
      | none => some (s.setCaller i (CallerPhase.save volume))
      | some _ => none
  | StoreEvent.callerSave i outcome =>
      match s.callers i with
      | some (CallerPhase.save volume) =>
          some (s.setCaller i (if outcome.saved then none else CallerPhase.store volume))
      | _ => none
  | StoreEvent.callerStore i =>
      match s.callers i with
      | some (CallerPhase.store volume) =>
          some { s.setCaller i (CallerPhase.add volume) with
            volumes := Function.update s.volumes volume.name (some volume) }
      | _ => none
  | StoreEvent.callerAdd i =>
      match s.callers i with
      | some (CallerPhase.add volume) =>
          some { s.setCaller i none with queue := s.queue.add volume.name }
      | _ => none
  | StoreEvent.get i =>
      match s.workers i, s.queue.get with
      | none, some (name, queue) =>
          some { s.setWorker i (WorkerPhase.load name) with queue := queue }
      | _, _ => none
  | StoreEvent.load i =>
      match s.workers i with
      | some (WorkerPhase.load name) =>
          match s.volumes name with
          | none => some (s.setWorker i (WorkerPhase.forget name))
          | some volume => some (s.setWorker i (WorkerPhase.save name volume))
      | _ => none
  | StoreEvent.workerSave i outcome =>
      match s.workers i with
      | some (WorkerPhase.save name _) =>
          some (s.setWorker i (if outcome.saved then WorkerPhase.delete name
            else WorkerPhase.addRateLimited name))
      | _ => none
  | StoreEvent.addRateLimited i delay =>
      match s.workers i with
      | some (WorkerPhase.addRateLimited name) =>
          some { s.setWorker i (WorkerPhase.done name) with queue := s.queue.addAfter name delay }
      | _ => none
  | StoreEvent.delete i =>
      match s.workers i with
      | some (WorkerPhase.delete name) =>
          some { s.setWorker i (WorkerPhase.forget name) with
            volumes := Function.update s.volumes name none }
      | _ => none
  | StoreEvent.forget i =>
      match s.workers i with
      | some (WorkerPhase.forget name) => some (s.setWorker i (WorkerPhase.done name))
      | _ => none
  | StoreEvent.done i =>
      match s.workers i with
      | some (WorkerPhase.done name) =>
          some { s.setWorker i none with queue := s.queue.done name }
      | _ => none
  | StoreEvent.receive due => (s.queue.receive due).map fun q => { s with queue := q }
  | StoreEvent.expire name => (s.queue.expire name).map fun q => { s with queue := q }

/-- The name of the volume that a call to the API server in this step reports as stored or as already
there. -/
def reports (s : QueueStore) : StoreEvent → Option String
  | StoreEvent.callerSave i outcome =>
      match s.callers i with
      | some (CallerPhase.save volume) =>
          if outcome = CreateOutcome.stored ∨ outcome = CreateOutcome.alreadyExists then
            some volume.name else none
      | _ => none
  | StoreEvent.workerSave i outcome =>
      match s.workers i with
      | some (WorkerPhase.save _ volume) =>
          if outcome = CreateOutcome.stored ∨ outcome = CreateOutcome.alreadyExists then
            some volume.name else none
      | _ => none
  | _ => none

/-- The name of the volume for which `StoreVolume` returns in this step. -/
def returns (s : QueueStore) : StoreEvent → Option String
  | StoreEvent.callerSave i outcome =>
      match s.callers i with
      | some (CallerPhase.save volume) => if outcome.saved then some volume.name else none
      | _ => none
  | StoreEvent.callerAdd i =>
      match s.callers i with
      | some (CallerPhase.add volume) => some volume.name
      | _ => none
  | _ => none

/-- Some call has reported the volume as stored or as already there. -/
def Reported (tr : List (QueueStore × StoreEvent)) (name : String) : Prop :=
  ∃ y ∈ tr, y.1.reports y.2 = some name

/-- `StoreVolume` has returned for the name. -/
def Returned (tr : List (QueueStore × StoreEvent)) (name : String) : Prop :=
  ∃ y ∈ tr, y.1.returns y.2 = some name

/-- A worker holds the name and is not done with it. -/
def Held (s : QueueStore) (name : String) : Prop :=
  ∃ i ph, s.workers i = some ph ∧ ph.name = name

/-- A worker is about to store the volume, or to add its name to the queue again. -/
def Pursued (s : QueueStore) (name : String) : Prop :=
  ∃ i ph, s.workers i = some ph ∧ ph.pursues = some name

/-! ## The invariant -/

variable {s s' : QueueStore} {tr : List (QueueStore × StoreEvent)} {e : StoreEvent} {name : String}

lemma reported_snoc :
    Reported (tr ++ [(s, e)]) name ↔ Reported tr name ∨ s.reports e = some name := by
  simp [Reported, or_and_right, exists_or]

lemma returned_snoc :
    Returned (tr ++ [(s, e)]) name ↔ Returned tr name ∨ s.returns e = some name := by
  simp [Returned, or_and_right, exists_or]

/-- The volume is stored, or it is not lost. -/
def Safe (tr : List (QueueStore × StoreEvent)) (s : QueueStore) (name : String) : Prop :=
  Reported tr name ∨ (s.volumes name).isSome ∧ (s.queue.Scheduled name ∨ s.Pursued name)

structure Inv (tr : List (QueueStore × StoreEvent)) (s : QueueStore) : Prop where
  named : ∀ n v, s.volumes n = some v → v.name = n
  loaded : ∀ i n v, s.workers i = some (WorkerPhase.save n v) → v.name = n
  adding : ∀ i v, s.callers i = some (CallerPhase.add v) →
    Reported tr v.name ∨ (s.volumes v.name).isSome
  saved : ∀ i n, s.workers i = some (WorkerPhase.delete n) → Reported tr n
  safe : ∀ n, Returned tr n → Safe tr s n

lemma inv_empty : Inv [] empty where
  named := fun _ _ => nofun
  loaded := fun _ _ _ => nofun
  adding := fun _ _ => nofun
  saved := fun _ _ => nofun
  safe := by simp [Returned]

/-- A worker that goes on leaves what the others pursue, and its own if it still pursues it. -/
lemma Pursued.setWorker {i : ℕ} {new : Option WorkerPhase} (h : s.Pursued name)
    (hi : ∀ old, s.workers i = some old → old.pursues = some name →
      ∃ ph, new = some ph ∧ ph.pursues = some name) : (s.setWorker i new).Pursued name := by
  obtain ⟨j, ph, hj, hph⟩ := h
  by_cases hij : j = i
  · subst hij
    obtain ⟨ph', rfl, hph'⟩ := hi ph hj hph
    exact ⟨j, ph', by simp [QueueStore.setWorker], hph'⟩
  · exact ⟨j, ph, by simpa [QueueStore.setWorker, hij] using hj, hph⟩

/-- A name stays safe if it stays in the map, stays scheduled, and is not dropped by a worker. -/
lemma Safe.mono {tr' : List (QueueStore × StoreEvent)} (h : Safe tr s name)
    (hrep : Reported tr name → Reported tr' name)
    (hvol : (s.volumes name).isSome → (s'.volumes name).isSome)
    (hsched : s.queue.Scheduled name → s'.queue.Scheduled name)
    (hpur : s.Pursued name → s'.queue.Scheduled name ∨ s'.Pursued name) : Safe tr' s' name := by
  rcases h with hr | ⟨hv, hs | hp⟩
  · exact Or.inl (hrep hr)
  · exact Or.inr ⟨hvol hv, Or.inl (hsched hs)⟩
  · exact Or.inr ⟨hvol hv, hpur hp⟩

/-- A step of a caller or of the waiting loop: the workers are where they were, and the map and the
queue only grow. -/
lemma Inv.caller_step (hinv : Inv tr s) (hw : s'.workers = s.workers)
    (hvol : ∀ n, s'.volumes n = s.volumes n ∨ ∃ v, s'.volumes n = some v ∧ v.name = n)
    (hsched : ∀ n, s.queue.Scheduled n → s'.queue.Scheduled n)
    (hadd : ∀ i v, s'.callers i = some (CallerPhase.add v) →
      s.callers i = some (CallerPhase.add v) ∨ (s'.volumes v.name).isSome)
    (hret : ∀ n, s.returns e = some n → Safe (tr ++ [(s, e)]) s' n) :
    Inv (tr ++ [(s, e)]) s' := by
  have hrep : ∀ n, Reported tr n → Reported (tr ++ [(s, e)]) n := fun n h =>
    reported_snoc.mpr (Or.inl h)
  have hgrow : ∀ n, (s.volumes n).isSome → (s'.volumes n).isSome := by
    intro n hn
    rcases hvol n with h | ⟨v, h, -⟩
    · rwa [h]
    · rw [h]
      rfl
  refine ⟨fun n v hv => ?_, fun i n v h => hinv.loaded i n v (hw ▸ h), fun i v h => ?_,
    fun i n h => hrep n (hinv.saved i n (hw ▸ h)), fun n hn => ?_⟩
  · rcases hvol n with h | ⟨v', h, hname⟩
    · exact hinv.named n v (h ▸ hv)
    · cases h.symm.trans hv
      exact hname
  · rcases hadd i v h with h | h
    · exact (hinv.adding i v h).imp (hrep _) (hgrow _)
    · exact Or.inr h
  · rcases returned_snoc.mp hn with hn | hn
    · refine (hinv.safe n hn).mono (hrep n) (hgrow n) (hsched n) fun hp => Or.inr ?_
      obtain ⟨i, ph, hi, hph⟩ := hp
      exact ⟨i, ph, hw ▸ hi, hph⟩
    · exact hret n hn

/-- A step of the worker number `i`: the callers are where they were, and no entry leaves the map
before its volume is stored. -/
lemma Inv.worker_step {i : ℕ} {new : Option WorkerPhase} (hinv : Inv tr s)
    (hc : s'.callers = s.callers) (hw : s'.workers = Function.update s.workers i new)
    (hvol : ∀ n, s'.volumes n = s.volumes n ∨ Reported tr n ∧ s'.volumes n = none)
    (hloaded : ∀ n v, new = some (WorkerPhase.save n v) → v.name = n)
    (hsaved : ∀ n, new = some (WorkerPhase.delete n) → Reported (tr ++ [(s, e)]) n)
    (hret : s.returns e = none) (hsafe : ∀ n, Safe tr s n → Safe (tr ++ [(s, e)]) s' n) :
    Inv (tr ++ [(s, e)]) s' := by
  have hrep : ∀ n, Reported tr n → Reported (tr ++ [(s, e)]) n := fun n h =>
    reported_snoc.mpr (Or.inl h)
  refine ⟨fun n v hv => ?_, fun j n v h => ?_, fun j v h => ?_, fun j n h => ?_, fun n hn => ?_⟩
  · rcases hvol n with h | ⟨-, h⟩
    · exact hinv.named n v (h ▸ hv)
    · cases h.symm.trans hv
  · rw [hw] at h
    by_cases hj : j = i
    · subst hj
      exact hloaded n v (by simpa using h)
    · exact hinv.loaded j n v (by simpa [hj] using h)
  · rcases hinv.adding j v (hc ▸ h) with hr | hv
    · exact Or.inl (hrep _ hr)
    · rcases hvol v.name with h' | ⟨hr, -⟩
      · exact Or.inr (h' ▸ hv)
      · exact Or.inl (hrep _ hr)
  · rw [hw] at h
    by_cases hj : j = i
    · subst hj
      exact hsaved n (by simpa using h)
    · exact hrep n (hinv.saved j n (by simpa [hj] using h))
  · rcases returned_snoc.mp hn with hn | hn
    · exact hsafe n (hinv.safe n hn)
    · rw [hret] at hn
      cases hn

/-- What a worker's step does to a name that it keeps pursuing, or never pursued. -/
lemma Safe.setWorker {i : ℕ} {new : Option WorkerPhase} (h : Safe tr s name)
    (hi : ∀ old, s.workers i = some old → old.pursues = some name →
      ∃ ph, new = some ph ∧ ph.pursues = some name) :
    Safe (tr ++ [(s, e)]) (s.setWorker i new) name :=
  h.mono (fun hr => reported_snoc.mpr (Or.inl hr)) id id fun hp => Or.inr (hp.setWorker hi)

/-- Only the caller that took the step can be new at `add`. -/
lemma callers_add {i j : ℕ} {ph : Option CallerPhase} {v : PersistentVolume}
    (h : (s.setCaller i ph).callers j = some (CallerPhase.add v)) :
    ph = some (CallerPhase.add v) ∨ s.callers j = some (CallerPhase.add v) := by
  by_cases hji : j = i
  · subst hji
    exact Or.inl (by simpa [setCaller] using h)
  · exact Or.inr (by simpa [setCaller, hji] using h)

/-- A step after which the worker still pursues its name, or had not pursued it. -/
lemma Inv.setWorker_step {i : ℕ} {old new : WorkerPhase} (hinv : Inv tr s)
    (hi : s.workers i = some old)
    (hloaded : ∀ n v, new = WorkerPhase.save n v → v.name = n)
    (hsaved : ∀ n, new = WorkerPhase.delete n → Reported (tr ++ [(s, e)]) n)
    (hret : s.returns e = none)
    (hsafe : ∀ n, old.pursues = some n → new.pursues = some n ∨ Reported (tr ++ [(s, e)]) n
      ∨ s.volumes n = none) :
    Inv (tr ++ [(s, e)]) (s.setWorker i new) := by
  refine hinv.worker_step rfl rfl (fun n => Or.inl rfl)
    (fun n v h => hloaded n v (Option.some.inj h)) (fun n h => hsaved n (Option.some.inj h)) hret
    fun n hn => ?_
  by_cases hpur : old.pursues = some n
  · rcases hsafe n hpur with hnew | hr | hnone
    · exact hn.setWorker fun _ _ _ => ⟨new, rfl, hnew⟩
    · exact Or.inl hr
    · -- a name that is not in the map is stored, or `StoreVolume` has not returned for it
      rcases hn with hr | ⟨hv, -⟩
      · exact Or.inl (reported_snoc.mpr (Or.inl hr))
      · rw [hnone] at hv
        cases hv
  · refine hn.setWorker fun old' hold hpur' => absurd ?_ hpur
    cases hi.symm.trans hold
    exact hpur'

section Steps

variable {i : ℕ}

lemma inv_callerSave {outcome : CreateOutcome} (hinv : Inv tr s)
    (h : s.next (StoreEvent.callerSave i outcome) = some s') :
    Inv (tr ++ [(s, StoreEvent.callerSave i outcome)]) s' := by
  simp only [next] at h
  split at h <;> cases h
  refine hinv.caller_step rfl (fun n => Or.inl rfl) (fun n => id)
    (fun j v hj => Or.inl ((callers_add hj).resolve_left ?_)) fun n hn => ?_
  · split_ifs <;> nofun
  · -- it returns because the volume is stored
    refine Or.inl (reported_snoc.mpr (Or.inr ?_))
    simpa [returns, reports, CreateOutcome.saved_iff] using hn

lemma inv_callerStore (hinv : Inv tr s) (h : s.next (StoreEvent.callerStore i) = some s') :
    Inv (tr ++ [(s, StoreEvent.callerStore i)]) s' := by
  simp only [next] at h
  split at h <;> cases h
  rename_i volume hi
  refine hinv.caller_step rfl (fun n => ?_) (fun n => id) (fun j v hj => ?_) nofun
  · by_cases hn : n = volume.name
    · exact Or.inr ⟨volume, by simp [hn], hn.symm⟩
    · exact Or.inl (by simp [hn])
  · rcases callers_add hj with hv | hj
    · obtain rfl : volume = v := by simpa using hv
      exact Or.inr (by simp)
    · exact Or.inl hj

lemma inv_callerAdd (hinv : Inv tr s) (h : s.next (StoreEvent.callerAdd i) = some s') :
    Inv (tr ++ [(s, StoreEvent.callerAdd i)]) s' := by
  simp only [next] at h
  split at h <;> cases h
  rename_i volume hi
  refine hinv.caller_step rfl (fun n => Or.inl rfl)
    (fun n hn => WorkQueue.scheduled_add.mpr (Or.inr hn))
    (fun j v hj => Or.inl ((callers_add hj).resolve_left nofun)) fun n hn => ?_
  obtain rfl : volume.name = n := by simpa [returns, hi] using hn
  rcases hinv.adding i volume hi with hr | hv
  · exact Or.inl (reported_snoc.mpr (Or.inl hr))
  · exact Or.inr ⟨hv, Or.inl (WorkQueue.scheduled_add.mpr (Or.inl rfl))⟩

lemma inv_get (hinv : Inv tr s) (h : s.next (StoreEvent.get i) = some s') :
    Inv (tr ++ [(s, StoreEvent.get i)]) s' := by
  simp only [next] at h
  split at h <;> cases h
  rename_i name queue hi hget
  refine hinv.worker_step rfl rfl (fun n => Or.inl rfl) (fun _ _ => nofun) (fun _ => nofun)
    rfl fun n hn => ?_
  have hrep : Reported tr n → Reported (tr ++ [(s, StoreEvent.get i)]) n := fun hr =>
    reported_snoc.mpr (Or.inl hr)
  by_cases hname : n = name
  · subst hname
    rcases hn with hr | ⟨hv, -⟩
    · exact Or.inl (hrep hr)
    · exact Or.inr ⟨hv, Or.inr ⟨i, WorkerPhase.load n, by simp [setWorker], rfl⟩⟩
  · refine hn.mono hrep id (WorkQueue.scheduled_get hget hname).mpr fun hp => Or.inr ?_
    refine hp.setWorker fun old hold => ?_
    rw [hi] at hold
    cases hold

lemma inv_load (hinv : Inv tr s) (h : s.next (StoreEvent.load i) = some s') :
    Inv (tr ++ [(s, StoreEvent.load i)]) s' := by
  simp only [next] at h
  split at h
  swap
  · cases h
  rename_i name hi
  split at h <;> cases h
  · rename_i hnone
    refine hinv.setWorker_step hi (fun _ _ => nofun) (fun _ => nofun) rfl fun n hpur => ?_
    obtain rfl : name = n := Option.some.inj hpur
    exact Or.inr (Or.inr hnone)
  · rename_i volume hvolume
    refine hinv.setWorker_step hi (fun n v hv => ?_) (fun _ => nofun) rfl
      fun n hpur => Or.inl hpur
    obtain ⟨rfl, rfl⟩ : name = n ∧ volume = v := by simpa using hv
    exact hinv.named name volume hvolume

lemma inv_workerSave {outcome : CreateOutcome} (hinv : Inv tr s)
    (h : s.next (StoreEvent.workerSave i outcome) = some s') :
    Inv (tr ++ [(s, StoreEvent.workerSave i outcome)]) s' := by
  simp only [next] at h
  split at h <;> cases h
  rename_i name volume hi
  split_ifs with hsaved
  · have hreported : Reported (tr ++ [(s, StoreEvent.workerSave i outcome)]) name := by
      refine reported_snoc.mpr (Or.inr ?_)
      simp [reports, hi, CreateOutcome.saved_iff.mp hsaved, hinv.loaded i name volume hi]
    refine hinv.setWorker_step hi (fun _ _ => nofun) (fun n hn => ?_) rfl fun n hpur => ?_
    · obtain rfl : name = n := by simpa using hn
      exact hreported
    · obtain rfl : name = n := Option.some.inj hpur
      exact Or.inr (Or.inl hreported)
  · exact hinv.setWorker_step hi (fun _ _ => nofun) (fun _ => nofun) rfl fun n hpur => Or.inl hpur

lemma inv_addRateLimited {delay : ℕ} (hinv : Inv tr s)
    (h : s.next (StoreEvent.addRateLimited i delay) = some s') :
    Inv (tr ++ [(s, StoreEvent.addRateLimited i delay)]) s' := by
  simp only [next] at h
  split at h <;> cases h
  rename_i name hi
  refine hinv.worker_step rfl rfl (fun n => Or.inl rfl) (fun _ _ => nofun) (fun _ => nofun)
    rfl fun n hn => ?_
  refine hn.mono (fun hr => reported_snoc.mpr (Or.inl hr)) id
    (fun hs => WorkQueue.scheduled_addAfter.mpr (Or.inr hs)) fun hp => ?_
  by_cases hname : n = name
  · exact Or.inl (WorkQueue.scheduled_addAfter.mpr (Or.inl hname))
  · refine Or.inr (hp.setWorker fun old hold hpur => absurd ?_ hname)
    cases hi.symm.trans hold
    exact (Option.some.inj hpur).symm

lemma inv_delete (hinv : Inv tr s) (h : s.next (StoreEvent.delete i) = some s') :
    Inv (tr ++ [(s, StoreEvent.delete i)]) s' := by
  simp only [next] at h
  split at h <;> cases h
  rename_i name hi
  have hreported := hinv.saved i name hi
  refine hinv.worker_step rfl rfl (fun n => ?_) (fun _ _ => nofun) (fun _ => nofun) rfl
    fun n hn => ?_
  · by_cases hname : n = name
    · subst hname
      exact Or.inr ⟨hreported, by simp⟩
    · exact Or.inl (by simp [hname])
  · by_cases hname : n = name
    · subst hname
      exact Or.inl (reported_snoc.mpr (Or.inl hreported))
    · refine hn.mono (fun hr => reported_snoc.mpr (Or.inl hr)) (by simp [hname]) id
        fun hp => Or.inr ?_
      refine hp.setWorker fun old hold hpur => ?_
      cases hi.symm.trans hold
      cases hpur

lemma inv_done (hinv : Inv tr s) (h : s.next (StoreEvent.done i) = some s') :
    Inv (tr ++ [(s, StoreEvent.done i)]) s' := by
  simp only [next] at h
  split at h <;> cases h
  rename_i name hi
  refine hinv.worker_step rfl rfl (fun n => Or.inl rfl) (fun _ _ => nofun) (fun _ => nofun)
    rfl fun n hn => ?_
  refine hn.mono (fun hr => reported_snoc.mpr (Or.inl hr)) id WorkQueue.scheduled_done.mpr
    fun hp => Or.inr (hp.setWorker fun old hold hpur => ?_)
  cases hi.symm.trans hold
  cases hpur

end Steps

/-- **Every step keeps the invariant.** -/
lemma inv_next (hinv : Inv tr s) (h : s.next e = some s') : Inv (tr ++ [(s, e)]) s' := by
  cases e with
  | storeVolume i volume =>
      simp only [next] at h
      split at h <;> cases h
      exact hinv.caller_step rfl (fun n => Or.inl rfl) (fun n => id)
        (fun j v hj => Or.inl ((callers_add hj).resolve_left nofun)) nofun
  | callerSave i outcome => exact inv_callerSave hinv h
  | callerStore i => exact inv_callerStore hinv h
  | callerAdd i => exact inv_callerAdd hinv h
  | get i => exact inv_get hinv h
  | load i => exact inv_load hinv h
  | workerSave i outcome => exact inv_workerSave hinv h
  | addRateLimited i delay => exact inv_addRateLimited hinv h
  | delete i => exact inv_delete hinv h
  | forget i =>
      simp only [next] at h
      split at h <;> cases h
      rename_i name hi
      exact hinv.setWorker_step hi (fun _ _ => nofun) (fun _ => nofun) rfl fun n => nofun
  | done i => exact inv_done hinv h
  | receive due =>
      obtain ⟨q, hq, rfl⟩ := Option.map_eq_some_iff.mp h
      exact hinv.caller_step rfl (fun n => Or.inl rfl)
        (fun n => (WorkQueue.scheduled_receive hq).mpr) (fun j v hj => Or.inl hj) nofun
  | expire n =>
      obtain ⟨q, hq, rfl⟩ := Option.map_eq_some_iff.mp h
      exact hinv.caller_step rfl (fun n => Or.inl rfl)
        (fun n => (WorkQueue.scheduled_expire hq).mpr) (fun j v hj => Or.inl hj) nofun

/--
  **The background store loses no volume**: once `StoreVolume` has returned for a name, some call has
  reported the volume as stored or as already there, or the volume is in the map and its name is
  scheduled or held by a worker.
-/
theorem no_volume_lost {tr : List (QueueStore × StoreEvent)} {s : QueueStore} {name : String}
    (hr : Run (fun s e s' => s.next e = some s') empty tr s) (hret : Returned tr name) :
    Reported tr name
      ∨ (s.volumes name).isSome ∧ (s.queue.Scheduled name ∨ s.Held name) := by
  have hinv : Inv tr s := hr.invariant inv_empty fun _ _ _ _ hinv h => inv_next hinv h
  refine (hinv.safe name hret).imp_right fun ⟨hv, hkept⟩ => ⟨hv, hkept.imp_right ?_⟩
  rintro ⟨i, ph, hi, hph⟩
  exact ⟨i, ph, hi, ph.name_of_pursues hph⟩

end QueueStore

/-- The volume cannot be stored at once, and a worker takes its name and fails as well. -/
theorem sample_not_lost : ∃ tr s,
    Run (fun s e s' => QueueStore.next s e = some s') QueueStore.empty tr s
      ∧ QueueStore.Returned tr "pvc-1"
      ∧ (QueueStore.Reported tr "pvc-1" ∨ (s.volumes "pvc-1").isSome
        ∧ (s.queue.Scheduled "pvc-1" ∨ s.Held "pvc-1")) := by
  have h₁ : Run (fun s e s' => QueueStore.next s e = some s') QueueStore.empty _ _ :=
    Run.snoc Run.nil (e := StoreEvent.storeVolume 0 Sample.volume) rfl
  have h₂ := Run.snoc h₁ (e := StoreEvent.callerSave 0 CreateOutcome.failed) rfl
  have h₃ := Run.snoc h₂ (e := StoreEvent.callerStore 0) rfl
  have h₄ := Run.snoc h₃ (e := StoreEvent.callerAdd 0) rfl
  have h₅ := Run.snoc h₄ (e := StoreEvent.get 0) rfl
  have h₆ := Run.snoc h₅ (e := StoreEvent.load 0) rfl
  have h₇ := Run.snoc h₆ (e := StoreEvent.workerSave 0 CreateOutcome.failed) rfl
  refine ⟨_, _, h₇, ?_⟩
  suffices hret : QueueStore.Returned _ "pvc-1" from ⟨hret, QueueStore.no_volume_lost h₇ hret⟩
  refine ⟨(_, StoreEvent.callerAdd 0), List.mem_append_left _ (List.mem_append_left _
    (List.mem_append_left _ (List.mem_append_right _ (List.mem_singleton_self _)))), ?_⟩
  rfl

end Hostpath.Legacy
