import Hostpath.Lib.Interleave
import Hostpath.Lib.WorkQueue

/-!
# The work queues of the controller

Claims and volumes are synced by workers that take keys from a work queue.  The informer changes its
cache and then tells the event handlers, which put keys into the queue; a worker reads the cache, and
after a failed sync it adds the key again, after a delay and only a limited number of times.

`SyncQueue.next` is one step of the informer, of an event handler, of a worker or of the queue's
waiting loop, so that a run is any interleaving of any number of workers with any events.  The two
queues differ in what happens when an object is deleted, and they share a rate limiter, so the counts
of one can be changed by the other.  What a sync does is not modelled: it reads the cache, and it
succeeds or fails.

`one_worker_per_key` is exclusion.  The handler for deleted volumes calls `Done` for a key that it
did not get, and exclusion holds in the runs in which it does so only for keys that are idle.
-/

namespace Hostpath.Legacy

open Lib

/-- The queue of the claims or the queue of the volumes. -/
inductive QueueKind where
  | claims
  | volumes
  deriving DecidableEq

/-- What the informer tells the event handlers: an object was added, updated or listed again, or it
was deleted. -/
inductive InformerEvent where
  | changed (key : String)
  | deleted (key : String)
  deriving DecidableEq

/-- What the event handler does next. -/
inductive HandlerPhase where
  | add (key : String)
  | done (key : String)
  deriving DecidableEq

/-- What a worker that has taken a key does next. -/
inductive WorkerStage where
  | read
  | sync
  | decide
  | addRateLimited
  | addAfter
  | forget
  | done
  deriving DecidableEq

/-- A worker that has taken a key, with the version that it has read. -/
structure SyncWorker (V : Type) where
  key : String
  stage : WorkerStage
  version : Option V

/-- The worker goes on to add the key again. -/
def SyncWorker.Retries {V : Type} (w : SyncWorker V) : Prop :=
  w.stage = WorkerStage.addRateLimited ∨ w.stage = WorkerStage.addAfter

/-- The worker has finished the sync. -/
def SyncWorker.Finished {V : Type} (w : SyncWorker V) : Prop :=
  w.stage ≠ WorkerStage.read ∧ w.stage ≠ WorkerStage.sync

structure SyncQueue (V : Type) where
  queue : WorkQueue String
  numRequeues : String → ℕ
  cache : String → Option V
  events : List InformerEvent
  handler : Option HandlerPhase
  workers : ℕ → Option (SyncWorker V)
  lastRead : String → Option V

/-- A step of a worker that has taken a key. -/
inductive WorkerEvent where
  | read
  | finish (failed : Bool)
  | decide
  | addRateLimited
  | addAfter (delay : ℕ)
  | forget
  | done

/-- A step of the informer, of the event handler, of the worker number `i`, of the waiting loop, or
of the other queue with the shared rate limiter. -/
inductive SyncEvent (V : Type) where
  | change (key : String) (version : V)
  | remove (key : String)
  | resync (key : String)
  | handle
  | handlerAdd
  | handlerDone
  | get (i : ℕ)
  | work (i : ℕ) (e : WorkerEvent)
  | receive (due : Bool)
  | expire (key : String)
  | other (key : String) (failed : Bool)

namespace SyncQueue

variable {V : Type}

def empty : SyncQueue V :=
  ⟨WorkQueue.empty, fun _ => 0, fun _ => none, [], none, fun _ => none, fun _ => none⟩

def setWorker (s : SyncQueue V) (i : ℕ) (w : Option (SyncWorker V)) : SyncQueue V :=
  { s with workers := Function.update s.workers i w }

def setRequeues (s : SyncQueue V) (key : String) (n : ℕ) : SyncQueue V :=
  { s with numRequeues := Function.update s.numRequeues key n }

/-- `enqueueClaim`, `enqueueVolume` and `forgetVolume`, up to their last call, which is a step of its
own. -/
def handle (kind : QueueKind) (s : SyncQueue V) : InformerEvent → SyncQueue V
  | InformerEvent.changed key =>
      if s.numRequeues key = 0 then { s with handler := some (HandlerPhase.add key) } else s
  | InformerEvent.deleted key =>
      match kind with
      | QueueKind.claims => s
      | QueueKind.volumes => { s.setRequeues key 0 with handler := some (HandlerPhase.done key) }

/-- `processNextClaimWorkItem` and `processNextVolumeWorkItem` once the key is taken.  With a
threshold of zero a failed sync is always retried.  `AddRateLimited` first counts the failure and
then adds the key after the delay. -/
def work (threshold : ℕ) (s : SyncQueue V) (i : ℕ) (w : SyncWorker V) :
    WorkerEvent → Option (SyncQueue V)
  | WorkerEvent.read =>
      if w.stage = WorkerStage.read then
        some (s.setWorker i (some ⟨w.key, WorkerStage.sync, s.cache w.key⟩))
      else none
  | WorkerEvent.finish failed =>
      if w.stage = WorkerStage.sync then
        some { s.setWorker i (some { w with
            stage := if failed then WorkerStage.decide else WorkerStage.forget }) with
          lastRead := Function.update s.lastRead w.key w.version }
      else none
  | WorkerEvent.decide =>
      if w.stage = WorkerStage.decide then
        some (s.setWorker i (some { w with
          stage := if threshold = 0 ∨ s.numRequeues w.key < threshold then
            WorkerStage.addRateLimited else WorkerStage.done }))
      else none
  | WorkerEvent.addRateLimited =>
      if w.stage = WorkerStage.addRateLimited then
        some ((s.setRequeues w.key (s.numRequeues w.key + 1)).setWorker i
          (some { w with stage := WorkerStage.addAfter }))
      else none
  | WorkerEvent.addAfter delay =>
      if w.stage = WorkerStage.addAfter then
        some { s.setWorker i (some { w with stage := WorkerStage.done }) with
          queue := s.queue.addAfter w.key delay }
      else none
  | WorkerEvent.forget =>
      if w.stage = WorkerStage.forget then
        some ((s.setRequeues w.key 0).setWorker i (some { w with stage := WorkerStage.done }))
      else none
  | WorkerEvent.done =>
      if w.stage = WorkerStage.done then
        some { s.setWorker i none with queue := s.queue.done w.key }
      else none

def next (kind : QueueKind) (threshold : ℕ) (s : SyncQueue V) :
    SyncEvent V → Option (SyncQueue V)
  | SyncEvent.change key version =>
      some { s with
        cache := Function.update s.cache key (some version)
        events := s.events ++ [InformerEvent.changed key] }
  | SyncEvent.remove key =>
      some { s with
        cache := Function.update s.cache key none
        events := s.events ++ [InformerEvent.deleted key] }
  | SyncEvent.resync key =>
      if (s.cache key).isSome then
        some { s with events := s.events ++ [InformerEvent.changed key] }
      else none
  | SyncEvent.handle =>
      match s.handler, s.events with
      | none, event :: rest => some ({ s with events := rest }.handle kind event)
      | _, _ => none
  | SyncEvent.handlerAdd =>
      match s.handler with
      | some (HandlerPhase.add key) => some { s with handler := none, queue := s.queue.add key }
      | _ => none
  | SyncEvent.handlerDone =>
      match s.handler with
      | some (HandlerPhase.done key) => some { s with handler := none, queue := s.queue.done key }
      | _ => none
  | SyncEvent.get i =>
      match s.workers i, s.queue.get with
      | none, some (key, queue) =>
          some { s.setWorker i (some ⟨key, WorkerStage.read, none⟩) with queue := queue }
      | _, _ => none
  | SyncEvent.work i e =>
      match s.workers i with
      | some w => s.work threshold i w e
      | none => none
  | SyncEvent.receive due => (s.queue.receive due).map fun q => { s with queue := q }
  | SyncEvent.expire key => (s.queue.expire key).map fun q => { s with queue := q }
  | SyncEvent.other key failed =>
      some (s.setRequeues key (if failed then s.numRequeues key + 1 else 0))

/-! ## What a step does -/

variable {s s' : SyncQueue V} {kind : QueueKind} {threshold i : ℕ} {e : SyncEvent V}

/-- A step with which a worker keeps its key.  It reads the cache, or it has read it; and it ends the
sync, or it is outside of it. -/
structure Proceeds (s : SyncQueue V) (i : ℕ) (w w' : SyncWorker V) (s' : SyncQueue V) : Prop where
  workers : s'.workers = Function.update s.workers i (some w')
  key : w'.key = w.key
  cache : s'.cache = s.cache
  events : s'.events = s.events
  handler : s'.handler = s.handler
  queue : s'.queue = s.queue ∨ ∃ delay, s'.queue = s.queue.addAfter w.key delay
  again : w.Retries → w'.Retries ∨ s'.queue.Scheduled w.key
  version : w.stage = WorkerStage.read ∧ w'.stage = WorkerStage.sync
      ∧ w'.version = s.cache w.key ∧ s'.lastRead = s.lastRead
    ∨ w.stage ≠ WorkerStage.read ∧ w'.Finished ∧ w'.version = w.version
      ∧ (w.stage = WorkerStage.sync ∧ s'.lastRead = Function.update s.lastRead w.key w.version
        ∨ w.stage ≠ WorkerStage.sync ∧ s'.lastRead = s.lastRead)

lemma work_cases {w : SyncWorker V} {we : WorkerEvent} (h : s.work threshold i w we = some s') :
    w.stage = WorkerStage.done ∧ s' = { s.setWorker i none with queue := s.queue.done w.key }
      ∨ ∃ w', s.Proceeds i w w' s' := by
  cases we with
  | read =>
      simp only [work] at h
      split_ifs at h with hw
      cases h
      refine Or.inr ⟨_, rfl, rfl, rfl, rfl, rfl, Or.inl rfl, ?_, Or.inl ⟨hw, rfl, rfl, rfl⟩⟩
      simp [SyncWorker.Retries, hw]
  | finish failed =>
      simp only [work] at h
      split_ifs at h with hw hf <;>
      · cases h
        refine Or.inr ⟨_, rfl, rfl, rfl, rfl, rfl, Or.inl rfl, ?_, Or.inr ?_⟩ <;>
        simp [SyncWorker.Retries, SyncWorker.Finished, hw]
  | decide =>
      simp only [work] at h
      split_ifs at h with hw ht <;>
      · cases h
        refine Or.inr ⟨_, rfl, rfl, rfl, rfl, rfl, Or.inl rfl, ?_, Or.inr ?_⟩ <;>
        simp [SyncWorker.Retries, SyncWorker.Finished, hw, setWorker]
  | addRateLimited =>
      simp only [work] at h
      split_ifs at h with hw
      cases h
      refine Or.inr ⟨_, rfl, rfl, rfl, rfl, rfl, Or.inl rfl, ?_, Or.inr ?_⟩ <;>
      simp [SyncWorker.Retries, SyncWorker.Finished, hw, setWorker, setRequeues]
  | addAfter delay =>
      simp only [work] at h
      split_ifs at h with hw
      cases h
      refine Or.inr ⟨_, rfl, rfl, rfl, rfl, rfl, Or.inr ⟨delay, rfl⟩, ?_, Or.inr ?_⟩ <;>
      simp [SyncWorker.Retries, SyncWorker.Finished, hw, setWorker]
  | forget =>
      simp only [work] at h
      split_ifs at h with hw
      cases h
      refine Or.inr ⟨_, rfl, rfl, rfl, rfl, rfl, Or.inl rfl, ?_, Or.inr ?_⟩ <;>
      simp [SyncWorker.Retries, SyncWorker.Finished, hw, setWorker, setRequeues]
  | done =>
      simp only [work] at h
      split_ifs at h with hw
      cases h
      exact Or.inl ⟨hw, rfl⟩

/-- What the handler does with an event: it adds the key of a changed object that has no failures. -/
lemma next_handle (h : s.next kind threshold SyncEvent.handle = some s') :
    s.handler = none ∧ ∃ event rest requeues phase, s.events = event :: rest
      ∧ s' = { s with events := rest, numRequeues := requeues, handler := phase }
      ∧ ∀ key, event = InformerEvent.changed key → s.numRequeues key = 0 →
        phase = some (HandlerPhase.add key) := by
  simp only [next] at h
  split at h
  · rename_i event rest hhandler hevents
    cases h
    refine ⟨hhandler, event, rest, ?_⟩
    cases event with
    | changed key =>
        by_cases hn : s.numRequeues key = 0
        · exact ⟨s.numRequeues, some (HandlerPhase.add key), hevents, by simp [handle, hn],
            fun _ heq _ => by cases heq; rfl⟩
        · refine ⟨s.numRequeues, s.handler, hevents, by simp [handle, hn], fun _ heq hz => ?_⟩
          cases heq
          exact absurd hz hn
    | deleted key => cases kind <;> exact ⟨_, _, hevents, rfl, nofun⟩
  · cases h

lemma next_handlerAdd (h : s.next kind threshold SyncEvent.handlerAdd = some s') :
    ∃ key, s.handler = some (HandlerPhase.add key)
      ∧ s' = { s with handler := none, queue := s.queue.add key } := by
  simp only [next] at h
  split at h <;> cases h
  rename_i key hkey
  exact ⟨key, hkey, rfl⟩

lemma next_handlerDone (h : s.next kind threshold SyncEvent.handlerDone = some s') :
    ∃ key, s.handler = some (HandlerPhase.done key)
      ∧ s' = { s with handler := none, queue := s.queue.done key } := by
  simp only [next] at h
  split at h <;> cases h
  rename_i key hkey
  exact ⟨key, hkey, rfl⟩

lemma next_get (h : s.next kind threshold (SyncEvent.get i) = some s') :
    ∃ key q, s.workers i = none ∧ s.queue.get = some (key, q)
      ∧ s' = { s.setWorker i (some ⟨key, WorkerStage.read, none⟩) with queue := q } := by
  simp only [next] at h
  split at h <;> cases h
  rename_i key q hi hget
  exact ⟨key, q, hi, hget, rfl⟩

lemma next_work {we : WorkerEvent} (h : s.next kind threshold (SyncEvent.work i we) = some s') :
    ∃ w, s.workers i = some w
      ∧ (w.stage = WorkerStage.done
          ∧ s' = { s.setWorker i none with queue := s.queue.done w.key }
        ∨ ∃ w', s.Proceeds i w w' s') := by
  simp only [next] at h
  split at h
  · rename_i w hi
    exact ⟨w, hi, work_cases h⟩
  · cases h

/-- The workers and what they have read: one takes a key, gives one back, or keeps the one that it
has, and the steps of the others leave them. -/
lemma next_worker (h : s.next kind threshold e = some s') :
    (s'.workers = s.workers ∧ s'.lastRead = s.lastRead)
      ∨ (∃ i key q, s.workers i = none ∧ s.queue.get = some (key, q)
        ∧ s' = { s.setWorker i (some ⟨key, WorkerStage.read, none⟩) with queue := q })
      ∨ (∃ i w, s.workers i = some w ∧ w.stage = WorkerStage.done
        ∧ s' = { s.setWorker i none with queue := s.queue.done w.key })
      ∨ ∃ i w w', s.workers i = some w ∧ s.Proceeds i w w' s' := by
  cases e with
  | change key version => cases h; exact Or.inl ⟨rfl, rfl⟩
  | remove key => cases h; exact Or.inl ⟨rfl, rfl⟩
  | resync key =>
      simp only [next] at h
      split_ifs at h
      cases h
      exact Or.inl ⟨rfl, rfl⟩
  | handle =>
      obtain ⟨_, event, rest, requeues, phase, _, rfl, _⟩ := next_handle h
      exact Or.inl ⟨rfl, rfl⟩
  | handlerAdd =>
      obtain ⟨_, _, rfl⟩ := next_handlerAdd h
      exact Or.inl ⟨rfl, rfl⟩
  | handlerDone =>
      obtain ⟨_, _, rfl⟩ := next_handlerDone h
      exact Or.inl ⟨rfl, rfl⟩
  | get i => exact Or.inr (Or.inl ⟨i, next_get h⟩)
  | work i we =>
      obtain ⟨w, hi, ⟨hw, rfl⟩ | ⟨w', hp⟩⟩ := next_work h
      · exact Or.inr (Or.inr (Or.inl ⟨i, w, hi, hw, rfl⟩))
      · exact Or.inr (Or.inr (Or.inr ⟨i, w, w', hi, hp⟩))
  | receive due =>
      obtain ⟨q, _, rfl⟩ := Option.map_eq_some_iff.mp h
      exact Or.inl ⟨rfl, rfl⟩
  | expire key =>
      obtain ⟨q, _, rfl⟩ := Option.map_eq_some_iff.mp h
      exact Or.inl ⟨rfl, rfl⟩
  | other key failed => cases h; exact Or.inl ⟨rfl, rfl⟩

namespace Proceeds

variable {w w' : SyncWorker V}

/-- The workers hold what they held. -/
lemma holds (hp : s.Proceeds i w w' s') (hi : s.workers i = some w) {j : ℕ} {x : SyncWorker V}
    (hj : s'.workers j = some x) : ∃ y, s.workers j = some y ∧ y.key = x.key := by
  rw [hp.workers] at hj
  rcases Pool.update_eq_some.mp hj with ⟨rfl, hx⟩ | ⟨_, hj⟩
  · cases hx
    exact ⟨w, hi, hp.key.symm⟩
  · exact ⟨x, hj, rfl⟩

lemma scheduled (hp : s.Proceeds i w w' s') {key : String} (hk : s.queue.Scheduled key) :
    s'.queue.Scheduled key := by
  rcases hp.queue with hq | ⟨delay, hq⟩
  · rwa [hq]
  · rw [hq]
    exact WorkQueue.scheduled_addAfter.mpr (Or.inr hk)

end Proceeds

/-! ## Exclusion -/

/-- No two workers hold one key, and no key is queued twice. -/
structure Exclusive (s : SyncQueue V) : Prop where
  sound : s.queue.Sound
  held : ∀ i w, s.workers i = some w → w.key ∈ s.queue.processing
  unique : ∀ i j w w', s.workers i = some w → s.workers j = some w' → w.key = w'.key → i = j

/-- The handler for deleted volumes calls `Done` only for a key that is neither held nor marked. -/
def DoneIsFree (s : SyncQueue V) (e : SyncEvent V) : Prop :=
  ∀ key, e = SyncEvent.handlerDone → s.handler = some (HandlerPhase.done key) →
    key ∉ s.queue.processing ∧ key ∉ s.queue.dirty

instance (s : SyncQueue V) (e : SyncEvent V) : Decidable (s.DoneIsFree e) :=
  match e, h : s.handler with
  | SyncEvent.handlerDone, some (HandlerPhase.done key) =>
      decidable_of_iff (key ∉ s.queue.processing ∧ key ∉ s.queue.dirty)
        (by simp [DoneIsFree, h])
  | SyncEvent.handlerDone, some (HandlerPhase.add key) => isTrue (by simp [DoneIsFree, h])
  | SyncEvent.handlerDone, none => isTrue (by simp [DoneIsFree, h])
  | SyncEvent.change _ _, _ | SyncEvent.remove _, _ | SyncEvent.resync _, _
  | SyncEvent.handle, _ | SyncEvent.handlerAdd, _ | SyncEvent.get _, _ | SyncEvent.work _ _, _
  | SyncEvent.receive _, _ | SyncEvent.expire _, _ | SyncEvent.other _ _, _ => isTrue nofun

lemma exclusive_empty : (empty : SyncQueue V).Exclusive where
  sound := WorkQueue.Sound.empty
  held := nofun
  unique := nofun

namespace Exclusive

/-- A step that hands out nothing and takes nothing back. -/
lemma keep (hx : s.Exclusive) (hsound : s'.queue.Sound)
    (hproc : s'.queue.processing = s.queue.processing)
    (hw : ∀ j w', s'.workers j = some w' → ∃ w, s.workers j = some w ∧ w.key = w'.key) :
    s'.Exclusive := by
  refine ⟨hsound, fun j w' hj => ?_, fun j k v' w' hj hk heq => ?_⟩
  · obtain ⟨w, hj, hkey⟩ := hw j w' hj
    rw [hproc, ← hkey]
    exact hx.held j w hj
  · obtain ⟨v, hj, hv⟩ := hw j v' hj
    obtain ⟨w, hk, hkey⟩ := hw k w' hk
    exact hx.unique j k v w hj hk (hv.trans (heq.trans hkey.symm))

/-- A step of the others, which leaves the workers as they are. -/
lemma keep_workers (hx : s.Exclusive) (hsound : s'.queue.Sound)
    (hproc : s'.queue.processing = s.queue.processing) (hw : s'.workers = s.workers) :
    s'.Exclusive :=
  hx.keep hsound hproc fun _ w' hj => ⟨w', hw ▸ hj, rfl⟩

lemma proceeds {w w' : SyncWorker V} (hx : s.Exclusive) (hi : s.workers i = some w)
    (hp : s.Proceeds i w w' s') : s'.Exclusive := by
  refine hx.keep ?_ ?_ fun j x hj => hp.holds hi hj
  · rcases hp.queue with hq | ⟨delay, hq⟩
    · rw [hq]
      exact hx.sound
    · rw [hq]
      exact hx.sound.addAfter _ _
  · rcases hp.queue with hq | ⟨delay, hq⟩
    · rw [hq]
    · rw [hq, WorkQueue.processing_addAfter]

/-- A worker that is done gives its key back. -/
lemma done {w : SyncWorker V} (hx : s.Exclusive) (hi : s.workers i = some w) :
    Exclusive { s.setWorker i none with queue := s.queue.done w.key } := by
  have hothers : ∀ j x, Function.update s.workers i none j = some x →
      j ≠ i ∧ s.workers j = some x := by
    intro j x hj
    rcases Pool.update_eq_some.mp hj with ⟨_, hnone⟩ | hother
    · cases hnone
    · exact hother
  refine ⟨hx.sound.done (Or.inl (hx.held i w hi)), fun j x hj => ?_, fun j k x y hj hk heq => ?_⟩
  · obtain ⟨hji, hj⟩ := hothers j x hj
    show x.key ∈ (s.queue.done w.key).processing
    rw [WorkQueue.processing_done, Finset.mem_erase]
    exact ⟨fun heq => hji (hx.unique j i x w hj hi heq), hx.held j x hj⟩
  · exact hx.unique j k x y (hothers j x hj).2 (hothers k y hk).2 heq

/-- A worker that takes a key is the only one to hold it. -/
lemma get {key : String} {q : WorkQueue String} (hx : s.Exclusive)
    (hget : s.queue.get = some (key, q)) :
    Exclusive { s.setWorker i (some ⟨key, WorkerStage.read, none⟩) with queue := q } := by
  obtain ⟨hsound, hfree⟩ := hx.sound.get hget
  obtain ⟨rest, _, rfl⟩ := WorkQueue.get_eq_some.mp hget
  have hnew : ∀ j x, s.workers j = some x → x.key ≠ key := fun j x hj heq =>
    hfree (heq ▸ hx.held j x hj)
  refine ⟨hsound, fun j x hj => ?_, fun j k x y hj hk heq => ?_⟩
  · rcases Pool.update_eq_some.mp hj with ⟨_, hsome⟩ | ⟨_, hj⟩
    · cases hsome
      exact Finset.mem_insert_self _ _
    · exact Finset.mem_insert_of_mem (hx.held j x hj)
  · rcases Pool.update_eq_some.mp hj with ⟨rfl, hsome⟩ | ⟨_, held⟩
    · cases hsome
      rcases Pool.update_eq_some.mp hk with ⟨rfl, _⟩ | ⟨_, hk⟩
      · rfl
      · exact absurd heq.symm (hnew k y hk)
    · rcases Pool.update_eq_some.mp hk with ⟨rfl, hsome⟩ | ⟨_, hk⟩
      · cases hsome
        exact absurd heq (hnew j x held)
      · exact hx.unique j k x y held hk heq

lemma next (hx : s.Exclusive) (hfree : s.DoneIsFree e) (h : s.next kind threshold e = some s') :
    s'.Exclusive := by
  cases e with
  | change key version =>
      cases h
      exact hx.keep_workers hx.sound rfl rfl
  | remove key =>
      cases h
      exact hx.keep_workers hx.sound rfl rfl
  | resync key =>
      simp only [SyncQueue.next] at h
      split_ifs at h
      cases h
      exact hx.keep_workers hx.sound rfl rfl
  | handle =>
      obtain ⟨_, event, rest, requeues, phase, _, rfl, _⟩ := next_handle h
      exact hx.keep_workers hx.sound rfl rfl
  | handlerAdd =>
      obtain ⟨key, _, rfl⟩ := next_handlerAdd h
      exact hx.keep_workers (hx.sound.add _) WorkQueue.processing_add rfl
  | handlerDone =>
      obtain ⟨key, hkey, rfl⟩ := next_handlerDone h
      obtain ⟨hproc, hdirty⟩ := hfree key rfl hkey
      refine hx.keep_workers (hx.sound.done (Or.inr hdirty)) ?_ rfl
      show (s.queue.done key).processing = s.queue.processing
      rw [WorkQueue.processing_done, Finset.erase_eq_of_notMem hproc]
  | get i =>
      obtain ⟨key, q, _, hget, rfl⟩ := next_get h
      exact hx.get hget
  | work i we =>
      obtain ⟨w, hi, ⟨_, rfl⟩ | ⟨w', hp⟩⟩ := next_work h
      · exact hx.done hi
      · exact hx.proceeds hi hp
  | receive due =>
      obtain ⟨q, hq, rfl⟩ := Option.map_eq_some_iff.mp h
      exact hx.keep_workers (hx.sound.receive hq) (WorkQueue.processing_receive hq) rfl
  | expire key =>
      obtain ⟨q, hq, rfl⟩ := Option.map_eq_some_iff.mp h
      exact hx.keep_workers (hx.sound.expire hq) (WorkQueue.processing_expire hq) rfl
  | other key failed =>
      cases h
      exact hx.keep_workers hx.sound rfl rfl

end Exclusive

/-- **At most one worker handles a key at a time**, in every run in which the handler for deleted
volumes calls `Done` only for keys that are idle; and no key is queued twice. -/
theorem one_worker_per_key {tr : List (SyncQueue V × SyncEvent V)}
    (hr : Run (fun s e s' => s.next kind threshold e = some s' ∧ s.DoneIsFree e) empty tr s) :
    (∀ i j w w', s.workers i = some w → s.workers j = some w' → w.key = w'.key → i = j)
      ∧ s.queue.queue.Nodup := by
  have hx : s.Exclusive := hr.preserves exclusive_empty fun _ _ _ hx hs => hx.next hs.2 hs.1
  exact ⟨hx.unique, hx.sound.nodup⟩

namespace Sample

/-- A volume is changed and taken by a worker.  It is changed again, which marks the key, and then it
is deleted. -/
def deletedDuringSync : List (SyncEvent ℕ) :=
  [SyncEvent.change "pv" 1, SyncEvent.handle, SyncEvent.handlerAdd, SyncEvent.get 0,
    SyncEvent.change "pv" 2, SyncEvent.handle, SyncEvent.handlerAdd,
    SyncEvent.remove "pv", SyncEvent.handle, SyncEvent.handlerDone, SyncEvent.get 1]

/-- A volume is changed and deleted before a worker takes its key. -/
def deletedInQueue : List (SyncEvent ℕ) :=
  [SyncEvent.change "pv" 1, SyncEvent.handle, SyncEvent.handlerAdd,
    SyncEvent.remove "pv", SyncEvent.handle, SyncEvent.handlerDone]

/-- Two workers sync two volumes, and a third volume, which is idle, is deleted. -/
def deletedIdle : List (SyncEvent ℕ) :=
  [SyncEvent.change "pv" 1, SyncEvent.handle, SyncEvent.handlerAdd, SyncEvent.get 0,
    SyncEvent.change "pv2" 1, SyncEvent.handle, SyncEvent.handlerAdd, SyncEvent.get 1,
    SyncEvent.remove "pv3", SyncEvent.handle, SyncEvent.handlerDone]

end Sample

/-- **`Done` for a key that another worker holds lets a second worker take it**, and `Done` for a key
in the queue queues it twice. -/
theorem two_workers_one_key :
    (∃ tr s, Run (fun s e s' => s.next QueueKind.volumes 15 e = some s') (empty : SyncQueue ℕ) tr s
      ∧ (s.workers 0).map SyncWorker.key = some "pv"
      ∧ (s.workers 1).map SyncWorker.key = some "pv")
    ∧ ∃ tr s, Run (fun s e s' => s.next QueueKind.volumes 15 e = some s') (empty : SyncQueue ℕ) tr s
      ∧ s.queue.queue = ["pv", "pv"] := by
  have hheld : (Sample.deletedDuringSync.foldlM (next QueueKind.volumes 15) empty).map
      (fun s => ((s.workers 0).map SyncWorker.key, (s.workers 1).map SyncWorker.key))
      = some (some "pv", some "pv") := by decide +kernel
  have hqueued : (Sample.deletedInQueue.foldlM (next QueueKind.volumes 15) empty).map
      (fun s => s.queue.queue) = some ["pv", "pv"] := by decide +kernel
  obtain ⟨s, hs, hworkers⟩ := Option.map_eq_some_iff.mp hheld
  obtain ⟨t, ht, hqueue⟩ := Option.map_eq_some_iff.mp hqueued
  obtain ⟨tr, hr⟩ := Run.of_foldlM hs fun _ _ _ h => h
  obtain ⟨tr', hr'⟩ := Run.of_foldlM ht fun _ _ _ h => h
  exact ⟨⟨tr, s, hr, (Prod.mk.inj hworkers).1, (Prod.mk.inj hworkers).2⟩, tr', t, hr', hqueue⟩

theorem sample_one_worker_per_key :
    ∃ tr s, Run (fun s e s' => s.next QueueKind.volumes 15 e = some s' ∧ s.DoneIsFree e)
        (empty : SyncQueue ℕ) tr s
      ∧ (s.workers 0).isSome ∧ (s.workers 1).isSome
      ∧ (∀ i j w w', s.workers i = some w → s.workers j = some w' → w.key = w'.key → i = j)
      ∧ s.queue.queue.Nodup := by
  have hrun : (Sample.deletedIdle.foldlM
      (fun (s : SyncQueue ℕ) e =>
        if s.DoneIsFree e then s.next QueueKind.volumes 15 e else none) empty).map
      (fun s => ((s.workers 0).isSome, (s.workers 1).isSome)) = some (true, true) := by
    decide +kernel
  obtain ⟨s, hs, hheld⟩ := Option.map_eq_some_iff.mp hrun
  obtain ⟨tr, hr⟩ := Run.of_foldlM hs fun _ _ _ h => by
    split_ifs at h with hfree
    exact And.intro h hfree
  exact ⟨tr, s, hr, (Prod.mk.inj hheld).1, (Prod.mk.inj hheld).2, one_worker_per_key hr⟩

end SyncQueue

end Hostpath.Legacy
