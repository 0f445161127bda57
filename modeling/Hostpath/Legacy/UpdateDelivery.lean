import Hostpath.Legacy.SyncQueues

/-!
# Every version of an object is seen

The handlers do not add a key with failures, since it is being retried.  The retry may have read the
cache already, and then the new version is seen by no sync.

`MissesNothing` is what the handlers count on, a condition on the state in which a step is taken: a
key that a handler skips is *attended*, that is, it is to be taken again, or the worker that holds it
is still to read the cache or goes on to add it, or its version is read already; and so is a key that
was given up, when its failures are forgotten.

`no_update_lost` is the property of the runs of such steps.  The invariant is `Complete`: every key
that has not been given up is *covered*.  A skipped key is covered because it was attended
(`Attended.handle`), a key whose failures are forgotten likewise, and every other step keeps the keys
covered (`Covered.next`).  Exclusion (`Exclusive`) is used, since the last finished sync of a key is
the one of the worker that still holds it (`Recorded`).
-/

namespace Hostpath.Legacy

open Lib

namespace SyncQueue

variable {V : Type} {s s' : SyncQueue V} {kind : QueueKind} {threshold i : ℕ} {e : SyncEvent V}

/-- The failures of the key have reached the threshold, so that a failed sync is not retried. -/
def Reached (threshold : ℕ) (s : SyncQueue V) (key : String) : Prop :=
  threshold ≠ 0 ∧ threshold ≤ s.numRequeues key

/-- The key is to be taken again: it is queued, marked or waiting, its event is still to be handled,
or the handler or a worker goes on to add it. -/
def Expected (s : SyncQueue V) (key : String) : Prop :=
  s.queue.Scheduled key ∨ InformerEvent.changed key ∈ s.events
    ∨ s.handler = some (HandlerPhase.add key)
    ∨ ∃ i w, s.workers i = some w ∧ w.key = key ∧ w.Retries

/-- The current version of the key is read: by the worker that holds it, which may be still to do so,
or else by the last finished sync. -/
structure UpToDate (s : SyncQueue V) (key : String) : Prop where
  held : ∀ i w, s.workers i = some w → w.key = key →
    w.stage = WorkerStage.read ∨ w.version = s.cache key
  free : (∀ i w, s.workers i = some w → w.key ≠ key) → s.lastRead key = s.cache key

def Covered (s : SyncQueue V) (key : String) : Prop :=
  s.cache key = none ∨ s.Expected key ∨ s.UpToDate key

/-- The last finished sync of a key is the one of the worker that still holds it. -/
def Recorded (s : SyncQueue V) : Prop :=
  ∀ i w, s.workers i = some w → w.Finished → s.lastRead w.key = w.version

/-- The changed key that the handler does not add, because it finds a failure. -/
def skipped (s : SyncQueue V) : SyncEvent V → Option String
  | SyncEvent.handle =>
      match s.events with
      | InformerEvent.changed key :: _ => if s.numRequeues key = 0 then none else some key
      | _ => none
  | _ => none

/-- The key whose failures are forgotten: by the handler for deleted volumes, by a worker after a
successful sync, or by a worker of the other queue. -/
def forgotten (kind : QueueKind) (s : SyncQueue V) : SyncEvent V → Option String
  | SyncEvent.handle =>
      match kind, s.events with
      | QueueKind.volumes, InformerEvent.deleted key :: _ => some key
      | _, _ => none
  | SyncEvent.work i WorkerEvent.forget => (s.workers i).map SyncWorker.key
  | SyncEvent.other key false => some key
  | _ => none

/-- The events that are left after the step. -/
def later (s : SyncQueue V) : SyncEvent V → List InformerEvent
  | SyncEvent.handle => s.events.tail
  | _ => s.events

lemma later_subset : s.later e ⊆ s.events := by
  cases e with
  | handle => exact List.tail_subset _
  | _ => exact fun _ h => h

/-- The key need not be added now: there is no object, or the key is queued, marked or waiting, or a
worker that holds it is still to read the cache or goes on to add it, or its version is read. -/
def Attended (s : SyncQueue V) (key : String) : Prop :=
  s.cache key = none ∨ s.queue.Scheduled key
    ∨ (∃ i w, s.workers i = some w ∧ w.key = key ∧ (w.stage = WorkerStage.read ∨ w.Retries))
    ∨ s.UpToDate key

/-- What the handlers count on.  A key that is skipped is attended, or a later event of it is still to
be handled; and so is a key that was given up, where its failures are forgotten. -/
structure MissesNothing (kind : QueueKind) (threshold : ℕ) (s : SyncQueue V) (e : SyncEvent V) :
    Prop where
  done : s.DoneIsFree e
  skips : ∀ key, s.skipped e = some key → ¬ s.Reached threshold key →
    s.Attended key ∨ InformerEvent.changed key ∈ s.later e
  forgets : ∀ key, s.forgotten kind e = some key → s.Reached threshold key →
    s.Attended key ∨ InformerEvent.changed key ∈ s.later e

namespace Recorded

lemma proceeds {w w' : SyncWorker V} (hrec : s.Recorded) (hx : s.Exclusive)
    (hi : s.workers i = some w) (hp : s.Proceeds i w w' s') : s'.Recorded := by
  intro j x hj hfin
  rw [hp.workers] at hj
  rcases Pool.update_eq_some.mp hj with ⟨_, hsome⟩ | ⟨hji, hj⟩
  · cases hsome
    rw [hp.key]
    rcases hp.version with ⟨_, hsync, _⟩ | ⟨hread, _, hver, ⟨_, hlast⟩ | ⟨hsync, hlast⟩⟩
    · exact absurd hsync hfin.2
    · rw [hlast, hver, Function.update_self]
    · rw [hlast, hver]
      exact hrec i w hi ⟨hread, hsync⟩
  · -- the other workers hold other keys
    have hne : x.key ≠ w.key := fun heq => hji (hx.unique j i x w hj hi heq)
    have hlast : s'.lastRead x.key = s.lastRead x.key := by
      rcases hp.version with ⟨_, _, _, hlast⟩ | ⟨_, _, _, ⟨_, hlast⟩ | ⟨_, hlast⟩⟩
      · rw [hlast]
      · rw [hlast, Function.update_of_ne hne]
      · rw [hlast]
    rw [hlast]
    exact hrec j x hj hfin

lemma next (hrec : s.Recorded) (hx : s.Exclusive) (h : s.next kind threshold e = some s') :
    s'.Recorded := by
  rcases next_worker h with ⟨hw, hlast⟩ | ⟨i, key, q, _, _, rfl⟩ | ⟨i, w, _, _, rfl⟩
    | ⟨i, w, w', hi, hp⟩
  · intro j x hj hfin
    rw [hlast]
    exact hrec j x (hw ▸ hj) hfin
  · intro j x hj hfin
    rcases Pool.update_eq_some.mp hj with ⟨_, hsome⟩ | ⟨_, hj⟩
    · cases hsome
      exact absurd rfl hfin.1
    · exact hrec j x hj hfin
  · intro j x hj hfin
    rcases Pool.update_eq_some.mp hj with ⟨_, hnone⟩ | ⟨_, hj⟩
    · cases hnone
    · exact hrec j x hj hfin
  · exact hrec.proceeds hx hi hp

end Recorded

namespace Covered

variable {key : String}

/-- A step of the others that keeps what is expected. -/
lemma keep (hcov : s.Covered key) (hw : s'.workers = s.workers) (hlast : s'.lastRead = s.lastRead)
    (hcache : s'.cache key = s.cache key) (hexp : s.Expected key → s'.Expected key) :
    s'.Covered key := by
  rcases hcov with hnone | he | ⟨hheld, hfree⟩
  · exact Or.inl (hcache.trans hnone)
  · exact Or.inr (Or.inl (hexp he))
  · refine Or.inr (Or.inr ⟨?_, ?_⟩)
    · rw [hw, hcache]
      exact hheld
    · rw [hw, hlast, hcache]
      exact hfree

lemma get {key' : String} {q : WorkQueue String} (hcov : s.Covered key) (hx : s.Exclusive)
    (hi : s.workers i = none) (hget : s.queue.get = some (key', q)) :
    Covered { s.setWorker i (some ⟨key', WorkerStage.read, none⟩) with queue := q } key := by
  have hfree := (hx.sound.get hget).2
  have hnew : ∀ j x, s.workers j = some x → x.key ≠ key' := fun j x hj heq =>
    hfree (heq ▸ hx.held j x hj)
  by_cases hkey : key = key'
  · -- the worker is the only one, and it is still to read the cache
    subst hkey
    refine Or.inr (Or.inr ⟨fun j x hj hxk => ?_, fun hnone => ?_⟩)
    · rcases Pool.update_eq_some.mp hj with ⟨_, hsome⟩ | ⟨_, hj⟩
      · cases hsome
        exact Or.inl rfl
      · exact absurd hxk (hnew j x hj)
    · exact absurd rfl (hnone i _ (Function.update_self i _ s.workers))
  · rcases hcov with hnone | he | ⟨hheld, hlast⟩
    · exact Or.inl hnone
    · refine Or.inr (Or.inl ?_)
      rcases he with hsch | hev | hadd | ⟨j, x, hj, hxk, hretry⟩
      · exact Or.inl ((WorkQueue.scheduled_get hget hkey).mpr hsch)
      · exact Or.inr (Or.inl hev)
      · exact Or.inr (Or.inr (Or.inl hadd))
      · have hji : j ≠ i := fun heq => by simp [heq, hi] at hj
        exact Or.inr (Or.inr (Or.inr ⟨j, x, (Function.update_of_ne hji _ _).trans hj, hxk, hretry⟩))
    · refine Or.inr (Or.inr ⟨fun j x hj hxk => ?_, fun hnone => hlast fun j x hj => ?_⟩)
      · rcases Pool.update_eq_some.mp hj with ⟨_, hsome⟩ | ⟨_, hj⟩
        · cases hsome
          exact absurd hxk.symm hkey
        · exact hheld j x hj hxk
      · have hji : j ≠ i := fun heq => by simp [heq, hi] at hj
        exact hnone j x ((Function.update_of_ne hji _ _).trans hj)

lemma done {w : SyncWorker V} (hcov : s.Covered key) (hrec : s.Recorded)
    (hi : s.workers i = some w) (hw : w.stage = WorkerStage.done) :
    Covered { s.setWorker i none with queue := s.queue.done w.key } key := by
  rcases hcov with hnone | he | ⟨hheld, hlast⟩
  · exact Or.inl hnone
  · refine Or.inr (Or.inl ?_)
    rcases he with hsch | hev | hadd | ⟨j, x, hj, hxk, hretry⟩
    · exact Or.inl (WorkQueue.scheduled_done.mpr hsch)
    · exact Or.inr (Or.inl hev)
    · exact Or.inr (Or.inr (Or.inl hadd))
    · have hji : j ≠ i := by
        rintro rfl
        obtain rfl := Option.some.inj (hj.symm.trans hi)
        simp [SyncWorker.Retries, hw] at hretry
      exact Or.inr (Or.inr (Or.inr ⟨j, x, (Function.update_of_ne hji _ _).trans hj, hxk, hretry⟩))
  · refine Or.inr (Or.inr ⟨fun j x hj hxk => ?_, fun hnone => ?_⟩)
    · rcases Pool.update_eq_some.mp hj with ⟨_, hsome⟩ | ⟨_, hj⟩
      · cases hsome
      · exact hheld j x hj hxk
    · by_cases hkey : w.key = key
      · -- the sync of this worker was the last one
        have hver : w.version = s.cache key := by simpa [hw] using hheld i w hi hkey
        have hread : s.lastRead w.key = w.version := hrec i w hi (by simp [SyncWorker.Finished, hw])
        exact hkey ▸ hread.trans (hkey ▸ hver)
      · refine hlast fun j x hj hxk => ?_
        have hji : j ≠ i := by
          rintro rfl
          obtain rfl := Option.some.inj (hj.symm.trans hi)
          exact hkey hxk
        exact hnone j x ((Function.update_of_ne hji _ _).trans hj) hxk

lemma proceeds {w w' : SyncWorker V} (hcov : s.Covered key) (hi : s.workers i = some w)
    (hp : s.Proceeds i w w' s') : s'.Covered key := by
  have hself : s'.workers i = some w' := by rw [hp.workers, Function.update_self]
  have hother : ∀ j x, j ≠ i → s.workers j = some x → s'.workers j = some x := by
    intro j x hji hj
    rw [hp.workers, Function.update_of_ne hji, hj]
  rcases hcov with hnone | he | ⟨hheld, hlast⟩
  · exact Or.inl (hp.cache ▸ hnone)
  · refine Or.inr (Or.inl ?_)
    rcases he with hsch | hev | hadd | ⟨j, x, hj, hxk, hretry⟩
    · exact Or.inl (hp.scheduled hsch)
    · exact Or.inr (Or.inl (hp.events ▸ hev))
    · exact Or.inr (Or.inr (Or.inl (hp.handler.trans hadd)))
    · by_cases hji : j = i
      · subst hji
        obtain rfl := Option.some.inj (hj.symm.trans hi)
        rcases hp.again hretry with hagain | hsch
        · exact Or.inr (Or.inr (Or.inr ⟨j, w', hself, hp.key.trans hxk, hagain⟩))
        · exact Or.inl (hxk ▸ hsch)
      · exact Or.inr (Or.inr (Or.inr ⟨j, x, hother j x hji hj, hxk, hretry⟩))
  · refine Or.inr (Or.inr ⟨fun j x hj hxk => ?_, fun hnone => ?_⟩)
    · rw [hp.cache]
      rw [hp.workers] at hj
      rcases Pool.update_eq_some.mp hj with ⟨_, hsome⟩ | ⟨_, hj⟩
      · cases hsome
        have hkey : w.key = key := hp.key.symm.trans hxk
        rcases hp.version with ⟨_, _, hver, _⟩ | ⟨hread, _, hver, _⟩
        · exact Or.inr (hkey ▸ hver)
        · exact Or.inr (hver.trans ((hheld i w hi hkey).resolve_left hread))
      · exact hheld j x hj hxk
    · -- the key is not the one of the worker
      have hne : key ≠ w.key := fun heq => hnone i w' hself (hp.key.trans heq.symm)
      have hread : s.lastRead key = s.cache key := by
        refine hlast fun j x hj hxk => ?_
        by_cases hji : j = i
        · subst hji
          obtain rfl := Option.some.inj (hj.symm.trans hi)
          exact hne hxk.symm
        · exact hnone j x (hother j x hji hj) hxk
      rw [hp.cache, ← hread]
      rcases hp.version with ⟨_, _, _, heq⟩ | ⟨_, _, _, ⟨_, heq⟩ | ⟨_, heq⟩⟩
      · rw [heq]
      · rw [heq, Function.update_of_ne hne]
      · rw [heq]

/-- An event that is not skipped has its key added. -/
lemma handle (hcov : s.Covered key) (hskip : s.skipped SyncEvent.handle ≠ some key)
    (h : s.next kind threshold SyncEvent.handle = some s') : s'.Covered key := by
  obtain ⟨hhandler, event, rest, requeues, phase, hevents, rfl, hadd⟩ := next_handle h
  refine hcov.keep rfl rfl rfl ?_
  rintro (hsch | hev | hphase | hretry)
  · exact Or.inl hsch
  · rcases List.mem_cons.mp (hevents ▸ hev) with rfl | hrest
    · -- the event is the one of the key, and it is not skipped
      have hz : s.numRequeues key = 0 := by
        by_contra hn
        exact hskip (by simp [skipped, hevents, hn])
      exact Or.inr (Or.inr (Or.inl (hadd key rfl hz)))
    · exact Or.inr (Or.inl hrest)
  · simp [hhandler] at hphase
  · exact Or.inr (Or.inr (Or.inr hretry))

/-- Only a skipped event can leave a key uncovered. -/
lemma next (hcov : s.Covered key) (hx : s.Exclusive) (hrec : s.Recorded)
    (hskip : s.skipped e ≠ some key) (h : s.next kind threshold e = some s') : s'.Covered key := by
  cases e with
  | change key' version =>
      cases h
      by_cases hkey : key = key'
      · subst hkey
        exact Or.inr (Or.inl (Or.inr (Or.inl (by simp))))
      · refine hcov.keep rfl rfl (Function.update_of_ne hkey _ _) ?_
        exact Or.imp_right (Or.imp_left fun hev => List.mem_append_left _ hev)
  | remove key' =>
      cases h
      by_cases hkey : key = key'
      · subst hkey
        exact Or.inl (Function.update_self _ _ _)
      · refine hcov.keep rfl rfl (Function.update_of_ne hkey _ _) ?_
        exact Or.imp_right (Or.imp_left fun hev => List.mem_append_left _ hev)
  | resync key' =>
      simp only [SyncQueue.next] at h
      split_ifs at h
      cases h
      refine hcov.keep rfl rfl rfl ?_
      exact Or.imp_right (Or.imp_left fun hev => List.mem_append_left _ hev)
  | handle => exact hcov.handle hskip h
  | handlerAdd =>
      obtain ⟨key', hphase, rfl⟩ := next_handlerAdd h
      refine hcov.keep rfl rfl rfl ?_
      rintro (hsch | hev | hadd | hretry)
      · exact Or.inl (WorkQueue.scheduled_add.mpr (Or.inr hsch))
      · exact Or.inr (Or.inl hev)
      · cases hphase.symm.trans hadd
        exact Or.inl (WorkQueue.scheduled_add.mpr (Or.inl rfl))
      · exact Or.inr (Or.inr (Or.inr hretry))
  | handlerDone =>
      obtain ⟨key', hphase, rfl⟩ := next_handlerDone h
      refine hcov.keep rfl rfl rfl ?_
      rintro (hsch | hev | hadd | hretry)
      · exact Or.inl (WorkQueue.scheduled_done.mpr hsch)
      · exact Or.inr (Or.inl hev)
      · cases hphase.symm.trans hadd
      · exact Or.inr (Or.inr (Or.inr hretry))
  | get i =>
      obtain ⟨key', q, hi, hget, rfl⟩ := next_get h
      exact hcov.get hx hi hget
  | work i we =>
      obtain ⟨w, hi, ⟨hw, rfl⟩ | ⟨w', hp⟩⟩ := next_work h
      · exact hcov.done hrec hi hw
      · exact hcov.proceeds hi hp
  | receive due =>
      obtain ⟨q, hq, rfl⟩ := Option.map_eq_some_iff.mp h
      refine hcov.keep rfl rfl rfl ?_
      exact Or.imp_left (WorkQueue.scheduled_receive hq).mpr
  | expire key' =>
      obtain ⟨q, hq, rfl⟩ := Option.map_eq_some_iff.mp h
      refine hcov.keep rfl rfl rfl ?_
      exact Or.imp_left (WorkQueue.scheduled_expire hq).mpr
  | other key' failed =>
      cases h
      exact hcov.keep rfl rfl rfl fun he => he

end Covered

namespace Attended

variable {key : String}

lemma covered (h : s.Attended key) (hx : s.Exclusive) : s.Covered key := by
  rcases h with hnone | hsch | ⟨i, w, hi, hkey, hread | hretry⟩ | hup
  · exact Or.inl hnone
  · exact Or.inr (Or.inl (Or.inl hsch))
  · -- no other worker holds the key
    refine Or.inr (Or.inr ⟨fun j x hj hxk => Or.inl ?_, fun hfree => absurd hkey (hfree i w hi)⟩)
    obtain rfl := hx.unique j i x w hj hi (hxk.trans hkey.symm)
    obtain rfl := Option.some.inj (hj.symm.trans hi)
    exact hread
  · exact Or.inr (Or.inl (Or.inr (Or.inr (Or.inr ⟨i, w, hi, hkey, hretry⟩))))
  · exact Or.inr (Or.inr hup)

/-- A step of the handler leaves the cache, the queue and the workers, so it leaves an attended key. -/
lemma handle (h : s.Attended key ∨ InformerEvent.changed key ∈ s.later SyncEvent.handle)
    (hx : s.Exclusive) (hs : s.next kind threshold SyncEvent.handle = some s') : s'.Covered key := by
  obtain ⟨_, event, rest, requeues, phase, hevents, rfl, _⟩ := next_handle hs
  rcases h with h | hlater
  · have hkept : Attended { s with events := rest, numRequeues := requeues, handler := phase } key :=
      h.imp_right (Or.imp_right (Or.imp_right fun hup => ⟨hup.held, hup.free⟩))
    exact hkept.covered ⟨hx.sound, hx.held, hx.unique⟩
  · exact Or.inr (Or.inl (Or.inr (Or.inl (by simpa [later, hevents] using hlater))))

end Attended

/-! ## Failures that are forgotten -/

section Forgotten

variable {key : String}

lemma numRequeues_setRequeues_le {n : ℕ} {key' : String} (h : key = key' → s.numRequeues key ≤ n) :
    s.numRequeues key ≤ (s.setRequeues key' n).numRequeues key := by
  by_cases hkey : key = key'
  · subst hkey
    simpa [setRequeues] using h rfl
  · simp [setRequeues, Function.update_of_ne hkey]

lemma numRequeues_le_handle {event : InformerEvent} {rest : List InformerEvent}
    (hevents : s.events = event :: rest) (hkeeps : s.forgotten kind SyncEvent.handle ≠ some key) :
    s.numRequeues key ≤ ({ s with events := rest }.handle kind event).numRequeues key := by
  cases event with
  | changed key' =>
      simp only [handle]
      split_ifs <;> exact le_rfl
  | deleted key' =>
      cases kind with
      | claims => exact le_rfl
      | volumes =>
          refine numRequeues_setRequeues_le (s := { s with events := rest }) fun heq => ?_
          exact absurd (by simp [forgotten, hevents, heq]) hkeeps

lemma numRequeues_le_work {w : SyncWorker V} {we : WorkerEvent} (hi : s.workers i = some w)
    (h : s.work threshold i w we = some s')
    (hkeeps : s.forgotten kind (SyncEvent.work i we) ≠ some key) :
    s.numRequeues key ≤ s'.numRequeues key := by
  cases we with
  | addRateLimited =>
      simp only [work] at h
      split_ifs at h
      cases h
      exact numRequeues_setRequeues_le fun heq => heq ▸ Nat.le_succ _
  | forget =>
      simp only [work] at h
      split_ifs at h
      cases h
      exact numRequeues_setRequeues_le fun heq => absurd (by simp [forgotten, hi, heq]) hkeeps
  | _ =>
      simp only [work] at h
      split_ifs at h <;> cases h <;> exact le_rfl

/-- Failures are only forgotten by a step that says so. -/
lemma numRequeues_le (h : s.next kind threshold e = some s')
    (hkeeps : s.forgotten kind e ≠ some key) : s.numRequeues key ≤ s'.numRequeues key := by
  cases e with
  | handle =>
      simp only [SyncQueue.next] at h
      split at h <;> cases h
      rename_i event rest _ hevents
      exact numRequeues_le_handle hevents hkeeps
  | work i we =>
      simp only [SyncQueue.next] at h
      split at h
      · rename_i w hi
        exact numRequeues_le_work hi h hkeeps
      · cases h
  | other key' failed =>
      cases h
      refine numRequeues_setRequeues_le fun heq => ?_
      cases failed with
      | true => exact heq ▸ Nat.le_succ _
      | false => exact absurd (by simp [forgotten, heq]) hkeeps
  | get i =>
      obtain ⟨_, _, _, _, rfl⟩ := next_get h
      exact le_rfl
  | handlerAdd =>
      obtain ⟨_, _, rfl⟩ := next_handlerAdd h
      exact le_rfl
  | handlerDone =>
      obtain ⟨_, _, rfl⟩ := next_handlerDone h
      exact le_rfl
  | resync key' =>
      simp only [SyncQueue.next] at h
      split_ifs at h
      cases h
      exact le_rfl
  | change key' version => cases h; exact le_rfl
  | remove key' => cases h; exact le_rfl
  | receive due =>
      obtain ⟨q, _, rfl⟩ := Option.map_eq_some_iff.mp h
      exact le_rfl
  | expire key' =>
      obtain ⟨q, _, rfl⟩ := Option.map_eq_some_iff.mp h
      exact le_rfl

variable (kind) in
/-- Only events of changed objects are skipped, and they forget nothing. -/
lemma forgotten_of_skipped (h : s.skipped e = some key) :
    e = SyncEvent.handle ∧ s.forgotten kind e = none := by
  cases e with
  | handle =>
      refine ⟨rfl, ?_⟩
      simp only [skipped] at h
      split at h
      · rename_i key' rest hevents
        cases kind <;> simp [forgotten, hevents]
      · cases h
  | _ => cases h

end Forgotten

/-- Every key that has not reached the threshold is covered. -/
structure Complete (threshold : ℕ) (s : SyncQueue V) : Prop where
  exclusive : s.Exclusive
  recorded : s.Recorded
  covered : ∀ key, ¬ s.Reached threshold key → s.Covered key

lemma Complete.next (hc : s.Complete threshold) (h : s.next kind threshold e = some s')
    (hmiss : s.MissesNothing kind threshold e) : s'.Complete threshold := by
  refine ⟨hc.exclusive.next hmiss.done h, hc.recorded.next hc.exclusive h, fun key hreach => ?_⟩
  by_cases hwas : s.Reached threshold key
  · -- the key was given up, so its failures are forgotten
    have hforgot : s.forgotten kind e = some key := by
      by_contra hkeeps
      exact hreach ⟨hwas.1, hwas.2.trans (numRequeues_le h hkeeps)⟩
    have hskip : s.skipped e ≠ some key := fun hskip => by
      cases (forgotten_of_skipped kind hskip).2.symm.trans hforgot
    have hcov : s.Covered key := by
      rcases hmiss.forgets key hforgot hwas with hatt | hlater
      · exact hatt.covered hc.exclusive
      · exact Or.inr (Or.inl (Or.inr (Or.inl (later_subset hlater))))
    exact hcov.next hc.exclusive hc.recorded hskip h
  · by_cases hskip : s.skipped e = some key
    · obtain ⟨rfl, _⟩ := forgotten_of_skipped kind hskip
      exact Attended.handle (hmiss.skips key hskip hwas) hc.exclusive h
    · exact (hc.covered key hwas).next hc.exclusive hc.recorded hskip h

namespace Sample

/-- The sync of a claim fails.  The retry reads the claim, and then the claim is changed. -/
def changedDuringRetry : List (SyncEvent ℕ) :=
  [SyncEvent.change "claim" 1, SyncEvent.handle, SyncEvent.handlerAdd,
    SyncEvent.get 0, SyncEvent.work 0 WorkerEvent.read,
    SyncEvent.work 0 (WorkerEvent.finish true), SyncEvent.work 0 WorkerEvent.decide,
    SyncEvent.work 0 WorkerEvent.addRateLimited, SyncEvent.work 0 (WorkerEvent.addAfter 1),
    SyncEvent.work 0 WorkerEvent.done, SyncEvent.receive true,
    SyncEvent.get 0, SyncEvent.work 0 WorkerEvent.read,
    SyncEvent.change "claim" 2, SyncEvent.handle,
    SyncEvent.work 0 (WorkerEvent.finish false), SyncEvent.work 0 WorkerEvent.forget,
    SyncEvent.work 0 WorkerEvent.done]

/-- The sync of a claim fails, and the claim is changed before the retry. -/
def changedBeforeRetry : List (SyncEvent ℕ) :=
  [SyncEvent.change "claim" 1, SyncEvent.handle, SyncEvent.handlerAdd,
    SyncEvent.get 0, SyncEvent.work 0 WorkerEvent.read,
    SyncEvent.work 0 (WorkerEvent.finish true), SyncEvent.work 0 WorkerEvent.decide,
    SyncEvent.work 0 WorkerEvent.addRateLimited, SyncEvent.work 0 (WorkerEvent.addAfter 1),
    SyncEvent.work 0 WorkerEvent.done, SyncEvent.receive true,
    SyncEvent.change "claim" 2, SyncEvent.handle]

end Sample

/-- A way to meet the condition: a key with failures is still to be taken, and no key that was given up
is taken up again. -/
def RetryWaits (kind : QueueKind) (threshold : ℕ) (s : SyncQueue V) (e : SyncEvent V) : Prop :=
  s.DoneIsFree e ∧ (∀ key ∈ s.skipped e, s.queue.Scheduled key)
    ∧ ∀ key ∈ s.forgotten kind e, ¬ s.Reached threshold key

instance (kind : QueueKind) (threshold : ℕ) (s : SyncQueue V) (e : SyncEvent V) :
    Decidable (s.RetryWaits kind threshold e) :=
  inferInstanceAs (Decidable (s.DoneIsFree e ∧ (∀ key ∈ s.skipped e, _) ∧ ∀ key ∈ s.forgotten kind e,
    ¬ (threshold ≠ 0 ∧ threshold ≤ s.numRequeues key)))

lemma MissesNothing.of_retryWaits (h : s.RetryWaits kind threshold e) :
    s.MissesNothing kind threshold e where
  done := h.1
  skips key hskip _ := Or.inl (Or.inr (Or.inl (h.2.1 key hskip)))
  forgets key hforgot hreach := absurd hreach (h.2.2 key hforgot)

end SyncQueue

end Hostpath.Legacy
