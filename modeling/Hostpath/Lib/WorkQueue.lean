import Mathlib.Data.Finset.Basic

/-!
# A work queue with delayed additions

A queue of items that several workers take from.  An item that is added while it is being
processed is only marked and queued again when the worker is done with it, so that no two workers
process one item, and an item that waits is not queued twice.  An item can also be added after a
delay: it then goes through a channel and waits until its time has come.  Time is not part of the
state; whoever uses the queue says when an item that waits is due.

* `Sound` — the queue holds an item once, and only items that are marked and not being processed.
  Every operation keeps it, `done` under the condition that the item is being processed or not
  marked (`Sound.done`).
* `Scheduled` — the item is marked or waits, so it will be handed out.  Only `get` ends this.
-/

namespace Lib

structure WorkQueue (α : Type) where
  queue : List α
  dirty : Finset α
  processing : Finset α
  waitingForAddCh : List α
  waitingForQueue : Finset α

namespace WorkQueue

variable {α : Type} [DecidableEq α]

def empty : WorkQueue α := ⟨[], ∅, ∅, [], ∅⟩

def add (q : WorkQueue α) (item : α) : WorkQueue α :=
  if item ∈ q.dirty then q
  else if item ∈ q.processing then { q with dirty := insert item q.dirty }
  else { q with dirty := insert item q.dirty, queue := q.queue ++ [item] }

def get (q : WorkQueue α) : Option (α × WorkQueue α) :=
  match q.queue with
  | [] => none
  | item :: rest => some (item,
      { q with
        queue := rest
        processing := insert item q.processing
        dirty := q.dirty.erase item })

def done (q : WorkQueue α) (item : α) : WorkQueue α :=
  if item ∈ q.dirty then
    { q with processing := q.processing.erase item, queue := q.queue ++ [item] }
  else { q with processing := q.processing.erase item }

def addAfter (q : WorkQueue α) (item : α) (delay : ℕ) : WorkQueue α :=
  if delay = 0 then q.add item else { q with waitingForAddCh := q.waitingForAddCh ++ [item] }

/-- The waiting loop takes the next item from the channel.  If the item is due it is added at once,
otherwise it waits; an item waits only once. -/
def receive (q : WorkQueue α) (due : Bool) : Option (WorkQueue α) :=
  match q.waitingForAddCh with
  | [] => none
  | item :: rest =>
      if due then some ({ q with waitingForAddCh := rest }.add item)
      else some { q with waitingForAddCh := rest, waitingForQueue := insert item q.waitingForQueue }

/-- The waiting loop adds an item whose time has come. -/
def expire (q : WorkQueue α) (item : α) : Option (WorkQueue α) :=
  if item ∈ q.waitingForQueue then
    some ({ q with waitingForQueue := q.waitingForQueue.erase item }.add item)
  else none

variable {q q' : WorkQueue α} {x y : α}

/-! ## Exclusion -/

structure Sound (q : WorkQueue α) : Prop where
  nodup : q.queue.Nodup
  marked : ∀ x ∈ q.queue, x ∈ q.dirty
  free : ∀ x ∈ q.queue, x ∉ q.processing

@[simp] lemma processing_add : (q.add x).processing = q.processing := by
  unfold add
  split_ifs <;> rfl

@[simp] lemma processing_addAfter {delay : ℕ} : (q.addAfter x delay).processing = q.processing := by
  unfold addAfter
  split_ifs <;> simp

lemma processing_done : (q.done x).processing = q.processing.erase x := by
  unfold done
  split_ifs <;> rfl

lemma get_eq_some : q.get = some (x, q') ↔ ∃ rest, q.queue = x :: rest
    ∧ q' = { q with
      queue := rest, processing := insert x q.processing, dirty := q.dirty.erase x } := by
  unfold get
  split
  · rename_i hq
    simp [hq]
  · rename_i item rest hq
    rw [hq]
    constructor
    · intro h
      obtain ⟨rfl, rfl⟩ := Prod.mk.inj (Option.some.inj h)
      exact ⟨rest, rfl, rfl⟩
    · rintro ⟨rest', hcons, rfl⟩
      obtain ⟨rfl, rfl⟩ := List.cons_eq_cons.mp hcons
      rfl

lemma receive_eq_some {due : Bool} (h : q.receive due = some q') :
    ∃ item rest, q.waitingForAddCh = item :: rest
      ∧ q' = if due then { q with waitingForAddCh := rest }.add item
        else { q with
          waitingForAddCh := rest, waitingForQueue := insert item q.waitingForQueue } := by
  unfold receive at h
  split at h
  · cases h
  · rename_i item rest hq
    refine ⟨item, rest, hq, ?_⟩
    split_ifs at h ⊢ <;> exact (Option.some.inj h).symm

lemma expire_eq_some (h : q.expire x = some q') :
    x ∈ q.waitingForQueue ∧ q' = { q with waitingForQueue := q.waitingForQueue.erase x }.add x := by
  unfold expire at h
  split_ifs at h with hx
  exact ⟨hx, (Option.some.inj h).symm⟩

lemma processing_receive {due : Bool} (h : q.receive due = some q') :
    q'.processing = q.processing := by
  obtain ⟨item, rest, _, rfl⟩ := receive_eq_some h
  split_ifs <;> simp

lemma processing_expire (h : q.expire x = some q') : q'.processing = q.processing := by
  obtain ⟨_, rfl⟩ := expire_eq_some h
  simp

namespace Sound

omit [DecidableEq α] in
lemma empty : (WorkQueue.empty : WorkQueue α).Sound :=
  ⟨List.nodup_nil, by simp [WorkQueue.empty], by simp [WorkQueue.empty]⟩

omit [DecidableEq α] in
/-- What waits does not matter. -/
lemma congr (hs : q.Sound) (hq : q'.queue = q.queue) (hd : q'.dirty = q.dirty)
    (hp : q'.processing = q.processing) : q'.Sound := by
  obtain ⟨h₁, h₂, h₃⟩ := hs
  exact ⟨by rwa [hq], by rwa [hq, hd], by rwa [hq, hp]⟩

lemma add (hs : q.Sound) (x : α) : (q.add x).Sound := by
  unfold WorkQueue.add
  split_ifs with hd hp
  · exact hs
  · exact ⟨hs.nodup, fun y hy => Finset.mem_insert_of_mem (hs.marked y hy), hs.free⟩
  · refine ⟨?_, fun y hy => ?_, fun y hy => ?_⟩
    · have hout : x ∉ q.queue := fun hin => hd (hs.marked x hin)
      exact hs.nodup.append (List.nodup_singleton x) (List.disjoint_singleton.mpr hout)
    · rcases List.mem_append.mp hy with hy | hy
      · exact Finset.mem_insert_of_mem (hs.marked y hy)
      · rw [List.mem_singleton.mp hy]
        exact Finset.mem_insert_self x _
    · rcases List.mem_append.mp hy with hy | hy
      · exact hs.free y hy
      · exact List.mem_singleton.mp hy ▸ hp

/-- What is taken was not being processed. -/
lemma get (hs : q.Sound) (h : q.get = some (x, q')) : q'.Sound ∧ x ∉ q.processing := by
  obtain ⟨rest, hq, rfl⟩ := get_eq_some.mp h
  obtain ⟨hx, hrest⟩ := List.nodup_cons.mp (hq ▸ hs.nodup)
  have hin : ∀ y ∈ rest, y ∈ q.queue := fun y hy => hq ▸ List.mem_cons_of_mem x hy
  refine ⟨⟨hrest, fun y hy => ?_, fun y hy => ?_⟩, hs.free x (hq ▸ List.mem_cons_self)⟩
  · refine Finset.mem_erase.mpr ⟨?_, hs.marked y (hin y hy)⟩
    rintro rfl
    exact hx hy
  · refine fun hmem => (Finset.mem_insert.mp hmem).elim ?_ (hs.free y (hin y hy))
    rintro rfl
    exact hx hy

lemma done (hs : q.Sound) (hx : x ∈ q.processing ∨ x ∉ q.dirty) : (q.done x).Sound := by
  have hfree : ∀ y ∈ q.queue, y ∉ q.processing.erase x := fun y hy hmem =>
    hs.free y hy (Finset.mem_of_mem_erase hmem)
  unfold WorkQueue.done
  split_ifs with hd
  · have hout : x ∉ q.queue := fun hin => hs.free x hin (hx.resolve_right (not_not.mpr hd))
    refine ⟨?_, fun y hy => ?_, fun y hy => ?_⟩
    · exact hs.nodup.append (List.nodup_singleton x) (List.disjoint_singleton.mpr hout)
    · rcases List.mem_append.mp hy with hy | hy
      · exact hs.marked y hy
      · exact List.mem_singleton.mp hy ▸ hd
    · rcases List.mem_append.mp hy with hy | hy
      · exact hfree y hy
      · rw [List.mem_singleton.mp hy]
        exact Finset.notMem_erase x _
  · exact ⟨hs.nodup, hs.marked, hfree⟩

lemma addAfter (hs : q.Sound) (x : α) (delay : ℕ) : (q.addAfter x delay).Sound := by
  unfold WorkQueue.addAfter
  split_ifs
  · exact hs.add x
  · exact hs.congr rfl rfl rfl

lemma receive {due : Bool} (hs : q.Sound) (h : q.receive due = some q') : q'.Sound := by
  obtain ⟨item, rest, _, rfl⟩ := receive_eq_some h
  have hrest : Sound { q with waitingForAddCh := rest } := hs.congr rfl rfl rfl
  split_ifs
  · exact hrest.add item
  · exact hrest.congr rfl rfl rfl

lemma expire (hs : q.Sound) (h : q.expire x = some q') : q'.Sound := by
  obtain ⟨_, rfl⟩ := expire_eq_some h
  have hrest : Sound { q with waitingForQueue := q.waitingForQueue.erase x } :=
    hs.congr rfl rfl rfl
  exact hrest.add x

end Sound

/-! ## What will be handed out -/

/-- The item will be handed out: it is marked, or it waits. -/
def Scheduled (q : WorkQueue α) (x : α) : Prop :=
  x ∈ q.dirty ∨ x ∈ q.waitingForAddCh ∨ x ∈ q.waitingForQueue

instance (q : WorkQueue α) (x : α) : Decidable (q.Scheduled x) :=
  inferInstanceAs (Decidable (_ ∨ _ ∨ _))

omit [DecidableEq α] in
lemma scheduled_congr (hd : q'.dirty = q.dirty) (hc : q'.waitingForAddCh = q.waitingForAddCh)
    (hw : q'.waitingForQueue = q.waitingForQueue) : q'.Scheduled x ↔ q.Scheduled x := by
  unfold Scheduled
  rw [hd, hc, hw]

@[simp] lemma scheduled_add : (q.add y).Scheduled x ↔ x = y ∨ q.Scheduled x := by
  have hnew : Scheduled { q with dirty := insert y q.dirty } x ↔ x = y ∨ q.Scheduled x := by
    unfold Scheduled
    rw [Finset.mem_insert, or_assoc]
  unfold add
  split_ifs with hd
  · constructor
    · exact Or.inr
    · rintro (rfl | hx)
      exacts [Or.inl hd, hx]
  · exact hnew
  · exact (scheduled_congr rfl rfl rfl).trans hnew

@[simp] lemma scheduled_addAfter {delay : ℕ} :
    (q.addAfter y delay).Scheduled x ↔ x = y ∨ q.Scheduled x := by
  unfold addAfter
  split_ifs
  · exact scheduled_add
  · unfold Scheduled
    rw [List.mem_append, List.mem_singleton]
    tauto

@[simp] lemma scheduled_done : (q.done y).Scheduled x ↔ q.Scheduled x := by
  unfold done
  split_ifs <;> rfl

/-- Taking one item leaves the others. -/
lemma scheduled_get (h : q.get = some (y, q')) (hne : x ≠ y) :
    q'.Scheduled x ↔ q.Scheduled x := by
  obtain ⟨rest, _, rfl⟩ := get_eq_some.mp h
  unfold Scheduled
  rw [Finset.mem_erase, and_iff_right hne]

/-- From the channel an item goes to where it is still scheduled. -/
lemma scheduled_receive {due : Bool} (h : q.receive due = some q') :
    q'.Scheduled x ↔ q.Scheduled x := by
  obtain ⟨item, rest, hq, rfl⟩ := receive_eq_some h
  have hiff : q.Scheduled x ↔ x = item ∨ Scheduled { q with waitingForAddCh := rest } x := by
    unfold Scheduled
    rw [hq, List.mem_cons]
    tauto
  split_ifs
  · rw [hiff, scheduled_add]
  · rw [hiff]
    unfold Scheduled
    rw [Finset.mem_insert]
    tauto

lemma scheduled_expire (h : q.expire y = some q') : q'.Scheduled x ↔ q.Scheduled x := by
  obtain ⟨hy, rfl⟩ := expire_eq_some h
  have hiff : q.Scheduled x
      ↔ x = y ∨ Scheduled { q with waitingForQueue := q.waitingForQueue.erase y } x := by
    unfold Scheduled
    by_cases heq : x = y
    · subst heq
      simp [hy]
    · simp [heq]
  rw [hiff, scheduled_add]

end WorkQueue

end Lib
