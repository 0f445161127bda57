import Hostpath.Legacy.Objects

/-!
# The API server and the nodes

The calls that a controller makes, and what the API server and the nodes do with them.
`Cluster.step` answers one call.

The controller's own code makes the calls to the API server; what the provisioner behind it does is
a call to its `backend`.  The backend of the host path provisioner is the operating system of a
node, so that one cluster has one API server and one `Host` for each node.

A call to the API server can fail without an effect, or have its effect and be reported as failed.
As for a `Host`, the outcomes of the calls to come are part of the state.  The storage class of a
name comes from the informer's cache and may differ from call to call; it is an outcome as well.
-/

namespace Hostpath.Legacy

open Lib Prog

/-! ## Calls -/

/-- The calls of a controller.  `getStorageClass` looks into the cache of storage classes,
`getReference` stands for the part of building a reference that can fail. -/
inductive Call (B : Type) where
  | getVolume (name : String)
  | createVolume (volume : PersistentVolume)
  | updateVolume (volume : PersistentVolume)
  | deleteVolume (name : String)
  | getNode (name : String)
  | getStorageClass (name : String)
  | getReference (claim : PersistentVolumeClaim)
  | backend (b : B)
  deriving DecidableEq

@[reducible] def Answer {B : Type} (RB : B → Type) : Call B → Type
  | Call.getVolume _ => Except ApiError PersistentVolume
  | Call.createVolume _ => Except ApiError Unit
  | Call.updateVolume _ => Except ApiError Unit
  | Call.deleteVolume _ => Except ApiError Unit
  | Call.getNode _ => Except ApiError Unit
  | Call.getStorageClass _ => Except String (Option StorageClass)
  | Call.getReference _ => Except String Unit
  | Call.backend b => RB b

/-- Programs of a controller.  Go's errors are values that they return; what ends such a program
early is a panic. -/
abbrev Ctl {B : Type} (RB : B → Type) := ExceptT String (Prog (Call B) (Answer RB))

/-! ## The API server -/

/-- What happens at one call to the API server: whether it fails, and if so whether it still has its
effect; and what the cache of storage classes has. -/
structure ApiOutcome where
  fault : Option Bool
  classes : String → Except String (Option StorageClass)

/-- The stored volumes, and every version of a volume that was ever stored, as it was sent to
whoever watches. -/
structure Api where
  volumes : String → Option PersistentVolume
  watch : List PersistentVolume
  outcomes : ℕ → ApiOutcome

namespace Api

def notFound (name : String) : ApiError :=
  ⟨StatusReason.notFound, "persistentvolumes \"" ++ name ++ "\" not found"⟩

def alreadyExists (name : String) : ApiError :=
  ⟨StatusReason.alreadyExists, "persistentvolumes \"" ++ name ++ "\" already exists"⟩

def unavailable : ApiError := ⟨StatusReason.other, "the server is currently unable to handle the request"⟩

/-- A new version of a volume. -/
def put (s : Api) (volume : PersistentVolume) : Api :=
  { s with
    volumes := Function.update s.volumes volume.name (some volume)
    watch := s.watch ++ [volume] }

def remove (s : Api) (name : String) : Api :=
  { s with volumes := Function.update s.volumes name none }

def create (s : Api) (volume : PersistentVolume) : Except ApiError Unit × Api :=
  match s.volumes volume.name with
  | some _ => (Except.error (alreadyExists volume.name), s)
  | none => (Except.ok (), s.put volume)

/-- Writing a version without finalizers of an object that is being deleted removes the object. -/
def update (s : Api) (volume : PersistentVolume) : Except ApiError Unit × Api :=
  match s.volumes volume.name with
  | none => (Except.error (notFound volume.name), s)
  | some _ =>
      if volume.deletionTimestamp && volume.finalizers.isEmpty then
        (Except.ok (), s.remove volume.name)
      else (Except.ok (), s.put volume)

/-- An object with finalizers is only marked as being deleted. -/
def delete (s : Api) (name : String) : Except ApiError Unit × Api :=
  match s.volumes name with
  | none => (Except.error (notFound name), s)
  | some volume =>
      if volume.finalizers.isEmpty then (Except.ok (), s.remove name)
      else (Except.ok (), s.put { volume with deletionTimestamp := true })

/-- A call that changes something, as its outcome has it. -/
def change (s : Api) (fault : Option Bool) (r : Except ApiError Unit × Api) :
    Except ApiError Unit × Api :=
  match fault with
  | none => r
  | some false => (Except.error unavailable, s)
  | some true => (Except.error unavailable, r.2)

/-- A call that only looks. -/
def look {α : Type} (fault : Option Bool) (r : Except ApiError α) : Except ApiError α :=
  if fault.isSome then Except.error unavailable else r

/-- After a creation the object is stored, whether it was there before or not. -/
lemma create_stored (s : Api) (volume : PersistentVolume) :
    (s.create volume).2.volumes volume.name ≠ none ∧ (s.create volume).2.outcomes = s.outcomes := by
  unfold create
  cases hs : s.volumes volume.name with
  | none => exact ⟨by simp [put], rfl⟩
  | some old => exact ⟨by simp [hs], rfl⟩

/-- The server at the time of the next call. -/
def tick (s : Api) : Api := { s with outcomes := fun n => s.outcomes (n + 1) }

@[simp] lemma tick_volumes (s : Api) : s.tick.volumes = s.volumes := rfl

@[simp] lemma tick_outcomes (s : Api) (n : ℕ) : s.tick.outcomes n = s.outcomes (n + 1) := rfl

end Api

/-! ## The cluster -/

/-- A call to the operating system of a node. -/
structure NodeCall where
  node : String
  call : Syscall
  deriving DecidableEq

@[reducible] def NodeReply (b : NodeCall) : Type := Reply b.call

structure Cluster where
  api : Api
  hosts : String → Host

namespace Cluster

def step (w : Cluster) : (c : Call NodeCall) → Answer NodeReply c × Cluster
  | Call.getVolume name =>
      (Api.look (w.api.outcomes 0).fault ((w.api.volumes name).elim
        (Except.error (Api.notFound name)) Except.ok), { w with api := w.api.tick })
  | Call.createVolume volume =>
      let r := w.api.tick.change (w.api.outcomes 0).fault (w.api.tick.create volume)
      (r.1, { w with api := r.2 })
  | Call.updateVolume volume =>
      let r := w.api.tick.change (w.api.outcomes 0).fault (w.api.tick.update volume)
      (r.1, { w with api := r.2 })
  | Call.deleteVolume name =>
      let r := w.api.tick.change (w.api.outcomes 0).fault (w.api.tick.delete name)
      (r.1, { w with api := r.2 })
  | Call.getNode _ =>
      (Api.look (w.api.outcomes 0).fault (Except.ok ()), { w with api := w.api.tick })
  | Call.getStorageClass name => ((w.api.outcomes 0).classes name, { w with api := w.api.tick })
  | Call.getReference _ =>
      (if (w.api.outcomes 0).fault.isSome then Except.error "no kind is registered for the type"
        else Except.ok (), { w with api := w.api.tick })
  | Call.backend b =>
      let r := (w.hosts b.node).step b.call
      (r.1, { w with hosts := Function.update w.hosts b.node r.2 })

/-- Run a program of a controller. -/
def exec {α : Type} (w : Cluster) (x : Ctl NodeReply α) : Except String α × Cluster :=
  Prog.exec step x w

variable {w : Cluster}

/-- The object is stored. -/
def Stored (w : Cluster) (name : String) : Prop := w.api.volumes name ≠ none

/-- The outcome of a call to come. -/
def fault (w : Cluster) (n : ℕ) : Option Bool := (w.api.outcomes n).fault

lemma exec_perform_eq {α : Type} {c : Call NodeCall} {k : Answer NodeReply c → Ctl NodeReply α} :
    w.exec (perform c >>= k) = (w.step c).2.exec (k (w.step c).1) := rfl

@[simp] lemma exec_pure {α : Type} {a : α} :
    w.exec (pure a : Ctl NodeReply α) = (Except.ok a, w) := rfl

lemma step_getVolume_eq_ok {name : String} {o : PersistentVolume} :
    (w.step (Call.getVolume name)).1 = Except.ok o
      ↔ w.fault 0 = none ∧ w.api.volumes name = some o := by
  unfold step Api.look fault
  cases hf : (w.api.outcomes 0).fault <;> cases hv : w.api.volumes name <;> simp [hv]

end Cluster

end Hostpath.Legacy
