import Hostpath.Legacy.Provisioner

/-!
# Storing a volume with backoff

A controller stores the objects of its volumes through a volume store.  The one here tries several
times, and if all attempts fail it removes the volume itself.  How often it tries is given by a
`Backoff`, which the options of the controller determine.
-/

namespace Hostpath.Legacy

open Lib Prog

variable {B : Type} {RB : B → Type}

/-! ## Retrying -/

/-- How often and at which intervals to try.  Durations are in nanoseconds, a cap of zero is none,
and the jitter does not matter here.

The factor is a `float64`, and the next duration is the product of two of them, converted back to an
`int64`.  That arithmetic rounds, and out of range its result depends on the machine.  So `factor`
says what becomes of a duration, and nothing is assumed about it; a factor of zero is `none`. -/
structure Backoff where
  duration : ℤ
  factor : Option (ℤ → ℤ)
  steps : ℤ
  cap : ℤ

namespace Backoff

/-- The backoff after a pause.  Hitting the cap ends it. -/
def step (b : Backoff) : Backoff :=
  if b.steps < 1 then { b with steps := 0 }
  else
    match b.factor with
    | none => { b with steps := b.steps - 1 }
    | some times =>
        let next := times b.duration
        if 0 < b.cap ∧ b.cap < next then { b with duration := b.cap, steps := 0 }
        else { b with duration := next, steps := b.steps - 1 }

end Backoff

/-- Call the condition until it holds or no steps remain; it also hands on what it remembers from
one attempt to the next.  The first argument bounds the recursion, and the number of steps does. -/
def exponentialBackoff {S : Type} (condition : S → Ctl RB (Bool × S)) :
    ℕ → Backoff → S → Ctl RB (Bool × S)
  | 0, _, last => return (false, last)
  | n + 1, backoff, last =>
      if 0 < backoff.steps then do
        let (ok, last) ← condition last
        if ok then return (true, last)
        else if backoff.steps = 1 then return (false, last)
        else exponentialBackoff condition n backoff.step last
      else return (false, last)

/-! ## The options of a controller -/

/-- The options about storing volumes: an explicit backoff, or a number of attempts and an interval
where zero means the default, or a rate limiter. -/
structure StoreOptions where
  createProvisionedPVBackoff : Option Backoff
  createProvisionedPVRetryCount : ℤ
  createProvisionedPVInterval : ℤ
  createProvisionerPVLimiter : Bool

namespace StoreOptions

def none : StoreOptions := ⟨Option.none, 0, 0, false⟩

def withRetryCount (o : StoreOptions) (n : ℤ) : Except String StoreOptions :=
  if o.createProvisionedPVBackoff.isSome then
    Except.error "CreateProvisionedPVBackoff cannot be used together with CreateProvisionedPVRetryCount"
  else if o.createProvisionerPVLimiter then
    Except.error "CreateProvisionedPVBackoff cannot be used together with CreateProvisionedPVLimiter"
  else Except.ok { o with createProvisionedPVRetryCount := n }

def withInterval (o : StoreOptions) (n : ℤ) : Except String StoreOptions :=
  if o.createProvisionedPVBackoff.isSome then
    Except.error "CreateProvisionedPVBackoff cannot be used together with CreateProvisionedPVInterval"
  else if o.createProvisionerPVLimiter then
    Except.error "CreateProvisionedPVInterval cannot be used together with CreateProvisionedPVLimiter"
  else Except.ok { o with createProvisionedPVInterval := n }

def withBackoff (o : StoreOptions) (backoff : Backoff) : Except String StoreOptions :=
  if o.createProvisionedPVRetryCount ≠ 0 then
    Except.error "CreateProvisionedPVBackoff cannot be used together with CreateProvisionedPVRetryCount"
  else if o.createProvisionedPVInterval ≠ 0 then
    Except.error "CreateProvisionedPVBackoff cannot be used together with CreateProvisionedPVInterval"
  else if o.createProvisionerPVLimiter then
    Except.error "CreateProvisionedPVBackoff cannot be used together with CreateProvisionedPVLimiter"
  else Except.ok { o with createProvisionedPVBackoff := some backoff }

/-- The backoff of a controller that stores volumes itself.  Without an explicit one the factor is 1,
and `timesOne` is what that makes of a duration. -/
def backoff (o : StoreOptions) (timesOne : ℤ → ℤ) : Backoff :=
  o.createProvisionedPVBackoff.getD
    { duration := if o.createProvisionedPVInterval = 0 then 10 * 10 ^ 9
        else o.createProvisionedPVInterval
      factor := some timesOne
      steps := if o.createProvisionedPVRetryCount = 0 then 5 else o.createProvisionedPVRetryCount
      cap := 0 }

end StoreOptions

/-! ## The store -/

/-- One attempt to store the object.  That it is there already counts as stored. -/
def trySave (volume : PersistentVolume) (lastSaveError : Option ApiError) :
    Ctl RB (Bool × Option ApiError) := do
  match ← perform (Call.createVolume volume) with
  | Except.ok _ => return (true, lastSaveError)
  | Except.error e =>
      if e.reason = StatusReason.alreadyExists then return (true, lastSaveError)
      else return (false, some e)

/-- One attempt to remove the volume. -/
def tryDelete (provisioner : Provisioner RB) (volume : PersistentVolume)
    (lastDeleteError : Option GoError) : Ctl RB (Bool × Option GoError) := do
  match ← provisioner.delete volume with
  | none => return (true, lastDeleteError)
  | some e => return (false, some e)

namespace BackoffStore

def storeVolume (backoff : Backoff) (provisioner : Provisioner RB) (volume : PersistentVolume) :
    Ctl RB (Option GoError) := do
  let (saved, lastSaveError) ← exponentialBackoff (trySave volume) backoff.steps.toNat backoff none
  if saved then return none
  else
    let _ ← exponentialBackoff (tryDelete provisioner volume) backoff.steps.toNat backoff none
    return lastSaveError.map fun e => GoError.plain e.message

end BackoffStore

end Hostpath.Legacy
