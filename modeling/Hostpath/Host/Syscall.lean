import Hostpath.Lib.FileTree
import Hostpath.Lib.Prog

/-!
# The node the driver runs on

The operating system calls the driver makes, and what each of them does to a file system and a
mount table.  `Host.step` answers one call.

A call can fail at any point.  The host carries the outcomes of the calls to come: how much time
passes before the call, what the file systems report about their space, and whether the call
fails, together with how far it gets before it does.  A `mkdirAll` that fails has made some of
the directories, a `removeAll` has removed some of what is there, a copy has copied a part.
Quantifying over hosts therefore quantifies over every pattern of failures.

Mounts on one target stack, the newest first.  Only `removeAll` looks through a bind mount, since
that is where a mount changes what is destroyed.  The other calls take a path for the place it
names, also where the kernel would go on in the source of a mount that covers a part of the path:
what they do is faithful for paths that do not lead through a mount.

Each call is one step.  The kernel and the commands `cp`, `mount` and `findmnt` take several for
some of them: a directory is read in portions, and a removal or a copy visits one entry after the
other.  Between sequential requests nobody can tell the difference; for interleaved requests it is
an assumption of the model.
-/

namespace Hostpath

open Lib FilePath

/-! ## Errors -/

inductive Errno where
  | notExist
  | exist
  | notDir
  | busy
  | invalid
  | io
  deriving DecidableEq, Repr

namespace Errno

def text : Errno → String
  | notExist => "no such file or directory"
  | exist => "file exists"
  | notDir => "not a directory"
  | busy => "device or resource busy"
  | invalid => "invalid argument"
  | io => "input/output error"

end Errno

/-- The errors of the calls: a bare error number, one with the operation and the path it was
about, or the exit status of a command that was run. -/
inductive OsError where
  | errno (e : Errno)
  | path (op path : String) (e : Errno)
  | exit (status : String)
  deriving DecidableEq, Repr

namespace OsError

def text : OsError → String
  | errno e => e.text
  | path op p e => op ++ " " ++ p ++ ": " ++ e.text
  | exit status => status

def isNotExist : OsError → Bool
  | errno e => e = Errno.notExist
  | path _ _ e => e = Errno.notExist
  | exit _ => false

/-- The error number alone, as the raw system calls return it. -/
def bare : OsError → OsError
  | path _ _ e => errno e
  | e => e

end OsError

/-! ## Calls and replies -/

/-- The bytes of a file together with the attributes a copy preserves. -/
abbrev FileData := String

/-- The fields of the kernel's statfs record that the driver reads. -/
structure Statfs where
  bsize : Int64
  blocks : UInt64
  bfree : UInt64
  bavail : UInt64
  files : UInt64
  ffree : UInt64

/-- What the driver reads from a stat record; the change time is in nanoseconds. -/
structure FileInfo where
  isDir : Bool
  mode : String
  ctime : ℕ
  deriving DecidableEq

structure DirEntry where
  name : String
  isDir : Bool
  deriving DecidableEq

/-- What the driver reads of an entry in the output of `findmnt`. -/
structure MountPointInfo where
  target : String
  deriving DecidableEq

inductive Syscall where
  | statfs (path : String)
  | stat (path : String)
  | readDir (path : String)
  | mkdir (path : String)
  | mkdirAll (path : String)
  | removeAll (path : String)
  | copyReflink (src dst : String)
  | isNotMountPoint (path : String)
  | mount (source target fsType : String) (options : List String)
  | unmount (target : String)
  | findmnt (path : String)
  deriving DecidableEq

@[reducible] def Reply : Syscall → Type
  | Syscall.statfs _ => Except OsError Statfs
  | Syscall.stat _ => Except OsError FileInfo
  | Syscall.readDir _ => Except OsError (List DirEntry)
  | Syscall.mkdir _ => Except OsError Unit
  | Syscall.mkdirAll _ => Except OsError Unit
  | Syscall.removeAll _ => Except OsError Unit
  | Syscall.copyReflink _ _ => Except OsError Unit
  | Syscall.isNotMountPoint _ => Except OsError Bool
  | Syscall.mount _ _ _ _ => Except OsError Unit
  | Syscall.unmount _ => Except OsError Unit
  | Syscall.findmnt _ => Except OsError (List MountPointInfo)

/-! ## State -/

structure Mount where
  target : Loc
  source : Loc
  options : List String
  deriving DecidableEq

/-- What happens at one call: the time that passes, the space the file systems report, and, if
the call fails, the locations at which it still has its effect. -/
structure Outcome where
  elapsed : ℕ
  space : Loc → Statfs
  fault : Option (Loc → Bool)

/-- The reply of a call that only looks, unless it fails. -/
def Outcome.ask {α : Type} (o : Outcome) (e : Errno → OsError) (r : Except Errno α) :
    Except OsError α :=
  match o.fault with
  | some _ => Except.error (e Errno.io)
  | none => r.mapError e

namespace Outcome

/-- Nothing goes wrong. -/
def fine : Outcome := ⟨0, fun _ => ⟨4096, 0, 0, 0, 0, 0⟩, none⟩

/-- Of the calls to come only the one number `k` fails, as late as it can. -/
def failAt (k n : ℕ) : Outcome := if n = k then { fine with fault := some fun _ => true } else fine

lemma failAt_of_ne {k n : ℕ} (hn : n ≠ k) : (failAt k n).fault = none := by
  rw [failAt, if_neg hn]
  rfl

end Outcome

structure Host where
  fs : FileTree FileData
  mounts : List Mount
  ctime : Loc → ℕ
  now : ℕ
  outcomes : ℕ → Outcome

namespace Host

/-- No call to come fails. -/
def NoFaults (h : Host) : Prop := ∀ n, (h.outcomes n).fault = none

/-- What a path leads to. -/
def lookup (h : Host) (path : String) : Except Errno (Loc × Node FileData) :=
  match locate path with
  | none => Except.error Errno.notExist
  | some l => match h.fs.node l with
    | some x => Except.ok (l, x)
    | none => Except.error (if h.fs.blocked l then Errno.notDir else Errno.notExist)

/-- Put a new tree in place.  The change time moves where what is there or the entries of what is
there changed, and where the call set attributes. -/
def setFs (h : Host) (fs : FileTree FileData) (touched : Loc → Bool) : Host :=
  { h with
    fs := fs
    ctime := fun q =>
      if touched q = true ∨ fs.node q ≠ h.fs.node q ∨ fs.list q ≠ h.fs.list q then h.now
      else h.ctime q }

@[simp] lemma setFs_fs (h : Host) (fs : FileTree FileData) (touched : Loc → Bool) :
    (h.setFs fs touched).fs = fs := rfl

@[simp] lemma setFs_mounts (h : Host) (fs : FileTree FileData) (touched : Loc → Bool) :
    (h.setFs fs touched).mounts = h.mounts := rfl

@[simp] lemma setFs_outcomes (h : Host) (fs : FileTree FileData) (touched : Loc → Bool) :
    (h.setFs fs touched).outcomes = h.outcomes := rfl

/-- The mount that is visible at a target: mounts stack, and the newest is on top. -/
def top (h : Host) (l : Loc) : Option Mount := h.mounts.find? fun m => m.target = l

/-- Something is mounted at `l` or below it. -/
def MountedBelow (h : Host) (l : Loc) : Prop := ∃ m ∈ h.mounts, l <+: m.target

instance (h : Host) (l : Loc) : Decidable (h.MountedBelow l) :=
  inferInstanceAs (Decidable (∃ m ∈ h.mounts, l <+: m.target))

/-- What removing `l` takes away.  Below `l` it is everything that is not a mount point or on the
way to one; and where a bind mount is on top of a target at or below `l`, it is everything in the
directory the mount shows. -/
def Removed (h : Host) (l q : Loc) : Prop :=
  (l <+: q ∧ ∀ m ∈ h.mounts, l <+: m.target → ¬ m.target <+: q ∧ ¬ q <+: m.target)
    ∨ ∃ m ∈ h.mounts, l <+: m.target ∧ h.top m.target = some m ∧ m.source <+: q ∧ m.source ≠ q

instance (h : Host) (l : Loc) : DecidablePred (h.Removed l) := fun q =>
  inferInstanceAs (Decidable ((l <+: q ∧ ∀ m ∈ h.mounts, l <+: m.target →
      ¬ m.target <+: q ∧ ¬ q <+: m.target)
    ∨ ∃ m ∈ h.mounts, l <+: m.target ∧ h.top m.target = some m ∧ m.source <+: q ∧ m.source ≠ q))

lemma removed_downClosed (h : Host) (l : Loc) : FileTree.DownClosed (h.Removed l) := by
  rintro p q hpq (⟨hl, hm⟩ | ⟨m, hm, hl, htop, hs, hne⟩)
  · refine Or.inl ⟨hl.trans hpq, fun m hmem hlm => ⟨fun hmq => ?_, fun hqm => ?_⟩⟩
    · rcases List.prefix_or_prefix_of_prefix hmq hpq with h' | h'
      · exact (hm m hmem hlm).1 h'
      · exact (hm m hmem hlm).2 h'
    · exact (hm m hmem hlm).2 (hpq.trans hqm)
  · refine Or.inr ⟨m, hm, hl, htop, hs.trans hpq, ?_⟩
    rintro rfl
    exact hne (hs.eq_of_length (le_antisymm hs.length_le hpq.length_le))

/-! ## One call -/

/-- The host with the directories on the way to `l` made. -/
def made (h : Host) (l : Loc) (keep : Loc → Bool) : Host :=
  h.setFs (h.fs.create l keep) fun _ => false

/-- The tree with everything at `l` and below it removed. -/
def removed (h : Host) (l : Loc) (gone : Loc → Bool) : FileTree FileData :=
  h.fs.prune (h.Removed l) (h.removed_downClosed l) gone

/-- The host with everything at `l` and below it removed. -/
def cleared (h : Host) (l : Loc) (gone : Loc → Bool) : Host :=
  h.setFs (h.removed l gone) fun _ => false

/-- The host with the contents of `s` copied over those of `d`. -/
def overlaid (h : Host) (s d : Loc) (keep : Loc → Bool) : Host :=
  h.setFs (h.fs.overlay s d keep) fun q =>
    d.isPrefixOf q && (q = d || h.fs.copied s d keep (q.drop d.length))

/-- `os.RemoveAll` refuses a path whose last component is a dot. -/
def endsWithDot (path : String) : Bool := (elems path).getLast? = some "."

def mkdir (h : Host) (o : Outcome) (path : String) : Except OsError Unit × Host :=
  let err := fun e => (Except.error (OsError.path "mkdir" path e), h)
  match locate path with
  | none => err Errno.notExist
  | some l =>
      if o.fault.isSome then err Errno.io
      else if (h.fs.node l).isSome then err Errno.exist
      else if h.fs.blocked l then err Errno.notDir
      else if h.fs.node l.dropLast = none then err Errno.notExist
      else (Except.ok (), h.made l fun _ => true)

/-- `os.MkdirAll`, which looks again before it reports an error: when it fails, the last
directory was not made. -/
def mkdirAll (h : Host) (o : Outcome) (path : String) : Except OsError Unit × Host :=
  match locate path with
  | none => (Except.error (OsError.path "mkdir" path Errno.notExist), h)
  | some l =>
      if h.fs.blocked l then (Except.error (OsError.path "mkdir" path Errno.notDir), h)
      else match o.fault with
        | none => (Except.ok (), h.made l fun _ => true)
        | some reach => (Except.error (OsError.path "mkdir" path Errno.io),
            h.made l fun q => reach q && q ≠ l)

def removeAll (h : Host) (o : Outcome) (path : String) : Except OsError Unit × Host :=
  match locate path with
  | none => (Except.ok (), h)
  | some l =>
      if endsWithDot path then (Except.error (OsError.path "RemoveAll" path Errno.invalid), h)
      else if h.fs.node l = none ∧ h.fs.blocked l then
        (Except.error (OsError.path "unlinkat" path Errno.notDir), h)
      else match o.fault with
        | none =>
            (if l = [] ∨ h.MountedBelow l then
                Except.error (OsError.path "unlinkat" path Errno.busy)
              else Except.ok (),
              h.cleared l fun _ => true)
        | some reach => (Except.error (OsError.path "unlinkat" path Errno.io), h.cleared l reach)

/-- The copying that `cp` does between two directories.  It reports an entry that is a directory on
one side only, and refuses to copy a directory into itself, but copies the rest. -/
def copyInto (h : Host) (o : Outcome) (s d : Loc) : Except OsError Unit × Host :=
  let keep := fun r =>
    (!s.isPrefixOf d || !d.isPrefixOf (s ++ r)) && (o.fault.getD fun _ => true) (d ++ r)
  (if o.fault.isNone && !s.isPrefixOf d && h.fs.fits s d then Except.ok ()
    else Except.error (OsError.exit "exit status 1"),
    h.overlaid s d keep)

/-- `cp -rp --reflink=auto`, which overlays the contents of one directory on another.  A target
that is missing is made first, but not its parent. -/
def copyReflink (h : Host) (o : Outcome) (src dst : String) : Except OsError Unit × Host :=
  match locate src, locate dst with
  | some s, some d =>
      let made := h.made d fun q => q = d && (o.fault.getD fun _ => true) q
      if h.fs.node s ≠ some Node.dir then (Except.error (OsError.exit "exit status 1"), h)
      else if h.fs.node d = some Node.dir then h.copyInto o s d
      else if h.fs.node d = none ∧ made.fs.node d = some Node.dir then made.copyInto o s d
      else (Except.error (OsError.exit "exit status 1"), h)
  | _, _ => (Except.error (OsError.exit "exit status 1"), h)

/-- A bind mount is made first and then remounted with its options, so a mount that failed may be
in place, without its options. -/
def mount (h : Host) (o : Outcome) (source target : String) (options : List String) :
    Except OsError Unit × Host :=
  let err := Except.error (OsError.exit "mount failed: exit status 32")
  match h.lookup source, h.lookup target with
  | Except.ok (s, Node.dir), Except.ok (t, Node.dir) =>
      match o.fault with
      | none => (Except.ok (), { h with mounts := ⟨t, s, options⟩ :: h.mounts })
      | some reach =>
          (err, if reach t then { h with mounts := ⟨t, s, ["bind"]⟩ :: h.mounts } else h)
  | _, _ => (err, h)

/-- Unmounting takes the newest mount off the target. -/
def unmount (h : Host) (o : Outcome) (target : String) : Except OsError Unit × Host :=
  let err := (Except.error (OsError.exit "unmount failed: exit status 32"), h)
  match locate target with
  | none => err
  | some t =>
      if o.fault.isSome ∨ h.top t = none then err
      else (Except.ok (), { h with mounts := h.mounts.eraseP fun m => m.target = t })

def statfs (h : Host) (o : Outcome) (path : String) : Except Errno Statfs :=
  (h.lookup path).map fun x => o.space x.1

def stat (h : Host) (path : String) : Except Errno FileInfo :=
  (h.lookup path).map fun x => match x.2 with
    | Node.dir => ⟨true, "drwxr-xr-x", h.ctime x.1⟩
    | Node.file _ => ⟨false, "-rw-r--r--", h.ctime x.1⟩

/-- The entries of a directory, sorted by name. -/
def readDir (h : Host) (path : String) : Except Errno (List DirEntry) :=
  match h.lookup path with
  | Except.error e => Except.error e
  | Except.ok (l, Node.dir) =>
      Except.ok ((h.fs.list l).map fun n => ⟨n, h.fs.node (l ++ [n]) = some Node.dir⟩)
  | Except.ok (_, Node.file _) => Except.error Errno.notDir

def isNotMountPoint (h : Host) (path : String) : Except Errno Bool :=
  (h.lookup path).map fun x => (h.top x.1).isNone

/-- `findmnt path`, which lists what is mounted there and fails if that is nothing.  A target is
listed under its absolute path, however the argument spells it. -/
def findmnt (h : Host) (o : Outcome) (path : String) : Except OsError (List MountPointInfo) :=
  let found := h.mounts.filter fun m => some m.target = locate path
  if o.fault.isSome ∨ found = [] then Except.error (OsError.exit "exit status 1")
  else Except.ok (found.map fun m => ⟨absPath m.target⟩)

def answer (h : Host) (o : Outcome) : (c : Syscall) → Reply c × Host
  | Syscall.statfs path => (o.ask OsError.errno (h.statfs o path), h)
  | Syscall.stat path => (o.ask (OsError.path "stat" path) (h.stat path), h)
  | Syscall.readDir path => (o.ask (OsError.path "open" path) (h.readDir path), h)
  | Syscall.mkdir path => h.mkdir o path
  | Syscall.mkdirAll path => h.mkdirAll o path
  | Syscall.removeAll path => h.removeAll o path
  | Syscall.copyReflink src dst => h.copyReflink o src dst
  | Syscall.isNotMountPoint path => (o.ask (OsError.path "stat" path) (h.isNotMountPoint path), h)
  | Syscall.mount source target _ options => h.mount o source target options
  | Syscall.unmount target => h.unmount o target
  | Syscall.findmnt path => (h.findmnt o path, h)

/-- The host at the time of the next call. -/
def tick (h : Host) : Host :=
  { h with now := h.now + (h.outcomes 0).elapsed, outcomes := fun n => h.outcomes (n + 1) }

/-- One call. -/
def step (h : Host) (c : Syscall) : Reply c × Host := h.tick.answer (h.outcomes 0) c

end Host

end Hostpath
