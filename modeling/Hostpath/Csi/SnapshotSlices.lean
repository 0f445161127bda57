import Hostpath.Csi.SnapshotPaging

/-!
# The slice of a listing

`ListSnapshots` cuts `snapshots[start:end]` out of what the providers returned.  The start is the
token as an unsigned number minus one; the end is a signed sum that is only bounded from above by
the length.  `slices_safely_iff` says exactly **when the slice is in range**: the token stands for
a number of at least one that is at most one beyond the length, the page size is not negative, and
without a page size the sum of the start and the length fits 64 bits.
-/

namespace Hostpath

open Lib FilePath Prog Host

namespace HostPathController

variable {ss : List Snapshot} {req : ListSnapshotsRequest} {n : ℕ} {start : UInt64} {stop : Int64}

/-- The token that is parsed. -/
def parsedToken (req : ListSnapshotsRequest) : String :=
  if req.startingToken = "" ∨ req.startingToken = "0" then "1" else req.startingToken

/-- The length of the list as the code sees it. -/
def snapshotLength (ss : List Snapshot) : Int64 := Int64.ofNat ss.length

/-- Where the slice ends that starts at `start`. -/
def sliceStop (ss : List Snapshot) (req : ListSnapshotsRequest) (start : UInt64) : Int64 :=
  min (start.toInt64
    + if req.maxEntries = 0 then snapshotLength ss else req.maxEntries.toInt64) (snapshotLength ss)

/-- The indexes of the slice, if a slice is taken. -/
def sliceIndexes (ss : List Snapshot) (req : ListSnapshotsRequest) : Option (UInt64 × Int64) :=
  if ss = [] then none
  else (Strconv.parseUint 32 (parsedToken req)).map fun n =>
    (UInt64.ofNat n - 1, sliceStop ss req (UInt64.ofNat n - 1))

/-- The start is not after the end, and the end not after the end of the list. -/
def SliceInRange (ss : List Snapshot) (start : UInt64) (stop : Int64) : Prop :=
  (start.toNat : ℤ) ≤ stop.toInt ∧ stop.toInt ≤ ss.length

/-- The indexes of the slice are in range, and so the handler does not panic, whatever host and
providers the list came from. -/
structure SlicesSafely (ss : List Snapshot) (req : ListSnapshotsRequest) : Prop where
  indexes : ∀ start stop, sliceIndexes ss req = some (start, stop) → SliceInRange ss start stop
  page : ∀ msg, snapshotsPage ss req ≠ Except.error (Err.panic msg)
  handler : ∀ (hpc : HostPathController) (h m m' : Host) (res : Except Err ListSnapshotsResponse),
    h.exec (collectSnapshots req hpc.providers) = (Except.ok ss, m) →
    h.exec (hpc.listSnapshots (some req)) = (res, m') → ∀ msg, res ≠ Except.error (Err.panic msg)

/-! ## The page and its slice -/

/-- The page of a list that is not empty, for a token that can be parsed. -/
lemma snapshotsPage_of_parse (hne : ss ≠ [])
    (hn : Strconv.parseUint 32 (parsedToken req) = some n) :
    snapshotsPage ss req
      = if 0 ≤ sliceStop ss req (UInt64.ofNat n - 1) ∧ (UInt64.ofNat n - 1).toNat
            ≤ (sliceStop ss req (UInt64.ofNat n - 1)).toInt.toNat then
          Except.ok ⟨(ss.take (sliceStop ss req (UInt64.ofNat n - 1)).toInt.toNat).drop
              (UInt64.ofNat n - 1).toNat,
            if sliceStop ss req (UInt64.ofNat n - 1) < snapshotLength ss - 1 then
              toString (sliceStop ss req (UInt64.ofNat n - 1) + 1).toInt else ""⟩
        else Except.error (Err.panic "slice bounds out of range") := by
  have hn' : Strconv.parseUint 32 (if req.startingToken = "" ∨ req.startingToken = "0" then "1"
      else req.startingToken) = some n := hn
  simp only [snapshotsPage, if_neg hne, hn']
  rfl

lemma page_panics_iff (hi : sliceIndexes ss req = some (start, stop)) :
    (∃ msg, snapshotsPage ss req = Except.error (Err.panic msg))
      ↔ ¬ (start.toNat : ℤ) ≤ stop.toInt := by
  unfold sliceIndexes at hi
  split_ifs at hi with hne
  obtain ⟨n, hn, heq⟩ := Option.map_eq_some_iff.mp hi
  obtain ⟨rfl, rfl⟩ := Prod.mk.inj heq
  have hfit : (0 ≤ sliceStop ss req (UInt64.ofNat n - 1)
      ∧ (UInt64.ofNat n - 1).toNat ≤ (sliceStop ss req (UInt64.ofNat n - 1)).toInt.toNat)
      ↔ ((UInt64.ofNat n - 1).toNat : ℤ) ≤ (sliceStop ss req (UInt64.ofNat n - 1)).toInt := by
    rw [Int64.le_iff_toInt_le, show (0 : Int64).toInt = 0 from rfl]
    omega
  rw [snapshotsPage_of_parse hne hn, ← hfit]
  split_ifs with hc
  · exact iff_of_false (by simp) (not_not.mpr hc)
  · exact iff_of_true ⟨_, rfl⟩ hc

lemma page_of_no_slice (hi : sliceIndexes ss req = none) (msg : String) :
    snapshotsPage ss req ≠ Except.error (Err.panic msg) := by
  unfold sliceIndexes at hi
  split_ifs at hi with hne
  · simp only [snapshotsPage, if_pos hne]
    split_ifs <;> simp
  · have hi' : Strconv.parseUint 32 (if req.startingToken = "" ∨ req.startingToken = "0" then "1"
        else req.startingToken) = none := Option.map_eq_none_iff.mp hi
    simp only [snapshotsPage, if_neg hne, hi']
    simp

/-- The handler panics with the page. -/
lemma listSnapshots_panics {hpc : HostPathController} {h m m' : Host} {msg : String}
    {res : Except Err ListSnapshotsResponse}
    (hc : h.exec (collectSnapshots req hpc.providers) = (Except.ok ss, m))
    (e : h.exec (hpc.listSnapshots (some req)) = (res, m')) (hres : res = Except.error (Err.panic msg)) :
    snapshotsPage ss req = Except.error (Err.panic msg) := by
  replace e := (exec_bind_of_ok step hc).symm.trans e
  rw [← hres]
  exact (Prod.mk.inj ((exec_liftExcept m _).symm.trans e)).1

/-! ## The indexes as integers -/

lemma snapshotLength_le (ss : List Snapshot) : (snapshotLength ss).toInt ≤ ss.length := by
  have hsize : Int64.size = 2 ^ 64 := rfl
  rw [snapshotLength, Int64.toInt_ofNat', hsize, Int.bmod_eq_emod]
  split_ifs <;> omega

lemma toInt_start (hn : 0 < n) (hlt : n < 2 ^ 32) :
    (UInt64.ofNat n - 1).toNat = n - 1 ∧ (UInt64.ofNat n - 1).toInt64.toInt = (n : ℤ) - 1 := by
  obtain ⟨i, rfl⟩ := Nat.exists_eq_add_of_lt hn
  constructor
  · simp
    omega
  · have hbmod : (i : ℤ).bmod Int64.size = i := Int.bmod_eq_of_le (by simp) (by simp; omega)
    simpa using hbmod

/-- The end of the slice for a token of at least one.  The sum can leave the range of 64 bits only
if there is no page size. -/
lemma toInt_sliceStop (hn : 0 < n) (hlt : n < 2 ^ 32) :
    (sliceStop ss req (UInt64.ofNat n - 1)).toInt
      = min (if req.maxEntries = 0 then ((n : ℤ) - 1 + (snapshotLength ss).toInt).bmod (2 ^ 64)
          else (n : ℤ) - 1 + req.maxEntries.toInt) (snapshotLength ss).toInt := by
  rw [sliceStop, toInt_min, Int64.toInt_add, (toInt_start hn hlt).2]
  split_ifs with hm
  · rfl
  · have hlow := req.maxEntries.le_toInt
    have hhigh := req.maxEntries.toInt_lt
    rw [Int32.toInt_toInt64, Int.bmod_eq_of_le] <;> omega

/-- What has to hold of a token that stands for the number `n`. -/
structure SliceFits (ss : List Snapshot) (req : ListSnapshotsRequest) (n : ℕ) : Prop where
  positive : 0 < n
  size : 0 ≤ req.maxEntries.toInt
  start : (n : ℤ) - 1 ≤ (snapshotLength ss).toInt
  sum : req.maxEntries = 0 → (n : ℤ) - 1 + (snapshotLength ss).toInt < 2 ^ 63

lemma start_le_stop_iff (hlt : n < 2 ^ 32) :
    ((UInt64.ofNat n - 1).toNat : ℤ) ≤ (sliceStop ss req (UInt64.ofNat n - 1)).toInt
      ↔ SliceFits ss req n := by
  have hlen := (snapshotLength ss).toInt_lt
  have hlen' := (snapshotLength ss).le_toInt
  rcases Nat.eq_zero_or_pos n with rfl | hn
  · -- the start wraps around to the largest number of all
    have hstop := (sliceStop ss req (UInt64.ofNat 0 - 1)).toInt_lt
    have hstart : (UInt64.ofNat 0 - 1).toNat = 2 ^ 64 - 1 := by decide
    rw [hstart]
    refine iff_of_false (by omega) fun hfits => ?_
    exact absurd hfits.positive (lt_irrefl 0)
  · rw [(toInt_start hn hlt).1, toInt_sliceStop hn hlt]
    constructor
    · intro hle
      split_ifs at hle with hm
      · rw [Int.bmod_eq_emod] at hle
        refine ⟨hn, by simp [hm], ?_, fun _ => ?_⟩ <;> split_ifs at hle <;> omega
      · exact ⟨hn, by omega, by omega, fun h0 => absurd h0 hm⟩
    · rintro ⟨_, hsize, hstart, hsum⟩
      split_ifs with hm
      · rw [Int.bmod_eq_of_le (by omega) (by have := hsum hm; omega)]
        omega
      · omega

/-! ## The result -/

lemma lt_of_parse {token : String} (hn : Strconv.parseUint 32 token = some n) : n < 2 ^ 32 := by
  unfold Strconv.parseUint at hn
  split_ifs at hn
  simpa using (Option.filter_eq_some_iff.mp hn).2

/-- **When a listing slices in range**, and does not panic. -/
theorem slices_safely_iff :
    SlicesSafely ss req ↔ (ss ≠ [] → ∀ n, Strconv.parseUint 32 (parsedToken req) = some n →
      SliceFits ss req n) := by
  have hindexes : ∀ n, ss ≠ [] → Strconv.parseUint 32 (parsedToken req) = some n →
      sliceIndexes ss req
        = some (UInt64.ofNat n - 1, sliceStop ss req (UInt64.ofNat n - 1)) := by
    intro n hne hn
    rw [sliceIndexes, if_neg hne, hn]
    rfl
  constructor
  · intro hsafe hne n hn
    exact (start_le_stop_iff (lt_of_parse hn)).mp (hsafe.indexes _ _ (hindexes n hne hn)).1
  · intro hfits
    have hrange : ∀ start stop, sliceIndexes ss req = some (start, stop) →
        SliceInRange ss start stop := by
      intro start stop hi
      unfold sliceIndexes at hi
      split_ifs at hi with hne
      obtain ⟨n, hn, heq⟩ := Option.map_eq_some_iff.mp hi
      obtain ⟨rfl, rfl⟩ := Prod.mk.inj heq
      refine ⟨(start_le_stop_iff (lt_of_parse hn)).mpr (hfits hne n hn), ?_⟩
      rw [sliceStop, toInt_min]
      exact (min_le_right _ _).trans (snapshotLength_le ss)
    have hpage : ∀ msg, snapshotsPage ss req ≠ Except.error (Err.panic msg) := by
      intro msg hpanic
      cases hi : sliceIndexes ss req with
      | none => exact page_of_no_slice hi msg hpanic
      | some i => exact (page_panics_iff hi).mp ⟨msg, hpanic⟩ (hrange i.1 i.2 hi).1
    refine ⟨hrange, hpage, fun hpc h m m' res hc e msg hres => ?_⟩
    exact hpage msg (listSnapshots_panics hc e hres)

/-- One snapshot is enough for a panic: with a token that is another spelling of zero, with a token
that is more than one beyond the list, and with a negative page size. -/
theorem listing_panics :
    (∀ req ∈ [(⟨0, "00", "", ""⟩ : ListSnapshotsRequest), ⟨0, "3", "", ""⟩, ⟨-1, "", "", ""⟩],
      snapshotsPage [⟨"snap", "vol", 0, true⟩] req
        = Except.error (Err.panic "slice bounds out of range"))
      ∧ ∃ m, twoSnapshots.exec (Sample.controller.listSnapshots (some ⟨0, "00", "", ""⟩))
        = (Except.error (Err.panic "slice bounds out of range"), m) := by
  exact ⟨by decide +kernel, _, Prod.ext (by decide +kernel) rfl⟩

end HostPathController

end Hostpath
