import Hostpath.Csi.Paging
import Hostpath.Csi.SnapshotStore

/-!
# Paging through the snapshots

A client lists snapshots by passing each token it gets back with the next request.  The token is
the position at which the next page starts, in a list that every call puts together anew, provider
by provider in the order of the map.

`snapshot_paging_complete_iff` says **when the client gets every matching snapshot exactly once**:
every provider can list its snapshots, wherever a page ends before the list does at least two
snapshots remain and the position fits 32 bits, and every page holds the same snapshots in every
order of the providers.
-/

namespace Hostpath

open Lib FilePath Prog Host

namespace HostPathController

variable {ss page : List Snapshot} {m : Int32} {token next v : String} {i : ℕ}

/-! ## One page -/

/-- The token that asks for the page from position `i` on. -/
def TokenFor (token : String) (i : ℕ) : Prop := (token = "" ∧ i = 0) ∨ token = toString (i + 1)

lemma TokenFor.parse (ht : TokenFor token i) :
    Strconv.parseUint 32 (if token = "" ∨ token = "0" then "1" else token)
      = if i + 1 < 2 ^ 32 then some (i + 1) else none := by
  rcases ht with ⟨rfl, rfl⟩ | rfl
  · decide
  · have hzero : toString (i + 1) ≠ "0" := fun he =>
      absurd (Strconv.toString_injective (he.trans (by decide : "0" = toString 0))) i.succ_ne_zero
    rw [if_neg (not_or.mpr ⟨Strconv.toString_ne_empty _, hzero⟩), Strconv.parseUint_toString]

lemma toInt_of_pos (hm : 0 < m) : 0 < m.toInt ∧ m.toInt < 2 ^ 31 := by
  have hlow : (0 : Int32).toInt < m.toInt := Int32.lt_iff_toInt_lt.mp hm
  exact ⟨by simpa using hlow, m.toInt_lt⟩

lemma toInt_min (a b : Int64) : (min a b).toInt = min a.toInt b.toInt := by
  show (if a ≤ b then a else b).toInt = _
  rw [min_def]
  simp only [Int64.le_iff_toInt_le]
  split_ifs <;> rfl

/-- The end of the page that starts at position `i`. -/
def pageStop (length : ℕ) (i : ℕ) (m : Int32) : Int64 :=
  min ((UInt64.ofNat (i + 1) - 1).toInt64 + m.toInt64) (Int64.ofNat length)

/-- The page from position `i` on. -/
lemma snapshotsPage_eq (hne : ss ≠ []) (hm : 0 < m) (ht : TokenFor token i)
    (hi : i + 1 < 2 ^ 32) :
    snapshotsPage ss ⟨m, token, v, ""⟩
      = if 0 ≤ pageStop ss.length i m ∧ i ≤ (pageStop ss.length i m).toInt.toNat then
          Except.ok ⟨(ss.take (pageStop ss.length i m).toInt.toNat).drop i,
            if pageStop ss.length i m < Int64.ofNat ss.length - 1 then
              toString (pageStop ss.length i m + 1).toInt else ""⟩
        else Except.error (Err.panic "slice bounds out of range") := by
  have hparse := ht.parse
  rw [if_pos hi] at hparse
  have hm0 : m ≠ 0 := by
    rintro rfl
    exact absurd hm (by decide)
  have hstart : (UInt64.ofNat (i + 1) - 1).toNat = i := by
    simp
    omega
  simp only [snapshotsPage, if_neg hne, hparse, if_neg hm0, hstart]
  rfl

lemma snapshotsPage_of_large (hne : ss ≠ []) (ht : TokenFor token i) (hi : ¬ i + 1 < 2 ^ 32) :
    snapshotsPage ss ⟨m, token, v, ""⟩
      = Except.error (Err.status Code.aborted "the type of startingToken should be integer") := by
  have hparse := ht.parse
  rw [if_neg hi] at hparse
  simp only [snapshotsPage, if_neg hne, hparse]

lemma toInt_pageStop (length : ℕ) (hm : 0 < m) (hi : i + 1 < 2 ^ 32) :
    (pageStop length i m).toInt = min (i + m.toInt) (Int64.ofNat length).toInt := by
  obtain ⟨hlow, hhigh⟩ := toInt_of_pos hm
  have hstart : (UInt64.ofNat (i + 1) - 1).toInt64.toInt = i := by
    have hbmod : ((i : ℕ) : ℤ).bmod Int64.size = i := Int.bmod_eq_of_le (by simp) (by simp; omega)
    simpa using hbmod
  have hsum : ((UInt64.ofNat (i + 1) - 1).toInt64 + m.toInt64).toInt = i + m.toInt := by
    rw [Int64.toInt_add, hstart, Int32.toInt_toInt64, Int.bmod_eq_of_le] <;> omega
  rw [pageStop, toInt_min, hsum]

/-- The token for the position after a page. -/
lemma toString_pageStop {length j : ℕ} (hm : 0 < m) (hi : i + 1 < 2 ^ 32)
    (hj : (pageStop length i m).toInt = j) :
    toString (pageStop length i m + 1).toInt = toString (j + 1) := by
  obtain ⟨hlow, hhigh⟩ := toInt_of_pos hm
  have hmin := toInt_pageStop length hm hi
  have hle : (j : ℤ) ≤ i + m.toInt := hj ▸ hmin.le.trans (min_le_left _ _)
  have hsucc : (pageStop length i m + 1).toInt = ((j + 1 : ℕ) : ℤ) := by
    have hone : (1 : Int64).toInt = 1 := by decide
    rw [Int64.toInt_add, hj, hone, Int.bmod_eq_of_le] <;> omega
  rw [hsucc]
  rfl

/-- What holds of every page, however long the list is. -/
lemma snapshotsPage_bounds (hne : ss ≠ []) (hm : 0 < m) (ht : TokenFor token i)
    (e : snapshotsPage ss ⟨m, token, v, ""⟩ = Except.ok ⟨page, next⟩) :
    i < 2 ^ 32 ∧ ∃ j, i ≤ j ∧ j ≤ i + m.toInt.toNat ∧ page.length ≤ j - i
      ∧ (next = "" ∨ TokenFor next j) := by
  by_cases hi : i + 1 < 2 ^ 32
  · rw [snapshotsPage_eq hne hm ht hi] at e
    split at e
    · rename_i hfit
      obtain ⟨hpage, hnext⟩ := ListSnapshotsResponse.mk.inj (Except.ok.inj e)
      have hpos : 0 ≤ (pageStop ss.length i m).toInt := Int64.le_iff_toInt_le.mp hfit.1
      have hmin := toInt_pageStop ss.length hm hi
      have hm' := (toInt_of_pos hm).1
      refine ⟨by omega, (pageStop ss.length i m).toInt.toNat, hfit.2, by omega, ?_, ?_⟩
      · rw [← hpage, List.length_drop, List.length_take]
        omega
      · rw [← hnext]
        split_ifs
        · exact Or.inr (Or.inr (toString_pageStop hm hi (Int.toNat_of_nonneg hpos).symm))
        · exact Or.inl rfl
    · cases e
  · rw [snapshotsPage_of_large hne ht hi] at e
    cases e

/-- The page of a list whose length is a 64-bit number. -/
lemma snapshotsPage_of_short (hlen : ss.length < 2 ^ 62) (hm : 0 < m) (ht : TokenFor token i)
    (hi : i < ss.length) :
    snapshotsPage ss ⟨m, token, v, ""⟩
      = if i + 1 < 2 ^ 32 then
          Except.ok ⟨(ss.drop i).take m.toInt.toNat,
            if i + m.toInt.toNat + 1 < ss.length then toString (i + m.toInt.toNat + 1) else ""⟩
        else
          Except.error (Err.status Code.aborted "the type of startingToken should be integer") := by
  have hne : ss ≠ [] := List.ne_nil_of_length_pos (by omega)
  by_cases hbig : i + 1 < 2 ^ 32
  · have hm' := (toInt_of_pos hm).1
    have hlen64 : (Int64.ofNat ss.length).toInt = ss.length := by
      rw [Int64.toInt_ofNat', Int.bmod_eq_of_le]
      · simp [Int64.size]
      · simp [Int64.size]
        omega
    have hlast : (Int64.ofNat ss.length - 1).toInt = ss.length - 1 := by
      have hone : (1 : Int64).toInt = 1 := by decide
      rw [Int64.toInt_sub, hlen64, hone, Int.bmod_eq_of_le] <;> omega
    have hmin := toInt_pageStop ss.length hm hbig
    rw [hlen64] at hmin
    have hstop : (pageStop ss.length i m).toInt = (min (i + m.toInt.toNat) ss.length : ℕ) := by
      omega
    have hfit : 0 ≤ pageStop ss.length i m ∧ i ≤ (pageStop ss.length i m).toInt.toNat := by
      refine ⟨Int64.le_iff_toInt_le.mpr ?_, by omega⟩
      rw [hstop]
      exact Int.natCast_nonneg _
    rw [snapshotsPage_eq hne hm ht hbig, if_pos hfit, toString_pageStop hm hbig hstop, hstop,
      Int.toNat_natCast, if_pos hbig, drop_take_min]
    have hnext : pageStop ss.length i m < Int64.ofNat ss.length - 1
        ↔ i + m.toInt.toNat + 1 < ss.length := by
      rw [Int64.lt_iff_toInt_lt, hstop, hlast]
      omega
    congr 2
    simp only [hnext]
    split_ifs with hmore
    · rw [min_eq_left (by omega)]
    · rfl
  · rw [snapshotsPage_of_large hne ht hbig, if_neg hbig]

/-! ## A client of the handler -/

/-- What a listing puts together if it goes through the providers in the order `ps`. -/
def listed (h : Host) (v : String) (ps : GoMap Reflink) : List Snapshot :=
  (ps.entries.map fun e => e.2).flatMap (matching h v)

/-- A call of `ListSnapshots` that goes through the providers in the order `ps` returns the page
and the token, as long as no system call fails. -/
def ReturnsSnapshots (hpc : HostPathController) (h : Host) (m : Int32) (v : String)
    (ps : GoMap Reflink) (token : String) (page : List Snapshot) (next : String) : Prop :=
  ∀ outcomes : ℕ → Outcome, (∀ n, (outcomes n).fault = none) →
    ∃ h', Host.exec { h with outcomes } (HostPathController.listSnapshots ⟨hpc.cfg, ps⟩
      (some ⟨m, token, v, ""⟩)) = (Except.ok ⟨page, next⟩, h')

/-- A client that passes back every token it gets, with the pages it gets.  Call number `k` goes
through the providers in the order `σ k`. -/
inductive SnapshotClient (hpc : HostPathController) (h : Host) (m : Int32) (v : String)
    (σ : ℕ → GoMap Reflink) : ℕ → String → List (List Snapshot) → Prop where
  | last {k : ℕ} {token : String} {page : List Snapshot}
      (hp : hpc.ReturnsSnapshots h m v (σ k) token page "") :
      SnapshotClient hpc h m v σ k token [page]
  | more {k : ℕ} {token next : String} {page : List Snapshot} {rest : List (List Snapshot)}
      (hp : hpc.ReturnsSnapshots h m v (σ k) token page next) (hne : next ≠ "")
      (hr : SnapshotClient hpc h m v σ (k + 1) next rest) :
      SnapshotClient hpc h m v σ k token (page :: rest)

/-- In whatever order each call goes through the providers, the client gets no error, comes to an
end, and the pages put together hold every matching snapshot of every provider exactly once. -/
def PagesSnapshotsCompletely (hpc : HostPathController) (h : Host) (m : Int32) (v : String) :
    Prop :=
  ∀ σ : ℕ → GoMap Reflink, (∀ k, (σ k).entries.Perm hpc.snapshotproviders.entries) →
    ∃ pages, hpc.SnapshotClient h m v σ 0 "" pages
      ∧ pages.flatten.Perm (hpc.providers.flatMap (matching h v))

variable {hpc : HostPathController} {h : Host} {ps : GoMap Reflink} {σ : ℕ → GoMap Reflink}

lemma listed_perm {ps' : GoMap Reflink} (hp : ps.entries.Perm ps'.entries) :
    (listed h v ps).Perm (listed h v ps') := (hp.map _).flatMap_right _

lemma listable_perm (hp : ps.entries.Perm hpc.snapshotproviders.entries) :
    (∀ r ∈ HostPathController.providers ⟨hpc.cfg, ps⟩, r.Listable h)
      ↔ ∀ r ∈ hpc.providers, r.Listable h := by
  have hmem : ∀ r, r ∈ HostPathController.providers ⟨hpc.cfg, ps⟩ ↔ r ∈ hpc.providers :=
    fun r => (hp.map _).mem_iff
  simp only [hmem]

/-- A call returns the page that the token asks for, if all providers can list. -/
lemma returnsSnapshots_iff (hp : ps.entries.Perm hpc.snapshotproviders.entries) :
    hpc.ReturnsSnapshots h m v ps token page next ↔ (∀ r ∈ hpc.providers, r.Listable h)
      ∧ snapshotsPage (listed h v ps) ⟨m, token, v, ""⟩ = Except.ok ⟨page, next⟩ := by
  constructor
  · intro hret
    obtain ⟨h', he⟩ := hret (fun _ => Outcome.fine) fun _ => rfl
    have hall := listable_of_listSnapshots (fun _ => rfl) he
    obtain ⟨h'', he'⟩ := listSnapshots_of_listable m token v (fun _ => rfl) hall
    exact ⟨(listable_perm hp).mp hall, (Prod.mk.inj (he'.symm.trans he)).1⟩
  · rintro ⟨hall, hpage⟩ outcomes hf
    obtain ⟨h', he⟩ := listSnapshots_of_listable (h := { h with outcomes }) m token v hf
      ((listable_perm hp).mpr hall)
    exact ⟨h', he.trans (by rw [← hpage]; rfl)⟩

lemma snapshotsPage_nil (e : snapshotsPage [] ⟨m, token, v, ""⟩ = Except.ok ⟨page, next⟩) :
    token = "" ∧ page = [] ∧ next = "" := by
  simp only [snapshotsPage, if_true] at e
  split_ifs at e with htoken
  cases e
  exact ⟨not_not.mp htoken, rfl, rfl⟩

/-- However many snapshots there are, a client that comes to an end gets fewer than `2 ^ 33`. -/
lemma SnapshotClient.length_le {k : ℕ} {pages : List (List Snapshot)} (hm : 0 < m)
    (hσ : ∀ k, (σ k).entries.Perm hpc.snapshotproviders.entries)
    (hc : hpc.SnapshotClient h m v σ k token pages) (ht : TokenFor token i) :
    pages.flatten.length + i ≤ 2 ^ 32 + 2 ^ 31 := by
  have hhigh := (toInt_of_pos hm).2
  induction hc generalizing i with
  | @last k token page hp =>
      obtain ⟨_, hpage⟩ := (returnsSnapshots_iff (hσ k)).mp hp
      by_cases hne : listed h v (σ k) = []
      · rw [hne] at hpage
        obtain ⟨rfl, rfl, _⟩ := snapshotsPage_nil hpage
        rcases ht with ⟨_, rfl⟩ | hcon
        · simp
        · exact absurd hcon.symm (Strconv.toString_ne_empty _)
      · obtain ⟨hi, j, _, hj, hlen, _⟩ := snapshotsPage_bounds hne hm ht hpage
        rw [List.flatten_singleton]
        omega
  | @more k token next page rest hp hnext _ ih =>
      obtain ⟨_, hpage⟩ := (returnsSnapshots_iff (hσ k)).mp hp
      by_cases hne : listed h v (σ k) = []
      · rw [hne] at hpage
        exact absurd (snapshotsPage_nil hpage).2.2 hnext
      · obtain ⟨_, j, hij, _, hlen, htok⟩ := snapshotsPage_bounds hne hm ht hpage
        have hrest := ih (htok.resolve_left hnext)
        rw [List.flatten_cons, List.length_append]
        omega

/-- Wherever a page of `m` snapshots ends before the list does, at least two snapshots remain, and
the position of the first of them is a 32-bit number. -/
def SnapshotPagesFit (n m : ℕ) : Prop := ∀ k, 0 < k → k * m < n → k * m + 1 < n ∧ k * m + 1 < 2 ^ 32

/-- **The pages of a client** are the pages of the lists that the calls put together, and they end
where at most one snapshot remains. -/
lemma SnapshotClient.pages_eq {k n : ℕ} {ls : List (List Snapshot)} (hm : 0 < m)
    (hσ : ∀ k, (σ k).entries.Perm hpc.snapshotproviders.entries)
    (hlen : ∀ k, (listed h v (σ k)).length = n) (hn : n < 2 ^ 62)
    (hc : hpc.SnapshotClient h m v σ k token ls) (ht : TokenFor token (k * m.toInt.toNat))
    (hk : k * m.toInt.toNat < n) :
    ∃ c, ls = pages m.toInt.toNat k c (fun i => listed h v (σ i))
      ∧ n ≤ (k + c) * m.toInt.toNat + 1
      ∧ ∀ i, k ≤ i → i < k + c →
        i * m.toInt.toNat + 1 < 2 ^ 32 ∧ (k < i → i * m.toInt.toNat + 1 < n) := by
  induction hc with
  | @last k token page hp =>
      obtain ⟨_, hpage⟩ := (returnsSnapshots_iff (hσ k)).mp hp
      rw [snapshotsPage_of_short (by rw [hlen]; exact hn) hm ht (by rw [hlen]; exact hk),
        hlen] at hpage
      split at hpage
      · rename_i hbig
        obtain ⟨rfl, hnext⟩ := ListSnapshotsResponse.mk.inj (Except.ok.inj hpage)
        refine ⟨1, rfl, ?_, fun i h₁ h₂ => ?_⟩
        · by_contra hmore
          rw [Nat.succ_mul] at hmore
          rw [if_pos (by omega)] at hnext
          exact Strconv.toString_ne_empty _ hnext
        · obtain rfl : i = k := by omega
          exact ⟨hbig, fun hcon => absurd hcon (lt_irrefl _)⟩
      · cases hpage
  | @more k token next page rest hp hnext hr ih =>
      obtain ⟨_, hpage⟩ := (returnsSnapshots_iff (hσ k)).mp hp
      rw [snapshotsPage_of_short (by rw [hlen]; exact hn) hm ht (by rw [hlen]; exact hk),
        hlen] at hpage
      split at hpage
      · rename_i hbig
        obtain ⟨rfl, htok⟩ := ListSnapshotsResponse.mk.inj (Except.ok.inj hpage)
        split_ifs at htok with hmore
        · have hmul : (k + 1) * m.toInt.toNat = k * m.toInt.toNat + m.toInt.toNat :=
            Nat.succ_mul k _
          obtain ⟨c, rfl, hend, hall⟩ := ih (Or.inr (by rw [← htok, hmul])) (by omega)
          refine ⟨c + 1, by rw [pages_succ]; rfl, ?_, fun i h₁ h₂ => ?_⟩
          · rwa [Nat.add_right_comm, Nat.add_assoc] at hend
          · rcases h₁.eq_or_lt with rfl | hlt
            · exact ⟨hbig, fun hcon => absurd hcon (lt_irrefl _)⟩
            · obtain ⟨hi, hnext'⟩ := hall i hlt (by omega)
              refine ⟨hi, fun _ => ?_⟩
              rcases (Nat.succ_le_of_lt hlt).eq_or_lt with rfl | hlt'
              · rw [Nat.succ_mul]
                exact hmore
              · exact hnext' hlt'
        · exact absurd htok.symm hnext
      · cases hpage

/-- If every page boundary fits, the client gets all pages from number `k` on. -/
lemma client_of_fit {n : ℕ} (hm : 0 < m)
    (hσ : ∀ k, (σ k).entries.Perm hpc.snapshotproviders.entries)
    (hall : ∀ r ∈ hpc.providers, r.Listable h)
    (hlen : ∀ k, (listed h v (σ k)).length = n) (hn : n < 2 ^ 62)
    (hfit : SnapshotPagesFit n m.toInt.toNat) (k : ℕ)
    (ht : TokenFor token (k * m.toInt.toNat)) (hk : k * m.toInt.toNat < n) :
    ∃ c, n ≤ (k + c) * m.toInt.toNat
      ∧ hpc.SnapshotClient h m v σ k token
        (pages m.toInt.toNat k c fun i => listed h v (σ i)) := by
  have hpos := toNat_pos hm
  have hmul : (k + 1) * m.toInt.toNat = k * m.toInt.toNat + m.toInt.toNat := Nat.succ_mul k _
  have hbig : k * m.toInt.toNat + 1 < 2 ^ 32 := by
    rcases Nat.eq_zero_or_pos k with rfl | hk0
    · simp
    · exact (hfit k hk0 hk).2
  have hpage := snapshotsPage_of_short (v := v) (by rw [hlen k]; exact hn) hm ht
    (by rw [hlen k]; exact hk)
  rw [if_pos hbig, hlen] at hpage
  -- the induction is on the number of snapshots that are left
  induction hd : n - k * m.toInt.toNat using Nat.strong_induction_on generalizing k token with
  | _ left ih =>
  by_cases hlast : (k + 1) * m.toInt.toNat < n
  · obtain ⟨htwo, hbig'⟩ := hfit (k + 1) (by omega) hlast
    rw [if_pos (by omega)] at hpage
    have ht' : TokenFor (toString (k * m.toInt.toNat + m.toInt.toNat + 1))
        ((k + 1) * m.toInt.toNat) := Or.inr (by rw [hmul])
    have hpage' := snapshotsPage_of_short (v := v) (by rw [hlen (k + 1)]; exact hn) hm ht'
      (by rw [hlen (k + 1)]; exact hlast)
    rw [if_pos hbig', hlen] at hpage'
    obtain ⟨c, hend, hrest⟩ := ih (n - (k + 1) * m.toInt.toNat) (by omega) (k + 1) ht' hlast
      (Nat.succ_mul _ _) hbig' hpage' rfl
    refine ⟨c + 1, by rwa [Nat.add_right_comm, Nat.add_assoc] at hend, ?_⟩
    rw [pages_succ]
    exact SnapshotClient.more ((returnsSnapshots_iff (hσ k)).mpr ⟨hall, hpage⟩)
      (Strconv.toString_ne_empty _) hrest
  · rw [if_neg (by omega)] at hpage
    exact ⟨1, by omega, SnapshotClient.last ((returnsSnapshots_iff (hσ k)).mpr ⟨hall, hpage⟩)⟩

/-- Every page holds the same snapshots in every order of the providers. -/
def StablePages (hpc : HostPathController) (h : Host) (m : ℕ) (v : String) : Prop :=
  ∀ ps : GoMap Reflink, ps.entries.Perm hpc.snapshotproviders.entries →
    ∀ k, (slice m k (listed h v ps)).Perm (slice m k (listed h v hpc.snapshotproviders))

/-- If everything fits on one page, the order of the providers does not matter. -/
lemma stablePages_of_length_le {n : ℕ} (hle : (listed h v hpc.snapshotproviders).length ≤ n) :
    hpc.StablePages h n v := by
  intro ps hps k
  have hperm : (listed h v ps).Perm (listed h v hpc.snapshotproviders) := listed_perm hps
  cases k with
  | zero =>
      have hle' : (listed h v ps).length ≤ n := hperm.length_eq.trans_le hle
      rwa [slice, slice, Nat.zero_mul, List.drop_zero, List.drop_zero, List.take_of_length_le hle,
        List.take_of_length_le hle']
  | succ k =>
      have hend : (listed h v hpc.snapshotproviders).length ≤ (k + 1) * n :=
        hle.trans (Nat.le_mul_of_pos_left n k.succ_pos)
      rw [slice_eq_nil hend, slice_eq_nil (hperm.length_eq.trans_le hend)]

/-- If only one provider has matching snapshots, the order of the providers does not matter. -/
lemma stablePages_of_one_provider {n : ℕ} {e : (_ : String) × Reflink}
    (he : e ∈ hpc.snapshotproviders.entries)
    (hother : ∀ e' ∈ hpc.snapshotproviders.entries, e' ≠ e → matching h v e'.2 = []) :
    hpc.StablePages h n v := by
  have hone : ∀ ps : GoMap Reflink, ps.entries.Perm hpc.snapshotproviders.entries →
      listed h v ps = matching h v e.2 := by
    intro ps hps
    rw [listed, List.flatMap_map]
    exact flatMap_eq_of_unique ps.nodupKeys.nodup (hps.mem_iff.mpr he)
      fun e' he' hne => hother e' (hps.mem_iff.mp he') hne
  intro ps hps k
  rw [hone ps hps, hone _ (List.Perm.refl _)]

/-- Only lists that are short enough can have pages that fit. -/
lemma SnapshotPagesFit.length_lt {n : ℕ} (hm : 0 < m) (hfit : SnapshotPagesFit n m.toInt.toNat) :
    n < 2 ^ 62 := by
  by_contra hlong
  have hpos := toNat_pos hm
  have hhigh := (toInt_of_pos hm).2
  -- the first page boundary that is too large for a token
  have hdiv := Nat.div_add_mod (2 ^ 32) m.toInt.toNat
  have hmod := Nat.mod_lt (2 ^ 32) hpos
  have hmul := Nat.succ_mul (2 ^ 32 / m.toInt.toNat) m.toInt.toNat
  rw [Nat.mul_comm] at hdiv
  have hcut := hfit (2 ^ 32 / m.toInt.toNat).succ (Nat.succ_pos _) (by omega)
  omega

/-- The pages of a client that gets every snapshot: they reach the end of the list. -/
lemma SnapshotClient.pages_of_complete {n : ℕ} {ls : List (List Snapshot)} (hm : 0 < m)
    (hσ : ∀ k, (σ k).entries.Perm hpc.snapshotproviders.entries)
    (hlen : ∀ k, (listed h v (σ k)).length = n) (hpos : 0 < n)
    (hc : hpc.SnapshotClient h m v σ 0 "" ls) (hall : ls.flatten.length = n) :
    ∃ c, ls = pages m.toInt.toNat 0 c (fun i => listed h v (σ i)) ∧ n ≤ c * m.toInt.toNat
      ∧ ∀ i, 0 < i → i < c → i * m.toInt.toNat + 1 < n ∧ i * m.toInt.toNat + 1 < 2 ^ 32 := by
  have hbound := hc.length_le hm hσ (Or.inl ⟨rfl, rfl⟩)
  obtain ⟨c, rfl, _, hmid⟩ := hc.pages_eq hm hσ hlen (by omega)
    (Or.inl ⟨rfl, Nat.zero_mul _⟩) (by simpa using hpos)
  refine ⟨c, rfl, ?_, fun i h₁ h₂ => ?_⟩
  · rw [← hall]
    exact length_flatten_pages_le _ _ _ _
  · obtain ⟨hbig, htwo⟩ := hmid i h₁.le (by omega)
    exact ⟨htwo h₁, hbig⟩

/-- A client that gets everything in every order shows that the pages fit and are stable. -/
lemma fit_of_complete (hm : 0 < m) (hc : hpc.PagesSnapshotsCompletely h m v) :
    SnapshotPagesFit (listed h v hpc.snapshotproviders).length m.toInt.toNat
      ∧ hpc.StablePages h m.toInt.toNat v := by
  rcases Nat.eq_zero_or_pos (listed h v hpc.snapshotproviders).length with h0 | hpos
  · refine ⟨fun k _ hk => by omega, fun ps hps k => ?_⟩
    have hnil := (listed_perm (h := h) (v := v) hps).length_eq.trans h0
    rw [List.length_eq_zero_iff.mp hnil, List.length_eq_zero_iff.mp h0]
  · obtain ⟨ls, hclient, hperm⟩ := hc (fun _ => hpc.snapshotproviders) fun _ => List.Perm.refl _
    obtain ⟨c, rfl, hend, hmid⟩ := hclient.pages_of_complete hm (fun _ => List.Perm.refl _)
      (fun _ => rfl) hpos hperm.length_eq
    refine ⟨fun k h₁ hk => hmid k h₁ (lt_of_mul_lt_mul_right (hk.trans_le hend) (Nat.zero_le _)),
      fun ps hps k => ?_⟩
    by_cases hk : k < c
    · -- another order in call number `k` only
      have hσ : ∀ i, (Function.update (fun _ => hpc.snapshotproviders) k ps i).entries.Perm
          hpc.snapshotproviders.entries := by
        intro i
        by_cases hik : i = k
        · subst hik
          rwa [Function.update_self]
        · rw [Function.update_of_ne hik]
      obtain ⟨ls, hclient', hperm'⟩ := hc _ hσ
      obtain ⟨c', rfl, hend', hmid'⟩ := hclient'.pages_of_complete hm hσ
        (fun i => (listed_perm (hσ i)).length_eq) hpos hperm'.length_eq
      obtain rfl : c' = c := by
        rcases lt_trichotomy c c' with hlt | heq | hlt
        · have := (hmid' c (by omega) hlt).1
          omega
        · exact heq.symm
        · rcases Nat.eq_zero_or_pos c' with rfl | h₁
          · rw [Nat.zero_mul] at hend'
            omega
          · have := (hmid c' h₁ hlt).1
            omega
      have hpage := slice_perm_of_pages hk (fun i hi => by rw [Function.update_of_ne hi])
        (hperm'.trans hperm.symm)
      rwa [Function.update_self] at hpage
    · have hle : (listed h v hpc.snapshotproviders).length ≤ k * m.toInt.toNat :=
        hend.trans (Nat.mul_le_mul_right _ (not_lt.mp hk))
      rw [slice_eq_nil hle, slice_eq_nil ((listed_perm hps).length_eq.trans_le hle)]

/-- **When paging through snapshots loses and repeats nothing.** -/
theorem snapshot_paging_complete_iff (hpc : HostPathController) (h : Host) {m : Int32} (hm : 0 < m)
    (v : String) :
    hpc.PagesSnapshotsCompletely h m v ↔ (∀ r ∈ hpc.providers, r.Listable h)
      ∧ SnapshotPagesFit (hpc.providers.flatMap (matching h v)).length m.toInt.toNat
      ∧ hpc.StablePages h m.toInt.toNat v := by
  constructor
  · intro hc
    obtain ⟨pages, hclient, _⟩ := hc (fun _ => hpc.snapshotproviders) fun _ => List.Perm.refl _
    refine ⟨?_, fit_of_complete hm hc⟩
    cases hclient with
    | last hp => exact ((returnsSnapshots_iff (List.Perm.refl _)).mp hp).1
    | more hp _ _ => exact ((returnsSnapshots_iff (List.Perm.refl _)).mp hp).1
  · rintro ⟨hall, hfit, hstable⟩ σ hσ
    have hlen : ∀ k, (listed h v (σ k)).length = (listed h v hpc.snapshotproviders).length :=
      fun k => (listed_perm (hσ k)).length_eq
    rcases Nat.eq_zero_or_pos (listed h v hpc.snapshotproviders).length with h0 | hpos
    · have hnil : listed h v (σ 0) = [] := List.length_eq_zero_iff.mp ((hlen 0).trans h0)
      refine ⟨[[]], SnapshotClient.last ((returnsSnapshots_iff (hσ 0)).mpr ⟨hall, ?_⟩), ?_⟩
      · rw [hnil]
        rfl
      · have hempty : hpc.providers.flatMap (matching h v) = [] := List.length_eq_zero_iff.mp h0
        rw [hempty]
        exact List.Perm.refl _
    · obtain ⟨c, hend, hclient⟩ := client_of_fit hm hσ hall hlen (hfit.length_lt hm) hfit 0
        (Or.inl ⟨rfl, Nat.zero_mul _⟩) (by simpa using hpos)
      refine ⟨_, hclient, (pages_perm fun k => hstable (σ k) (hσ k) k).trans ?_⟩
      rw [flatten_pages_const, Nat.zero_mul, List.drop_zero,
        List.take_of_length_le (by simpa using hend)]
      exact List.Perm.refl _

/-- The node with one more snapshot of the sample volume. -/
def withSnapshot (id : String) (h : Host) : Host :=
  { h with
    fs := (h.fs.create ["snapshots", id, "data"] fun _ => true).create
      ["snapshots", id, "vol"] fun _ => true }

/-- The sample node with two snapshots of its volume, `a` and `b`. -/
def twoSnapshots : Host := withSnapshot "b" (withSnapshot "a" Sample.host)

/-- The sample node with four snapshots of its volume. -/
def fourSnapshots : Host := withSnapshot "d" (withSnapshot "c" twoSnapshots)

/-- Four snapshots are listed completely with pages of two. -/
theorem sample_snapshots_paged :
    (Sample.controller.providers.flatMap (matching fourSnapshots "")).map Snapshot.snapshotId
        = ["a", "b", "c", "d"]
      ∧ Sample.controller.PagesSnapshotsCompletely fourSnapshots 2 "" := by
  have hids : (Sample.controller.providers.flatMap (matching fourSnapshots "")).map
      Snapshot.snapshotId = ["a", "b", "c", "d"] := by
    decide +kernel
  have hlen : (Sample.controller.providers.flatMap (matching fourSnapshots "")).length = 4 :=
    (List.length_map _).symm.trans (congrArg List.length hids)
  refine ⟨hids, (snapshot_paging_complete_iff _ _ (by decide) "").mpr ⟨fun r hr => ?_,
    fun k hk hlt => ?_, stablePages_of_one_provider List.mem_cons_self fun e' he' hne => ?_⟩⟩
  · obtain rfl : r = ⟨"node", "/snapshots", "/pool"⟩ := List.mem_singleton.mp hr
    have hsources : ∀ n ∈ fourSnapshots.fs.list ["snapshots"],
        Reflink.sourceOf fourSnapshots.fs ["snapshots", n] ≠ none := by
      decide +kernel
    refine ⟨["snapshots"], by decide, by decide +kernel, fun n hn => hsources n ?_⟩
    exact fourSnapshots.fs.mem_list.mpr (hn ▸ Option.some_ne_none _)
  · have hm : (2 : Int32).toInt.toNat = 2 := by decide
    rw [hlen, hm] at hlt
    rw [hlen, hm]
    omega
  · exact absurd (List.mem_singleton.mp he') hne

/-- The first page of one is returned without a token, so the client never asks for `b`. -/
theorem last_snapshot_dropped :
    (∃ h', twoSnapshots.exec (Sample.controller.listSnapshots (some ⟨1, "", "", ""⟩))
        = (Except.ok ⟨[⟨"a", "vol", 0, true⟩], ""⟩, h'))
      ∧ (Sample.controller.providers.flatMap (matching twoSnapshots "")).map Snapshot.snapshotId
        = ["a", "b"]
      ∧ ¬ Sample.controller.PagesSnapshotsCompletely twoSnapshots 1 "" := by
  have hfirst : (twoSnapshots.exec
      (Sample.controller.listSnapshots (some ⟨1, "", "", ""⟩))).1.toOption
      = some ⟨[⟨"a", "vol", 0, true⟩], ""⟩ := by
    decide +kernel
  have hall : (Sample.controller.providers.flatMap (matching twoSnapshots "")).map
      Snapshot.snapshotId = ["a", "b"] := by
    decide +kernel
  refine ⟨⟨_, exec_eq_ok hfirst⟩, hall, fun hc => ?_⟩
  have hlen : (listed twoSnapshots "" Sample.controller.snapshotproviders).length = 2 :=
    (List.length_map _).symm.trans (congrArg List.length hall)
  have hfit := (fit_of_complete (by decide) hc).1
  rw [hlen] at hfit
  exact absurd (hfit 1 (by decide) (by decide)).1 (by decide)

end HostPathController

end Hostpath
