import Hostpath.Csi.Listing
import Hostpath.Csi.Runs
import Hostpath.Lib.Slices

/-!
# Paging through the volumes

A client lists all volumes by passing each token it gets back with the next request.  The token is
the base name of the first directory of the next page; the server accepts it only if it is a
number, and looks for the first directory with that base name.

`paging_complete_iff` says **when the client gets every directory exactly once**: the pools can be
read, no directory belongs to two pools, and at every page boundary at least two directories
remain, the first of which has a number as its name and no namesake before it.
-/

namespace Hostpath

open Lib FilePath Prog Host

/-! ## One page -/

namespace HostPathController

/-- A page of `m` directories starts at number `i` if the token asks for it. -/
def StartsAt (dirs : List String) (token : String) (i : ℕ) : Prop :=
  (token = "" ∧ i = 0 ∧ dirs ≠ [])
    ∨ token ≠ "" ∧ (Strconv.parseUint 32 token).isSome = true
      ∧ indexOfStartingToken token dirs = some i

/-- The token that a page of `m` directories from number `i` on is returned with. -/
def tokenAfter (dirs : List String) (i m : ℕ) : String :=
  if i + m + 1 < dirs.length then base (dirs.getD (i + m) "") else ""

lemma base_ne_empty (s : String) : base s ≠ "" := by
  unfold base
  split_ifs with hs
  · decide
  · split
    · decide
    · rename_i e he
      have hmem := List.mem_of_getLast? he
      simpa using (List.mem_filter.mp hmem).2

lemma StartsAt.lt {dirs : List String} {token : String} {i : ℕ} (hs : StartsAt dirs token i) :
    i < dirs.length := by
  rcases hs with ⟨_, rfl, hne⟩ | ⟨_, _, hi⟩
  · exact List.length_pos_iff.mpr hne
  · exact (List.findIdx?_eq_some_iff_getElem.mp hi).1

lemma page_token (dirs : List String) (i m : ℕ) :
    (if min (i + m) dirs.length + 1 < dirs.length then
        base (dirs.getD (min (i + m) dirs.length) "") else "") = tokenAfter dirs i m := by
  unfold tokenAfter
  by_cases hle : i + m ≤ dirs.length
  · rw [min_eq_left hle]
  · rw [if_neg (by omega), if_neg (by omega)]

/-- The page for a token, if the directory it names is found. -/
lemma volumesPage_of_index {d : String} {ds : List String} {m : Int32} (hm : 0 < m)
    {token : String} (htoken : token = "" ∨ (Strconv.parseUint 32 token).isSome = true) :
    volumesPage (d :: ds) ⟨m, token⟩
      = match indexOfStartingToken (if token = "" then base d else token) (d :: ds) with
        | none => Except.error (Err.status Code.invalidArgument
            ("volume " ++ (if token = "" then base d else token) ++ " not found"))
        | some i => Except.ok (((d :: ds).drop i).take m.toInt.toNat,
            tokenAfter (d :: ds) i m.toInt.toNat) := by
  have hguard : ¬ (token ≠ "" ∧ Strconv.parseUint 32 token = none) := by
    rintro ⟨hne, hnone⟩
    rcases htoken with h | h
    · exact hne h
    · simp [hnone] at h
  have hm0 : m ≠ 0 := by
    rintro rfl
    exact absurd hm (by decide)
  simp only [volumesPage, if_neg hguard, if_neg hm0]
  cases indexOfStartingToken (if token = "" then base d else token) (d :: ds) with
  | none => rfl
  | some i =>
      dsimp only
      rw [drop_take_min, page_token]

/-- **What a page holds and how it is continued.** -/
lemma volumesPage_eq_ok {dirs : List String} {m : Int32} (hm : 0 < m) {token : String}
    {page : List String} {next : String} :
    volumesPage dirs ⟨m, token⟩ = Except.ok (page, next)
      ↔ (dirs = [] ∧ token = "" ∧ page = [] ∧ next = "")
        ∨ ∃ i, StartsAt dirs token i ∧ page = (dirs.drop i).take m.toInt.toNat
          ∧ next = tokenAfter dirs i m.toInt.toNat := by
  by_cases htoken : token = "" ∨ (Strconv.parseUint 32 token).isSome = true
  · cases dirs with
    | nil =>
        have hguard : ¬ (token ≠ "" ∧ Strconv.parseUint 32 token = none) := by
          rintro ⟨hne, hnone⟩
          rcases htoken with h | h
          · exact hne h
          · simp [hnone] at h
        rw [volumesPage, if_neg hguard]
        dsimp only
        constructor
        · intro h
          split_ifs at h with ht
          cases h
          exact Or.inl ⟨rfl, not_not.mp ht, rfl, rfl⟩
        · rintro (⟨_, rfl, rfl, rfl⟩ | ⟨i, hs, _⟩)
          · rfl
          · exact absurd hs.lt (by simp)
    | cons d ds =>
        rw [volumesPage_of_index hm htoken]
        have hstart : ∀ i, StartsAt (d :: ds) token i
            ↔ indexOfStartingToken (if token = "" then base d else token) (d :: ds) = some i := by
          intro i
          by_cases ht : token = ""
          · subst ht
            rw [if_pos rfl, indexOfStartingToken_head, Option.some.injEq]
            constructor
            · rintro (⟨_, rfl, _⟩ | ⟨hne, _⟩)
              · rfl
              · exact absurd rfl hne
            · rintro rfl
              exact Or.inl ⟨rfl, rfl, by simp⟩
          · simp [StartsAt, ht, htoken.resolve_left ht]
        constructor
        · intro h
          split at h
          · cases h
          · rename_i i hi
            cases h
            exact Or.inr ⟨i, (hstart i).mpr hi, rfl, rfl⟩
        · rintro (⟨hnil, _⟩ | ⟨i, hs, rfl, rfl⟩)
          · cases hnil
          · rw [(hstart i).mp hs]
  · rw [not_or] at htoken
    have hnone : Strconv.parseUint 32 token = none := by simpa using htoken.2
    simp [volumesPage, htoken.1, hnone, StartsAt]

/-! ## All pages -/

/-- The pages a client gets, as lists of directories. -/
inductive Pages (dirs : List String) (m : Int32) : String → List (List String) → Prop where
  | last {token : String} {page : List String}
      (hp : volumesPage dirs ⟨m, token⟩ = Except.ok (page, "")) : Pages dirs m token [page]
  | more {token next : String} {page : List String} {rest : List (List String)}
      (hp : volumesPage dirs ⟨m, token⟩ = Except.ok (page, next)) (hne : next ≠ "")
      (hr : Pages dirs m next rest) : Pages dirs m token (page :: rest)

/-- Wherever a page of `m` directories ends before the list does, at least two directories remain,
and the name of the first of them is a number that no directory before it has. -/
def PagesFit (dirs : List String) (m : ℕ) : Prop :=
  ∀ k, 0 < k → k * m < dirs.length →
    k * m + 1 < dirs.length
      ∧ (Strconv.parseUint 32 (base (dirs.getD (k * m) ""))).isSome = true
      ∧ indexOfStartingToken (base (dirs.getD (k * m) "")) dirs = some (k * m)

/-- The token for page number `k`. -/
def tokenOf (dirs : List String) (m k : ℕ) : String :=
  if k = 0 then "" else base (dirs.getD (k * m) "")

variable {dirs : List String} {m : Int32}

lemma pages_nil (hm : 0 < m) : Pages [] m "" [[]] :=
  Pages.last ((volumesPage_eq_ok hm).mpr (Or.inl ⟨rfl, rfl, rfl, rfl⟩))

lemma toNat_pos (hm : 0 < m) : 0 < m.toInt.toNat := by
  have h : (0 : Int32).toInt < m.toInt := Int32.lt_iff_toInt_lt.mp hm
  simp at h
  omega

lemma startsAt_of_fit (hfit : PagesFit dirs m.toInt.toNat) (hne : dirs ≠ []) {k : ℕ}
    (hk : k * m.toInt.toNat < dirs.length) :
    StartsAt dirs (tokenOf dirs m.toInt.toNat k) (k * m.toInt.toNat) := by
  unfold tokenOf
  split_ifs with h0
  · subst h0
    exact Or.inl ⟨rfl, by simp, hne⟩
  · obtain ⟨_, hparse, hidx⟩ := hfit k (by omega) hk
    exact Or.inr ⟨base_ne_empty _, hparse, hidx⟩

/-- If every page boundary fits, the pages from number `k` on hold the rest of the list. -/
lemma pages_of_fit (hm : 0 < m) (hfit : PagesFit dirs m.toInt.toNat) (hne : dirs ≠ []) (k : ℕ)
    (hk : k * m.toInt.toNat < dirs.length) :
    ∃ pages, Pages dirs m (tokenOf dirs m.toInt.toNat k) pages
      ∧ pages.flatten = dirs.drop (k * m.toInt.toNat) := by
  have hpos := toNat_pos hm
  have hpage := (volumesPage_eq_ok hm).mpr (Or.inr ⟨_, startsAt_of_fit hfit hne hk, rfl, rfl⟩)
  have hmul : (k + 1) * m.toInt.toNat = k * m.toInt.toNat + m.toInt.toNat := Nat.succ_mul k _
  -- the induction is on the number of directories that are left
  induction hd : dirs.length - k * m.toInt.toNat using Nat.strong_induction_on generalizing k with
  | _ left ih =>
  by_cases hlast : (k + 1) * m.toInt.toNat < dirs.length
  · obtain ⟨htwo, _, _⟩ := hfit (k + 1) (by omega) hlast
    have hnext : tokenAfter dirs (k * m.toInt.toNat) m.toInt.toNat
        = tokenOf dirs m.toInt.toNat (k + 1) := by
      rw [tokenAfter, tokenOf, if_pos (by omega), if_neg (by omega), hmul]
    obtain ⟨rest, hrest, hflat⟩ := ih (dirs.length - (k + 1) * m.toInt.toNat) (by omega) (k + 1)
      hlast ((volumesPage_eq_ok hm).mpr (Or.inr ⟨_, startsAt_of_fit hfit hne hlast, rfl, rfl⟩))
      (Nat.succ_mul _ _) rfl
    rw [hnext] at hpage
    refine ⟨_, Pages.more hpage ?_ hrest, ?_⟩
    · rw [tokenOf, if_neg (by omega)]
      exact base_ne_empty _
    · rw [List.flatten_cons, hflat, hmul, ← List.drop_drop, List.take_append_drop]
  · have hnext : tokenAfter dirs (k * m.toInt.toNat) m.toInt.toNat = "" := if_neg (by omega)
    rw [hnext] at hpage
    refine ⟨_, Pages.last hpage, ?_⟩
    rw [List.flatten_singleton, List.take_of_length_le]
    rw [List.length_drop]
    omega

/-- A client that got the rest of the list started where the rest starts. -/
lemma startsAt_of_pages (hm : 0 < m) (hnd : dirs.Nodup) {token : String} {i : ℕ}
    (hi : i < dirs.length) {pages : List (List String)} (hp : Pages dirs m token pages)
    (hflat : pages.flatten = dirs.drop i) : StartsAt dirs token i := by
  have hpos := toNat_pos hm
  have hfirst : ∃ page next rest, volumesPage dirs ⟨m, token⟩ = Except.ok (page, next)
      ∧ page ++ rest = dirs.drop i := by
    cases hp with
    | last hp => exact ⟨_, _, [], hp, by simpa using hflat⟩
    | more hp hne hr => exact ⟨_, _, _, hp, by simpa using hflat⟩
  obtain ⟨page, next, rest, hpage, happ⟩ := hfirst
  rcases (volumesPage_eq_ok hm).mp hpage with ⟨rfl, _⟩ | ⟨j, hs, rfl, _⟩
  · exact absurd hi (by simp)
  · have hj := hs.lt
    -- both lists start with the same directory, which occurs once
    have hhead : dirs[j] = dirs[i] := by
      have h0 := congrArg List.head? happ
      rw [List.head?_append, List.head?_take, if_neg hpos.ne', List.head?_drop, List.head?_drop,
        List.getElem?_eq_getElem hj, List.getElem?_eq_getElem hi] at h0
      simpa using h0
    rwa [← (hnd.getElem_inj_iff).mp hhead]

lemma fit_of_pages (hm : 0 < m) (hnd : dirs.Nodup)
    {pages : List (List String)} (hp : Pages dirs m "" pages) (hflat : pages.flatten = dirs) :
    PagesFit dirs m.toInt.toNat := by
  have hpos := toNat_pos hm
  have hreach : ∀ k, k * m.toInt.toNat < dirs.length →
      (0 < k → k * m.toInt.toNat + 1 < dirs.length) ∧ ∃ pages,
        Pages dirs m (tokenOf dirs m.toInt.toNat k) pages
          ∧ pages.flatten = dirs.drop (k * m.toInt.toNat) := by
    intro k
    induction k with
    | zero => exact fun _ => ⟨by simp, pages, hp, by simpa using hflat⟩
    | succ k ih =>
        intro hk
        have hmul : (k + 1) * m.toInt.toNat = k * m.toInt.toNat + m.toInt.toNat := Nat.succ_mul k _
        obtain ⟨_, pages, hpk, hfk⟩ := ih (by omega)
        have hs := startsAt_of_pages hm hnd (by omega) hpk hfk
        have hpage := (volumesPage_eq_ok hm).mpr (Or.inr ⟨_, hs, rfl, rfl⟩)
        cases hpk with
        | last hlast =>
            -- the only page would hold the whole rest
            rw [hpage] at hlast
            obtain ⟨rfl, _⟩ := Prod.mk.inj (Except.ok.inj hlast)
            have hlen := congrArg List.length hfk
            rw [List.flatten_singleton, List.length_take, List.length_drop] at hlen
            omega
        | @more _ _ _ rest hmore hnext hrest =>
            rw [hpage] at hmore
            obtain ⟨rfl, rfl⟩ := Prod.mk.inj (Except.ok.inj hmore)
            have htwo : k * m.toInt.toNat + m.toInt.toNat + 1 < dirs.length := by
              by_contra hcon
              exact hnext (if_neg hcon)
            rw [tokenAfter, if_pos htwo] at hrest
            refine ⟨fun _ => by omega, rest, ?_, ?_⟩
            · rw [tokenOf, if_neg (by omega), hmul]
              exact hrest
            · rw [List.flatten_cons] at hfk
              rw [hmul, ← List.drop_drop]
              exact List.append_cancel_left (hfk.trans (List.take_append_drop _ _).symm)
  intro k hk0 hk
  obtain ⟨htwo, pages, hpk, hfk⟩ := hreach k hk
  refine ⟨htwo hk0, ?_⟩
  rcases startsAt_of_pages hm hnd hk hpk hfk with ⟨htoken, _⟩ | ⟨_, hparse, hidx⟩
  all_goals rw [tokenOf, if_neg (by omega)] at *
  · exact absurd htoken (base_ne_empty _)
  · exact ⟨hparse, hidx⟩

/-! ## A client of the handler -/

lemma pools_perm {cfg cfg' : Config} (hre : cfg.Reorders cfg') : cfg'.pools.Perm cfg.pools :=
  hre.pools.map _

/-- The sorted list does not depend on the order of the pools. -/
lemma sortedDirs_reorders {cfg cfg' : Config} (hre : cfg.Reorders cfg') (fs : FileTree FileData) :
    sortedDirs fs cfg'.pools = sortedDirs fs cfg.pools := by
  refine List.Perm.eq_of_pairwise' (List.pairwise_insertionSort _ _)
    (List.pairwise_insertionSort _ _) ?_
  exact (List.perm_insertionSort _ _).trans
    (((pools_perm hre).flatMap_right _).trans (List.perm_insertionSort _ _).symm)

lemma readable_reorders {cfg cfg' : Config} (hre : cfg.Reorders cfg') {fs : FileTree FileData}
    (hr : Readable fs cfg.pools) : Readable fs cfg'.pools := fun info hinfo =>
  hr info ((pools_perm hre).mem_iff.mp hinfo)

/-- A call of `ListVolumes` returns the entries of the directories `page` and the token `next`,
whatever the order of the maps, as long as no system call fails. -/
def Returns (hpc : HostPathController) (h : Host) (m : Int32) (token : String)
    (page : List String) (next : String) : Prop :=
  ∀ cfg', hpc.cfg.Reorders cfg' → ∀ outcomes : ℕ → Outcome, (∀ n, (outcomes n).fault = none) →
    volumesPage (sortedDirs h.fs cfg'.pools) ⟨m, token⟩ = Except.ok (page, next)
      ∧ ∃ entries h', EntriesOf ⟨cfg', hpc.snapshotproviders⟩ { h with outcomes } page entries
        ∧ Host.exec { h with outcomes } (HostPathController.listVolumes
          ⟨cfg', hpc.snapshotproviders⟩ (some ⟨m, token⟩)) = (Except.ok ⟨entries, next⟩, h')

/-- A client that starts with a token and passes back every token it gets, with the directories of
each page it gets. -/
inductive Client (hpc : HostPathController) (h : Host) (m : Int32) :
    String → List (List String) → Prop where
  | last {token : String} {page : List String} (hp : hpc.Returns h m token page "") :
      Client hpc h m token [page]
  | more {token next : String} {page : List String} {rest : List (List String)}
      (hp : hpc.Returns h m token page next) (hne : next ≠ "") (hr : Client hpc h m next rest) :
      Client hpc h m token (page :: rest)

/-- The client gets no error, comes to an end, and gets every volume directory exactly once, in
order. -/
def PagesCompletely (hpc : HostPathController) (h : Host) (m : Int32) : Prop :=
  ∃ pages, hpc.Client h m "" pages ∧ pages.flatten = sortedDirs h.fs hpc.cfg.pools
    ∧ pages.flatten.Nodup

variable {hpc : HostPathController} {h : Host}

lemma returns_iff (hm : 0 < m) {token next : String} {page : List String} :
    hpc.Returns h m token page next ↔ Readable h.fs hpc.cfg.pools
      ∧ volumesPage (sortedDirs h.fs hpc.cfg.pools) ⟨m, token⟩ = Except.ok (page, next) := by
  constructor
  · intro hret
    obtain ⟨hpage, entries, h', _, he⟩ := hret hpc.cfg (Config.Reorders.refl _)
      (fun _ => Outcome.fine) fun _ => rfl
    exact ⟨(listVolumes_ok he).2.1, hpage⟩
  · rintro ⟨hr, hpage⟩ cfg' hre outcomes hf
    rw [sortedDirs_reorders hre]
    refine ⟨hpage, ?_⟩
    have hmax : ¬ m < 0 := by
      rw [Int32.lt_iff_toInt_lt] at hm ⊢
      omega
    rw [← sortedDirs_reorders hre] at hpage
    exact listVolumes_of_noFaults ⟨cfg', hpc.snapshotproviders⟩ (h := { h with outcomes }) hf
      (readable_reorders hre hr) hmax hpage

lemma client_iff (hm : 0 < m) {token : String} {pages : List (List String)} :
    hpc.Client h m token pages ↔ Readable h.fs hpc.cfg.pools
      ∧ Pages (sortedDirs h.fs hpc.cfg.pools) m token pages := by
  constructor
  · intro hc
    induction hc with
    | last hp =>
        obtain ⟨hr, hpage⟩ := (returns_iff hm).mp hp
        exact ⟨hr, Pages.last hpage⟩
    | more hp hne _ ih => exact ⟨ih.1, Pages.more ((returns_iff hm).mp hp).2 hne ih.2⟩
  · rintro ⟨hr, hp⟩
    induction hp with
    | last hp => exact Client.last ((returns_iff hm).mpr ⟨hr, hp⟩)
    | more hp hne _ ih => exact Client.more ((returns_iff hm).mpr ⟨hr, hp⟩) hne ih

/-- **When paging loses and repeats nothing.** -/
theorem paging_complete_iff (hpc : HostPathController) (h : Host) {m : Int32} (hm : 0 < m) :
    hpc.PagesCompletely h m ↔ Readable h.fs hpc.cfg.pools
      ∧ (sortedDirs h.fs hpc.cfg.pools).Nodup
      ∧ PagesFit (sortedDirs h.fs hpc.cfg.pools) m.toInt.toNat := by
  constructor
  · rintro ⟨pages, hc, hflat, hnd⟩
    obtain ⟨hr, hp⟩ := (client_iff hm).mp hc
    rw [hflat] at hnd
    exact ⟨hr, hnd, fit_of_pages hm hnd hp hflat⟩
  · rintro ⟨hr, hnd, hfit⟩
    by_cases hne : sortedDirs h.fs hpc.cfg.pools = []
    · refine ⟨[[]], (client_iff hm).mpr ⟨hr, ?_⟩, by rw [hne]; rfl, by simp⟩
      rw [hne]
      exact pages_nil hm
    · obtain ⟨pages, hp, hflat⟩ := pages_of_fit hm hfit hne 0 (by
        rw [Nat.zero_mul]
        exact List.length_pos_iff.mpr hne)
      rw [Nat.zero_mul, List.drop_zero] at hflat
      exact ⟨pages, (client_iff hm).mpr ⟨hr, hp⟩, hflat, hflat ▸ hnd⟩

/-- The sample node with three more volumes, whose names are numbers. -/
def numberedVolumes : Host :=
  { Sample.host with
    fs := ((Sample.host.fs.create ["pool", "1"] fun _ => true).create
      ["pool", "2"] fun _ => true).create ["pool", "3"] fun _ => true }

/-- Four volumes are listed completely with pages of two, because the second page starts with a
number. -/
theorem sample_pages_completely :
    sortedDirs numberedVolumes.fs Sample.controller.cfg.pools
        = ["/pool/1", "/pool/2", "/pool/3", "/pool/vol"]
      ∧ Sample.controller.PagesCompletely numberedVolumes 2 := by
  have hdirs : sortedDirs numberedVolumes.fs Sample.controller.cfg.pools
      = ["/pool/1", "/pool/2", "/pool/3", "/pool/vol"] := by
    decide +kernel
  refine ⟨hdirs, (paging_complete_iff _ _ (by decide)).mpr ?_⟩
  rw [hdirs]
  refine ⟨fun info hinfo => ?_, by decide, fun k hk hlt => ?_⟩
  · obtain rfl : info = Sample.pool := List.mem_singleton.mp hinfo
    exact ⟨["pool"], by decide, by decide⟩
  · have hm : (2 : Int32).toInt.toNat = 2 := by decide
    rw [hm] at hlt ⊢
    obtain rfl : k = 1 := by
      simp only [List.length_cons, List.length_nil] at hlt
      omega
    decide +kernel

/-- The sample node with two more volumes, `a` and `b`. -/
def threeVolumes : Host :=
  { Sample.host with
    fs := (Sample.host.fs.create ["pool", "a"] fun _ => true).create ["pool", "b"] fun _ => true }

/-- The first page is returned with the token `b`, which the second call does not accept. -/
theorem own_token_rejected :
    (∃ entries h', threeVolumes.exec (Sample.controller.listVolumes (some ⟨1, ""⟩))
        = (Except.ok ⟨entries, "b"⟩, h'))
      ∧ (∃ err h', threeVolumes.exec (Sample.controller.listVolumes (some ⟨1, "b"⟩))
        = (Except.error err, h'))
      ∧ ¬ Sample.controller.PagesCompletely threeVolumes 1 := by
  have hfirst : (threeVolumes.exec (Sample.controller.listVolumes (some ⟨1, ""⟩))).1.toOption
      = some ⟨[⟨"a", 0, ["node"], ⟨true, "No space left on device"⟩⟩], "b"⟩ := by
    decide +kernel
  have hsecond : (threeVolumes.exec
      (Sample.controller.listVolumes (some ⟨1, "b"⟩))).1.toOption.isNone = true := by
    decide +kernel
  obtain ⟨err, hsecond⟩ := exec_eq_error hsecond
  refine ⟨⟨_, _, exec_eq_ok hfirst⟩, ⟨err, _, hsecond⟩, ?_⟩
  rintro ⟨pages, hc, hflat, hnd⟩
  have hm : (0 : Int32) < 1 := by decide
  obtain ⟨_, hp⟩ := (client_iff hm).mp hc
  have hfit := fit_of_pages hm (hflat ▸ hnd) hp hflat 1 (by decide) (by decide +kernel)
  exact absurd hfit.2.1 (by decide +kernel)

end HostPathController

end Hostpath
