import Hostpath.Legacy.VolumeStore

/-!
# Whether the store tells the truth

A store with backoff should return no error exactly if the object is stored: the controller forgets
the claim if there is no error, and makes the volume again if there is one.

**One loop.**  `save_loop` says what the attempts to store the object do, in terms of the outcomes
of the calls to come.

**The store.**  What it returns is the last error of the first loop.  If there was no attempt there
is no error either, and an attempt that is reported as failed may have had its effect.
`truthful_iff` gives the exact condition.
-/

namespace Hostpath.Legacy

open Lib Prog

section Truth

variable {w w' : Cluster} {volume : PersistentVolume} {b : Backoff}

/-! ## One attempt -/

/-- **What one attempt to store the object does.**  If the call is answered the object is stored, and
otherwise it is stored if it was, or if the call has its effect nevertheless. -/
lemma trySave_cases (w : Cluster) (volume : PersistentVolume) (last : Option ApiError) :
    ∃ ok last' w', w.exec (trySave volume last) = (Except.ok (ok, last'), w')
      ∧ (∀ n, w'.fault n = w.fault (n + 1))
      ∧ (ok = true ↔ w.fault 0 = none)
      ∧ (ok = false → last' ≠ none)
      ∧ (w'.Stored volume.name ↔ w.Stored volume.name ∨ w.fault 0 ≠ some false) := by
  obtain ⟨hstored, hout⟩ := w.api.tick.create_stored volume
  have hlater : ∀ n, ((w.api.tick.create volume).2.outcomes n).fault
      = (w.api.outcomes (n + 1)).fault := fun n => by rw [hout]; rfl
  rw [trySave, Cluster.exec_perform_eq]
  unfold Cluster.fault Cluster.Stored
  rcases hf : (w.api.outcomes 0).fault with _ | _ | _
  · -- the call is answered, with the object or with the news that it is there
    refine ⟨true, last, { w with api := (w.api.tick.create volume).2 }, ?_, hlater, by simp, by simp,
      by simp [hstored]⟩
    cases hs : w.api.volumes volume.name with
    | none => simp [Cluster.step, Api.change, hf, Api.create, Api.tick, hs]
    | some old =>
        simp [Cluster.step, Api.change, hf, Api.create, Api.tick, hs, Api.alreadyExists]
  · refine ⟨false, some Api.unavailable, { w with api := w.api.tick }, ?_, fun n => rfl, by simp,
      by simp, by simp [Api.tick]⟩
    simp [Cluster.step, Api.change, hf, Api.unavailable]
  · refine ⟨false, some Api.unavailable, { w with api := (w.api.tick.create volume).2 }, ?_, hlater,
      by simp, by simp, by simp [hstored]⟩
    simp [Cluster.step, Api.change, hf, Api.unavailable]

/-! ## The loops -/

/-- How often a condition that never holds is called: at most as often as there are steps, and less
often if the durations reach the cap. -/
def Backoff.attemptsFrom : ℕ → Backoff → ℕ
  | 0, _ => 0
  | n + 1, b =>
      if 0 < b.steps then (if b.steps = 1 then 1 else attemptsFrom n b.step + 1) else 0

def Backoff.attempts (b : Backoff) : ℕ := attemptsFrom b.steps.toNat b

lemma Backoff.attempts_eq_zero : b.attempts = 0 ↔ b.steps ≤ 0 := by
  unfold Backoff.attempts
  rcases hn : b.steps.toNat with _ | n
  · exact iff_of_true rfl (by omega)
  · rw [Backoff.attemptsFrom, if_pos (by omega)]
    refine iff_of_false ?_ (by omega)
    split_ifs <;> simp

/-- One round of a loop. -/
lemma exec_backoff_round {S : Type} {condition : S → Ctl NodeReply (Bool × S)} {n : ℕ} {s s' : S}
    {ok : Bool} (hsteps : 0 < b.steps) (hex : w.exec (condition s) = (Except.ok (ok, s'), w')) :
    w.exec (exponentialBackoff condition (n + 1) b s)
      = if ok = true then (Except.ok (true, s'), w')
        else if b.steps = 1 then (Except.ok (false, s'), w')
        else w'.exec (exponentialBackoff condition n b.step s') := by
  rw [exponentialBackoff, if_pos hsteps]
  refine (exec_bind_of_ok Cluster.step hex).trans ?_
  dsimp only
  split_ifs <;> rfl

/-- A loop keeps what its condition keeps, and returns if the condition does. -/
lemma exponentialBackoff_keeps {S : Type} {condition : S → Ctl NodeReply (Bool × S)}
    {I : Cluster → Prop}
    (hcond : ∀ w s, I w → ∃ r w', w.exec (condition s) = (Except.ok r, w') ∧ I w')
    (n : ℕ) (b : Backoff) (s : S) (hw : I w) :
    ∃ r w', w.exec (exponentialBackoff condition n b s) = (Except.ok r, w') ∧ I w' := by
  induction n generalizing w b s with
  | zero => exact ⟨_, w, rfl, hw⟩
  | succ n ih =>
      by_cases hsteps : 0 < b.steps
      · obtain ⟨⟨ok, s'⟩, w₁, hex, hw₁⟩ := hcond w s hw
        rw [exec_backoff_round hsteps hex]
        split_ifs
        · exact ⟨_, w₁, rfl, hw₁⟩
        · exact ⟨_, w₁, rfl, hw₁⟩
        · exact ih b.step s' hw₁
      · rw [exponentialBackoff, if_neg hsteps]
        exact ⟨_, w, rfl, hw⟩

/-- **What the attempts to store the object do**: one that is answered ends them. -/
lemma save_loop (volume : PersistentVolume) (n : ℕ) (b : Backoff) (w : Cluster)
    (last : Option ApiError) :
    ∃ saved last' w', w.exec (exponentialBackoff (trySave volume) n b last)
        = (Except.ok (saved, last'), w')
      ∧ (saved = true ↔ ∃ k < b.attemptsFrom n, w.fault k = none)
      ∧ (saved = true → w'.Stored volume.name)
      ∧ (saved = false → (w'.Stored volume.name
          ↔ w.Stored volume.name ∨ ∃ k < b.attemptsFrom n, w.fault k = some true)
        ∧ (last' = none ↔ last = none ∧ b.attemptsFrom n = 0)) := by
  induction n generalizing w b last with
  | zero =>
      exact ⟨false, last, w, rfl, by simp [Backoff.attemptsFrom], by simp,
        fun _ => by simp [Backoff.attemptsFrom]⟩
  | succ n ih =>
      by_cases hsteps : 0 < b.steps
      · obtain ⟨ok, last₁, w₁, hex, hlater, hok, hlast, hstored⟩ := trySave_cases w volume last
        rw [exec_backoff_round hsteps hex, Backoff.attemptsFrom, if_pos hsteps]
        cases ok with
        | true =>
            have hnone := hok.mp rfl
            have hfirst : ∃ k < (if b.steps = 1 then 1 else b.step.attemptsFrom n + 1),
                w.fault k = none := ⟨0, by split_ifs <;> omega, hnone⟩
            exact ⟨true, last₁, w₁, rfl, iff_of_true rfl hfirst,
              fun _ => hstored.mpr (Or.inr (by simp [hnone])), by simp⟩
        | false =>
            have hfail : w.fault 0 ≠ none := fun hnone => by simpa using hok.mpr hnone
            have heffect : w.fault 0 ≠ some false ↔ w.fault 0 = some true := by
              rcases hf : w.fault 0 with _ | _ | _ <;> simp_all
            rw [heffect] at hstored
            by_cases hone : b.steps = 1
            · refine ⟨false, last₁, w₁, by simp [hone], ?_, by simp, fun _ => ?_⟩
              · simp [hone, hfail]
              · simp [hone, hstored, hlast]
            · obtain ⟨saved, last', w', hrest, hsaved, hthere, hnot⟩ := ih b.step w₁ last₁
              simp only [hlater] at hsaved hnot
              refine ⟨saved, last', w', by simp [hone, hrest], ?_, hthere, fun hs => ?_⟩
              · rw [hsaved, if_neg hone, Nat.exists_lt_succ_left]
                simp [hfail]
              · obtain ⟨hst, hlast'⟩ := hnot hs
                rw [hst, hstored, hlast', if_neg hone, Nat.exists_lt_succ_left]
                refine ⟨or_assoc, ?_⟩
                simp [hlast rfl]
      · rw [exponentialBackoff, if_neg hsteps, Backoff.attemptsFrom, if_neg hsteps]
        exact ⟨false, last, w, rfl, by simp, by simp, fun _ => by simp⟩

/-! ## The store -/

/-- The provisioner's `Delete` of the volume returns, and the objects stay as they are. -/
def DeleteReturns (provisioner : Provisioner NodeReply) (volume : PersistentVolume) : Prop :=
  ∀ w : Cluster, ∃ r w', w.exec (provisioner.delete volume) = (Except.ok r, w')
    ∧ w'.api.volumes = w.api.volumes

namespace BackoffStore

/-- The store returns no error only if the object is stored, and an error only if it is not. -/
def Truthful (backoff : Backoff) (provisioner : Provisioner NodeReply) (volume : PersistentVolume)
    (w : Cluster) : Prop :=
  ∃ res w', w.exec (storeVolume backoff provisioner volume) = (Except.ok res, w')
    ∧ (res = none → w'.Stored volume.name) ∧ (res ≠ none → ¬ w'.Stored volume.name)

/-- **What the store does**: it returns no error if an attempt was answered, or none was made. -/
lemma storeVolume_returns {provisioner : Provisioner NodeReply}
    (hdel : DeleteReturns provisioner volume) (b : Backoff) (w : Cluster) :
    ∃ res w', w.exec (storeVolume b provisioner volume) = (Except.ok res, w')
      ∧ (res = none ↔ (∃ k < b.attempts, w.fault k = none) ∨ b.attempts = 0)
      ∧ (w'.Stored volume.name ↔ w.Stored volume.name
        ∨ ∃ k < b.attempts, w.fault k = none ∨ w.fault k = some true) := by
  obtain ⟨saved, last, w₁, hloop, hsaved, hthere, hnot⟩ :=
    save_loop volume b.steps.toNat b w none
  rw [storeVolume]
  cases saved with
  | true =>
      obtain ⟨k, hk, hnone⟩ := hsaved.mp rfl
      refine ⟨none, w₁, (exec_bind_of_ok Cluster.step hloop).trans rfl, ?_, ?_⟩
      · exact iff_of_true rfl (Or.inl ⟨k, hk, hnone⟩)
      · exact iff_of_true (hthere rfl) (Or.inr ⟨k, hk, Or.inl hnone⟩)
  | false =>
      obtain ⟨hst, hlast⟩ := hnot rfl
      have hcond : ∀ (m : Cluster) (e : Option GoError), m.api.volumes = w₁.api.volumes →
          ∃ r m', m.exec (tryDelete provisioner volume e) = (Except.ok r, m')
            ∧ m'.api.volumes = w₁.api.volumes := by
        intro m e hm
        obtain ⟨r, m', hex, hm'⟩ := hdel m
        cases r with
        | none => exact ⟨_, m', exec_bind_of_ok Cluster.step hex, hm'.trans hm⟩
        | some err => exact ⟨_, m', exec_bind_of_ok Cluster.step hex, hm'.trans hm⟩
      obtain ⟨r, w₂, hclean, hsame⟩ := exponentialBackoff_keeps
        (I := fun m => m.api.volumes = w₁.api.volumes) hcond b.steps.toNat b none rfl
      refine ⟨_, w₂, (exec_bind_of_ok Cluster.step hloop).trans
        (exec_bind_of_ok Cluster.step hclean), ?_, ?_⟩
      · have hno : ¬ ∃ k < b.attempts, w.fault k = none := fun h => by simpa using hsaved.mpr h
        rw [Option.map_eq_none_iff, hlast, or_iff_right hno]
        exact and_iff_right rfl
      · have hno : ∀ k < b.attempts, w.fault k ≠ none := fun k hk hnone => by
          simpa using hsaved.mpr ⟨k, hk, hnone⟩
        rw [Cluster.Stored, hsame]
        refine hst.trans (or_congr_right (exists_congr fun k => and_congr_right fun hk => ?_))
        rw [or_iff_right (hno k hk)]

/--
  **When the store tells the truth**: if there is at least one attempt, or the object was stored
  before; and if some attempt is answered, or the object was not stored before and no attempt is
  reported as failed after it had its effect.
-/
theorem truthful_iff {provisioner : Provisioner NodeReply} (hdel : DeleteReturns provisioner volume) :
    Truthful b provisioner volume w
      ↔ (b.steps ≤ 0 → w.Stored volume.name)
        ∧ (0 < b.steps → (∀ k < b.attempts, w.fault k ≠ none) →
          ¬ w.Stored volume.name ∧ ∀ k < b.attempts, w.fault k ≠ some true) := by
  obtain ⟨res, w', hex, hres, hstored⟩ := storeVolume_returns hdel b w
  have htruth : Truthful b provisioner volume w
      ↔ (res = none → w'.Stored volume.name) ∧ (res ≠ none → ¬ w'.Stored volume.name) := by
    constructor
    · rintro ⟨res', m, hex', htrue⟩
      cases hex.symm.trans hex'
      exact htrue
    · exact fun htrue => ⟨res, w', hex, htrue⟩
  rw [htruth, Ne, hres, hstored, Backoff.attempts_eq_zero]
  constructor
  · rintro ⟨hnil, herr⟩
    constructor
    · intro hzero
      have hnoattempt := Backoff.attempts_eq_zero.mpr hzero
      rcases hnil (Or.inr hzero) with hst | ⟨k, hk, _⟩
      · exact hst
      · omega
    · intro hpos hfail
      have hno : ¬ ((∃ k < b.attempts, w.fault k = none) ∨ b.steps ≤ 0) := by
        rintro (⟨k, hk, hnone⟩ | hzero)
        · exact hfail k hk hnone
        · omega
      have hnot := herr hno
      exact ⟨fun hst => hnot (Or.inl hst), fun k hk ht => hnot (Or.inr ⟨k, hk, Or.inr ht⟩)⟩
  · rintro ⟨hzero, hfails⟩
    constructor
    · rintro (⟨k, hk, hnone⟩ | hz)
      · exact Or.inr ⟨k, hk, Or.inl hnone⟩
      · exact Or.inl (hzero hz)
    · intro hno hst
      push Not at hno
      obtain ⟨hfail, hpos⟩ := hno
      obtain ⟨hbefore, hlost⟩ := hfails hpos hfail
      rcases hst with hst | ⟨k, hk, hnone | ht⟩
      · exact hbefore hst
      · exact hfail k hk hnone
      · exact hlost k hk ht

end BackoffStore

/-- The host path provisioner's `Delete` returns for a volume that has a path. -/
lemma HostPathProvisioner.deleteReturns (p : HostPathProvisioner) {path : String}
    (hpath : volume.hostPath = some path) : DeleteReturns p.provisioner volume := by
  intro w
  show ∃ r w', w.exec (p.delete volume) = (Except.ok r, w') ∧ w'.api.volumes = w.api.volumes
  unfold HostPathProvisioner.delete
  rw [hpath]
  split
  · exact ⟨_, w, rfl, rfl⟩
  · split_ifs
    · exact ⟨_, w, rfl, rfl⟩
    · exact ⟨_, w, rfl, rfl⟩
    · rw [HostPathProvisioner.exec_onNode]
      generalize (w.step (Call.backend ⟨p.nodeName, Syscall.removeAll path⟩)).1 = r
      cases r with
      | ok u => exact ⟨none, _, rfl, rfl⟩
      | error e => exact ⟨some (GoError.plain e.text), _, rfl, rfl⟩

end Truth

/-! ## A store that lies -/

namespace Sample

def provisioner : HostPathProvisioner := ⟨"/pv", defaultProvisionerName, "node", false⟩

def claim : PersistentVolumeClaim where
  ns := "default"
  name := "claim"
  uid := "1"
  annotations := (AList.singleton annProvisionOnNode "node")
  volumeName := ""
  storageClassName := some "hostpath"
  volumeMode := none
  storageRequest := 0

def storageClass : StorageClass :=
  ⟨"hostpath", defaultProvisionerName, some PersistentVolumeReclaimPolicy.delete,
    some VolumeBindingMode.waitForFirstConsumer⟩

def volume : PersistentVolume := provisioner.newVolume ⟨storageClass, "pvc-1", claim, none⟩ 0

def host : Host where
  fs := FileTree.empty.create ["pv"] fun _ => true
  mounts := []
  ctime := fun _ => 0
  now := 0
  outcomes := fun _ => Outcome.fine

/-- Nothing is stored yet, and the calls to the API server fail as given. -/
def cluster (fault : ℕ → Option Bool) : Cluster where
  api := ⟨fun _ => none, [], fun n => ⟨fault n, fun _ => Except.ok (some storageClass)⟩⟩
  hosts := fun _ => host

/-- What the store returns with these options, and whether the object is stored then. -/
def stored (o : StoreOptions) (fault : ℕ → Option Bool) : Option (Option GoError) × Bool :=
  let r := (cluster fault).exec (BackoffStore.storeVolume (o.backoff id) provisioner.provisioner volume)
  (r.1.toOption, (r.2.api.volumes volume.name).isSome)

end Sample

/-- The first two attempts fail, the third is answered, and the store says so. -/
theorem sample_truthful :
    BackoffStore.Truthful (StoreOptions.none.backoff id) Sample.provisioner.provisioner Sample.volume
      (Sample.cluster fun n => if n < 2 then some false else none) := by
  refine Iff.mpr (BackoffStore.truthful_iff
    (Sample.provisioner.deleteReturns
      (show Sample.volume.hostPath = some "/pv/pvc-1" by decide))) ?_
  refine ⟨fun h => absurd h (by decide), fun _ hfail => ?_⟩
  exact absurd rfl (hfail 2 (by decide))

/-- Options with no attempts are accepted: the store returns no error and nothing is stored.  With
the default options, an attempt that is reported as failed after it had its effect, and four that
just fail, make it return an error though the object is stored. -/
theorem store_lies :
    (∀ x ∈ [StoreOptions.none.withBackoff ⟨10, some id, 0, 0⟩, StoreOptions.none.withRetryCount (-1)],
      ∃ o, x = Except.ok o ∧ Sample.stored o (fun _ => none) = (some none, false))
      ∧ Sample.stored StoreOptions.none (fun n => some (n = 0))
        = (some (some (GoError.plain Api.unavailable.message)), true) := by
  refine ⟨fun x hx => ?_, by decide +kernel⟩
  rcases List.mem_cons.mp hx with rfl | hx
  · exact ⟨_, rfl, by decide +kernel⟩
  · obtain rfl := List.mem_singleton.mp hx
    exact ⟨_, rfl, by decide +kernel⟩

end Hostpath.Legacy
