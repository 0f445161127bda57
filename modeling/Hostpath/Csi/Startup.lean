import Hostpath.Csi.Runs

/-!
# What the driver starts with

The constructor decodes a list of pools, puts them into a map under their names, makes their
directories, and sets up a snapshot provider for every pool that has one configured.  The handlers
rely on what it leaves behind (`Established`): there is a default pool, every name stands for the
last pool of that name, and the providers work on the directories of their pools.

`starts_well_iff` says when the constructor returns an error or leaves all this.  Two kinds of
lists are in the way, and nothing else.  An empty list is accepted although there is no default pool
then; and a pool with a provider but without a snapshot path ends the process.

Both loops of the constructor run over a map, each in an order of its own that changes from start to
start, so `Returns` has every order of either.
-/

namespace Hostpath

open Lib FilePath Prog Host

variable {cfg cfg' : Config} {pools : List StoragePoolInfo} {h : Host}

/-! ## The map of the pools -/

/-- The last pool of that name. -/
def lastOf (pools : List StoragePoolInfo) (a : String) : Option StoragePoolInfo :=
  pools.reverse.find? fun p => p.name = a

lemma lastOf_snoc (pools : List StoragePoolInfo) (p : StoragePoolInfo) (a : String) :
    lastOf (pools ++ [p]) a = if p.name = a then some p else lastOf pools a := by
  simp only [lastOf, List.reverse_append, List.reverse_singleton, List.singleton_append]
  split_ifs with h
  · exact List.find?_cons_of_pos (by simpa using h)
  · exact List.find?_cons_of_neg (by simpa using h)

lemma lastOf_ne_none_iff {a : String} : lastOf pools a ≠ none ↔ a ∈ pools.map (·.name) := by
  simp [lastOf]

lemma withPools_snoc_pools (cfg : Config) (pools : List StoragePoolInfo) (p : StoragePoolInfo) :
    (cfg.withPools (pools ++ [p])).storagePoolInfo
      = (cfg.withPools pools).storagePoolInfo.insert p.name p := by
  unfold Config.withPools
  rw [List.foldl_append]
  rfl

lemma withPools_snoc_default (cfg : Config) (pools : List StoragePoolInfo) (p : StoragePoolInfo) :
    (cfg.withPools (pools ++ [p])).defaultStoragePoolName
      = if (cfg.withPools pools).defaultStoragePoolName = "" then p.name
        else (cfg.withPools pools).defaultStoragePoolName := by
  unfold Config.withPools
  rw [List.foldl_append]
  rfl

lemma lookup_withPools (cfg : Config) (pools : List StoragePoolInfo) (a : String) :
    (cfg.withPools pools).storagePoolInfo.lookup a = lastOf pools a := by
  induction pools using List.reverseRecOn with
  | nil => rfl
  | append_singleton pools p ih =>
      rw [withPools_snoc_pools, lastOf_snoc]
      split_ifs with h
      · subst h
        exact AList.lookup_insert _
      · exact (AList.lookup_insert_ne (Ne.symm h)).trans ih

/-- A default pool that is set stays. -/
lemma withPools_default_of_ne (hd : cfg.defaultStoragePoolName ≠ "") :
    (cfg.withPools pools).defaultStoragePoolName = cfg.defaultStoragePoolName := by
  induction pools using List.reverseRecOn with
  | nil => rfl
  | append_singleton pools p ih =>
      rw [withPools_snoc_default, ih, if_neg hd]

/-- A default pool that is taken from the list is in the list. -/
lemma lastOf_default (hd : cfg.defaultStoragePoolName = "") (hne : pools ≠ []) :
    lastOf pools (cfg.withPools pools).defaultStoragePoolName ≠ none := by
  induction pools using List.reverseRecOn with
  | nil => exact absurd rfl hne
  | append_singleton pools p ih =>
      rw [withPools_snoc_default, lastOf_snoc]
      split_ifs with h₁ h₂ h₂
      · simp
      · exact absurd rfl h₂
      · simp
      · refine ih fun hnil => h₁ ?_
        rw [hnil]
        exact hd

/-- The default pool is in the list, or there is one to take from the list. -/
def Config.DefaultAmong (cfg : Config) (pools : List StoragePoolInfo) : Prop :=
  if cfg.defaultStoragePoolName = "" then pools ≠ []
  else cfg.defaultStoragePoolName ∈ pools.map (·.name)

lemma defaultAmong_iff : cfg.DefaultAmong pools
    ↔ lastOf pools (cfg.withPools pools).defaultStoragePoolName ≠ none := by
  unfold Config.DefaultAmong
  split_ifs with hd
  · refine ⟨lastOf_default hd, ?_⟩
    rintro h rfl
    exact h rfl
  · rw [withPools_default_of_ne hd, lastOf_ne_none_iff]

/-! ## The directories -/

/-- Making a directory fails for the empty path only. -/
def MakesDirs (h : Host) : Syscall → Prop
  | Syscall.mkdirAll path => path ≠ "" → (h.step (Syscall.mkdirAll path)).1 = Except.ok ()
  | _ => True

lemma createDataRoots_isOk_iff {es : List (Sigma fun _ : String => StoragePoolInfo)}
    (hmk : Along step MakesDirs (createDataRoots es).run h) :
    (h.exec (createDataRoots es)).1.isOk = true ↔ ∀ e ∈ es, e.2.path ≠ "" := by
  induction es generalizing h with
  | nil => exact ⟨fun _ e he => absurd he List.not_mem_nil, fun _ => rfl⟩
  | cons e es ih =>
      obtain ⟨hcall, hrest⟩ := along_bind_run.mp hmk
      have hmake : e.2.path ≠ "" → (h.step (Syscall.mkdirAll e.2.path)).1 = Except.ok () :=
        along_perform.mp hcall
      rcases hs : h.step (Syscall.mkdirAll e.2.path) with ⟨r, m⟩
      have hx : Prog.exec step (perform (Syscall.mkdirAll e.2.path) : Sys _) h = (Except.ok r, m) :=
        exec_perform_eq.mpr hs
      rw [List.forall_mem_cons]
      cases r with
      | ok u =>
          have hne : e.2.path ≠ "" := by
            intro hempty
            obtain ⟨l, hl, _⟩ := mkdirAll_ok hs
            rw [hempty] at hl
            cases hl
          have hrun : h.exec (createDataRoots (e :: es)) = m.exec (createDataRoots es) :=
            exec_bind_of_ok step hx
          rw [hrun, ih (hrest _ _ hx)]
          exact ⟨fun hall => ⟨hne, hall⟩, fun hall => hall.2⟩
      | error err =>
          have hrun : h.exec (createDataRoots (e :: es)) = (Except.error (Err.plain
              ("failed to create dataRoot for storage pool " ++ e.1 ++ ": " ++ err.text)), m) :=
            exec_bind_of_ok step hx
          have hempty : e.2.path = "" := by
            by_contra hne
            rw [hs] at hmake
            cases hmake hne
          rw [hrun]
          exact ⟨fun hf => (by cases hf), fun hall => absurd hempty hall.1⟩

/-- With no failures and no file in the way, making a directory fails for the empty path only. -/
lemma along_createDataRoots {es : List (Sigma fun _ : String => StoragePoolInfo)} (hf : h.NoFaults)
    (hb : ∀ e ∈ es, ∀ l, locate e.2.path = some l → h.fs.blocked l = false) :
    Along step MakesDirs (createDataRoots es).run h := by
  induction es generalizing h with
  | nil => trivial
  | cons e es ih =>
      obtain ⟨hbe, hb⟩ := List.forall_mem_cons.mp hb
      refine along_bind_run.mpr ⟨along_perform.mpr fun hne => ?_, fun a m hx => ?_⟩
      · have hl : locate e.2.path = some (resolve [] (elems e.2.path)) :=
          locate_eq_some.mpr ⟨hne, rfl⟩
        exact congrArg Prod.fst (mkdirAll_of_noFault (h := h.tick) (hf 0) hl (hbe _ hl))
      · have hs : h.step (Syscall.mkdirAll e.2.path) = (a, m) := exec_perform_eq.mp hx
        cases a with
        | error err => trivial
        | ok u =>
            obtain ⟨l, _, _, rfl⟩ := mkdirAll_ok hs
            refine ih (hf.of_exec hx) fun x hxes k hk => ?_
            rw [made_fs]
            exact FileTree.blocked_create _ (hb x hxes k hk) _ _

lemma createDataRoots_error {es : List (Sigma fun _ : String => StoragePoolInfo)} {err : Err}
    {h' : Host} (e : h.exec (createDataRoots es) = (Except.error err, h')) :
    err.isPanic = false := by
  induction es generalizing h with
  | nil => cases e
  | cons x es ih =>
      rcases exec_bind_eq_error.mp e with hs | ⟨r, m, _, hk⟩
      · exact absurd hs exec_perform_ne_error
      · cases r with
        | ok u => exact ih hk
        | error oe =>
            cases hk
            rfl

/-! ## The providers -/

/-- The pool has no provider, or a known one and a path for it. -/
def StoragePoolInfo.WellConfigured (info : StoragePoolInfo) : Prop :=
  info.snapshotProvider = none
    ∨ info.snapshotProvider = some SnapshotProviderType.reflink ∧ info.snapshotPath ≠ none

/-- The provider of a pool. -/
def StoragePoolInfo.provider (nodeID : String) (info : StoragePoolInfo) : Option Reflink :=
  if info.snapshotProvider = none then none
  else info.snapshotPath.map fun path => ⟨nodeID, path, info.path⟩

section Providers

variable (nodeID : String) {es : List (Sigma fun _ : String => StoragePoolInfo)}

lemma snapshotProviders_of_wellConfigured (hnd : es.NodupKeys)
    (hall : ∀ e ∈ es, e.2.WellConfigured) (m : GoMap Reflink) :
    ∃ m', snapshotProviders nodeID es m = Except.ok m'
      ∧ ∀ a, m'.lookup a = ((es.dlookup a).bind (StoragePoolInfo.provider nodeID)).or (m.lookup a) := by
  induction es generalizing m with
  | nil => exact ⟨m, rfl, fun a => by simp⟩
  | cons e es ih =>
      obtain ⟨b, info⟩ := e
      obtain ⟨hb, hnd⟩ := List.nodupKeys_cons.mp hnd
      obtain ⟨hinfo, hall⟩ := List.forall_mem_cons.mp hall
      have hmissing : es.dlookup b = none := List.dlookup_eq_none.mpr hb
      rw [snapshotProviders]
      rcases hinfo with hnone | ⟨hsome, hpath⟩
      · obtain ⟨m', hm', hlook⟩ := ih hnd hall m
        refine ⟨m', by rw [hnone]; exact hm', fun a => ?_⟩
        rw [hlook]
        by_cases hab : a = b
        · subst hab
          simp [hmissing, StoragePoolInfo.provider, show info.snapshotProvider = none from hnone]
        · rw [List.dlookup_cons_ne _ _ hab]
      · obtain ⟨path, hp⟩ := Option.ne_none_iff_exists'.mp hpath
        obtain ⟨m', hm', hlook⟩ := ih hnd hall (m.insert b ⟨nodeID, path, info.path⟩)
        dsimp only at hsome hp
        refine ⟨m', by rw [hsome, hp]; exact hm', fun a => ?_⟩
        rw [hlook]
        by_cases hab : a = b
        · subst hab
          simp [hmissing, StoragePoolInfo.provider, hsome, hp]
        · rw [List.dlookup_cons_ne _ _ hab, AList.lookup_insert_ne hab]

variable {nodeID} in
lemma provider_ne_none_iff {info : StoragePoolInfo} (hinfo : info.WellConfigured) :
    info.provider nodeID ≠ none ↔ info.snapshotProvider ≠ none := by
  unfold StoragePoolInfo.provider
  rcases hinfo with hnone | ⟨hsome, hpath⟩
  · simp [hnone]
  · simp [hsome, hpath]

variable {nodeID} in
lemma provider_eq_some {info : StoragePoolInfo} {r : Reflink} (h : info.provider nodeID = some r) :
    info.snapshotPath = some r.path ∧ info.path = r.sourcePath := by
  unfold StoragePoolInfo.provider at h
  split_ifs at h
  obtain ⟨path, hpath, rfl⟩ := Option.map_eq_some_iff.mp h
  exact ⟨hpath, rfl⟩

/-- A pool with half of what a provider needs ends the process. -/
lemma snapshotProviders_panics (hbad : ∃ e ∈ es, ¬ e.2.WellConfigured) (m : GoMap Reflink) :
    ∃ err, snapshotProviders nodeID es m = Except.error err ∧ err.isPanic = true := by
  induction es generalizing m with
  | nil => simp at hbad
  | cons e es ih =>
      obtain ⟨b, info⟩ := e
      rw [snapshotProviders]
      have hlater : info.WellConfigured → ∃ e ∈ es, ¬ e.2.WellConfigured := by
        intro hinfo
        obtain ⟨x, hx, hxbad⟩ := hbad
        rcases List.mem_cons.mp hx with rfl | hx
        · exact absurd hinfo hxbad
        · exact ⟨x, hx, hxbad⟩
      split
      · rename_i hnone
        exact ih (hlater (Or.inl hnone)) m
      · rename_i hsome hpath
        exact ih (hlater (Or.inr ⟨hsome, by simp [hpath]⟩)) _
      · exact ⟨_, rfl, rfl⟩
      · exact ⟨_, rfl, rfl⟩

end Providers

/-! ## The driver -/

/-- What the handlers rely on. -/
structure Established (pools : List StoragePoolInfo) (hp : HostPath) : Prop where
  node : hp.node.cfg = hp.controller.cfg
  defaultPool : hp.controller.cfg.storagePoolInfo.lookup
    hp.controller.cfg.defaultStoragePoolName ≠ none
  last : ∀ a, hp.controller.cfg.storagePoolInfo.lookup a = lastOf pools a
  provider_iff : ∀ a, hp.controller.snapshotproviders.lookup a ≠ none
    ↔ ∃ info, lastOf pools a = some info ∧ info.snapshotProvider ≠ none
  provider : ∀ a r, hp.controller.snapshotproviders.lookup a = some r →
    ∃ info, lastOf pools a = some info ∧ info.snapshotPath = some r.path ∧ info.path = r.sourcePath

/-- The constructor returned an error, or a driver with all that is relied on. -/
def StartsWell (pools : List StoragePoolInfo) : Except Err HostPath → Prop
  | Except.error err => err.isPanic = false
  | Except.ok hp => Established pools hp

/-- Everything that has to be set is set. -/
def Config.Complete (cfg : Config) : Prop :=
  cfg.driverName ≠ "" ∧ cfg.nodeID ≠ "" ∧ cfg.endpoint ≠ "" ∧ cfg.version ≠ ""

/-- The constructor from where the map of the pools is there.  The loop that makes the directories
sees it in the order of `roots`, the one that sets up the providers in that of `cfg`. -/
def startDriver (roots cfg : Config) : Sys HostPath := do
  createDataRoots roots.storagePoolInfo.entries
  let controller ← liftExcept (newHostPathController cfg)
  return ⟨⟨cfg⟩, controller⟩

/-- What the constructor can return, with some order of the map in each of its loops. -/
def Returns (cfg : Config) (pools : List StoragePoolInfo) (h : Host) (r : Except Err HostPath) :
    Prop :=
  ¬ cfg.Complete ∧ r = (h.exec (newHostPathDriver cfg (some pools))).1
    ∨ cfg.Complete ∧ ∃ roots cfg', (cfg.withPools pools).Reorders roots
      ∧ (cfg.withPools pools).Reorders cfg' ∧ r = (h.exec (startDriver roots cfg')).1

lemma newHostPathDriver_of_complete (hc : cfg.Complete) :
    newHostPathDriver cfg (some pools)
      = startDriver (cfg.withPools pools) (cfg.withPools pools) := by
  obtain ⟨h₁, h₂, h₃, h₄⟩ := hc
  unfold newHostPathDriver
  rw [if_neg h₁, if_neg h₂, if_neg h₃, if_neg h₄]
  rfl

/-- The constructor as it is modelled, with the map in the order it was filled. -/
lemma returns_newHostPathDriver :
    Returns cfg pools h (h.exec (newHostPathDriver cfg (some pools))).1 := by
  by_cases hc : cfg.Complete
  · refine Or.inr ⟨hc, _, _, Config.Reorders.refl _, Config.Reorders.refl _, ?_⟩
    rw [newHostPathDriver_of_complete hc]
  · exact Or.inl ⟨hc, rfl⟩

lemma newHostPathDriver_of_not_complete (hc : ¬ cfg.Complete) :
    ∃ text, (h.exec (newHostPathDriver cfg (some pools))).1 = Except.error (Err.plain text) := by
  unfold newHostPathDriver
  split_ifs with h₁ h₂ h₃ h₄
  · exact ⟨_, rfl⟩
  · exact ⟨_, rfl⟩
  · exact ⟨_, rfl⟩
  · exact ⟨_, rfl⟩
  · exact absurd ⟨h₁, h₂, h₃, h₄⟩ hc

/-- The pools of a map in any order are the last ones of the list. -/
lemma forall_entries_iff (hre : (cfg.withPools pools).Reorders cfg') {P : StoragePoolInfo → Prop} :
    (∀ e ∈ cfg'.storagePoolInfo.entries, P e.2) ↔ ∀ a info, lastOf pools a = some info → P info := by
  constructor
  · intro hall a info ha
    rw [← lookup_withPools cfg, ← hre.lookup] at ha
    exact hall ⟨a, info⟩ (AList.mem_lookup_iff.mp ha)
  · rintro hall ⟨a, info⟩ he
    refine hall a info ?_
    rw [← lookup_withPools cfg, ← hre.lookup]
    exact AList.mem_lookup_iff.mpr he

/-- With all pools well configured, only the default pool can be missing. -/
lemma established_iff (hre : (cfg.withPools pools).Reorders cfg') {ps : GoMap Reflink}
    (hall : ∀ a info, lastOf pools a = some info → info.WellConfigured)
    (hps : ∀ a, ps.lookup a = (lastOf pools a).bind (StoragePoolInfo.provider cfg'.nodeID)) :
    Established pools ⟨⟨cfg'⟩, ⟨cfg', ps⟩⟩ ↔ cfg.DefaultAmong pools := by
  have hlook : ∀ a, cfg'.storagePoolInfo.lookup a = lastOf pools a := fun a =>
    (hre.lookup a).trans (lookup_withPools cfg pools a)
  have hdefault : cfg'.defaultStoragePoolName = (cfg.withPools pools).defaultStoragePoolName := by
    rw [hre.rest]
  rw [defaultAmong_iff, ← hdefault]
  constructor
  · intro hest
    rw [← hlook]
    exact hest.defaultPool
  · intro hd
    refine ⟨rfl, (hlook _).trans_ne hd, hlook, fun a => ?_, fun a r har => ?_⟩
    · show ps.lookup a ≠ none ↔ _
      rw [hps]
      cases hl : lastOf pools a with
      | none => simp
      | some info => simpa using provider_ne_none_iff (hall a info hl)
    · obtain ⟨info, hl, hr⟩ := Option.bind_eq_some_iff.mp ((hps a).symm.trans har)
      exact ⟨info, hl, provider_eq_some hr⟩

/-- With the directories made, everything depends on the default pool and the providers. -/
lemma startsWell_startDriver_iff {roots : Config} (hre : (cfg.withPools pools).Reorders cfg')
    (hroots : (h.exec (createDataRoots roots.storagePoolInfo.entries)).1.isOk = true) :
    StartsWell pools (h.exec (startDriver roots cfg')).1
      ↔ cfg.DefaultAmong pools ∧ ∀ a info, lastOf pools a = some info → info.WellConfigured := by
  rcases hx : h.exec (createDataRoots roots.storagePoolInfo.entries) with ⟨r, m⟩
  rw [hx] at hroots
  cases r with
  | error err => cases hroots
  | ok u =>
      have hrun : h.exec (startDriver roots cfg')
          = m.exec (liftExcept (newHostPathController cfg') >>= fun c => pure ⟨⟨cfg'⟩, c⟩) :=
        exec_bind_of_ok step hx
      by_cases hall : ∀ e ∈ cfg'.storagePoolInfo.entries, e.2.WellConfigured
      · obtain ⟨ps, hps, hlook⟩ := snapshotProviders_of_wellConfigured cfg'.nodeID
          cfg'.storagePoolInfo.nodupKeys hall ∅
        have hctrl : newHostPathController cfg' = Except.ok ⟨cfg', ps⟩ := by
          rw [newHostPathController, hps]
          rfl
        rw [hctrl] at hrun
        have hstart : h.exec (startDriver roots cfg') = (Except.ok ⟨⟨cfg'⟩, ⟨cfg', ps⟩⟩, m) := hrun
        rw [hstart]
        have hall' := (forall_entries_iff hre).mp hall
        refine Iff.trans (established_iff hre hall' fun a => ?_) (and_iff_left hall').symm
        rw [hlook, ← lookup_withPools cfg, ← hre.lookup]
        exact Option.or_none
      · obtain ⟨err, herr, hpanic⟩ := snapshotProviders_panics cfg'.nodeID
          (by simpa using hall) ∅
        have hctrl : newHostPathController cfg' = Except.error err := by
          rw [newHostPathController, herr]
          rfl
        rw [hctrl] at hrun
        have hstart : h.exec (startDriver roots cfg') = (Except.error err, m) := hrun
        rw [hstart]
        refine ⟨fun hwell => ?_, fun hand => absurd ((forall_entries_iff hre).mpr hand.2) hall⟩
        rw [StartsWell, hpanic] at hwell
        cases hwell

/-- **When the constructor starts well**, in every order of the map in either loop: if everything is
set and no pool has an empty path, there is a default pool, and every pool with a provider has a known
one and a path for its snapshots. -/
theorem starts_well_iff
    (hmk : ∀ cfg', (cfg.withPools pools).Reorders cfg' →
      Along step MakesDirs (createDataRoots cfg'.storagePoolInfo.entries).run h) :
    (∀ r, Returns cfg pools h r → StartsWell pools r)
      ↔ (cfg.Complete → (∀ a info, lastOf pools a = some info → info.path ≠ "") →
        cfg.DefaultAmong pools ∧ ∀ a info, lastOf pools a = some info → info.WellConfigured) := by
  have hroots : ∀ cfg', (cfg.withPools pools).Reorders cfg' →
      ((h.exec (createDataRoots cfg'.storagePoolInfo.entries)).1.isOk = true
        ↔ ∀ a info, lastOf pools a = some info → info.path ≠ "") := by
    intro cfg' hre
    rw [createDataRoots_isOk_iff (hmk cfg' hre)]
    exact forall_entries_iff hre (P := fun info => info.path ≠ "")
  constructor
  · intro hwell hc hpaths
    have hre := Config.Reorders.refl (cfg.withPools pools)
    refine (startsWell_startDriver_iff hre ((hroots _ hre).mpr hpaths)).mp (hwell _ ?_)
    exact Or.inr ⟨hc, _, _, hre, hre, rfl⟩
  · rintro himp r (⟨hc, rfl⟩ | ⟨hc, roots, cfg', hre₁, hre, rfl⟩)
    · obtain ⟨text, htext⟩ : ∃ text, (h.exec (newHostPathDriver cfg (some pools))).1
          = Except.error (Err.plain text) := newHostPathDriver_of_not_complete hc
      rw [htext]
      rfl
    · by_cases hpaths : ∀ a info, lastOf pools a = some info → info.path ≠ ""
      · exact (startsWell_startDriver_iff hre ((hroots _ hre₁).mpr hpaths)).mpr (himp hc hpaths)
      · rcases hx : h.exec (createDataRoots roots.storagePoolInfo.entries) with ⟨r, m⟩
        cases r with
        | ok u => exact absurd ((hroots _ hre₁).mp (by rw [hx]; rfl)) hpaths
        | error err =>
            have hrun : h.exec (startDriver roots cfg') = (Except.error err, m) :=
              exec_bind_of_error step hx
            rw [hrun]
            exact createDataRoots_error hx

namespace Sample

lemma emptyHost_no_file (l : Loc) : emptyHost.fs.blocked l = false := by
  have hempty : (FileTree.empty : FileTree String).blocked l = false := by
    rw [FileTree.blocked, List.any_eq_false]
    intro q _
    cases q <;> simp [FileTree.empty]
  exact FileTree.blocked_create _ (FileTree.blocked_create _ hempty ["pool"] _) ["pods"] _

/-- A pool with a provider and no place for the snapshots. -/
def halfPool : StoragePoolInfo :=
  ⟨"local", "/pool", none, some SnapshotProviderType.reflink, false⟩

end Sample

theorem sample_starts_well : StartsWell [Sample.pool]
    (Sample.emptyHost.exec (newHostPathDriver Sample.bareCfg (some [Sample.pool]))).1 := by
  refine (starts_well_iff fun cfg' _ => ?_).mpr ?_ _ returns_newHostPathDriver
  · exact along_createDataRoots (fun _ => rfl) fun _ _ l _ => Sample.emptyHost_no_file l
  · intro _ _
    refine ⟨by simp [Config.DefaultAmong, Sample.bareCfg], fun a info ha => ?_⟩
    obtain rfl := List.mem_singleton.mp (List.mem_reverse.mp (List.mem_of_find?_eq_some ha))
    exact Or.inr ⟨rfl, by decide⟩

/-- A driver without a default pool, and a start that ends in a nil dereference. -/
theorem starts_badly :
    (∃ hp h', Sample.emptyHost.exec (newHostPathDriver Sample.bareCfg (some [])) = (Except.ok hp, h')
        ∧ hp.controller.cfg.storagePoolInfo.lookup hp.controller.cfg.defaultStoragePoolName = none)
      ∧ ∃ h', Sample.emptyHost.exec (newHostPathDriver Sample.bareCfg (some [Sample.halfPool]))
        = (Except.error (Err.panic "invalid memory address or nil pointer dereference"), h') :=
  ⟨⟨_, _, Prod.ext rfl rfl, rfl⟩, _, Prod.ext rfl rfl⟩

end Hostpath
