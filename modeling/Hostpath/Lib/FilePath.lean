import Mathlib

/-!
# Go's `path/filepath` on strings, and the location a path names

`Clean`, `Join`, `Dir` and `Base` as their documentation describes them, on Unix.  A *location*
is what a path string names once `.`, `..` and repeated slashes are gone: the list of components
below the root.  There are no symbolic links, so lexical cleaning and resolution agree
(`locate_clean`), and a relative path starts at the root (no working directory is set).

What the rest of the development needs is how joining moves a location:

* `locate_join` — joining walks the elements of the later paths from the location of the first,
* `resolve_valid` — a valid name walks one level down, and
* `base_join`, `locate_dir_join` — `Base` and `Dir` undo joining with a valid name.  As a string,
  `Dir` gives back the cleaned path and not the path that was joined (`dir_join`).
-/

namespace Lib

namespace FilePath

/-- A location below the root: its components, outermost first. -/
abbrev Loc := List String

/-- The elements of a path, empty ones included. -/
def elems (s : String) : List String := (s.toList.splitOn '/').map String.ofList

/-- A name a directory entry can have. -/
def ValidName (n : String) : Prop := n ≠ "" ∧ n ≠ "." ∧ n ≠ ".." ∧ '/' ∉ n.toList

instance (n : String) : Decidable (ValidName n) :=
  inferInstanceAs (Decidable (n ≠ "" ∧ n ≠ "." ∧ n ≠ ".." ∧ '/' ∉ n.toList))

/-! ## The functions of the package -/

def isRooted (s : String) : Bool := s.toList.head? == some '/'

/-- One step of `Clean`: the elements kept so far and the next element. -/
def push (rooted : Bool) (st : List String) (e : String) : List String :=
  if e = "" ∨ e = "." then st
  else if e = ".." then
    if rooted then st.dropLast
    else match st.getLast? with
      | none => [".."]
      | some x => if x = ".." then st ++ [".."] else st.dropLast
  else st ++ [e]

/-- What `Clean` keeps of a path's elements. -/
def kept (s : String) : List String := (elems s).foldl (push (isRooted s)) []

def clean (s : String) : String :=
  if isRooted s then "/" ++ "/".intercalate (kept s)
  else if kept s = [] then "."
  else "/".intercalate (kept s)

def join (es : List String) : String :=
  match es.dropWhile (· = "") with
  | [] => ""
  | rest => clean ("/".intercalate rest)

def base (s : String) : String :=
  if s = "" then "."
  else match ((elems s).filter (· ≠ "")).getLast? with
    | none => "/"
    | some e => e

def dir (s : String) : String :=
  match (elems s).dropLast with
  | [] => clean ""
  | es => clean ("/".intercalate es ++ "/")

/-! ## Locations -/

/-- Follow one element of a path from a location. -/
def walk (l : Loc) (e : String) : Loc :=
  if e = "" ∨ e = "." then l else if e = ".." then l.dropLast else l ++ [e]

def resolve (l : Loc) (es : List String) : Loc := es.foldl walk l

/-- The location a path names; the empty path names none. -/
def locate (s : String) : Option Loc :=
  if s = "" then none else some (resolve [] (elems s))

/-- The absolute path of a location. -/
def absPath (l : Loc) : String := "/" ++ "/".intercalate l

@[simp] lemma resolve_nil (l : Loc) : resolve l [] = l := rfl

@[simp] lemma resolve_cons (l : Loc) (e : String) (es : List String) :
    resolve l (e :: es) = resolve (walk l e) es := rfl

lemma resolve_append (l : Loc) (es fs : List String) :
    resolve l (es ++ fs) = resolve (resolve l es) fs := List.foldl_append

@[simp] lemma walk_empty (l : Loc) : walk l "" = l := by simp [walk]

lemma walk_valid (l : Loc) {n : String} (hn : ValidName n) : walk l n = l ++ [n] := by
  simp [walk, hn.1, hn.2.1, hn.2.2.1]

lemma resolve_all_valid (l : Loc) {es : List String} (h : ∀ e ∈ es, ValidName e) :
    resolve l es = l ++ es := by
  induction es generalizing l with
  | nil => simp
  | cons e es ih =>
      rw [resolve_cons, walk_valid l (h e List.mem_cons_self),
        ih _ (fun x hx => h x (List.mem_cons_of_mem _ hx)), List.append_assoc,
        List.singleton_append]

lemma locate_eq_some {s : String} {l : Loc} :
    locate s = some l ↔ s ≠ "" ∧ resolve [] (elems s) = l := by
  unfold locate
  split_ifs with h <;> simp [h]

lemma walk_valid_of_mem {l : Loc} {e : String} (he : '/' ∉ e.toList)
    (hl : ∀ n ∈ l, ValidName n) : ∀ n ∈ walk l e, ValidName n := by
  unfold walk
  split_ifs with h₁ h₂
  · exact hl
  · exact fun n hn => hl n (List.dropLast_subset l hn)
  · intro n hn
    rcases List.mem_append.mp hn with hn | hn
    · exact hl n hn
    · obtain rfl := List.mem_singleton.mp hn
      rw [not_or] at h₁
      exact ⟨h₁.1, h₁.2, h₂, he⟩

lemma resolve_valid_of_mem {l : Loc} {es : List String} (hes : ∀ e ∈ es, '/' ∉ e.toList)
    (hl : ∀ n ∈ l, ValidName n) : ∀ n ∈ resolve l es, ValidName n := by
  induction es generalizing l with
  | nil => exact hl
  | cons e es ih =>
      exact ih (fun x hx => hes x (List.mem_cons_of_mem _ hx))
        (walk_valid_of_mem (hes e List.mem_cons_self) hl)

/-! ## Elements -/

lemma not_mem_of_mem_splitOn {α : Type} [DecidableEq α] {a : α} {cs w : List α}
    (h : w ∈ cs.splitOn a) : a ∉ w := by
  induction cs generalizing w with
  | nil =>
      rw [List.splitOn_nil, List.mem_singleton] at h
      simp [h]
  | cons c cs ih =>
      rw [List.splitOn_cons_eq_if_modifyHead] at h
      split_ifs at h with hc
      · rcases List.mem_cons.mp h with rfl | h
        · simp
        · exact ih h
      · cases hs : cs.splitOn a with
        | nil => exact absurd hs (List.splitOn_ne_nil a cs)
        | cons v vs =>
            rw [hs] at h ih
            rcases List.mem_cons.mp h with rfl | h
            · have hv := ih List.mem_cons_self
              rw [List.mem_cons, not_or]
              exact ⟨fun heq => hc (by simp [heq]), hv⟩
            · exact ih (List.mem_cons_of_mem _ h)

lemma not_mem_of_mem_elems {s e : String} (h : e ∈ elems s) : '/' ∉ e.toList := by
  obtain ⟨w, hw, rfl⟩ := List.mem_map.mp h
  simpa using not_mem_of_mem_splitOn hw

lemma elems_append_slash (a b : String) : elems (a ++ "/" ++ b) = elems a ++ elems b := by
  have h : (a ++ "/" ++ b).toList = a.toList ++ '/' :: b.toList := by simp
  rw [elems, h, List.splitOn_append_cons_self, List.map_append, elems, elems]

lemma elems_of_not_mem {s : String} (h : '/' ∉ s.toList) : elems s = [s] := by
  rw [elems, List.splitOn_eq_singleton h]
  simp

@[simp] lemma elems_empty : elems "" = [""] := by decide

lemma elems_valid {n : String} (hn : ValidName n) : elems n = [n] :=
  elems_of_not_mem hn.2.2.2

lemma elems_intercalate {es : List String} (hne : es ≠ []) :
    elems ("/".intercalate es) = es.flatMap elems := by
  induction es with
  | nil => exact absurd rfl hne
  | cons e es ih =>
      cases es with
      | nil => simp
      | cons e' es =>
          rw [String.intercalate_cons_cons, elems_append_slash, ih (by simp)]
          rfl

lemma elems_intercalate_of_not_mem {es : List String} (hne : es ≠ [])
    (h : ∀ e ∈ es, '/' ∉ e.toList) : elems ("/".intercalate es) = es := by
  rw [elems_intercalate hne]
  clear hne
  induction es with
  | nil => rfl
  | cons e es ih =>
      rw [List.flatMap_cons, elems_of_not_mem (h e List.mem_cons_self),
        ih (fun x hx => h x (List.mem_cons_of_mem _ hx)), List.singleton_append]

lemma locate_valid {s : String} {l : Loc} (h : locate s = some l) : ∀ n ∈ l, ValidName n := by
  obtain ⟨_, rfl⟩ := locate_eq_some.mp h
  exact resolve_valid_of_mem (fun e he => not_mem_of_mem_elems he) (by simp)

/-! ## Cleaning does not move a path -/

/-- What `Clean` keeps: names, and `..` at the front of a relative path. -/
lemma push_proper {rooted : Bool} {st : List String} {e : String} (he : '/' ∉ e.toList)
    (h : ∀ x ∈ st, x ≠ "" ∧ x ≠ "." ∧ '/' ∉ x.toList) :
    ∀ x ∈ push rooted st e, x ≠ "" ∧ x ≠ "." ∧ '/' ∉ x.toList := by
  have hdd : ".." ≠ "" ∧ ".." ≠ "." ∧ '/' ∉ "..".toList := by decide
  have hdrop : ∀ x ∈ st.dropLast, x ≠ "" ∧ x ≠ "." ∧ '/' ∉ x.toList :=
    fun x hx => h x (List.dropLast_subset st hx)
  have happ : ∀ y, y ≠ "" ∧ y ≠ "." ∧ '/' ∉ y.toList →
      ∀ x ∈ st ++ [y], x ≠ "" ∧ x ≠ "." ∧ '/' ∉ x.toList := by
    intro y hy x hx
    rcases List.mem_append.mp hx with hx | hx
    · exact h x hx
    · rwa [List.mem_singleton.mp hx]
  unfold push
  split_ifs with h₁ h₂ h₃
  · exact h
  · exact hdrop
  · split
    · intro x hx
      rwa [List.mem_singleton.mp hx]
    · split_ifs
      · exact happ _ hdd
      · exact hdrop
  · rw [not_or] at h₁
    exact happ e ⟨h₁.1, h₁.2, he⟩

lemma kept_proper (s : String) : ∀ x ∈ kept s, x ≠ "" ∧ x ≠ "." ∧ '/' ∉ x.toList := by
  have h : ∀ (es st : List String), (∀ e ∈ es, '/' ∉ e.toList) →
      (∀ x ∈ st, x ≠ "" ∧ x ≠ "." ∧ '/' ∉ x.toList) →
      ∀ x ∈ es.foldl (push (isRooted s)) st, x ≠ "" ∧ x ≠ "." ∧ '/' ∉ x.toList := by
    intro es
    induction es with
    | nil => exact fun st _ hst => hst
    | cons e es ih =>
        intro st hes hst
        exact ih _ (fun x hx => hes x (List.mem_cons_of_mem _ hx))
          (push_proper (hes e List.mem_cons_self) hst)
  exact h _ _ (fun e he => not_mem_of_mem_elems he) (by simp)

lemma push_rooted (st : List String) (e : String) : push true st e = walk st e := by
  simp only [push, walk, if_true]

lemma resolve_push (l : Loc) {st : List String} (e : String)
    (h : ∀ x ∈ st, x ≠ "" ∧ x ≠ "." ∧ '/' ∉ x.toList) :
    resolve l (push false st e) = walk (resolve l st) e := by
  unfold push
  split_ifs with h₁ h₂ h₃
  · simp [walk, h₁]
  · exact absurd h₃ (by simp)
  · subst h₂
    cases hlast : st.getLast? with
    | none =>
        obtain rfl := List.getLast?_eq_none_iff.mp hlast
        rfl
    | some x =>
        obtain ⟨st', rfl⟩ := List.getLast?_eq_some_iff.mp hlast
        have hx := h x (by simp)
        dsimp only
        split_ifs with hxd
        · rw [resolve_append]; rfl
        · rw [List.dropLast_concat, resolve_append]
          simp [walk, hx.1, hx.2.1, hxd]
  · rw [resolve_append]; rfl

lemma kept_of_rooted {s : String} (hr : isRooted s = true) : kept s = resolve [] (elems s) := by
  have hp : push true = walk := funext fun st => funext fun e => push_rooted st e
  rw [kept, hr, hp]
  rfl

lemma kept_valid_of_rooted {s : String} (hr : isRooted s = true) : ∀ n ∈ kept s, ValidName n := by
  rw [kept_of_rooted hr]
  exact resolve_valid_of_mem (fun e he => not_mem_of_mem_elems he) (by simp)

/-- Resolving what `Clean` keeps is resolving the path. -/
lemma resolve_kept (s : String) : resolve [] (kept s) = resolve [] (elems s) := by
  cases hr : isRooted s with
  | true => rw [resolve_all_valid [] (kept_valid_of_rooted hr), List.nil_append, kept_of_rooted hr]
  | false =>
      have h : ∀ (es st : List String), (∀ e ∈ es, '/' ∉ e.toList) →
          (∀ x ∈ st, x ≠ "" ∧ x ≠ "." ∧ '/' ∉ x.toList) →
          resolve [] (es.foldl (push false) st) = resolve (resolve [] st) es := by
        intro es
        induction es with
        | nil => exact fun st _ _ => rfl
        | cons e es ih =>
            intro st hes hst
            rw [List.foldl_cons, ih _ (fun x hx => hes x (List.mem_cons_of_mem _ hx))
              (push_proper (hes e List.mem_cons_self) hst), resolve_push [] e hst, resolve_cons]
      rw [kept, hr, h _ _ (fun e he => not_mem_of_mem_elems he) (by simp), resolve_nil]

/-- `Clean` keeps `..` at the front only. -/
lemma push_dots {rooted : Bool} {st : List String} {e : String} (hr : rooted = false)
    (h : ∃ k ns, st = List.replicate k ".." ++ ns ∧ ".." ∉ ns) :
    ∃ k ns, push rooted st e = List.replicate k ".." ++ ns ∧ ".." ∉ ns := by
  obtain ⟨k, ns, rfl, hns⟩ := h
  subst hr
  unfold push
  split_ifs with h₁ h₂ h₃
  · exact ⟨k, ns, rfl, hns⟩
  · cases h₃
  · rcases List.eq_nil_or_concat ns with rfl | ⟨ns', x, rfl⟩
    · refine ⟨k + 1, [], ?_, by simp⟩
      cases k with
      | zero => rfl
      | succ k =>
          rw [List.append_nil, List.append_nil, List.getLast?_replicate, if_neg (by omega)]
          simp [List.replicate_succ']
    · have hx : x ≠ ".." := fun hx => hns (by simp [hx])
      refine ⟨k, ns', ?_, fun hmem => hns (by simp [hmem])⟩
      simp [← List.append_assoc, hx]
  · refine ⟨k, ns ++ [e], by simp, ?_⟩
    simpa [Ne.symm h₂] using hns

lemma kept_dots {s : String} (hr : isRooted s = false) :
    ∃ k ns, kept s = List.replicate k ".." ++ ns ∧ ".." ∉ ns := by
  have h : ∀ (es st : List String), (∃ k ns, st = List.replicate k ".." ++ ns ∧ ".." ∉ ns) →
      ∃ k ns, es.foldl (push (isRooted s)) st = List.replicate k ".." ++ ns ∧ ".." ∉ ns := by
    intro es
    induction es with
    | nil => exact fun st hst => hst
    | cons e es ih => exact fun st hst => ih _ (push_dots hr hst)
  exact h _ _ ⟨0, [], rfl, by simp⟩

/-- The elements of a cleaned path. -/
lemma elems_clean (s : String) :
    elems (clean s)
      = if isRooted s then "" :: (if kept s = [] then [""] else kept s)
        else if kept s = [] then ["."] else kept s := by
  have hk : ∀ e ∈ kept s, '/' ∉ e.toList := fun e he => (kept_proper s e he).2.2
  unfold clean
  split_ifs with h₁ h₂ h₂
  · rw [h₂]; decide
  · have happ : "/" ++ "/".intercalate (kept s) = "" ++ "/" ++ "/".intercalate (kept s) := by simp
    rw [happ, elems_append_slash, elems_intercalate_of_not_mem h₂ hk]
    rfl
  · decide
  · exact elems_intercalate_of_not_mem h₂ hk

lemma clean_ne_empty (s : String) : clean s ≠ "" := by
  intro h
  have he := elems_clean s
  rw [h, elems_empty] at he
  split_ifs at he with h₁ h₂ h₂
  · simp at he
  · simp [h₂] at he
  · simp at he
  · have := kept_proper s "" (by rw [← he]; simp)
    exact this.1 rfl

theorem locate_clean (s : String) : locate (clean s) = some (resolve [] (elems s)) := by
  rw [locate_eq_some]
  refine ⟨clean_ne_empty s, ?_⟩
  rw [elems_clean, ← resolve_kept s]
  split_ifs with h₁ h₂ h₂ <;> simp [h₂, walk]

/-! ## Joining -/

lemma join_cons {p : String} (hp : p ≠ "") (rest : List String) :
    join (p :: rest) = clean ("/".intercalate (p :: rest)) := by
  unfold join
  rw [List.dropWhile_cons_of_neg (by simpa using hp)]

/-- **Joining walks on from the first path.** -/
theorem locate_join {p : String} {l : Loc} (h : locate p = some l) (rest : List String) :
    locate (join (p :: rest)) = some (resolve l (rest.flatMap elems)) := by
  obtain ⟨hp, rfl⟩ := locate_eq_some.mp h
  rw [join_cons hp, locate_clean, elems_intercalate (by simp), List.flatMap_cons,
    resolve_append]

lemma resolve_valid (l : Loc) {n : String} (hn : ValidName n) :
    resolve l (elems n) = l ++ [n] := by
  rw [elems_valid hn, resolve_cons, resolve_nil, walk_valid l hn]

lemma locate_join_valid {p : String} {l : Loc} (h : locate p = some l) {n : String}
    (hn : ValidName n) : locate (join [p, n]) = some (l ++ [n]) := by
  rw [locate_join h, List.flatMap_singleton, resolve_valid l hn]

lemma locate_join_valid₂ {p : String} {l : Loc} (h : locate p = some l) {m n : String}
    (hm : ValidName m) (hn : ValidName n) : locate (join [p, m, n]) = some (l ++ [m, n]) := by
  rw [locate_join h, List.flatMap_cons, List.flatMap_singleton, resolve_append,
    resolve_valid l hm, resolve_valid _ hn, List.append_assoc]
  rfl

/-- A trailing dot names the same location. -/
lemma locate_dot {p : String} {l : Loc} (h : locate p = some l) :
    locate (p ++ "/.") = some l := by
  obtain ⟨hp, rfl⟩ := locate_eq_some.mp h
  have hdot : p ++ "/." = p ++ "/" ++ "." := by rw [String.append_assoc]; rfl
  rw [locate_eq_some, hdot]
  refine ⟨fun he => hp (String.append_eq_empty_iff.mp (String.append_eq_empty_iff.mp he).1).1, ?_⟩
  rw [elems_append_slash, resolve_append]
  rfl

lemma push_valid (rooted : Bool) (st : List String) {e : String} (he : ValidName e) :
    push rooted st e = st ++ [e] := by
  rw [push, if_neg (by simp [he.1, he.2.1]), if_neg he.2.2.1]

lemma foldl_push_valid (rooted : Bool) (st : List String) {es : List String}
    (hes : ∀ e ∈ es, ValidName e) : es.foldl (push rooted) st = st ++ es := by
  induction es generalizing st with
  | nil => simp
  | cons e es ih =>
      obtain ⟨he, hes⟩ := List.forall_mem_cons.mp hes
      rw [List.foldl_cons, push_valid rooted st he, ih _ hes, List.append_assoc]
      rfl

lemma kept_join {p n : String} (hn : ValidName n) :
    ∃ st, kept (p ++ "/" ++ n) = st ++ [n] := by
  refine ⟨(elems p).foldl (push (isRooted (p ++ "/" ++ n))) [], ?_⟩
  rw [kept, elems_append_slash, elems_valid hn, List.foldl_append, List.foldl_cons,
    List.foldl_nil, push_valid _ _ hn]

/-- The elements of a path joined with a valid name end in that name. -/
lemma elems_join_valid (p : String) {n : String} (hn : ValidName n) :
    ∃ pre, elems (join [p, n]) = pre ++ [n] := by
  by_cases hp : p = ""
  · subst hp
    have hk : kept n = [n] := by
      rw [kept, elems_valid hn, List.foldl_cons, List.foldl_nil, push_valid _ _ hn]
      rfl
    have hr : isRooted n = false := by
      rw [isRooted, Bool.eq_false_iff]
      intro h
      exact hn.2.2.2 (List.mem_of_head? (by simpa using h))
    have hj : join ["", n] = clean n := by simp [join, hn.1]
    exact ⟨[], by rw [hj, elems_clean, hr, hk]; simp⟩
  · obtain ⟨st, hst⟩ := kept_join (p := p) hn
    have hj : join [p, n] = clean (p ++ "/" ++ n) := by
      rw [join_cons hp]; simp
    rw [hj, elems_clean, hst]
    split_ifs with h₁ h₂ h₂
    · simp at h₂
    · exact ⟨"" :: st, rfl⟩
    · simp at h₂
    · exact ⟨st, rfl⟩

theorem base_join (p : String) {n : String} (hn : ValidName n) : base (join [p, n]) = n := by
  obtain ⟨pre, hpre⟩ := elems_join_valid p hn
  have hne : join [p, n] ≠ "" := by
    intro h
    rw [h, elems_empty] at hpre
    cases pre with
    | nil => exact hn.1 (by simpa using hpre.symm)
    | cons a as => simp at hpre
  rw [base, if_neg hne, hpre, List.filter_append]
  simp [hn.1]

/-- `Dir` drops the last element. -/
lemma locate_dir {p e : String} {pre : List String} (hpre : elems p = pre ++ [e]) :
    locate (dir p) = some (resolve [] pre) := by
  have hslash : ∀ x ∈ pre, '/' ∉ x.toList := fun x hx =>
    not_mem_of_mem_elems (s := p) (by simp [hpre, hx])
  rw [dir, hpre, List.dropLast_concat]
  cases pre with
  | nil => decide
  | cons x xs =>
      have happ : "/".intercalate (x :: xs) ++ "/" = "/".intercalate (x :: xs) ++ "/" ++ "" := by
        simp
      dsimp only
      rw [locate_clean, happ, elems_append_slash, elems_intercalate_of_not_mem (by simp) hslash,
        resolve_append]
      simp

/-- `Dir` goes back to the location that was joined with a valid name. -/
theorem locate_dir_join {p : String} {l : Loc} (h : locate p = some l) {n : String}
    (hn : ValidName n) : locate (dir (join [p, n])) = some l := by
  obtain ⟨pre, hpre⟩ := elems_join_valid p hn
  have hloc := locate_join_valid h hn
  rw [locate_eq_some, hpre, resolve_append, resolve_cons, resolve_nil, walk_valid _ hn] at hloc
  rw [locate_dir hpre, (List.append_left_inj [n]).mp hloc.2]

/-- Cleaning what is clean changes nothing. -/
lemma foldl_push_kept (s : String) : (kept s).foldl (push (isRooted s)) [] = kept s := by
  cases hr : isRooted s with
  | true => exact foldl_push_valid true [] (kept_valid_of_rooted hr)
  | false =>
      have hdots : ∀ k, (List.replicate k "..").foldl (push false) [] = List.replicate k ".." := by
        intro k
        induction k with
        | zero => rfl
        | succ k ih =>
            rw [List.replicate_succ', List.foldl_append, ih]
            cases k with
            | zero => rfl
            | succ k => simp [push, List.getLast?_replicate]
      obtain ⟨k, ns, hk, hns⟩ := kept_dots hr
      have hvalid : ∀ n ∈ ns, ValidName n := by
        intro n hn
        obtain ⟨h₁, h₂, h₃⟩ := kept_proper s n (by simp [hk, hn])
        exact ⟨h₁, h₂, fun hdd => hns (hdd ▸ hn), h₃⟩
      rw [hk, List.foldl_append, hdots, foldl_push_valid false _ hvalid]

lemma isRooted_append {p : String} (hp : p ≠ "") (s : String) :
    isRooted (p ++ s) = isRooted p := by
  have hne : p.toList ≠ [] := by simpa using hp
  obtain ⟨c, cs, hc⟩ := List.exists_cons_of_ne_nil hne
  simp [isRooted, hc]

/-- The elements that `Clean` keeps of a path, put together again with a slash at the end. -/
lemma clean_intercalate_slash {p x : String} {xs : List String}
    (hslash : ∀ e ∈ x :: xs, '/' ∉ e.toList) (hr : isRooted (x ++ "/") = isRooted p)
    (hfold : (x :: xs).foldl (push (isRooted p)) [] = kept p) :
    clean ("/".intercalate (x :: xs) ++ "/") = clean p := by
  have happ : "/".intercalate (x :: xs) ++ "/" = "/".intercalate (x :: xs) ++ "/" ++ "" := by simp
  have hrooted : isRooted ("/".intercalate (x :: xs) ++ "/") = isRooted p := by
    rw [← hr]
    cases xs with
    | nil => simp
    | cons y ys =>
        rw [String.intercalate_cons_cons, String.append_assoc, isRooted_append (by simp)]
  have hk : kept ("/".intercalate (x :: xs) ++ "/") = kept p := by
    rw [kept, hrooted, happ, elems_append_slash, elems_intercalate_of_not_mem (by simp) hslash,
      List.foldl_append, hfold]
    simp [push]
  rw [clean, clean, hrooted, hk]

/-- `Dir` undoes joining with a valid name, up to cleaning. -/
theorem dir_join {p n : String} (hp : p ≠ "") (hn : ValidName n) :
    dir (join [p, n]) = clean p := by
  have hroot : isRooted (p ++ "/" ++ n) = isRooted p := by
    rw [String.append_assoc, isRooted_append hp]
  have hkept : kept (p ++ "/" ++ n) = kept p ++ [n] := by
    rw [kept, elems_append_slash, elems_valid hn, List.foldl_append, hroot, List.foldl_cons,
      List.foldl_nil, push_valid _ _ hn, kept]
  have hj : join [p, n] = clean (p ++ "/" ++ n) := by
    rw [join_cons hp]
    simp
  have helems : elems (join [p, n]) = (if isRooted p then "" :: kept p else kept p) ++ [n] := by
    rw [hj, elems_clean, hroot, hkept]
    split_ifs <;> simp_all
  have hslash : ∀ e ∈ kept p, '/' ∉ e.toList := fun e he => (kept_proper p e he).2.2
  have hfold := foldl_push_kept p
  rw [dir, helems, List.dropLast_concat]
  cases hr : isRooted p with
  | true =>
      refine clean_intercalate_slash (by simpa using hslash) (by rw [hr]; rfl) ?_
      simpa [push] using hfold
  | false =>
      rw [if_neg (by simp)]
      cases hk : kept p with
      | nil =>
          rw [clean, clean, hr, hk]
          rfl
      | cons x xs =>
          have hx := kept_proper p x (by simp [hk])
          refine clean_intercalate_slash (by rw [← hk]; exact hslash) ?_ (by rw [← hk]; exact hfold)
          rw [isRooted_append hx.1, hr, isRooted, Bool.eq_false_iff]
          exact fun h => hx.2.2 (List.mem_of_head? (by simpa using h))

/-- A joined path that names something is a cleaned one. -/
lemma join_clean {es : List String} {l : Loc} (h : locate (join es) = some l) :
    ∃ s, join es = clean s := by
  unfold join at h ⊢
  cases hd : es.dropWhile (· = "") with
  | nil =>
      rw [hd] at h
      cases h
  | cons e rest => exact ⟨_, rfl⟩

/-- A joined path ends in a dot only if it names the root. -/
lemma getLast_elems_join {es : List String} {l : Loc} (h : locate (join es) = some l)
    (hl : l ≠ []) : (elems (join es)).getLast? ≠ some "." := by
  obtain ⟨s, hs⟩ := join_clean h
  rw [hs] at h ⊢
  have hlast : ∀ k : List String, (∀ x ∈ k, x ≠ "" ∧ x ≠ "." ∧ '/' ∉ x.toList) →
      k.getLast? ≠ some "." := fun k hk hdot => (hk "." (List.mem_of_getLast? hdot)).2.1 rfl
  rw [elems_clean]
  split_ifs with h₁ h₂ h₂
  · simp
  · rw [List.getLast?_cons_of_ne_nil h₂]
    exact hlast _ (kept_proper s)
  · rw [locate_clean, ← resolve_kept, h₂] at h
    exact absurd (Option.some.inj h).symm hl
  · exact hlast _ (kept_proper s)

/-! ## Names that stay below -/

/-- Follow the elements of a path from `r` on, below some location; `none` if the path climbs out
of it. -/
def descend (r : Loc) : List String → Option Loc
  | [] => some r
  | e :: es =>
      if e = "" ∨ e = "." then descend r es
      else if e = ".." then if r = [] then none else descend r.dropLast es
      else descend (r ++ [e]) es

/-- Joined to a directory, the paths name something strictly below it. -/
def Descends (es : List String) : Prop := ∃ r, r ≠ [] ∧ descend [] (es.flatMap elems) = some r

lemma resolve_of_descend {l r r' : Loc} {es : List String} (h : descend r es = some r') :
    resolve (l ++ r) es = l ++ r' := by
  induction es generalizing r with
  | nil =>
      cases h
      rfl
  | cons e es ih =>
      rw [descend] at h
      rw [resolve_cons, walk]
      split_ifs at h ⊢ with h₁ h₂ h₃
      · exact ih h
      · rw [List.dropLast_append_of_ne_nil h₃]
        exact ih h
      · rw [List.append_assoc]
        exact ih h

lemma resolve_dropWhile_empty (es : List String) :
    resolve [] ((es.dropWhile (· = "")).flatMap elems) = resolve [] (es.flatMap elems) := by
  induction es with
  | nil => rfl
  | cons e es ih =>
      by_cases he : e = ""
      · rw [List.dropWhile_cons_of_pos (by simpa using he), ih, he, List.flatMap_cons, elems_empty]
        rfl
      · rw [List.dropWhile_cons_of_neg (by simpa using he)]

/-- Joining with paths that descend goes strictly below the cleaned first path, which may be
empty. -/
lemma locate_join_of_descend (p : String) {es : List String} {r : Loc} (hr : r ≠ [])
    (h : descend [] (es.flatMap elems) = some r) :
    locate (join (p :: es)) = some (resolve [] (elems p) ++ r) := by
  by_cases hp : p = ""
  · subst hp
    have hres : resolve [] (es.flatMap elems) = r := resolve_of_descend (l := []) h
    have hjoin : join ("" :: es) = join es := by
      unfold join
      rw [List.dropWhile_cons_of_pos (by simp)]
    rw [hjoin, join]
    cases hd : es.dropWhile (· = "") with
    | nil =>
        have hnil := resolve_dropWhile_empty es
        rw [hd, hres] at hnil
        exact absurd hnil.symm hr
    | cons e rest =>
        dsimp only
        rw [locate_clean, elems_intercalate (by simp), ← hd, resolve_dropWhile_empty, hres, elems_empty]
        rfl
  · rw [locate_join (locate_eq_some.mpr ⟨hp, rfl⟩)]
    simpa using congrArg some (resolve_of_descend (l := resolve [] (elems p)) h)

end FilePath

end Lib
