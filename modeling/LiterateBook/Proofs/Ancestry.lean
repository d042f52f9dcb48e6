import LiterateBook.Path
import Mathlib.Data.List.TakeWhile

/-!
# Paths above paths

The parent of a path is a beginning of its text, and the steps of the parent are
a beginning of its steps, up to lone dots that stand between them. Joining a
name to a path adds one step and leaves the path as the parent, up to its lone
dots.
-/

namespace LiterateBook

namespace Path

/-! ## Names -/

/-- The components of a path that ask for a step. -/
def names (path : Text) : List Text :=
  (components path).filter (· ≠ [])

/-- A component that leads to an entry of its name. -/
def IsName (name : Text) : Prop :=
  name ≠ [] ∧ '/' ∉ name ∧ name ≠ ['.'] ∧ name ≠ ['.', '.']

theorem steps_eq (path : Text) :
    steps path = (names path).map stepOf ++
      if path.getLast? = some '/' ∧ names path ≠ [] then [.settle]
      else [] := rfl

theorem stepOf_of_isName {name : Text} (isName : IsName name) :
    stepOf name = .enter name := by
  rw [stepOf, if_neg isName.2.2.1, if_neg isName.2.2.2]

theorem stepOf_ne_settle (name : Text) : stepOf name ≠ .settle := by
  unfold stepOf
  split
  · simp
  · split <;> simp

theorem isName_of_enter_mem_steps {path name : Text}
    (member : .enter name ∈ steps path) :
    IsName name := by
  rw [steps_eq] at member
  rcases List.mem_append.1 member with proper | last
  · obtain ⟨component, inside, entered⟩ := List.mem_map.1 proper
    obtain ⟨cut, nonempty⟩ := List.mem_filter.1 inside
    unfold stepOf at entered
    split at entered
    · cases entered
    · next single =>
      split at entered
      · cases entered
      · next double =>
        cases entered
        exact ⟨by simpa using nonempty, Text.not_mem_of_mem_cutAt cut, single, double⟩
  · split at last <;> simp at last

/-! ## Components in sequence -/

theorem components_separated (first second : Text) :
    components (first ++ '/' :: second) =
      components first ++ components second := by
  induction first with
  | nil => rfl
  | cons c rest ih =>
      unfold components at ih ⊢
      rw [List.cons_append, Text.cutAt, Text.cutAt]
      by_cases same : c = '/'
      · rw [if_pos same, if_pos same, ih, List.cons_append]
      · rw [if_neg same, if_neg same, ih]
        cases cut : Text.cutAt '/' rest with
        | nil => exact absurd cut (Text.cutAt_ne_nil '/' rest)
        | cons part others => rfl

theorem names_separated (first second : Text) :
    names (first ++ '/' :: second) = names first ++ names second := by
  rw [names, components_separated, List.filter_append]
  rfl

@[simp] theorem names_nil : names [] = [] := rfl

@[simp] theorem names_concat_separator (path : Text) :
    names (path ++ ['/']) = names path := by
  rw [names_separated, names_nil, List.append_nil]

theorem names_of_separator_not_mem {name : Text} (nonempty : name ≠ [])
    (plain : '/' ∉ name) :
    names name = [name] := by
  have single : components name = [name] := by
    clear nonempty
    unfold components
    induction name with
    | nil => rfl
    | cons c rest ih =>
        have differ : c ≠ '/' := by
          intro same
          simp [same] at plain
        rw [Text.cutAt, if_neg differ,
          ih fun member => plain (List.mem_cons_of_mem c member)]
  rw [names, single]
  simp [nonempty]

theorem names_append {before name : Text}
    (separated : before = [] ∨ before.getLast? = some '/')
    (nonempty : name ≠ []) (plain : '/' ∉ name) :
    names (before ++ name) = names before ++ [name] := by
  rcases separated with rfl | last
  · exact names_of_separator_not_mem nonempty plain
  · obtain ⟨front, rfl⟩ := List.getLast?_eq_some_iff.1 last
    rw [List.append_assoc, List.singleton_append, names_separated,
      names_concat_separator, names_of_separator_not_mem nonempty plain]

/-! ## Parents -/

theorem trimReversed_suffix (path : Text) : trimReversed path <:+ path := by
  fun_induction trimReversed path with
  | case1 => exact List.suffix_rfl
  | case2 rest _ ih => exact ih.trans (List.suffix_cons _ _)
  | case3 rest ih => exact ih.trans (List.suffix_cons _ _)
  | case4 path => exact List.suffix_rfl

/-- Only the root ends in a separator after trimming. -/
theorem trimReversed_eq_of_head? {path : Text}
    (separated : (trimReversed path).head? = some '/') :
    trimReversed path = ['/'] := by
  fun_induction trimReversed path with
  | case1 => rfl
  | case2 rest _ ih => exact ih separated
  | case3 rest ih => exact ih separated
  | case4 path _ plain _ =>
      cases path with
      | nil => cases separated
      | cons c rest =>
          cases separated
          exact absurd rfl (plain rest)

/-- Trimming takes away separators and lone dots. -/
theorem names_trimReversed (path : Text) :
    ∃ dots, names path.reverse =
      names (trimReversed path).reverse ++ List.replicate dots ['.'] := by
  fun_induction trimReversed path with
  | case1 => exact ⟨0, rfl⟩
  | case2 rest _ ih =>
      obtain ⟨dots, same⟩ := ih
      exact ⟨dots, by rw [List.reverse_cons, names_concat_separator, same]⟩
  | case3 rest ih =>
      obtain ⟨dots, same⟩ := ih
      refine ⟨dots + 1, ?_⟩
      rw [List.reverse_cons, names_concat_separator] at same
      have dotted : names ('.' :: '/' :: rest).reverse =
          names rest.reverse ++ [['.']] := by
        rw [List.reverse_cons, List.reverse_cons, List.append_assoc]
        exact names_separated rest.reverse ['.']
      rw [dotted, same, List.append_assoc, ← List.replicate_succ']
  | case4 path => exact ⟨0, by simp⟩

/-- A parent has the names of its path up to the last one, but for lone dots. -/
theorem names_parent? {path parent : Text}
    (found : parent? path = some parent) :
    ∃ last inner outer, names path =
      names parent ++ List.replicate inner ['.'] ++ last ::
        List.replicate outer ['.'] := by
  obtain ⟨outer, trimmed⟩ := names_trimReversed path.reverse
  rw [List.reverse_reverse] at trimmed
  simp only [parent?] at found
  split at found
  · cases found
  next proper =>
  cases found
  have headless : (trimReversed path.reverse).head? ≠ some '/' := by
    intro separated
    exact proper (.inr (trimReversed_eq_of_head? separated))
  generalize trimReversed path.reverse = reversed at headless proper trimmed
  obtain ⟨inner, within⟩ :=
    names_trimReversed (reversed.dropWhile fun c => decide (c ≠ '/'))
  have parts := List.takeWhile_append_dropWhile (p := fun c => decide (c ≠ '/'))
    (l := reversed)
  have plain : '/' ∉ reversed.takeWhile fun c => decide (c ≠ '/') := by
    intro member
    simpa using List.mem_takeWhile_imp member
  have nonempty : (reversed.takeWhile fun c => decide (c ≠ '/')) ≠ [] := by
    cases reversed with
    | nil => simp at proper
    | cons c rest =>
        have differ : c ≠ '/' := by simpa using headless
        rw [List.takeWhile_cons_of_pos (by simpa using differ)]
        exact List.cons_ne_nil c _
  have separated :=
    List.head?_dropWhile_not (fun c => decide (c ≠ '/')) reversed
  generalize (reversed.takeWhile fun c => decide (c ≠ '/')) =
    last at parts plain nonempty
  generalize (reversed.dropWhile fun c => decide (c ≠ '/')) =
    rest at parts within separated
  refine ⟨last.reverse, inner, outer, ?_⟩
  have ended : rest.reverse = [] ∨ rest.reverse.getLast? = some '/' := by
    cases rest with
    | nil => exact .inl rfl
    | cons c others => exact .inr (by simpa using separated)
  have split : names reversed.reverse =
      names rest.reverse ++ [last.reverse] := by
    rw [← parts, List.reverse_append]
    exact names_append ended (by simpa using nonempty) (by simpa using plain)
  rw [trimmed, split, within, List.append_assoc _ [_], List.singleton_append]

/-- A parent does not end in a separator that asks for anything. -/
theorem steps_of_parent? {path parent : Text}
    (found : parent? path = some parent) :
    steps parent = (names parent).map stepOf := by
  have settled : ¬ (parent.getLast? = some '/' ∧ names parent ≠ []) := by
    simp only [parent?] at found
    split at found
    · cases found
    cases found
    rw [List.getLast?_reverse]
    intro both
    rw [trimReversed_eq_of_head? both.1] at both
    exact both.2 rfl
  rw [steps_eq, if_neg settled, List.append_nil]

/-- The steps of a path are those of its parent and some more. -/
theorem steps_parent? {path parent : Text}
    (found : parent? path = some parent) :
    ∃ more, more ≠ [] ∧ steps path = steps parent ++ more := by
  obtain ⟨last, inner, outer, split⟩ := names_parent? found
  rw [steps_of_parent? found, steps_eq, split, List.append_assoc,
    List.map_append, List.append_assoc]
  exact ⟨_, by simp, rfl⟩

theorem parent?_beginning {path parent : Text}
    (found : parent? path = some parent) :
    parent <+: path := by
  simp only [parent?] at found
  split at found
  · cases found
  cases found
  have whole := (trimReversed_suffix _).trans
    ((List.dropWhile_suffix fun c => decide (c ≠ '/')).trans
      (trimReversed_suffix path.reverse))
  rw [← List.reverse_prefix, List.reverse_reverse] at whole
  exact whole

/-- A path is above another when it is its parent, or above its parent. -/
inductive IsAbove : Text → Text → Prop where
  | parent {path above : Text} (found : parent? path = some above) :
      IsAbove above path
  | further {path parent above : Text} (found : parent? path = some parent)
      (higher : IsAbove above parent) : IsAbove above path

theorem isAbove_of_parent? {path parent above : Text}
    (found : parent? path = some parent)
    (kind : above = parent ∨ IsAbove above parent) : IsAbove above path := by
  rcases kind with rfl | higher
  · exact .parent found
  · exact .further found higher

/-- The steps that lead somewhere, from the last one on. -/
theorem backwards_steps (path : Text) :
    (steps path).reverse.dropWhile (· = .settle) =
      ((names path).map stepOf).reverse := by
  have unsettled : ((names path).map stepOf).reverse.dropWhile (· = .settle) =
      ((names path).map stepOf).reverse := by
    rw [← List.map_reverse]
    cases (names path).reverse with
    | nil => rfl
    | cons name rest =>
        rw [List.map_cons, List.dropWhile_cons_of_neg (by simp [stepOf_ne_settle])]
  rw [steps_eq, List.reverse_append]
  split
  · rw [List.reverse_singleton, List.singleton_append,
      List.dropWhile_cons_of_pos (by simp), unsettled]
  · rw [List.reverse_nil, List.nil_append, unsettled]

/-! ## Names below a path -/

theorem isAbsolute_of_isName {name : Text} (isName : IsName name) :
    isAbsolute name = false := by
  cases name with
  | nil => rfl
  | cons c rest =>
      have differ : c ≠ '/' := by
        intro same
        exact isName.2.1 (by simp [same])
      simpa [isAbsolute] using differ

theorem names_join {dir name : Text} (isName : IsName name) :
    names (join dir name) = names dir ++ [name] := by
  rw [join, isAbsolute_of_isName isName, if_neg (by simp)]
  split
  · next separated => exact names_append separated isName.1 isName.2.1
  · rw [names_separated, names_of_separator_not_mem isName.1 isName.2.1]

theorem suffix_join {name : Text} (isName : IsName name) (dir : Text) :
    name <:+ join dir name := by
  rw [join, isAbsolute_of_isName isName, if_neg (by simp)]
  split
  · exact List.suffix_append dir name
  · exact (List.suffix_cons '/' name).trans (List.suffix_append dir _)

theorem steps_join {dir name : Text} (isName : IsName name) :
    steps (join dir name) = (names dir).map stepOf ++ [.enter name] := by
  have last : (join dir name).getLast? ≠ some '/' := by
    obtain ⟨front, same⟩ := suffix_join isName dir
    intro separated
    rw [← same, List.getLast?_append, List.getLast?_eq_some_getLast isName.1,
      Option.some_or] at separated
    apply isName.2.1
    rw [← Option.some.inj separated]
    exact List.getLast_mem isName.1
  rw [steps_eq, names_join isName, if_neg (fun both => last both.1),
    List.append_nil,
    List.map_append, List.map_singleton, stepOf_of_isName isName]

theorem beginning_join {name : Text} (isName : IsName name) (dir : Text) :
    dir <+: join dir name := by
  rw [join, isAbsolute_of_isName isName, if_neg (by simp)]
  split
  · exact List.prefix_append dir name
  · exact List.prefix_append dir ('/' :: name)

end Path

end LiterateBook
