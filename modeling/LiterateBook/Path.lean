import LiterateBook.Text.Cut

/-!
# Paths

Paths are texts and stay as they were written: joining and taking the parent are
operations on the text and ask no file system. What a path means to a file
system is its list of steps.
-/

namespace LiterateBook

namespace Path

/-- A path is absolute when it starts at the root. -/
def isAbsolute (path : Text) : Bool :=
  path.head? == some '/'

/-- A path below another; an absolute path stands for itself. -/
def join (base path : Text) : Text :=
  if isAbsolute path then path
  else if base = [] ∨ base.getLast? = some '/' then base ++ path
  else base ++ '/' :: path

/-! ## Parents

Parents are taken on the reversed text, where the end of the path comes first. -/

/-- Drop the separators and the lone dots that a reversed path starts with. The
root keeps its separator, and a dot that is the whole path stays. -/
def trimReversed : Text → Text
  | ['/'] => ['/']
  | '/' :: rest => trimReversed rest
  | '.' :: '/' :: rest => trimReversed ('/' :: rest)
  | path => path

theorem length_trimReversed_le (path : Text) :
    (trimReversed path).length ≤ path.length := by
  fun_induction trimReversed path with
  | case1 => simp
  | case2 rest _ ih => exact Nat.le_succ_of_le ih
  | case3 rest ih => exact Nat.le_succ_of_le ih
  | case4 path => exact Nat.le_refl _

/-- The directory that holds what a path leads to; none for the root and for the
empty path. -/
def parent? (path : Text) : Option Text :=
  let trimmed := trimReversed path.reverse
  if trimmed = [] ∨ trimmed = ['/'] then none
  else some (trimReversed (trimmed.dropWhile (· ≠ '/'))).reverse

/-- A parent is shorter than the path it was taken from. -/
theorem length_of_parent? {path parent : Text}
    (found : parent? path = some parent) :
    parent.length < path.length := by
  simp only [parent?] at found
  split at found
  · cases found
  · rename_i proper
    cases found
    have trimmed_le := length_trimReversed_le path.reverse
    rw [List.length_reverse] at trimmed_le
    have parent_le :=
      length_trimReversed_le
        ((trimReversed path.reverse).dropWhile fun c => decide (c ≠ '/'))
    rw [List.length_reverse]
    cases shape : trimReversed path.reverse with
    | nil => simp [shape] at proper
    | cons c rest =>
      rw [shape] at trimmed_le parent_le proper
      by_cases slash : c = '/'
      · subst slash
        cases rest with
        | nil => simp at proper
        | cons d others =>
          exfalso
          revert shape
          fun_induction trimReversed path.reverse with
          | case1 => simp
          | case2 rest _ ih => exact ih
          | case3 rest ih => exact ih
          | case4 path _ slashless _ => intro shape; exact slashless _ shape
      · have shorter :=
          (List.dropWhile_suffix (l := rest) fun c => decide (c ≠ '/')).length_le
        rw [List.dropWhile_cons, if_pos (by simpa using slash)] at parent_le ⊢
        simp only [List.length_cons] at trimmed_le
        omega

/-- The last component of a path. -/
def lastComponent (path : Text) : Text :=
  ((trimReversed path.reverse).takeWhile (· ≠ '/')).reverse

/-! ## Steps -/

/-- What a component of a path asks a file system to do. -/
inductive Step where
  /-- A lone dot: stay in the directory. -/
  | stay
  /-- Two dots: go to the directory above. -/
  | up
  /-- A name: go to the entry of that name. -/
  | enter (name : Text)
  /-- A separator at the end: what was reached must be a directory. -/
  | settle
  deriving DecidableEq

/-- The step that a component stands for. -/
def stepOf (component : Text) : Step :=
  if component = ['.'] then .stay
  else if component = ['.', '.'] then .up
  else .enter component

/-- The components of a path; there are empty ones where separators touch. -/
def components (path : Text) : List Text :=
  path.cutAt '/'

/-- The steps of a path, from the root or from the current directory. -/
def steps (path : Text) : List Step :=
  let proper := (components path).filter (· ≠ [])
  proper.map stepOf ++
    (if path.getLast? = some '/' ∧ proper ≠ [] then [.settle] else [])

end Path

end LiterateBook
