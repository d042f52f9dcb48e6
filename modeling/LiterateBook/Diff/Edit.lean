import LiterateBook.Text.White

/-!
# Edits

An edit script turns one list of lines into another: it keeps runs of lines,
removes runs and inserts runs. A script reads as both lists, the one before the
edits and the one after them.
-/

namespace LiterateBook

namespace Diff

/-- What an edit does with its lines. -/
inductive Action where
  | keep
  | remove
  | insert
  deriving DecidableEq

/-- An action on a run of lines. -/
structure Edit where
  action : Action
  lines : List Text
  deriving DecidableEq

/-- The lines before the edits: all but the inserted ones. -/
def before (script : List Edit) : List Text :=
  (script.filter (·.action ≠ .insert)).flatMap (·.lines)

/-- The lines after the edits: all but the removed ones. -/
def after (script : List Edit) : List Text :=
  (script.filter (·.action ≠ .remove)).flatMap (·.lines)

@[simp] theorem before_nil : before [] = [] := rfl

@[simp] theorem after_nil : after [] = [] := rfl

theorem before_cons (edit : Edit) (rest : List Edit) :
    before (edit :: rest) =
      (if edit.action = .insert then [] else edit.lines) ++ before rest := by
  by_cases inserted : edit.action = .insert <;> simp [before, inserted]

theorem after_cons (edit : Edit) (rest : List Edit) :
    after (edit :: rest) =
      (if edit.action = .remove then [] else edit.lines) ++ after rest := by
  by_cases removed : edit.action = .remove <;> simp [after, removed]

@[simp] theorem before_append (first second : List Edit) :
    before (first ++ second) = before first ++ before second := by
  simp [before]

@[simp] theorem after_append (first second : List Edit) :
    after (first ++ second) = after first ++ after second := by
  simp [after]

/-- The lines that two lists start with alike. -/
def commonStart : List Text → List Text → List Text
  | x :: xs, y :: ys => if x = y then x :: commonStart xs ys else []
  | _, _ => []

/-- The lines that two lists end with alike. -/
def commonEnd (first second : List Text) : List Text :=
  (commonStart first.reverse second.reverse).reverse

/-- A common start is a start of both lists. -/
theorem commonStart_starts_both (first second : List Text) :
    commonStart first second <+: first ∧
      commonStart first second <+: second := by
  induction first generalizing second with
  | nil => simp [commonStart]
  | cons x xs ih =>
    cases second with
    | nil => simp [commonStart]
    | cons y ys =>
      by_cases same : x = y
      · simpa [commonStart, same] using ih ys
      · simp [commonStart, same]

/-- A common end is an end of both lists. -/
theorem commonEnd_ends_both (first second : List Text) :
    commonEnd first second <:+ first ∧ commonEnd first second <:+ second := by
  obtain ⟨left, right⟩ := commonStart_starts_both first.reverse second.reverse
  constructor
  · simpa [commonEnd] using List.reverse_suffix.2 left
  · simpa [commonEnd] using List.reverse_suffix.2 right

end Diff

end LiterateBook
