import LiterateBook.Text.White

/-!
# Lines

A text is cut right after each newline, so that every line carries its own
terminator and the lines concatenate to the text. The last line may lack the
terminator; `terminatedLines` supplies it.
-/

namespace LiterateBook

namespace Text

/-- The lines of a text, each with its newline; a last line without one is kept
as it stands. -/
def lines : Text → List Text
  | [] => []
  | c :: rest =>
    if c = '\n' then [c] :: lines rest
    else match lines rest with
      | [] => [[c]]
      | line :: others => (c :: line) :: others

@[simp] theorem lines_nil : lines [] = [] := rfl

/-- Cutting into lines loses nothing and adds nothing. -/
@[simp] theorem flatten_lines (text : Text) : (lines text).flatten = text := by
  induction text with
  | nil => rfl
  | cons c rest ih =>
    by_cases newline : c = '\n'
    · simp [lines, newline, ih]
    · rw [lines, if_neg newline]
      cases cut : lines rest with
      | nil => rw [cut] at ih; simpa using ih
      | cons line others => rw [cut] at ih; simpa using ih

/-- A text ends a line when it is empty or its last character is a newline. -/
def EndsLine (text : Text) : Prop :=
  text = [] ∨ text.getLast? = some '\n'

instance (text : Text) : Decidable (EndsLine text) :=
  inferInstanceAs (Decidable (_ ∨ _))

/-- A line with the newline it may lack. -/
def terminate (line : Text) : Text :=
  if line.getLast? = some '\n' then line else line ++ ['\n']

/-- The lines of a text, the last one terminated like the others. -/
def terminatedLines (text : Text) : List Text :=
  (lines text).map terminate

@[simp] theorem terminatedLines_nil : terminatedLines [] = [] := rfl

end Text

end LiterateBook
