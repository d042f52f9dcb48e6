import LiterateBook.Diff.Compact
import LiterateBook.Diff.Search

/-!
# Line differences

Two texts are compared line by line, a line ending at a newline, at a carriage
return, or at both together. Every line of either text appears once in the
difference, marked as removed, inserted or common; a line without terminator is
given a newline.
-/

namespace LiterateBook

namespace Diff

/-- The lines of a text for comparison: a newline, a carriage return and both
together end a line. -/
def lines : Text → List Text
  | [] => []
  | '\r' :: '\n' :: rest => ['\r', '\n'] :: lines rest
  | c :: rest =>
    if c = '\n' ∨ c = '\r' then [c] :: lines rest
    else match lines rest with
      | [] => [[c]]
      | line :: others => (c :: line) :: others

/-- A line as it is shown: with a newline when it has no terminator. -/
def shown (line : Text) : Text :=
  match line.getLast? with
  | some '\n' => line
  | some '\r' => line
  | _ => line ++ ['\n']

/-- The edits that turn one text into another, one for each line. -/
def edits (current expected : Text) : List (Action × Text) :=
  (group [] [] (compact (search (lines current) (lines expected)))).flatMap fun edit =>
    edit.lines.map fun line => (edit.action, line)

end Diff

end LiterateBook
