import LiterateBook.Diff
import LiterateBook.Paint

/-!
# Printed differences

A difference is printed line by line, each line behind three characters that say
whether it is common to both texts, removed or inserted.
-/

namespace LiterateBook

namespace Diff

/-- A line of a difference as it is printed: removed lines are red and inserted
ones green. -/
def reportLine : Action × Text → List Span
  | (.keep, line) => [.plain ("   ".toList ++ shown line)]
  | (.remove, line) => [.plain "  ".toList, .painted .red ('-' :: shown line)]
  | (.insert, line) => [.plain "  ".toList, .painted .green ('+' :: shown line)]

/-- The difference between two texts as it is printed. -/
def report (current expected : Text) : List Span :=
  (edits current expected).flatMap reportLine

end Diff

end LiterateBook
