import LiterateBook.Text.Bytes

/-!
# Indentation of listings

A listing is moved to the left margin by the smallest indentation among its
lines that are not blank. Widths count characters; the cut itself is made at the
byte offset where the first character to keep starts.
-/

namespace LiterateBook

namespace Indent

/-- The number of white space characters a line starts with; a blank line has no
opinion. -/
def width? (line : Text) : Option Nat :=
  if line.isBlank then none else line.findIdx? fun c => !Text.isWhite c

/-- The smallest indentation among the lines that are not blank, and zero when
there is none. -/
def minimum (lines : List Text) : Nat :=
  (lines.filterMap width?).min?.getD 0

/-- A line without its first `width` characters. A line of exactly that many
characters, terminator included, becomes empty; a shorter line stays as it
is. -/
def strip (line : Text) (width : Nat) : Text :=
  match (line.byteOffsets 0)[width]? with
  | some offset => (line.fromByte? offset).getD line
  | none => if line.length = width then [] else line

/-- Lines without their first `width` characters, blank lines included. -/
def stripAll (lines : List Text) (width : Nat) : List Text :=
  lines.map fun line => strip line width

/-- Lines moved left by their smallest indentation. -/
def remove (lines : List Text) : List Text :=
  stripAll lines (minimum lines)

@[simp] theorem minimum_nil : minimum [] = 0 := rfl

@[simp] theorem remove_nil : remove [] = [] := rfl

@[simp] theorem length_remove (lines : List Text) :
    (remove lines).length = lines.length := by
  simp [remove, stripAll]

end Indent

end LiterateBook
