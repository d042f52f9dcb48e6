/-!
# Texts and white space

This module fixes what a text is for the whole library, and the class of white
space characters by which lines count as blank and markers count as indented.
Texts are lists of Unicode scalar values, so that every statement about them is
a statement about lists.
-/

namespace LiterateBook

/-- A text is the list of its Unicode scalar values. -/
abbrev Text := List Char

namespace Text

/-- The inclusive ranges of code points with the Unicode property
`White_Space`. -/
def whiteRanges : List (Nat × Nat) :=
  [(0x09, 0x0D), (0x20, 0x20), (0x85, 0x85), (0xA0, 0xA0), (0x1680, 0x1680),
    (0x2000, 0x200A), (0x2028, 0x2029), (0x202F, 0x202F), (0x205F, 0x205F),
    (0x3000, 0x3000)]

/-- White space is the Unicode property `White_Space`, not the smaller ASCII
class. -/
def isWhite (c : Char) : Bool :=
  whiteRanges.any fun range => range.1 ≤ c.toNat && c.toNat ≤ range.2

/-- The ASCII white space of `Char.isWhitespace` is white space here too. -/
theorem isWhite_of_isWhitespace {c : Char} (white : c.isWhitespace = true) :
    isWhite c = true := by
  simp only [Char.isWhitespace, Bool.or_eq_true, decide_eq_true_eq] at white
  rcases white with ((rfl | rfl) | rfl) | rfl <;> decide

@[simp] theorem isWhite_newline : isWhite '\n' = true := by decide

@[simp] theorem isWhite_return : isWhite '\r' = true := by decide

/-- A text is blank when it holds nothing but white space, terminators
included. -/
def isBlank (text : Text) : Bool :=
  text.all isWhite

/-- Drop the white space a text starts with. -/
def trimStart (text : Text) : Text :=
  text.dropWhile isWhite

@[simp] theorem isBlank_nil : isBlank [] = true := rfl

@[simp] theorem isBlank_cons (c : Char) (text : Text) :
    isBlank (c :: text) = (isWhite c && isBlank text) := rfl

theorem isBlank_append (first second : Text) :
    isBlank (first ++ second) = (isBlank first && isBlank second) :=
  List.all_append

/-- A text is blank exactly when trimming leaves nothing of it. -/
theorem trimStart_eq_nil_iff {text : Text} :
    trimStart text = [] ↔ isBlank text = true := by
  induction text with
  | nil => simp [trimStart]
  | cons c rest ih =>
    cases white : isWhite c with
    | true => simpa [trimStart, white] using ih
    | false => simp [trimStart, white]

/-- Trimming a text that is not blank does not reach what follows it. -/
theorem trimStart_append_of_not_isBlank {text : Text}
    (visible : text.isBlank = false) (more : Text) :
    trimStart (text ++ more) = trimStart text ++ more := by
  have remains : (text.dropWhile isWhite).isEmpty = false := by
    rw [List.isEmpty_eq_false_iff, ne_eq, ← trimStart, trimStart_eq_nil_iff, visible]
    exact Bool.false_ne_true
  rw [trimStart, List.dropWhile_append, remains]
  rfl

end Text

end LiterateBook
