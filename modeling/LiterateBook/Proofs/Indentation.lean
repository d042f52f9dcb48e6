import LiterateBook.Indent
import LiterateBook.Proofs.Lines

/-!
# Cutting indentation

The cut is made at a byte offset, but that offset is always where a character
starts, so cutting is dropping characters. What is left of a whole line is a
whole line or nothing.
-/

namespace LiterateBook

namespace Text

/-! ## Offsets of characters -/

/-- A character starts behind the bytes of the characters before it. -/
theorem getElem?_byteOffsets (text : Text) (start index : Nat) :
    (text.byteOffsets start)[index]? =
      if index < text.length then some (start + byteLength (text.take index))
      else none := by
  induction text generalizing start index with
  | nil => simp [byteOffsets]
  | cons c rest ih =>
      cases index with
      | zero => simp [byteOffsets, byteLength]
      | succ index => simp [byteOffsets, byteLength, ih, Nat.add_assoc]

/-- Behind the bytes of some characters stands what follows these characters. -/
theorem fromByte?_byteLength_append (before after : Text) :
    (before ++ after).fromByte? (byteLength before) = some after := by
  induction before with
  | nil => exact fromByte?_zero after
  | cons c rest ih => rw [List.cons_append, byteLength, fromByte?_cons_add, ih]

end Text

namespace Indent

open Text

/-! ## One line -/

/-- The cut drops as many characters as the width says, where the line has as
many. At the end of the line no character starts, so a cut there is a case of
its own. -/
theorem strip_eq_drop (line : Text) (width : Nat) :
    strip line width =
      if width ≤ line.length then line.drop width else line := by
  rw [strip, getElem?_byteOffsets]
  by_cases inside : width < line.length
  · have cut := fromByte?_byteLength_append (line.take width) (line.drop width)
    rw [List.take_append_drop] at cut
    simp only [if_pos inside, Nat.zero_add, cut, Option.getD_some,
      if_pos (Nat.le_of_lt inside)]
  · by_cases exact : line.length = width
    · simp [exact]
    · have short : ¬ width ≤ line.length := by omega
      simp [inside, exact, short]

theorem strip_suffix (line : Text) (width : Nat) :
    strip line width <:+ line := by
  rw [strip_eq_drop]
  split
  · exact List.drop_suffix width line
  · exact List.suffix_refl line

/-- What is left of a line ends as the line does, unless nothing is left. -/
theorem getLast?_strip {line : Text} {width : Nat}
    (remains : strip line width ≠ []) :
    (strip line width).getLast? = line.getLast? := by
  obtain ⟨cut, split⟩ := strip_suffix line width
  conv => rhs; rw [← split]
  rw [List.getLast?_append, List.getLast?_eq_some_getLast remains,
    Option.some_or]

theorem isLine_strip {line : Text} (whole : IsLine line) {width : Nat}
    (remains : strip line width ≠ []) : IsLine (strip line width) := by
  constructor
  · rw [getLast?_strip remains]
    exact whole.1
  · intro member
    obtain ⟨cut, split⟩ := strip_suffix line width
    apply whole.2
    rw [← split, List.dropLast_append_of_ne_nil remains]
    exact List.mem_append_right cut member

/-! ## Several lines -/

/-- Whole lines that are moved left are whole lines still, or nothing. -/
theorem isLine_of_mem_stripAll {lines : List Text}
    (whole : ∀ line ∈ lines, IsLine line) {width : Nat} {piece : Text}
    (member : piece ∈ stripAll lines width) (remains : piece ≠ []) :
    IsLine piece := by
  obtain ⟨line, inside, rfl⟩ := List.mem_map.1 member
  exact isLine_strip (whole line inside) remains

theorem endsLine_flatten_stripAll {lines : List Text}
    (whole : ∀ line ∈ lines, IsLine line) (width : Nat) :
    EndsLine (stripAll lines width).flatten := by
  apply EndsLine.flatten
  intro piece member
  by_cases empty : piece = []
  · exact .inl empty
  · exact .inr (isLine_of_mem_stripAll whole member empty).1

end Indent

end LiterateBook
