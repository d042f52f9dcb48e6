import LiterateBook.Text.White

/-!
# Texts as UTF-8

Names are ordered and matched byte by byte, and indentation is cut at byte
offsets. This module gives the UTF-8 form of a text, the offset at which each of
its characters starts, and the parts of a text between byte offsets.
-/

namespace LiterateBook

namespace Text

/-- The UTF-8 bytes of a text. -/
def bytes (text : Text) : List UInt8 :=
  text.flatMap String.utf8EncodeChar

/-- The number of UTF-8 bytes of a text. -/
def byteLength : Text → Nat
  | [] => 0
  | c :: rest => c.utf8Size + byteLength rest

theorem byteLength_append (first second : Text) :
    byteLength (first ++ second) = byteLength first + byteLength second := by
  induction first with
  | nil => simp [byteLength]
  | cons c rest ih =>
      rw [List.cons_append, byteLength, byteLength, ih, Nat.add_assoc]

/-- The byte offsets at which the characters of a text start, when the text
itself starts at `start`. -/
def byteOffsets (start : Nat) : Text → List Nat
  | [] => []
  | c :: rest => start :: byteOffsets (start + c.utf8Size) rest

/-- The remainder of a text from a byte offset on; none when the offset lies
inside a character or beyond the end. -/
def fromByte? : Text → Nat → Option Text
  | text, 0 => some text
  | [], _ + 1 => none
  | c :: rest, offset + 1 =>
    if c.utf8Size ≤ offset + 1 then fromByte? rest (offset + 1 - c.utf8Size)
    else none

@[simp] theorem fromByte?_zero (text : Text) :
    fromByte? text 0 = some text := by
  cases text <;> rfl

/-- Skipping the bytes of the first character is skipping that character. -/
theorem fromByte?_cons_add (c : Char) (rest : Text) (offset : Nat) :
    fromByte? (c :: rest) (c.utf8Size + offset) = fromByte? rest offset := by
  have positive : 0 < c.utf8Size := c.utf8Size_pos
  obtain ⟨total, total_eq⟩ : ∃ total, c.utf8Size + offset = total + 1 :=
    ⟨c.utf8Size + offset - 1, by omega⟩
  rw [total_eq, fromByte?, if_pos (by omega)]
  congr 1
  omega

/-- The text before a byte offset; none when the offset lies inside a character
or beyond the end. -/
def toByte? : Text → Nat → Option Text
  | _, 0 => some []
  | [], _ + 1 => none
  | c :: rest, offset + 1 =>
    if c.utf8Size ≤ offset + 1 then
      (toByte? rest (offset + 1 - c.utf8Size)).map (c :: ·)
    else none

/-- The part of a text that starts at a byte offset and has a number of
bytes. -/
def slice? (text : Text) (start count : Nat) : Option Text :=
  (text.fromByte? start).bind (·.toByte? count)

/-- The text before a byte offset and the remainder from it on make up the
text. -/
theorem toByte?_append_fromByte? {text before after : Text} {offset : Nat}
    (left : text.toByte? offset = some before)
    (right : text.fromByte? offset = some after) :
    before ++ after = text := by
  fun_induction toByte? text offset generalizing before with
  | case1 => simp_all
  | case2 => cases left
  | case3 c rest offset fits ih =>
    rw [fromByte?, if_pos fits] at right
    obtain ⟨inner, found, rfl⟩ := Option.map_eq_some_iff.1 left
    rw [List.cons_append, ih found right]
  | case4 => cases left

/-- One name comes before another, or is the same, in byte order. -/
def bytesLe (first second : Text) : Bool :=
  decide (bytes first ≤ bytes second)

end Text

end LiterateBook
