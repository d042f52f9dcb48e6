import LiterateBook.Proofs.LeftMargin

/-!
# Cuts at character boundaries

A line is cut at a byte offset, which lies inside the line and never inside a
character. What is left is the line without as many characters as the cut is
wide, so that two cuts one after the other make one cut of both widths as long
as the line reaches that far, and a cut inside the indentation of a line leaves
all of it from its first visible character on.
-/

namespace LiterateBook

namespace Text

/-! ## Bytes and offsets -/

theorem bytes_append (first second : Text) :
    (first ++ second).bytes = first.bytes ++ second.bytes :=
  List.flatMap_append

theorem length_bytes (text : Text) : text.bytes.length = byteLength text := by
  induction text with
  | nil => rfl
  | cons c rest ih =>
      rw [bytes] at ih ⊢
      rw [List.flatMap_cons, List.length_append, ih,
        String.length_utf8EncodeChar, byteLength]

theorem utf8ByteSize_ofList (text : Text) :
    (String.ofList text).utf8ByteSize = byteLength text := by
  rw [← length_bytes, ← String.size_toByteArray, String.toByteArray_ofList]
  exact List.size_toByteArray

theorem isValid_byteLength_take (text : Text) (count : Nat) :
    String.Pos.Raw.IsValid (String.ofList text)
      ⟨byteLength (text.take count)⟩ :=
  String.Pos.Raw.isValid_ofList.2 ⟨count, (utf8ByteSize_ofList _).symm⟩

end Text

namespace Indent

open Text

variable {line : Text} {width indent offset : Nat}

/-! ## The offset of a cut -/

/-- A line can be cut at an offset: it lies inside the line, between two
characters, and the rest has the bytes from there on. -/
structure CutsAt (line : Text) (offset : Nat) (rest : Text) : Prop where
  inside : offset < line.bytes.length
  boundary : String.Pos.Raw.IsValid (String.ofList line) ⟨offset⟩
  found : line.fromByte? offset = some rest
  bytes_eq : rest.bytes = line.bytes.drop offset

/-- An offset is looked up only where characters are left behind the cut. -/
theorem getElem?_byteOffsets_eq_none_iff :
    (line.byteOffsets 0)[width]? = none ↔ line.length ≤ width := by
  rw [getElem?_byteOffsets]
  split <;> simp <;> omega

theorem cutsAt_strip (found : (line.byteOffsets 0)[width]? = some offset) :
    CutsAt line offset (strip line width) := by
  have inside : width < line.length := by
    apply Nat.lt_of_not_le
    rw [← getElem?_byteOffsets_eq_none_iff, found]
    exact Option.some_ne_none offset
  rw [getElem?_byteOffsets, if_pos inside, Nat.zero_add] at found
  cases found
  have cut := fromByte?_byteLength_append (line.take width) (line.drop width)
  have parted : bytes line =
      bytes (line.take width) ++ bytes (line.drop width) := by
    rw [← bytes_append, List.take_append_drop]
  rw [List.take_append_drop] at cut
  rw [strip_eq_drop, if_pos (Nat.le_of_lt inside)]
  constructor
  · rw [parted, List.length_append, length_bytes, length_bytes,
      List.drop_eq_getElem_cons inside, byteLength]
    exact Nat.lt_add_of_pos_right (Nat.add_pos_left (Char.utf8Size_pos _) _)
  · exact isValid_byteLength_take line width
  · exact cut
  · rw [parted, ← length_bytes, List.drop_left]

/-! ## Cuts one after another -/

theorem strip_strip {first second : Nat}
    (reaches : first + second ≤ line.length) :
    strip (strip line first) second = strip line (first + second) := by
  have reachesFirst : first ≤ line.length := by omega
  have reachesSecond : second ≤ (line.drop first).length := by
    rw [List.length_drop]
    omega
  rw [strip_eq_drop line first, if_pos reachesFirst, strip_eq_drop,
    if_pos reachesSecond, strip_eq_drop, if_pos reaches, List.drop_drop]

/-! ## Cuts inside the indentation -/

/-- White space in front of a text is trimmed with the white space it starts
with. -/
theorem trimStart_append_of_isBlank {margin : Text}
    (blank : margin.isBlank = true) (rest : Text) :
    (margin ++ rest).trimStart = rest.trimStart := by
  rw [trimStart, List.dropWhile_append, ← trimStart, trimStart_eq_nil_iff.2 blank]
  rfl

/-- What a line has from its first visible character on stands behind its
indentation. -/
theorem trimStart_eq_drop (measured : width? line = some indent) :
    line.trimStart = line.drop indent := by
  obtain ⟨margin, rest, rfl, blank, rfl, start⟩ :=
    exists_margin measured (Nat.le_refl indent)
  rw [trimStart_append_of_isBlank blank, List.drop_left]
  cases rest with
  | nil => cases start
  | cons c rest =>
      cases white : isWhite c with
      | true =>
          rw [width?_cons_of_isWhite white, Nat.sub_self] at start
          obtain ⟨inner, -, impossible⟩ := Option.map_eq_some_iff.1 start
          cases impossible
      | false =>
          rw [trimStart, List.dropWhile_cons, white, if_neg Bool.false_ne_true]

/-- A cut inside the indentation of a line leaves all that can be seen of it. -/
theorem trimStart_strip (measured : width? line = some indent)
    (le : width ≤ indent) :
    (strip line width).trimStart = line.drop indent := by
  obtain ⟨margin, rest, rfl, blank, rfl, -⟩ := exists_margin measured le
  rw [strip_eq_drop, if_pos (by simp), List.drop_left, ← trimStart_eq_drop measured,
    trimStart_append_of_isBlank blank]

/-- The cut of a line is made at a boundary between two characters inside the
line, if at an offset at all, and drops as many characters as its width says or
none. Two cuts that the line reaches make one, and a cut that is no wider than
the indentation keeps the text behind the indentation. -/
theorem strip_atBoundary (line : Text) (width : Nat) :
    (∀ offset, (line.byteOffsets 0)[width]? = some offset →
      CutsAt line offset (strip line width)) ∧
    strip line width = (if width ≤ line.length then line.drop width else line) ∧
    strip line width <:+ line ∧
    (∀ first second, first + second ≤ line.length →
      strip (strip line first) second = strip line (first + second)) ∧
    ∀ indent, width? line = some indent → width ≤ indent →
      line.trimStart = line.drop indent ∧
        (strip line width).trimStart = line.drop indent :=
  ⟨fun _ => cutsAt_strip, strip_eq_drop line width, strip_suffix line width,
    fun _ _ => strip_strip, fun _ measured le =>
      ⟨trimStart_eq_drop measured, trimStart_strip measured le⟩⟩

/-- A line with white space of three bytes, cut behind it, at its end and
beyond. -/
theorem strip_atBoundary_example :
    let line : Text := "\u3000\u00a0é\n".toList
    (line.byteOffsets 0)[1]? = some 3 ∧ CutsAt line 3 "\u00a0é\n".toList ∧
      1 + 3 ≤ line.length ∧ strip (strip line 1) 3 = [] ∧ strip line 5 = line ∧
      width? line = some 2 ∧ 1 ≤ 2 ∧
        (strip line 1).trimStart = "é\n".toList := by
  intro line
  have offset : (line.byteOffsets 0)[1]? = some 3 := by decide
  have measured : width? line = some 2 := by decide
  obtain ⟨cuts, dropped, -, composed, visible⟩ := strip_atBoundary line 1
  have cut := cuts 3 offset
  rw [dropped] at cut
  have twice := composed 1 3 (by decide)
  rw [(strip_atBoundary line 4).2.1] at twice
  exact ⟨offset, cut,
    by decide, twice, (strip_atBoundary line 5).2.1, measured, by decide,
    (visible 2 measured (by decide)).2⟩

end Indent

end LiterateBook
