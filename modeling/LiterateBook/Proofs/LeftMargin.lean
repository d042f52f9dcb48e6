import LiterateBook.Proofs.ClosingFence
import Mathlib.Data.List.Forall2

/-!
# Listings at the left margin

The smallest indentation is that of some line which is not blank, so moving a
listing left by it brings that line to the margin and cuts nothing but white
space. Blank lines take no part in the measure and are cut all the same: a long
one gets shorter, a short one stays, and one that is just as long as the cut
disappears with its newline.
-/

namespace LiterateBook

namespace Indent

open Text

variable {line : Text} {lines : List Text} {width indent : Nat}

/-! ## The indentation of a line -/

/-- A blank line has no character to find, so it needs no case of its own. -/
theorem width?_eq_findIdx? (line : Text) :
    width? line = line.findIdx? fun c => !isWhite c := by
  cases blank : line.isBlank with
  | false => rw [width?, blank, if_neg Bool.false_ne_true]
  | true =>
      have missing : line.findIdx? (fun c => !isWhite c) = none := by
        rw [List.findIdx?_eq_none_iff]
        intro c member
        rw [List.all_eq_true.1 blank c member]
        rfl
      rw [width?, blank, if_pos rfl, missing]

theorem width?_eq_none_iff : width? line = none ↔ line.isBlank = true := by
  rw [width?_eq_findIdx?, List.findIdx?_eq_none_iff, isBlank, List.all_eq_true]
  simp

theorem width?_cons_of_isWhite {c : Char} (white : isWhite c = true)
    (line : Text) :
    width? (c :: line) = (width? line).map (· + 1) := by
  rw [width?_eq_findIdx?, width?_eq_findIdx?, List.findIdx?_cons, white]
  rfl

theorem width?_cons_of_not_isWhite {c : Char} (visible : isWhite c = false)
    (line : Text) :
    width? (c :: line) = some 0 := by
  rw [width?_eq_findIdx?, List.findIdx?_cons, visible]
  rfl

/-- A line can be parted anywhere inside its indentation, which is then shared
between the parts. -/
theorem exists_margin (measured : width? line = some indent)
    (le : width ≤ indent) :
    ∃ margin rest : Text, line = margin ++ rest ∧ margin.isBlank = true ∧
      margin.length = width ∧ width? rest = some (indent - width) := by
  induction width generalizing line indent with
  | zero => exact ⟨[], line, rfl, rfl, rfl, measured⟩
  | succ width ih =>
      cases line with
      | nil => cases measured
      | cons c line =>
          cases white : isWhite c with
          | true =>
              rw [width?_cons_of_isWhite white] at measured
              obtain ⟨inner, found, rfl⟩ := Option.map_eq_some_iff.1 measured
              have shorter : width ≤ inner := Nat.le_of_succ_le_succ le
              obtain ⟨margin, rest, rfl, blank, rfl, remaining⟩ :=
                ih found shorter
              refine ⟨c :: margin, rest, rfl, ?_, rfl, ?_⟩
              · rw [isBlank_cons, white, blank]
                rfl
              · rw [remaining, Nat.add_sub_add_right]
          | false =>
              rw [width?_cons_of_not_isWhite white] at measured
              cases measured
              cases le

theorem lt_length_of_width? (measured : width? line = some indent) :
    indent < line.length := by
  obtain ⟨margin, rest, rfl, -, rfl, start⟩ :=
    exists_margin measured (Nat.le_refl indent)
  cases rest with
  | nil => cases start
  | cons c rest => simp

/-! ## One line moved left -/

/-- A line and what is left of it by a cut of the given width. Nothing but
indentation is cut from a line that is not blank. A blank line stays blank; it
loses as many characters as the cut is wide, all it has where these are just as
many, and nothing where it has fewer. -/
structure MovedLeft (width : Nat) (line result : Text) : Prop where
  visible : line.isBlank = false →
    ∃ (margin : Text) (indent : Nat), line = margin ++ result ∧
    margin.isBlank = true ∧ margin.length = width ∧ width? line = some indent ∧
    width ≤ indent ∧
    width? result = some (indent - width)
  blank : line.isBlank = true → result.isBlank = true
  longer : line.isBlank = true → width < line.length → result = line.drop width
  equal : line.isBlank = true → line.length = width → result = []
  shorter : line.isBlank = true → line.length < width → result = line

/-- A line is moved left by a cut that does not go beyond its indentation, if it
has one. -/
theorem movedLeft_strip
    (within : ∀ indent, width? line = some indent → width ≤ indent) :
    MovedLeft width line (strip line width) := by
  constructor
  · intro visible
    cases measured : width? line with
    | none =>
        rw [width?_eq_none_iff.1 measured] at visible
        cases visible
    | some indent =>
        have le := within indent measured
        obtain ⟨margin, rest, rfl, blank, rfl, remaining⟩ :=
          exists_margin measured le
        have cut : strip (margin ++ rest) margin.length = rest := by
          rw [strip_eq_drop, if_pos (by simp), List.drop_left]
        rw [cut]
        exact ⟨margin, indent, rfl, blank, rfl, rfl, le, remaining⟩
  · intro blank
    obtain ⟨cut, split⟩ := strip_suffix line width
    rw [← split, isBlank_append, Bool.and_eq_true] at blank
    exact blank.2
  · intro _ longer
    rw [strip_eq_drop, if_pos (Nat.le_of_lt longer)]
  · intro _ equal
    rw [strip_eq_drop, if_pos (Nat.le_of_eq equal.symm), ← equal,
      List.drop_length]
  · intro _ shorter
    rw [strip_eq_drop, if_neg (Nat.not_le_of_lt shorter)]

/-! ## The smallest indentation -/

theorem minimum_le (member : line ∈ lines)
    (measured : width? line = some indent) :
    minimum lines ≤ indent :=
  List.min?_getD_le_of_mem (List.mem_filterMap.2 ⟨line, member, measured⟩)

theorem minimum_of_isBlank (blank : ∀ line ∈ lines, line.isBlank = true) :
    minimum lines = 0 := by
  have none : lines.filterMap width? = [] :=
    List.filterMap_eq_nil_iff.2 fun line member =>
      width?_eq_none_iff.2 (blank line member)
  rw [minimum, none]
  rfl

/-- The smallest indentation is that of a line, unless all lines are blank. -/
theorem isBlank_or_exists_minimum (lines : List Text) :
    (∀ line ∈ lines, line.isBlank = true) ∨
      ∃ line ∈ lines, width? line = some (minimum lines) := by
  cases smallest : (lines.filterMap width?).min? with
  | none =>
      rw [List.min?_eq_none_iff, List.filterMap_eq_nil_iff] at smallest
      exact .inl fun line member => width?_eq_none_iff.1 (smallest line member)
  | some indent =>
      obtain ⟨line, member, measured⟩ :=
        List.mem_filterMap.1 (List.min?_mem smallest)
      refine .inr ⟨line, member, ?_⟩
      rw [minimum, smallest, measured]
      rfl

/-! ## A listing moved left -/

/-- The smallest indentation of a listing is within that of each of its
lines. -/
theorem movedLeft_strip_minimum (member : line ∈ lines) :
    MovedLeft (minimum lines) line (strip line (minimum lines)) :=
  movedLeft_strip fun _ measured => minimum_le member measured

theorem forall₂_remove (lines : List Text) :
    lines.Forall₂ (MovedLeft (minimum lines)) (remove lines) := by
  rw [remove, stripAll, List.forall₂_map_right_iff, List.forall₂_same]
  intro line member
  exact movedLeft_strip_minimum member

/-- Some line of a listing at the margin has no indentation, unless all are
blank. -/
theorem minimum_remove (lines : List Text) : minimum (remove lines) = 0 := by
  rcases isBlank_or_exists_minimum lines with blank | ⟨line, member, measured⟩
  · apply minimum_of_isBlank
    intro result inside
    obtain ⟨line, member, rfl⟩ := List.mem_map.1 inside
    exact (movedLeft_strip_minimum member).blank (blank line member)
  · have visible : line.isBlank = false := by
      rw [Bool.eq_false_iff, ne_eq, ← width?_eq_none_iff, measured]
      exact nofun
    obtain ⟨-, indent, -, -, -, same, -, result⟩ :=
      (movedLeft_strip_minimum member).visible visible
    rw [measured] at same
    cases same
    rw [Nat.sub_self] at result
    exact Nat.le_zero.1 (minimum_le (List.mem_map_of_mem member) result)

theorem stripAll_zero (lines : List Text) : stripAll lines 0 = lines := by
  simp [stripAll, strip_eq_drop]

theorem remove_eq_self (least : minimum lines = 0) : remove lines = lines := by
  rw [remove, least, stripAll_zero]

/-! ## Newlines of a listing -/

/-- A whole line keeps its newline unless the cut is as wide as the line is
long. -/
theorem count_newline_strip (whole : IsLine line) (width : Nat) :
    (strip line width).count '\n' +
      (if line.length = width then 1 else 0) = 1 := by
  by_cases equal : line.length = width
  · rw [strip_eq_drop, if_pos (Nat.le_of_eq equal.symm), ← equal,
      List.drop_length, if_pos rfl]
    rfl
  · have remains : strip line width ≠ [] := by
      intro empty
      rw [strip_eq_drop] at empty
      split at empty
      · rename_i reached
        exact equal (Nat.le_antisymm (List.drop_eq_nil_iff.1 empty) reached)
      · exact whole.ne_nil empty
    rw [if_neg equal, (isLine_strip whole remains).count_newline]

theorem count_newline_stripAll (whole : ∀ line ∈ lines, IsLine line)
    (width : Nat) :
    (stripAll lines width).flatten.count '\n' +
      lines.countP (·.length = width) =
      lines.length := by
  induction lines with
  | nil => rfl
  | cons line rest ih =>
      have first := count_newline_strip (whole line (by simp)) width
      have later := ih fun other member => whole other (by simp [member])
      rw [stripAll, List.map_cons, List.flatten_cons, List.count_append,
        List.countP_cons, List.length_cons, ← stripAll]
      simp only [decide_eq_true_eq]
      omega

/-- The lines that disappear when whole lines are moved to the margin are blank
ones. -/
theorem countP_disappearing (whole : ∀ line ∈ lines, IsLine line) :
    (lines.countP fun line => line.isBlank ∧ line.length = minimum lines ∧
      0 < minimum lines) =
      lines.countP (·.length = minimum lines) := by
  apply List.countP_congr
  intro line member
  simp only [decide_eq_true_eq]
  constructor
  · intro disappears
    exact disappears.2.1
  · intro equal
    have nonempty := List.length_pos_of_ne_nil (whole line member).ne_nil
    refine ⟨?_, equal, equal ▸ nonempty⟩
    rw [← width?_eq_none_iff]
    cases measured : width? line with
    | none => rfl
    | some indent =>
        have least := minimum_le member measured
        have longer := lt_length_of_width? measured
        omega

/-- A listing keeps its lines and their order when it is moved to the margin,
each line moved left by the smallest indentation. It then stands at the margin,
so moving it again changes nothing, and a listing that stands there stays as it
is, such as one of blank lines alone. Of whole lines, as the body of every
region that is closed has them, only blank ones as long as the cut lose their
newline. -/
theorem remove_movedLeft (lines : List Text) :
    (remove lines).length = lines.length ∧
    lines.Forall₂ (MovedLeft (minimum lines)) (remove lines) ∧
    minimum (remove lines) = 0 ∧
    remove (remove lines) = remove lines ∧
    (minimum lines = 0 → remove lines = lines) ∧
    ((∀ line ∈ lines, line.isBlank = true) → minimum lines = 0) ∧
    ((∀ line ∈ lines, IsLine line) →
      (remove lines).flatten.count '\n' +
        (lines.countP fun line =>
          line.isBlank ∧ line.length = minimum lines ∧ 0 < minimum lines) =
            lines.length) ∧
    ∀ (source : Text) (segments : List Segment) (kind : RegionKind)
      (opener closer : Text),
      Segmentation source.lines segments →
        .region kind opener lines closer ∈ segments →
        ∀ line ∈ lines, IsLine line := by
  refine ⟨length_remove lines, forall₂_remove lines, minimum_remove lines,
    remove_eq_self (minimum_remove lines), remove_eq_self,
    minimum_of_isBlank, ?_, ?_⟩
  · intro whole
    rw [countP_disappearing whole]
    exact count_newline_stripAll whole (minimum lines)
  · intro source segments kind opener closer segmentation member
    obtain ⟨earlier, later, split⟩ := List.append_of_mem member
    exact segmentation.isLine_of_mem_region split

/-- A listing from a region, with wide white space and with blank lines that are
longer than its smallest indentation, as long, and shorter; and a listing of
blank lines. -/
theorem remove_movedLeft_example :
    let lines : List Text :=
      ["\u3000\u00a0 a\n".toList, "  b\n".toList, "    \n".toList, " \n".toList,
        "\n".toList]
    let blank : List Text := ["  \n".toList, "\n".toList]
    let region : Segment := .region .code "//`\n".toList lines "//`".toList
    (∀ line ∈ lines, IsLine line) ∧ (remove lines).flatten.count '\n' + 1 = 5 ∧
      Segmentation (Text.lines region.lines.flatten) [region] ∧
      (∀ line ∈ blank, line.isBlank = true) ∧ minimum blank = 0 ∧
        remove blank = blank := by
  intro lines blank region
  have opens : Marker.ofLine "//`\n".toList = RegionKind.code.opener := by
    decide +kernel
  have unmarked : ∀ line ∈ lines, Marker.ofLine line ≠
      RegionKind.code.closer := by decide +kernel
  have closes : Marker.ofLine "//`".toList = RegionKind.code.closer := by
    decide +kernel
  have cut : Text.lines region.lines.flatten = region.lines := by decide +kernel
  have segmentation : Segmentation (Text.lines region.lines.flatten)
      [region] := by
    rw [cut]
    exact .region opens unmarked closes .nil
  obtain ⟨-, -, -, -, -, -, newlines, ofRegion⟩ := remove_movedLeft lines
  obtain ⟨-, -, -, -, stays, least, -, -⟩ := remove_movedLeft blank
  have whole := ofRegion _ _ _ _ _ segmentation (List.mem_singleton_self region)
  have blankLines : ∀ line ∈ blank, line.isBlank = true := by decide
  exact ⟨whole, newlines whole, segmentation, blankLines, least blankLines,
    stays (least blankLines)⟩

end Indent

end LiterateBook
