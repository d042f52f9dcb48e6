import LiterateBook.Proofs.FencedListing
import LiterateBook.Proofs.LeftMargin

/-!
# Listings moved deeper

White space in front of every line of a listing adds as much to its smallest
indentation, so the cut to the margin takes it off again. The two cuts meet the
same character of a line as long as the line reaches to the first of them; a
shorter line is not cut at all and keeps what was put in front of it.
-/

namespace LiterateBook

namespace Indent

open Text

variable {margin line : Text} {lines : List Text} {width : Nat}

/-- Lines with the same text in front of each of them. -/
def deepen (margin : Text) (lines : List Text) : List Text :=
  lines.map (margin ++ ·)

/-! ## One line -/

theorem width?_append_of_isBlank (blank : margin.isBlank = true) (line : Text) :
    width? (margin ++ line) = (width? line).map (· + margin.length) := by
  induction margin with
  | nil => simp
  | cons c margin ih =>
      rw [isBlank_cons, Bool.and_eq_true] at blank
      rw [List.cons_append, width?_cons_of_isWhite blank.1, ih blank.2,
        Option.map_map]
      rfl

/-- A line that reaches to the cut is cut at the same character when it is moved
deeper. -/
theorem strip_append_of_le (reaches : width ≤ line.length) (margin : Text) :
    strip (margin ++ line) (width + margin.length) = strip line width := by
  have alsoReaches : width + margin.length ≤ (margin ++ line).length := by
    rw [List.length_append, Nat.add_comm]
    exact Nat.add_le_add_left reaches _
  rw [strip_eq_drop, strip_eq_drop, if_pos alsoReaches, if_pos reaches,
    Nat.add_comm, ← List.drop_drop, List.drop_left]

/-- A line that does not reach to the cut keeps what was put in front of it. -/
theorem strip_append_of_lt (short : line.length < width) (margin : Text) :
    strip (margin ++ line) (width + margin.length) = margin ++ line := by
  have alsoShort : ¬ width + margin.length ≤ (margin ++ line).length := by
    rw [List.length_append]
    omega
  rw [strip_eq_drop, if_neg alsoShort]

/-- What is put in front of a line leaves no trace only where the line reaches
to the cut. -/
theorem le_length_of_strip_append_eq (nonempty : margin ≠ [])
    (same : strip (margin ++ line) (width + margin.length) = strip line width) :
    width ≤ line.length := by
  rcases Nat.lt_or_ge line.length width with short | reaches
  · rw [strip_append_of_lt short, strip_eq_drop,
      if_neg (Nat.not_le_of_lt short)] at same
    exact absurd (List.append_left_eq_self.1 same) nonempty
  · exact reaches

/-! ## All lines -/

/-- The line with the smallest indentation stays the one that has it. -/
theorem minimum_deepen (visible : ∃ line ∈ lines, line.isBlank = false)
    (blank : margin.isBlank = true) :
    minimum (deepen margin lines) = minimum lines + margin.length := by
  obtain ⟨line, member, lineVisible⟩ := visible
  have deeperVisible : (margin ++ line).isBlank = false := by
    rw [isBlank_append, lineVisible, Bool.and_false]
  have deeperMember : margin ++ line ∈ deepen margin lines :=
    List.mem_map_of_mem member
  apply Nat.le_antisymm
  · rcases isBlank_or_exists_minimum lines with
        allBlank | ⟨least, inside, measured⟩
    · rw [allBlank line member] at lineVisible
      cases lineVisible
    · have deeper := width?_append_of_isBlank blank least
      rw [measured] at deeper
      exact minimum_le (List.mem_map_of_mem inside) deeper
  · rcases isBlank_or_exists_minimum (deepen margin lines) with
        allBlank | ⟨least, inside, measured⟩
    · rw [allBlank _ deeperMember] at deeperVisible
      cases deeperVisible
    · obtain ⟨original, originalMember, rfl⟩ := List.mem_map.1 inside
      rw [width?_append_of_isBlank blank] at measured
      obtain ⟨indent, originalMeasured, sum⟩ :=
        Option.map_eq_some_iff.1 measured
      have least := minimum_le originalMember originalMeasured
      omega

theorem stripAll_deepen (margin : Text) (lines : List Text) (width : Nat) :
    stripAll (deepen margin lines) width =
      lines.map fun line => strip (margin ++ line) width := by
  rw [stripAll, deepen, List.map_map]
  rfl

/-- White space in front of every line of a listing that is not blank altogether
adds as many characters to its smallest indentation. The listing is the same at
the margin, and is rendered the same, when all its lines are at least as long as
the smallest indentation; and only then, if anything was put in front at all. -/
theorem remove_deepen (visible : ∃ line ∈ lines, line.isBlank = false)
    (blank : margin.isBlank = true) :
    minimum (deepen margin lines) = minimum lines + margin.length ∧
    ((∀ line ∈ lines, minimum lines ≤ line.length) →
      remove (deepen margin lines) = remove lines ∧
      ∀ (options : RenderOptions) (block deeper : CodeBlock), block.Faithful →
        deeper.Faithful →
        block.lines = lines → deeper.lines = deepen margin lines →
          options.renderCode deeper = options.renderCode block) ∧
    (margin ≠ [] → remove (deepen margin lines) = remove lines →
      ∀ line ∈ lines, minimum lines ≤ line.length) := by
  have moved := minimum_deepen visible blank
  refine ⟨moved, ?_, ?_⟩
  · intro reach
    have same : remove (deepen margin lines) = remove lines := by
      rw [remove, moved, stripAll_deepen]
      apply List.map_congr_left
      intro line member
      exact strip_append_of_le (reach line member) margin
    refine ⟨same, ?_⟩
    rintro options block deeper faithful deeperFaithful rfl deeperLines
    rw [RenderOptions.renderCode, RenderOptions.renderCode, faithful.minimumIndent_eq,
      deeperFaithful.minimumIndent_eq, deeperLines, ← remove, same, remove]
  · intro nonempty same line member
    rw [remove, moved, stripAll_deepen, remove, stripAll, List.map_inj_left] at same
    exact le_length_of_strip_append_eq nonempty (same line member)

/-- A listing with wide white space and a blank line that is just as long as the
smallest indentation, moved deeper by other white space; and one with a shorter
blank line, which gives the move away. -/
theorem remove_deepen_example :
    let lines : List Text :=
      ["\u3000\u00a0a\n".toList, "\t  b\n".toList, " \n".toList]
    let ragged : List Text := ["  a\n".toList, "\n".toList]
    let margin : Text := "\u2003\t".toList
    (∃ line ∈ lines, line.isBlank = false) ∧ margin.isBlank = true ∧
      margin ≠ [] ∧
      (∀ line ∈ lines, minimum lines ≤ line.length) ∧
      minimum (deepen margin lines) = minimum lines + 2 ∧
      remove (deepen margin lines) = remove lines ∧
      RenderOptions.default.renderCode (.ofLines (deepen margin lines)) =
        RenderOptions.default.renderCode (CodeBlock.ofLines lines).measured ∧
      (∃ line ∈ ragged, line.isBlank = false) ∧
      remove (deepen margin ragged) ≠ remove ragged := by
  intro lines ragged margin
  have visible : ∃ line ∈ lines, line.isBlank = false :=
    ⟨"\t  b\n".toList, by decide, by decide⟩
  have raggedVisible : ∃ line ∈ ragged, line.isBlank = false :=
    ⟨"  a\n".toList, by decide, by decide⟩
  have blank : margin.isBlank = true := by decide
  have nonempty : margin ≠ [] := by decide
  have reach : ∀ line ∈ lines, minimum lines ≤ line.length := by decide +kernel
  obtain ⟨moved, alike, -⟩ := remove_deepen visible blank
  obtain ⟨-, -, only⟩ := remove_deepen raggedVisible blank
  obtain ⟨same, rendered⟩ := alike reach
  refine ⟨visible, blank, nonempty, reach, moved, same, ?_, raggedVisible, ?_⟩
  · exact rendered _ _ _ (CodeBlock.faithful_ofLines lines).measured
      (CodeBlock.faithful_ofLines (deepen margin lines)) rfl rfl
  · intro sameRagged
    exact absurd (only nonempty sameRagged) (by decide +kernel)

end Indent

end LiterateBook
