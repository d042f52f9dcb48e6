import LiterateBook.Text.Lines

/-!
# Cutting a text into lines

The lines of a text are the only way to cut it right after each newline.
Statements about sources rest on two equations: a text whose only newline ends
it is the first line of whatever follows it, and a text that ends a line is cut
independently of what follows it.
-/

namespace LiterateBook

namespace Text

/-! ## Single lines -/

/-- A text is one whole line when its last character is its only newline. -/
def IsLine (text : Text) : Prop :=
  text.getLast? = some '\n' ∧ '\n' ∉ text.dropLast

instance (text : Text) : Decidable (IsLine text) :=
  inferInstanceAs (Decidable (_ ∧ _))

/-- A whole line is a content without newlines and the newline after it. -/
theorem isLine_iff {text : Text} :
    IsLine text ↔ ∃ content : Text, '\n' ∉ content ∧
      text = content ++ ['\n'] := by
  constructor
  · intro whole
    obtain ⟨last, fresh⟩ := whole
    obtain ⟨content, equal⟩ := List.getLast?_eq_some_iff.1 last
    subst equal
    rw [List.dropLast_concat] at fresh
    exact ⟨content, fresh, rfl⟩
  · intro shape
    obtain ⟨content, fresh, rfl⟩ := shape
    constructor
    · rw [List.getLast?_concat]
    · rw [List.dropLast_concat]
      exact fresh

theorem isLine_concat {content : Text} (fresh : '\n' ∉ content) :
    IsLine (content ++ ['\n']) :=
  isLine_iff.2 ⟨content, fresh, rfl⟩

theorem IsLine.cons {c : Char} {line : Text} (whole : IsLine line)
    (differ : c ≠ '\n') :
    IsLine (c :: line) := by
  obtain ⟨content, fresh, rfl⟩ := isLine_iff.1 whole
  rw [← List.cons_append]
  apply isLine_concat
  intro member
  rcases List.mem_cons.1 member with same | later
  · exact differ same.symm
  · exact fresh later

theorem IsLine.ne_nil {line : Text} (whole : IsLine line) : line ≠ [] := by
  rintro rfl
  cases whole.1

theorem IsLine.count_newline {line : Text} (whole : IsLine line) :
    line.count '\n' = 1 := by
  obtain ⟨content, fresh, rfl⟩ := isLine_iff.1 whole
  rw [List.count_append, List.count_eq_zero.2 fresh]
  rfl

/-! ## The lines of a text -/

theorem IsLine.lines_append {line : Text} (whole : IsLine line) (rest : Text) :
    lines (line ++ rest) = line :: lines rest := by
  obtain ⟨content, fresh, rfl⟩ := isLine_iff.1 whole
  clear whole
  induction content with
  | nil => simp [lines]
  | cons c content ih =>
      have differ : c ≠ '\n' := by
        intro same
        simp [same] at fresh
      have later := ih fun member => fresh (by simp [member])
      rw [List.cons_append, List.cons_append, lines, if_neg differ, later]

theorem lines_flatten_append {cut : List Text}
    (whole : ∀ line ∈ cut, IsLine line) (rest : Text) :
    lines (cut.flatten ++ rest) = cut ++ lines rest := by
  induction cut with
  | nil => rfl
  | cons line others ih =>
      have first := whole line (by simp)
      have later := ih fun other member => whole other (by simp [member])
      rw [List.flatten_cons, List.append_assoc, first.lines_append, later,
        List.cons_append]

theorem lines_of_newline_not_mem {text : Text} (nonempty : text ≠ [])
    (fresh : '\n' ∉ text) : lines text = [text] := by
  induction text with
  | nil => exact absurd rfl nonempty
  | cons c rest ih =>
      have differ : c ≠ '\n' := by
        intro same
        simp [same] at fresh
      rw [lines, if_neg differ]
      cases rest with
      | nil => rfl
      | cons next others =>
          rw [ih (by simp) fun member => fresh (by simp [member])]

/-! ## The only cut -/

/-- A text cut right after each newline. Only the last piece may lack its
newline. -/
inductive IsCut : Text → List Text → Prop where
  | nil : IsCut [] []
  | last {piece : Text} (nonempty : piece ≠ []) (fresh : '\n' ∉ piece) :
      IsCut piece [piece]
  | line {line rest : Text} {others : List Text} (whole : IsLine line)
      (later : IsCut rest others) : IsCut (line ++ rest) (line :: others)

/-- There is no other cut of a text than its lines. -/
theorem IsCut.eq_lines {text : Text} {cut : List Text}
    (isCut : IsCut text cut) :
    cut = lines text := by
  induction isCut with
  | nil => rfl
  | last nonempty fresh => rw [lines_of_newline_not_mem nonempty fresh]
  | line whole later ih => rw [whole.lines_append, ← ih]

theorem isCut_lines (text : Text) : IsCut text (lines text) := by
  induction text with
  | nil => exact .nil
  | cons c rest ih =>
      by_cases newline : c = '\n'
      · subst newline
        have whole : IsLine ['\n'] := by decide
        have first := IsCut.line whole ih
        rwa [lines, if_pos rfl]
      · rw [lines, if_neg newline]
        generalize lines rest = cut at ih ⊢
        cases ih with
        | nil => exact .last (List.cons_ne_nil _ _) (by simp [Ne.symm newline])
        | last nonempty fresh =>
            exact .last (List.cons_ne_nil _ _)
              (by simp [Ne.symm newline, fresh])
        | line whole later => exact .line (whole.cons newline) later

/-! ## Texts that end a line -/

theorem EndsLine.of_append {first second : Text}
    (ends : EndsLine (first ++ second)) :
    EndsLine second := by
  by_cases empty : second = []
  · exact .inl empty
  · rcases ends with nothing | last
    · exact absurd (List.append_eq_nil_iff.1 nothing).2 empty
    · right
      rw [List.getLast?_eq_some_getLast empty]
      rwa [List.getLast?_append, List.getLast?_eq_some_getLast empty,
        Option.some_or] at last

/-- A text that ends a line leaves a newline last where one was last. -/
theorem EndsLine.getLast?_append {first second : Text} (ends : EndsLine second)
    (last : first.getLast? = some '\n') :
    (first ++ second).getLast? = some '\n' := by
  rcases ends with rfl | alsoLast
  · rwa [List.append_nil]
  · rw [List.getLast?_append, alsoLast, Option.some_or]

theorem EndsLine.append {first second : Text} (ends : EndsLine first)
    (alsoEnds : EndsLine second) :
    EndsLine (first ++ second) := by
  rcases ends with rfl | last
  · exact alsoEnds
  · exact .inr (alsoEnds.getLast?_append last)

theorem EndsLine.flatten {pieces : List Text}
    (ends : ∀ piece ∈ pieces, EndsLine piece) :
    EndsLine pieces.flatten := by
  induction pieces with
  | nil => exact .inl rfl
  | cons piece rest ih =>
      have first := ends piece (by simp)
      have later := ih fun other member => ends other (by simp [member])
      rw [List.flatten_cons]
      exact first.append later

/-- What follows a text that ends a line decides alone whether both together
do. -/
theorem EndsLine.append_iff {first second : Text} (ends : EndsLine first) :
    EndsLine (first ++ second) ↔ EndsLine second :=
  ⟨EndsLine.of_append, ends.append⟩

/-- The pieces of a text that ends a line are whole, since the last of them has
a newline too. -/
theorem IsCut.isLine_of_mem {text : Text} {cut : List Text}
    (isCut : IsCut text cut) (ends : EndsLine text) :
    ∀ line ∈ cut, IsLine line := by
  induction isCut with
  | nil =>
      intro line member
      cases member
  | last nonempty fresh =>
      rcases ends with empty | last
      · exact absurd empty nonempty
      · exact absurd (List.mem_of_getLast? last) fresh
  | line whole later ih =>
      have remaining := ih ends.of_append
      exact List.forall_mem_cons.2 ⟨whole, remaining⟩

theorem isLine_of_mem_lines {text : Text} (ends : EndsLine text) :
    ∀ line ∈ lines text, IsLine line :=
  (isCut_lines text).isLine_of_mem ends

/-- All pieces of a text but the last are whole, however the text ends. -/
theorem IsCut.isLine_of_mem_dropLast {text : Text} {cut : List Text}
    (isCut : IsCut text cut) :
    ∀ line ∈ cut.dropLast, IsLine line := by
  induction isCut with
  | nil | last =>
      intro line member
      cases member
  | @line first rest others whole later ih =>
      cases others with
      | nil =>
          intro line member
          cases member
      | cons next others =>
          rw [List.dropLast_cons_cons]
          exact List.forall_mem_cons.2 ⟨whole, ih⟩

theorem isLine_of_mem_dropLast_lines (text : Text) :
    ∀ line ∈ (lines text).dropLast, IsLine line :=
  (isCut_lines text).isLine_of_mem_dropLast

/-! ## Parts of a text -/

theorem lines_flatten {pieces : List Text}
    (whole : ∀ piece ∈ pieces, IsLine piece) :
    lines pieces.flatten = pieces := by
  have cut := lines_flatten_append whole []
  rwa [List.append_nil, lines_nil, List.append_nil] at cut

section Parted

variable {text line : Text} {front back : List Text}

/-- Lines with another line behind them are whole. -/
theorem isLine_of_lines_eq (split : lines text = front ++ line :: back) :
    ∀ piece ∈ front, IsLine piece := by
  have whole := isLine_of_mem_dropLast_lines text
  rw [split, List.dropLast_append_of_ne_nil (List.cons_ne_nil line back)] at whole
  intro piece member
  exact whole piece (List.mem_append_left _ member)

/-- The last line of a text that does not end a line is the only one that is not
whole. -/
theorem exists_last_of_not_endsLine (unended : ¬ EndsLine text) :
    ∃ front last, lines text = front ++ [last] ∧
      (∀ piece ∈ front, IsLine piece) ∧
      ¬ EndsLine last := by
  rcases List.eq_nil_or_concat (lines text) with none | ⟨front, last, split⟩
  · rw [← flatten_lines text, none] at unended
    exact absurd (.inl rfl) unended
  · rw [List.concat_eq_append] at split
    have whole := isLine_of_lines_eq split
    refine ⟨front, last, split, whole, ?_⟩
    intro ends
    apply unended
    rw [← flatten_lines text, split, List.flatten_append, List.flatten_singleton]
    exact (EndsLine.flatten fun piece member =>
      .inr (whole piece member).1).append ends

/-- What stands from a line on is cut there as it is cut in the whole text. -/
theorem lines_flatten_of_lines_eq (split : lines text = front ++ line :: back) :
    lines (line :: back).flatten = line :: back := by
  have cut := lines_flatten_append (isLine_of_lines_eq split)
    (line :: back).flatten
  rw [← List.flatten_append, ← split, flatten_lines, split] at cut
  exact (List.append_cancel_left cut).symm

end Parted

/-! ## Terminated lines -/

theorem getLast?_terminate (line : Text) :
    (terminate line).getLast? = some '\n' := by
  rw [terminate]
  split
  · assumption
  · rw [List.getLast?_concat]

theorem endsLine_flatten_terminatedLines (text : Text) :
    EndsLine (terminatedLines text).flatten := by
  apply EndsLine.flatten
  intro piece member
  obtain ⟨line, -, rfl⟩ := List.mem_map.1 member
  exact .inr (getLast?_terminate line)

/-! ## Texts one after another -/

/-- Cutting distributes over a seam that ends a line. -/
theorem lines_append {first : Text} (ends : EndsLine first) (second : Text) :
    lines (first ++ second) = lines first ++ lines second := by
  have seam := lines_flatten_append (isLine_of_mem_lines ends) second
  rwa [flatten_lines] at seam

end Text

end LiterateBook
