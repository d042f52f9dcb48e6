import LiterateBook.Diff

/-!
# Lines with any terminator

For comparison a line ends at a newline, at a carriage return, or at both
together, so a carriage return ends a line only where no newline follows. A line
that is shown carries a terminator in any case, and lines that are shown one
after another are told apart again unless a newline comes to stand behind a
carriage return.
-/

namespace LiterateBook

namespace Diff

variable {text content terminator line rest : Text} {pieces : List Text}
  {c : Char}

/-! ## Terminated lines -/

/-- The texts that end a line. -/
def terminators : List Text :=
  [['\n'], ['\r', '\n'], ['\r']]

/-- A text without any character that ends a line. -/
def IsContent (text : Text) : Prop :=
  ∀ c ∈ text, c ≠ '\n' ∧ c ≠ '\r'

/-- One line with its terminator. -/
def IsEnded (line : Text) : Prop :=
  ∃ content terminator, IsContent content ∧ terminator ∈ terminators ∧
    line = content ++ terminator

/-- A text cut after each terminator, the longest one where there are several.
Only the last piece may lack a terminator. -/
inductive IsCut : Text → List Text → Prop where
  | nil : IsCut [] []
  | last {piece : Text} (nonempty : piece ≠ []) (isContent : IsContent piece) :
      IsCut piece [piece]
  | line {content terminator rest : Text} {pieces : List Text}
      (isContent : IsContent content) (ends : terminator ∈ terminators)
      (longest : terminator = ['\r'] → rest.head? ≠ some '\n')
      (later : IsCut rest pieces) :
      IsCut (content ++ terminator ++ rest) ((content ++ terminator) :: pieces)

theorem IsEnded.ne_nil (isEnded : IsEnded line) : line ≠ [] := by
  have nonempty : ∀ terminator ∈ terminators, terminator ≠ [] := by decide
  obtain ⟨content, terminator, -, ends, rfl⟩ := isEnded
  exact List.append_ne_nil_of_right_ne_nil content (nonempty terminator ends)

theorem IsEnded.append_left (isEnded : IsEnded line)
    (isContent : IsContent text) :
    IsEnded (text ++ line) := by
  obtain ⟨content, terminator, others, ends, rfl⟩ := isEnded
  refine ⟨text ++ content, terminator, ?_, ends, (List.append_assoc ..).symm⟩
  exact List.forall_mem_append.2 ⟨isContent, others⟩

theorem isContent_cons :
    IsContent (c :: text) ↔ (c ≠ '\n' ∧ c ≠ '\r') ∧ IsContent text :=
  List.forall_mem_cons

/-! ## The only cut -/

theorem lines_cons_of_ends (ends : c = '\n' ∨ c = '\r')
    (longest : c = '\r' → rest.head? ≠ some '\n') :
    lines (c :: rest) = [c] :: lines rest := by
  have alone : ∀ others, c = '\r' → rest = '\n' :: others → False := by
    rintro others same rfl
    exact longest same rfl
  rw [lines.eq_3 c rest alone, if_pos ends]

/-- A character that ends no line joins the first line of what follows it. -/
theorem lines_cons_of_content (differ : c ≠ '\n' ∧ c ≠ '\r')
    {others : List Text} (later : lines rest = line :: others) :
    lines (c :: rest) = (c :: line) :: others := by
  rw [lines.eq_3 c rest fun _ same _ => differ.2 same,
    if_neg (not_or.2 differ), later]

theorem lines_of_isContent (nonempty : text ≠ []) (isContent : IsContent text) :
    lines text = [text] := by
  induction text with
  | nil => exact absurd rfl nonempty
  | cons c rest ih =>
      obtain ⟨differ, others⟩ := isContent_cons.1 isContent
      cases rest with
      | nil => rw [lines.eq_3 c [] nofun, if_neg (not_or.2 differ), lines]
      | cons next rest =>
          exact lines_cons_of_content differ (ih (List.cons_ne_nil _ _) others)

/-- A terminator is cut off as a line, unless it is the start of a longer
one. -/
theorem lines_terminator_append (ends : terminator ∈ terminators)
    (longest : terminator = ['\r'] → rest.head? ≠ some '\n') :
    lines (terminator ++ rest) = terminator :: lines rest := by
  simp only [terminators, List.mem_cons, List.not_mem_nil, or_false] at ends
  rcases ends with rfl | rfl | rfl
  · exact lines_cons_of_ends (.inl rfl) nofun
  · rfl
  · exact lines_cons_of_ends (.inr rfl) fun _ => longest rfl

theorem lines_line_append (isContent : IsContent content)
    (ends : terminator ∈ terminators)
    (longest : terminator = ['\r'] → rest.head? ≠ some '\n') :
    lines (content ++ terminator ++ rest) =
      (content ++ terminator) :: lines rest := by
  induction content with
  | nil => exact lines_terminator_append ends longest
  | cons c content ih =>
      obtain ⟨differ, others⟩ := isContent_cons.1 isContent
      exact lines_cons_of_content differ (ih others)

theorem IsCut.eq_lines (isCut : IsCut text pieces) : pieces = lines text := by
  induction isCut with
  | nil => rfl
  | last nonempty isContent => rw [lines_of_isContent nonempty isContent]
  | line isContent ends longest later ih =>
      rw [lines_line_append isContent ends longest, ih]

theorem IsCut.cons_content (isCut : IsCut text (line :: pieces))
    (differ : c ≠ '\n' ∧ c ≠ '\r') :
    IsCut (c :: text) ((c :: line) :: pieces) := by
  generalize whole : line :: pieces = cut at isCut
  cases isCut with
  | nil => cases whole
  | last nonempty isContent =>
      cases whole
      exact .last (List.cons_ne_nil _ _) (isContent_cons.2 ⟨differ, isContent⟩)
  | line isContent ends longest later =>
      cases whole
      exact .line (isContent_cons.2 ⟨differ, isContent⟩) ends longest later

theorem isCut_lines (text : Text) : IsCut text (lines text) := by
  have nothing : IsContent [] := List.forall_mem_nil _
  induction text using lines.induct with
  | case1 => exact .nil
  | case2 rest ih =>
      have ends : ['\r', '\n'] ∈ terminators := by decide
      exact .line nothing ends nofun ih
  | case3 c rest alone ends ih =>
      have longest : c = '\r' → rest.head? ≠ some '\n' := by
        rintro same head
        obtain ⟨others, rfl⟩ := List.head?_eq_some_iff.1 head
        exact alone others same rfl
      rw [lines_cons_of_ends ends longest]
      have member : [c] ∈ terminators := by
        rcases ends with rfl | rfl <;> decide
      exact .line nothing member
        (fun same => longest (List.singleton_inj.1 same)) ih
  | case4 c rest alone differ none ih =>
      have empty : rest = [] := by
        rw [none] at ih
        cases ih
        rfl
      subst empty
      have isContent : IsContent [c] :=
        isContent_cons.2 ⟨not_or.1 differ, nothing⟩
      rw [lines_of_isContent (List.cons_ne_nil _ _) isContent]
      exact .last (List.cons_ne_nil _ _) isContent
  | case5 c rest alone differ line others later ih =>
      rw [lines_cons_of_content (not_or.1 differ) later]
      rw [later] at ih
      exact ih.cons_content (not_or.1 differ)

/-- No text is cut in two ways. -/
theorem IsCut.iff_eq (isCut : IsCut text pieces) (cut : List Text) :
    IsCut text cut ↔ cut = pieces := by
  constructor
  · intro other
    exact other.eq_lines.trans isCut.eq_lines.symm
  · rintro rfl
    exact isCut

theorem IsCut.flatten_eq (isCut : IsCut text pieces) :
    pieces.flatten = text := by
  induction isCut with
  | nil => rfl
  | last nonempty isContent => exact List.flatten_singleton
  | line isContent ends longest later ih => rw [List.flatten_cons, ih]

/-- Lines with their terminators that are put together are told apart again, as
long as no newline comes to stand behind a carriage return. -/
theorem isCut_flatten (areEnded : ∀ piece ∈ pieces, IsEnded piece)
    (starts : ∀ piece ∈ pieces, piece.head? ≠ some '\n') :
    IsCut pieces.flatten pieces := by
  induction pieces with
  | nil => exact .nil
  | cons piece rest ih =>
      obtain ⟨⟨content, terminator, isContent, ends, rfl⟩, others⟩ :=
        List.forall_mem_cons.1 areEnded
      obtain ⟨-, otherStarts⟩ := List.forall_mem_cons.1 starts
      have longest : rest.flatten.head? ≠ some '\n' := by
        cases rest with
        | nil => nofun
        | cons next rest =>
            obtain ⟨c, line, rfl⟩ :=
              List.exists_cons_of_ne_nil (others next List.mem_cons_self).ne_nil
            exact otherStarts (c :: line) List.mem_cons_self
      exact .line isContent ends (fun _ => longest) (ih others otherStarts)

theorem lines_injective {other : Text} (same : lines text = lines other) :
    text = other := by
  rw [← (isCut_lines text).flatten_eq, same, (isCut_lines other).flatten_eq]

/-! ## Shown lines -/

/-- A text with a newline added, unless it is empty or ends with a newline or a
carriage return. -/
def ended (text : Text) : Text :=
  if text = [] ∨ text.getLast? = some '\n' ∨ text.getLast? = some '\r' then text
  else text ++ ['\n']

theorem ended_of_ne_nil (nonempty : text ≠ []) : ended text = shown text := by
  rw [shown]
  split
  · rename_i last
    rw [ended, if_pos (.inr (.inl last))]
  · rename_i last
    rw [ended, if_pos (.inr (.inr last))]
  · rename_i notNewline notReturn
    rw [ended, if_neg (not_or.2 ⟨nonempty, not_or.2 ⟨notNewline, notReturn⟩⟩)]

theorem shown_append (nonempty : rest ≠ []) (text : Text) :
    shown (text ++ rest) = text ++ shown rest := by
  have last : (text ++ rest).getLast? = rest.getLast? := by
    rw [List.getLast?_append, List.getLast?_eq_some_getLast nonempty,
      Option.some_or]
  rw [shown, shown, last]
  split
  · rfl
  · rfl
  · rw [List.append_assoc]

theorem shown_of_isContent (isContent : IsContent text) :
    shown text = text ++ ['\n'] := by
  rw [shown]
  split
  · rename_i last
    exact absurd rfl (isContent _ (List.mem_of_getLast? last)).1
  · rename_i last
    exact absurd rfl (isContent _ (List.mem_of_getLast? last)).2
  · rfl

theorem shown_of_isEnded (isEnded : IsEnded line) : shown line = line := by
  obtain ⟨content, terminator, -, ends, rfl⟩ := isEnded
  simp only [terminators, List.mem_cons, List.not_mem_nil, or_false] at ends
  rcases ends with rfl | rfl | rfl <;> rw [shown_append (List.cons_ne_nil _ _)] <;> rfl

theorem ended_append (isEnded : IsEnded line) (rest : Text) :
    ended (line ++ rest) = line ++ ended rest := by
  rw [ended_of_ne_nil (List.append_ne_nil_of_left_ne_nil isEnded.ne_nil rest)]
  by_cases empty : rest = []
  · rw [empty, List.append_nil, shown_of_isEnded isEnded]
    exact (List.append_nil line).symm
  · rw [ended_of_ne_nil empty, shown_append empty]

theorem IsCut.isEnded_shown (isCut : IsCut text pieces) :
    ∀ line ∈ pieces, IsEnded (shown line) := by
  induction isCut with
  | nil =>
      intro line member
      cases member
  | last nonempty isContent =>
      rw [List.forall_mem_singleton, shown_of_isContent isContent]
      exact ⟨_, ['\n'], isContent, by decide, rfl⟩
  | @line content terminator rest pieces isContent ends longest later ih =>
      have isEnded : IsEnded (content ++ terminator) :=
        ⟨content, terminator, isContent, ends, rfl⟩
      rw [List.forall_mem_cons, shown_of_isEnded isEnded]
      exact ⟨isEnded, ih⟩

/-- The lines of a text, shown one after another, show the text. -/
theorem IsCut.flatten_map_shown (isCut : IsCut text pieces) :
    (pieces.map shown).flatten = ended text := by
  induction isCut with
  | nil => rfl
  | last nonempty isContent =>
      rw [List.map_singleton, List.flatten_singleton, ended_of_ne_nil nonempty]
  | @line content terminator rest pieces isContent ends longest later ih =>
      have isEnded : IsEnded (content ++ terminator) :=
        ⟨content, terminator, isContent, ends, rfl⟩
      rw [List.map_cons, List.flatten_cons, ih, shown_of_isEnded isEnded,
        ended_append isEnded]

end Diff

end LiterateBook
