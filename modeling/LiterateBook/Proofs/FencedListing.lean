import LiterateBook.Proofs.Indentation
import LiterateBook.Rendering

/-!
# Reading a fenced listing back

Markdown ends a fenced listing at the first line that is a fence of its own. A
rendered listing is therefore read back as the code it was rendered from exactly
when none of its lines has become such a fence by being moved to the left
margin.
-/

namespace LiterateBook

namespace CodeBlock

/-- A memo is faithful when it is what measuring the lines gives. -/
def Faithful (block : CodeBlock) : Prop :=
  ∀ width ∈ block.memo, width = Indent.minimum block.lines

theorem faithful_ofLines (lines : List Text) : (ofLines lines).Faithful := by
  intro width member
  cases member

theorem Faithful.minimumIndent_eq {block : CodeBlock}
    (faithful : block.Faithful) :
    block.minimumIndent = Indent.minimum block.lines := by
  rw [minimumIndent]
  cases memo : block.memo with
  | none => rfl
  | some width => exact faithful width memo

theorem Faithful.measured {block : CodeBlock} (faithful : block.Faithful) :
    block.measured.Faithful := by
  intro width member
  cases member
  exact faithful.minimumIndent_eq

end CodeBlock

namespace Fenced

/-! ## Closing fences -/

/-- A line that closes a fenced listing: at most three spaces, three backticks
or more, and nothing behind them but spaces, tabs and carriage returns. -/
def IsClosingFence (line : Text) : Prop :=
  ∃ (spaces ticks : Nat) (trail : Text), spaces ≤ 3 ∧ 3 ≤ ticks ∧
    (∀ c ∈ trail, c = ' ' ∨ c = '\t' ∨ c = '\r') ∧
    line = List.replicate spaces ' ' ++
      (List.replicate ticks '\x60' ++ (trail ++ ['\n']))

/-- The parts of a closing fence, measured from its start. -/
def MeasuresFence (line : Text) : Prop :=
  let fence := line.dropWhile (· == ' ')
  let trail := fence.dropWhile (· == '\x60')
  (line.takeWhile (· == ' ')).length ≤ 3 ∧
    3 ≤ (fence.takeWhile (· == '\x60')).length ∧
    trail.getLast? = some '\n' ∧ trail.dropLast.all fun c => c = ' ' ∨
      c = '\t' ∨ c = '\r'

instance (line : Text) : Decidable (MeasuresFence line) :=
  inferInstanceAs (Decidable (_ ∧ _ ∧ _ ∧ _))

theorem takeWhile_beq_eq_replicate (c : Char) (text : Text) :
    text.takeWhile (· == c) =
      List.replicate (text.takeWhile (· == c)).length c := by
  apply List.eq_replicate_iff.2
  constructor
  · rfl
  · intro other member
    have same := List.all_eq_true.1 List.all_takeWhile other member
    exact eq_of_beq same

theorem span_replicate_append {c : Char} {rest : Text}
    (ended : rest.head? ≠ some c) (count : Nat) :
    (List.replicate count c ++ rest).takeWhile (· == c) =
      List.replicate count c ∧
      (List.replicate count c ++ rest).dropWhile (· == c) = rest := by
  have run : ∀ other ∈ List.replicate count c, (other == c) = true := by
    intro other member
    rw [(List.mem_replicate.1 member).2]
    exact beq_self_eq_true c
  rw [List.takeWhile_append_of_pos run, List.dropWhile_append_of_pos run]
  cases rest with
  | nil => simp
  | cons next rest =>
      have differ : (next == c) = false := by
        apply beq_eq_false_iff_ne.2
        intro same
        exact ended (congrArg some same)
      simp [differ]

theorem measuresFence_iff {line : Text} :
    MeasuresFence line ↔ IsClosingFence line := by
  constructor
  · intro measured
    obtain ⟨few, enough, ends, blank⟩ := measured
    obtain ⟨trail, shape⟩ := List.getLast?_eq_some_iff.1 ends
    rw [shape, List.dropLast_concat] at blank
    simp only [List.all_eq_true, decide_eq_true_eq] at blank
    refine ⟨_, _, trail, few, enough, blank, ?_⟩
    rw [← shape, ← takeWhile_beq_eq_replicate, ← takeWhile_beq_eq_replicate,
      List.takeWhile_append_dropWhile, List.takeWhile_append_dropWhile]
  · intro shape
    obtain ⟨spaces, ticks, trail, few, enough, blank, rfl⟩ := shape
    have behindSpaces :
        (List.replicate ticks '\x60' ++ (trail ++ ['\n'])).head? ≠
          some ' ' := by
      obtain ⟨more, rfl⟩ := Nat.exists_eq_add_of_le' enough
      simp [List.replicate_succ]
    have behindTicks : (trail ++ ['\n']).head? ≠ some '\x60' := by
      cases trail with
      | nil => decide
      | cons c trail =>
          rcases blank c (by simp) with rfl | rfl | rfl <;> simp
    have leading := span_replicate_append behindSpaces spaces
    have fence := span_replicate_append behindTicks ticks
    rw [MeasuresFence, leading.1, leading.2, fence.1, fence.2,
      List.length_replicate,
      List.length_replicate, List.getLast?_concat, List.dropLast_concat]
    refine ⟨few, enough, rfl, ?_⟩
    simpa only [List.all_eq_true, decide_eq_true_eq] using blank

instance (line : Text) : Decidable (IsClosingFence line) :=
  decidable_of_iff (MeasuresFence line) measuresFence_iff

theorem not_isClosingFence_nil : ¬ IsClosingFence [] := by decide

/-! ## Reading -/

/-- A fenced listing as markdown reads it: the line that opens it, the lines up
to the first closing fence, and the lines from there on. -/
structure Reading where
  opening : Text
  content : List Text
  rest : List Text

/-- Read the listing that follows an empty line. -/
def read? (text : Text) : Option Reading :=
  match text.lines with
  | empty :: opening :: following =>
    if empty = ['\n'] then
      some ⟨opening, following.takeWhile (¬ IsClosingFence ·),
        following.dropWhile (¬ IsClosingFence ·)⟩
    else none
  | _ => none

/-- Cutting a list of texts short loses text, unless there is nothing to cut. -/
theorem flatten_takeWhile_eq_iff {p : Text → Bool} {pieces : List Text}
    (nonempty : ∀ piece ∈ pieces, piece ≠ []) :
    (pieces.takeWhile p).flatten = pieces.flatten ↔
      ∀ piece ∈ pieces, p piece = true := by
  induction pieces with
  | nil => simp
  | cons piece rest ih =>
      have later := ih fun other member => nonempty other (by simp [member])
      cases taken : p piece with
      | true => simpa [taken] using later
      | false => simp [taken, nonempty piece (by simp)]

theorem fenceless_filter_iff {lines : List Text} :
    (∀ line ∈ lines.filter (· ≠ []), ¬ IsClosingFence line) ↔
      ∀ line ∈ lines, ¬ IsClosingFence line := by
  constructor
  · intro remaining line member closes
    have remains : line ≠ [] := by
      intro empty
      exact not_isClosingFence_nil (empty ▸ closes)
    exact remaining line
      (List.mem_filter.2 ⟨member, by simpa using remains⟩) closes
  · intro every line member
    exact every line (List.mem_filter.1 member).1

/-- The lines up to the first fence make up all the text only where there is no
fence. -/
theorem flatten_takeWhile_filter_eq_iff (lines : List Text) :
    ((lines.filter (· ≠ [])).takeWhile (¬ IsClosingFence ·)).flatten =
      lines.flatten ↔
      ∀ line ∈ lines, ¬ IsClosingFence line := by
  have nonempty : ∀ line ∈ lines.filter (· ≠ []), line ≠ [] := by
    intro line member
    simpa using (List.mem_filter.1 member).2
  have cut := flatten_takeWhile_eq_iff (p := (¬ IsClosingFence ·)) nonempty
  rw [List.flatten_filter_ne_nil] at cut
  rw [cut, ← fenceless_filter_iff]
  simp only [decide_eq_true_eq]

/-- What is read up to a closing fence does not depend on what stands from there
on. -/
theorem takeWhile_append_fence (content : List Text) {fence : Text}
    (closes : IsClosingFence fence) (rest : List Text) :
    (content ++ fence :: rest).takeWhile (¬ IsClosingFence ·) =
      content.takeWhile (¬ IsClosingFence ·) := by
  induction content with
  | nil => simp [closes]
  | cons line content ih =>
      by_cases closed : IsClosingFence line
      · simp [closed]
      · simpa [closed] using ih

theorem dropWhile_append_fence {content : List Text}
    (fenceless : ∀ line ∈ content, ¬ IsClosingFence line) {fence : Text}
    (closes : IsClosingFence fence) (rest : List Text) :
    (content ++ fence :: rest).dropWhile (¬ IsClosingFence ·) =
      fence :: rest := by
  rw [List.dropWhile_append_of_pos (by simpa using fenceless)]
  simp [closes]

theorem isClosingFence_fence :
    IsClosingFence (RenderOptions.fence ++ ['\n']) := by decide

/-- The lines of a rendered listing are its own, less those that nothing is left
of. -/
theorem lines_flatten_renderCode {options : RenderOptions}
    (fresh : '\n' ∉ options.fenceLanguage) {block : CodeBlock}
    (whole : ∀ line ∈ block.lines, Text.IsLine line) :
    Text.lines (options.renderCode block).flatten =
      ['\n'] :: (RenderOptions.fence ++ options.fenceLanguage ++ ['\n']) ::
        ((Indent.stripAll block.lines block.minimumIndent).filter (· ≠ []) ++
          [RenderOptions.fence ++ ['\n'], ['\n']]) := by
  generalize content : Indent.stripAll block.lines block.minimumIndent = pieces
  have opening : Text.IsLine
      (RenderOptions.fence ++ options.fenceLanguage ++ ['\n']) := by
    apply Text.isLine_concat
    intro member
    rcases List.mem_append.1 member with inFence | inLanguage
    · exact absurd inFence (by decide)
    · exact fresh inLanguage
  have remaining : ∀ piece ∈ pieces.filter (· ≠ []), Text.IsLine piece := by
    intro piece member
    obtain ⟨inside, remains⟩ := List.mem_filter.1 member
    rw [← content] at inside
    exact Indent.isLine_of_mem_stripAll whole inside (by simpa using remains)
  have closing : ∀ line ∈ [RenderOptions.fence ++ ['\n'], ['\n']],
      Text.IsLine line := by decide
  have cut :
      ∀ line ∈ ['\n'] :: (RenderOptions.fence ++ options.fenceLanguage ++ ['\n']) ::
      (pieces.filter (· ≠ []) ++ [RenderOptions.fence ++ ['\n'], ['\n']]),
      Text.IsLine line := by
    have empty : Text.IsLine ['\n'] := by decide
    have behind := List.forall_mem_append.2 ⟨remaining, closing⟩
    exact List.forall_mem_cons.2
      ⟨empty, List.forall_mem_cons.2 ⟨opening, behind⟩⟩
  have joined := Text.lines_flatten_append cut []
  rw [List.append_nil, Text.lines_nil, List.append_nil] at joined
  rw [← joined, RenderOptions.renderCode, content]
  simp only [List.flatten_cons, List.flatten_append, List.flatten_filter_ne_nil]

/-- A listing of whole lines, rendered and read back. What is read is the code
at the left margin exactly when no line of it is a closing fence there; then the
fence that was written and an empty line are what is left. -/
theorem read_renderCode {block : CodeBlock} (faithful : block.Faithful)
    (whole : ∀ line ∈ block.lines, Text.IsLine line) {options : RenderOptions}
    (fresh : '\n' ∉ options.fenceLanguage) :
    ∃ reading, read? (options.renderCode block).flatten = some reading ∧
      reading.opening = RenderOptions.fence ++ options.fenceLanguage ++ ['\n'] ∧
      (reading.content.flatten = (Indent.remove block.lines).flatten ↔
        ∀ line ∈ Indent.remove block.lines, ¬ IsClosingFence line) ∧
      (reading.content.flatten = (Indent.remove block.lines).flatten →
        reading.rest = [RenderOptions.fence ++ ['\n'], ['\n']]) := by
  have cut := lines_flatten_renderCode fresh whole
  rw [faithful.minimumIndent_eq, ← Indent.remove] at cut
  generalize Indent.remove block.lines = bare at cut ⊢
  refine ⟨_, by rw [read?, cut]; exact if_pos rfl, rfl, ?_⟩
  rw [takeWhile_append_fence _ isClosingFence_fence]
  have recovered := flatten_takeWhile_filter_eq_iff bare
  refine ⟨recovered, ?_⟩
  intro same
  have fenceless := fenceless_filter_iff.2 (recovered.1 same)
  exact dropWhile_append_fence fenceless isClosingFence_fence [['\n']]

/-- Two listings with a fence in front, the second of them too deep to close
anything even at the left margin. The first was measured before; the second has
a blank line that nothing is left of. -/
theorem read_renderCode_example :
    let broken : CodeBlock :=
      ⟨["      ```\t\n".toList, "    x\n".toList], some 4⟩
    let sound : CodeBlock :=
      .ofLines ["        ```\n".toList, "    x\n".toList, "   \n".toList]
    let options := RenderOptions.default
    (broken.Faithful ∧ sound.Faithful ∧
      (∀ line ∈ broken.lines, Text.IsLine line) ∧
      (∀ line ∈ sound.lines, Text.IsLine line) ∧ '\n' ∉ options.fenceLanguage) ∧
    (∃ reading, read? (options.renderCode broken).flatten = some reading ∧
      reading.content.flatten ≠ "  ```\t\nx\n".toList) ∧
    ∃ reading, read? (options.renderCode sound).flatten = some reading ∧
      reading.content.flatten = "    ```\nx\n".toList ∧
      reading.rest = ["```\n".toList, "\n".toList] := by
  intro broken sound options
  have brokenFaithful : broken.Faithful := by
    intro width member
    cases member
    decide +kernel
  have soundFaithful : sound.Faithful := CodeBlock.faithful_ofLines _
  have brokenWhole : ∀ line ∈ broken.lines, Text.IsLine line := by decide
  have soundWhole : ∀ line ∈ sound.lines, Text.IsLine line := by decide
  have fresh : '\n' ∉ options.fenceLanguage := by decide
  refine ⟨⟨brokenFaithful, soundFaithful, brokenWhole, soundWhole, fresh⟩, ?_, ?_⟩
  · obtain ⟨reading, read, -, recovered, -⟩ :=
      read_renderCode brokenFaithful brokenWhole fresh
    refine ⟨reading, read, ?_⟩
    intro same
    have bare : Indent.remove broken.lines =
        ["  ```\t\n".toList, "x\n".toList] := by
      decide +kernel
    rw [bare] at recovered
    have closes : IsClosingFence "  ```\t\n".toList := by decide
    exact recovered.1 same _ (by simp) closes
  · obtain ⟨reading, read, -, recovered, remaining⟩ :=
      read_renderCode soundFaithful soundWhole fresh
    have bare : Indent.remove sound.lines =
        ["    ```\n".toList, "x\n".toList, []] := by
      decide +kernel
    have fenceless : ∀ line ∈ Indent.remove sound.lines,
        ¬ IsClosingFence line := by
      rw [bare]
      decide
    have same := recovered.2 fenceless
    have rest := remaining same
    rw [bare] at same
    exact ⟨reading, read, same, rest⟩

end Fenced

end LiterateBook
