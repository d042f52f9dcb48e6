import LiterateBook.Proofs.Concatenation
import LiterateBook.Proofs.DirectoryBook

/-!
# Included text

The lines behind an include are the only whole lines that make up the included
text, completed by the newline that its last line may lack. An include line
between two sources therefore puts that text between their outputs, whatever
markers and include lines it holds itself.
-/

namespace LiterateBook

namespace Text

variable {text first : Text} {cut : List Text}

/-! ## Completed texts -/

/-- A text with the newline that its last line may lack. -/
def completed (text : Text) : Text :=
  if text.EndsLine then text else text ++ ['\n']

theorem completed_of_endsLine (ends : text.EndsLine) : text.completed = text :=
  if_pos ends

theorem endsLine_completed (text : Text) : text.completed.EndsLine := by
  rw [completed]
  split
  · assumption
  · exact .inr List.getLast?_concat

theorem completed_append (ends : first.EndsLine) (second : Text) :
    (first ++ second).completed = first ++ second.completed := by
  rw [completed, completed]
  by_cases whole : second.EndsLine
  · rw [if_pos whole, if_pos (ends.append_iff.2 whole)]
  · rw [if_neg whole, if_neg (mt ends.append_iff.1 whole), List.append_assoc]

/-! ## Terminated lines -/

/-- The terminated pieces of a cut are whole lines that make up the completed
text. -/
theorem IsCut.map_terminate (isCut : IsCut text cut) :
    (∀ line ∈ cut.map terminate, IsLine line) ∧
      (cut.map terminate).flatten = text.completed := by
  induction isCut with
  | nil => exact ⟨List.forall_mem_nil _, rfl⟩
  | @last piece nonempty fresh =>
      have unended : piece.getLast? ≠ some '\n' :=
        fun last => fresh (List.mem_of_getLast? last)
      have unfinished : ¬ piece.EndsLine := not_or.2 ⟨nonempty, unended⟩
      rw [List.map_singleton, terminate, if_neg unended, completed,
        if_neg unfinished]
      exact ⟨List.forall_mem_singleton.2 (isLine_concat fresh),
        List.flatten_singleton⟩
  | @line line rest others whole later ih =>
      obtain ⟨areWhole, joined⟩ := ih
      rw [List.map_cons, terminate, if_pos whole.1, List.flatten_cons, joined,
        completed_append (.inr whole.1)]
      exact ⟨List.forall_mem_cons.2 ⟨whole, areWhole⟩, rfl⟩

/-- Terminated lines are the only whole lines that make up the completed
text. -/
theorem eq_terminatedLines_iff :
    cut = terminatedLines text ↔
      (∀ line ∈ cut, IsLine line) ∧ cut.flatten = text.completed := by
  have given := (isCut_lines text).map_terminate
  constructor
  · rintro rfl
    exact given
  · intro other
    rw [← lines_flatten other.1, other.2, ← given.2, lines_flatten given.1,
      terminatedLines]

theorem terminatedLines_completed (text : Text) :
    terminatedLines text.completed = terminatedLines text := by
  obtain ⟨whole, joined⟩ :=
    eq_terminatedLines_iff.1 (rfl : terminatedLines text = _)
  symm
  apply eq_terminatedLines_iff.2
  rw [completed_of_endsLine (endsLine_completed text)]
  exact ⟨whole, joined⟩

theorem terminatedLines_append (ends : first.EndsLine) (second : Text) :
    terminatedLines (first ++ second) =
      terminatedLines first ++ terminatedLines second := by
  rw [terminatedLines, lines_append ends, List.map_append]
  rfl

end Text

/-! ## Include lines between sources -/

theorem Document.ofSource_inclusion {line path : Text} (whole : line.IsLine)
    (marked : Marker.ofLine line = .inclusion path) (policy : BlankPolicy) :
    ofSource policy line = ⟨[.inclusion path], [], [.inclusion 1 path]⟩ := by
  have single : line.lines = [line] := by
    have cut := whole.lines_append []
    rwa [List.append_nil, Text.lines_nil] at cut
  rw [ofSource, single, State.read_cons, State.step_inclusion marked]
  rfl

theorem Rendering.text_andThen {ε : Type} (first second : Rendering ε) :
    (first.andThen second).text =
      first.text.bind fun earlier => second.text.map (earlier ++ ·) := by
  rw [text, text, text]
  cases before : first.result with
  | error failure => rw [andThen_of_error before, before]; rfl
  | ok lines =>
      rw [andThen_of_ok before]
      cases second.result with
      | error failure => rfl
      | ok more => exact congrArg Except.ok List.flatten_append

namespace Weaver

variable {ε : Type} {weaver : Weaver} {first : Text}

/-- The output of a source that leaves no region open stands before that of the
next source. -/
theorem weaveToText_append (ends : first.EndsLine)
    (closed : (weaver.document first).diagnostics = []) (resolver : Resolver ε)
    (second : Text) :
    weaver.weaveToText resolver (first ++ second) =
      (weaver.weaveToText resolver first).bind fun earlier =>
        (weaver.weaveToText resolver second).map (earlier ++ ·) := by
  have apart := Document.ofSource_append_of_closed ends closed second
  rw [weaveToText,
    weave_of_blocks_append weaver (congrArg Document.blocks apart) resolver,
    Rendering.text_andThen]
  rfl

/-- The output of an include line is the text behind it, completed and not read
again. -/
theorem weaveToText_inclusion {line path text : Text} {resolver : Resolver ε}
    (whole : line.IsLine) (marked : Marker.ofLine line = .inclusion path)
    (resolved : resolver path = .ok text.terminatedLines) :
    weaver.weaveToText resolver line = .ok text.completed := by
  have joined :=
    (Text.eq_terminatedLines_iff.1 (rfl : text.terminatedLines = _)).2
  rw [weaveToText, weave, document, Document.ofSource_inclusion whole marked,
    RenderOptions.renderAll, RenderOptions.render, Rendering.text_andThen,
    Rendering.text,
    resolved, ← joined]
  exact congrArg Except.ok (List.append_nil _)

end Weaver

/-- Terminated lines are the only whole lines that make up a text with the
newline it may lack, so they stay as they are when they are joined and cut
again, and they are cut at the end of every line. An include line between two
sources puts that text between the outputs of the two, whatever the text holds,
and fails exactly when one of the two fails. -/
theorem Weaver.weaveToText_between_sources (text : Text) :
    (∀ cut : List Text, cut = text.terminatedLines ↔
      (∀ line ∈ cut, line.IsLine) ∧ cut.flatten = text.completed) ∧
    Text.terminatedLines text.terminatedLines.flatten = text.terminatedLines ∧
    (∀ first : Text, first.EndsLine →
      Text.terminatedLines (first ++ text) =
        first.terminatedLines ++ text.terminatedLines) ∧
    ∀ {ε : Type} (weaver : Weaver) (resolver : Resolver ε)
      {before line after path : Text},
      before.EndsLine → (weaver.document before).diagnostics = [] →
      line.IsLine → Marker.ofLine line = .inclusion path →
      resolver path = .ok text.terminatedLines →
      weaver.weaveToText resolver (before ++ (line ++ after)) =
        (weaver.weaveToText resolver before).bind fun earlier =>
          (weaver.weaveToText resolver after).map fun later =>
            earlier ++ (text.completed ++ later) := by
  refine ⟨fun cut => Text.eq_terminatedLines_iff, ?_, fun first ends => ?_, ?_⟩
  · have joined :=
      (Text.eq_terminatedLines_iff.1 (rfl : text.terminatedLines = _)).2
    rw [joined, Text.terminatedLines_completed]
  · exact Text.terminatedLines_append ends text
  · intro ε weaver resolver before line after path ends closed whole
      marked resolved
    have silent : (weaver.document line).diagnostics = [] := by
      rw [document, Document.ofSource_inclusion whole marked]
    rw [weaveToText_append ends closed, weaveToText_append (.inr whole.1) silent,
      weaveToText_inclusion whole marked resolved]
    cases weaver.weaveToText resolver after <;> rfl

/-- A file that is full of markers and lacks its last newline, included between
two regions. -/
theorem Weaver.weaveToText_between_sources_example :
    let included : Text := "/*-\n//`\n//#include \"x\"\n-*/".toList
    let fs : FileSystem := ⟨.dir [("x".toList, .file (.text included))], []⟩
    let before : Text := "/*-\na\n-*/\n".toList
    let line : Text := " //#include \"x\"\n".toList
    let after : Text := "/*-\nb\n".toList
    before.EndsLine ∧ (default.document before).diagnostics = [] ∧ line.IsLine ∧
      Marker.ofLine line = .inclusion "x".toList ∧
      Book.resolver fs ['.'] "x".toList = .ok included.terminatedLines ∧
      default.weaveToText (Book.resolver fs ['.']) (before ++ (line ++ after)) =
        .ok "a\n/*-\n//`\n//#include \"x\"\n-*/\nb\n".toList := by
  intro included fs before line after
  have ends : before.EndsLine := by decide
  have closed : (default.document before).diagnostics = [] := by decide +kernel
  have whole : line.IsLine := by decide
  have marked : Marker.ofLine line = .inclusion "x".toList := by decide +kernel
  have resolved : Book.resolver fs ['.'] "x".toList =
      .ok included.terminatedLines :=
    Book.resolver_of_ok rfl
  refine ⟨ends, closed, whole, marked, resolved, ?_⟩
  rw [(weaveToText_between_sources included).2.2.2 default
    (Book.resolver fs ['.']) ends closed
    whole marked resolved]
  decide +kernel

end LiterateBook
