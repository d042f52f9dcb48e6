import LiterateBook.Proofs.Concatenation
import LiterateBook.Proofs.Segmentation

/-!
# Regions that the source ends in

A region that is still open at the end of a source is closed there, as its
closer would have closed it. The diagnostic says on which line the region was
opened: that line parts the source into a text that is complete in itself and a
text that is nothing but the open region.
-/

namespace LiterateBook

/-- A line that closes regions of this kind. -/
def RegionKind.closing : RegionKind → Text
  | .prose => "-*/\n".toList
  | .code => "//`\n".toList

theorem RegionKind.lines_closing (kind : RegionKind) :
    kind.closing.lines = [kind.closing] := by
  cases kind <;> decide

theorem RegionKind.ofLine_closing (kind : RegionKind) :
    Marker.ofLine kind.closing = kind.closer := by
  cases kind <;> decide +kernel

/-! ## Texts parted at a line -/

namespace Text

/-- The text in front of the line with the given number, counted from one. -/
def beforeLine (text : Text) (number : Nat) : Text :=
  (text.lines.take (number - 1)).flatten

/-- The text from the line with the given number on. -/
def fromLine (text : Text) (number : Nat) : Text :=
  (text.lines.drop (number - 1)).flatten

theorem beforeLine_append_fromLine (text : Text) (number : Nat) :
    text.beforeLine number ++ text.fromLine number = text := by
  rw [beforeLine, fromLine, ← List.flatten_append, List.take_append_drop,
    flatten_lines]

variable {text line : Text} {front back : List Text}

theorem beforeLine_eq (split : text.lines = front ++ line :: back) :
    text.beforeLine (front.length + 1) = front.flatten := by
  simp [beforeLine, split]

theorem fromLine_eq (split : text.lines = front ++ line :: back) :
    text.fromLine (front.length + 1) = (line :: back).flatten := by
  simp [fromLine, split]

theorem endsLine_beforeLine (split : text.lines = front ++ line :: back) :
    EndsLine (text.beforeLine (front.length + 1)) := by
  rw [beforeLine_eq split]
  exact EndsLine.flatten fun piece member =>
    .inr (isLine_of_lines_eq split piece member).1

theorem lines_beforeLine (split : text.lines = front ++ line :: back) :
    lines (text.beforeLine (front.length + 1)) = front := by
  rw [beforeLine_eq split, lines_flatten (isLine_of_lines_eq split)]

theorem lines_fromLine (split : text.lines = front ++ line :: back) :
    lines (text.fromLine (front.length + 1)) = line :: back := by
  rw [fromLine_eq split, lines_flatten_of_lines_eq split]

end Text

namespace Document

open State

variable {policy : BlankPolicy} {source opener : Text} {kind : RegionKind}
  {line : Nat}
variable {body : List Text}

/-! ## A source that is an open region -/

theorem ofSource_opened (cut : source.lines = opener :: body)
    (opens : Marker.ofLine opener = kind.opener)
    (unmarked : ∀ line ∈ body, Marker.ofLine line ≠ kind.closer)
    (policy : BlankPolicy) :
    ofSource policy source =
      ⟨[kind.block body], [.unterminatedRegion kind 1], [.unclosed kind 1]⟩ := by
  rw [ofSource, cut, read_eq_pass, pass_opened opens unmarked, finish,
    List.reverse_reverse]
  rfl

/-- Closing the region leaves its block and takes away the diagnostic. -/
theorem ofSource_opened_append_closing (ends : source.EndsLine)
    (cut : source.lines = opener :: body)
    (opens : Marker.ofLine opener = kind.opener)
    (unmarked : ∀ line ∈ body, Marker.ofLine line ≠ kind.closer)
    (policy : BlankPolicy) :
    ofSource policy (source ++ kind.closing) =
      ⟨[kind.block body], [], [.closed kind 1 (1 + body.length + 1)]⟩ := by
  rw [ofSource, Text.lines_append ends, cut, kind.lines_closing,
    List.cons_append, read_eq_pass,
    pass_region opens unmarked kind.ofLine_closing]
  rfl

/-- The closer of prose says nothing where no prose is open. -/
theorem ofSource_stray_closer (policy : BlankPolicy) :
    ofSource policy "-*/\n".toList = empty := by
  have cut : Text.lines "-*/\n".toList = ["-*/\n".toList] :=
    RegionKind.lines_closing .prose
  have marked : Marker.ofLine "-*/\n".toList = .proseClose :=
    RegionKind.ofLine_closing .prose
  have visible : ¬ (policy = .keep ∧ Text.isBlank "-*/\n".toList = true) := by
    rintro ⟨-, blank⟩
    cases blank
  rw [ofSource, cut, read_cons, step_hidden (.inr marked), if_neg visible]
  rfl

/-! ## The line of the diagnostic -/

/-- The diagnostic points at an opener with a complete source in front of it and
no closer behind it. -/
theorem exists_opener
    (unterminated : (ofSource policy source).diagnostics =
      [.unterminatedRegion kind line]) :
    ∃ front opener body, source.lines = front ++ opener :: body ∧
      line = front.length + 1 ∧
      Marker.ofLine opener = kind.opener ∧
        (∀ line ∈ body, Marker.ofLine line ≠ kind.closer) ∧
      (ofSource policy (source.beforeLine line)).diagnostics = [] := by
  obtain ⟨segments, segmentation⟩ := Segmentation.exists_of_lines source.lines
  rcases segmentation.isClosed_cases with
      ⟨earlier, other, opener, body, rfl, closed⟩ | closed
  · obtain ⟨before, last⟩ := segmentation.of_append
    rw [List.flatMap_singleton] at last
    rw [segmentation.ofSource_eq,
      diagnostics_ofSegments_unclosed closed] at unterminated
    cases unterminated
    have split : source.lines =
        earlier.flatMap Segment.lines ++ opener :: body := by
      rw [← segmentation.flatMap_lines, List.flatMap_append,
        List.flatMap_singleton]
      rfl
    rw [← Text.lines_beforeLine split, Nat.add_comm] at before
    refine ⟨_, opener, body, split, Nat.add_comm _ _, ?_⟩
    cases last with
    | unclosed opens unmarked =>
      refine ⟨opens, unmarked, ?_⟩
      rw [before.ofSource_eq, diagnostics_ofSegments_of_isClosed closed]
  · rw [segmentation.ofSource_eq,
      diagnostics_ofSegments_of_isClosed closed] at unterminated
    cases unterminated

/-- A source has at most one diagnostic. It points at a line that opens a region
of the kind it names: the text in front of that line is complete and leaves all
blocks but the last, the text from that line on is the open region alone, and
once the region is closed the blocks are the same and nothing is left to say. A
complete source does not mind a closer behind it. -/
theorem ofSource_implicitClose (policy : BlankPolicy) (source : Text) :
    (ofSource policy source).diagnostics.length ≤ 1 ∧
    (∀ kind line, (ofSource policy source).diagnostics =
      [.unterminatedRegion kind line] →
      1 ≤ line ∧ line ≤ source.lines.length ∧
      (∃ opener, source.lines[line - 1]? = some opener ∧
        Marker.ofLine opener = kind.opener) ∧
      (ofSource policy (source.beforeLine line)).diagnostics = [] ∧
      (ofSource policy (source.fromLine line)).diagnostics =
        [.unterminatedRegion kind 1] ∧
      (∃ last, (ofSource policy (source.fromLine line)).blocks = [last] ∧
        (ofSource policy source).blocks =
          (ofSource policy (source.beforeLine line)).blocks ++ [last]) ∧
      (source.EndsLine →
        (ofSource policy (source ++ kind.closing)).blocks =
          (ofSource policy source).blocks ∧
        (ofSource policy (source ++ kind.closing)).diagnostics = [])) ∧
    ((ofSource policy source).diagnostics = [] → source.EndsLine →
      (ofSource policy (source ++ "-*/\n".toList)).blocks =
        (ofSource policy source).blocks ∧
      (ofSource policy (source ++ "-*/\n".toList)).diagnostics = []) := by
  refine ⟨?_, ?_, ?_⟩
  · rw [diagnostics_ofSource]
    cases (outside.pass policy 1 source.lines).1 <;> simp [State.finish, empty]
  · intro kind line unterminated
    obtain ⟨front, opener, body, split, rfl, opens, unmarked, complete⟩ :=
      exists_opener unterminated
    have parted := source.beforeLine_append_fromLine (front.length + 1)
    have ends := Text.endsLine_beforeLine split
    have cut := Text.lines_fromLine split
    have opened := ofSource_opened cut opens unmarked policy
    have whole := ofSource_append_of_closed ends complete
      (source.fromLine (front.length + 1))
    rw [parted, opened] at whole
    refine ⟨Nat.le_add_left 1 _,
      by simp [split], ⟨opener, by simp [split], opens⟩, complete,
      congrArg diagnostics opened,
      ⟨kind.block body, congrArg blocks opened, congrArg blocks whole⟩,
      ?_⟩
    intro sourceEnds
    have regionEnds : (source.fromLine (front.length + 1)).EndsLine :=
      Text.EndsLine.of_append (parted.symm ▸ sourceEnds)
    have closed := ofSource_opened_append_closing regionEnds cut opens
      unmarked policy
    have repaired := ofSource_append_of_closed ends complete
      (source.fromLine (front.length + 1) ++ kind.closing)
    rw [← List.append_assoc, parted, closed] at repaired
    rw [repaired, whole, diagnostics_append, complete]
    exact ⟨rfl, rfl⟩
  · intro complete ends
    rw [ofSource_append_of_closed ends complete, ofSource_stray_closer,
      diagnostics_append, complete]
    exact ⟨List.append_nil _, rfl⟩

/-- A listing left open behind a closed one and a kept blank line, with the
fence that opened it on line 5; and a source that is complete. -/
theorem ofSource_implicitClose_example :
    let opened : Text := "//`\nx\n//`\n\n //` y\n/*-\n".toList
    let complete : Text := "/*-\nx\n-*/\n".toList
    ((ofSource .keep opened).diagnostics = [.unterminatedRegion .code 5] ∧
      (∃ opener, opened.lines[4]? = some opener ∧
        Marker.ofLine opener = .codeFence) ∧
      (ofSource .keep (opened.fromLine 5)).diagnostics =
        [.unterminatedRegion .code 1] ∧
      opened.EndsLine ∧
      (ofSource .keep (opened ++ "//`\n".toList)).blocks =
        (ofSource .keep opened).blocks ∧
      (ofSource .keep (opened ++ "//`\n".toList)).diagnostics = []) ∧
    (ofSource .drop complete).diagnostics = [] ∧ complete.EndsLine ∧
      (ofSource .drop (complete ++ "-*/\n".toList)).blocks =
        (ofSource .drop complete).blocks := by
  intro opened complete
  have unterminated : (ofSource .keep opened).diagnostics =
      [.unterminatedRegion .code 5] := by
    decide +kernel
  have silent : (ofSource .drop complete).diagnostics = [] := by decide +kernel
  have openedEnds : opened.EndsLine := by decide
  have completeEnds : complete.EndsLine := by decide
  obtain ⟨-, -, opens, -, alone, -, closed⟩ :=
    (ofSource_implicitClose .keep opened).2.1 .code 5 unterminated
  have same := (ofSource_implicitClose .drop complete).2.2 silent completeEnds
  exact ⟨⟨unterminated, opens, alone, openedEnds, closed openedEnds⟩, silent,
    completeEnds, same.1⟩

end Document

end LiterateBook
