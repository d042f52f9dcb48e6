import LiterateBook.Command.Outcome
import LiterateBook.Diff.Report
import LiterateBook.Proofs.EditScripts
import LiterateBook.Proofs.LineTerminators
import Mathlib.Data.List.Basic

/-!
# Printed differences

A difference that is printed without colour can be read back. It is cut after
each line terminator in one way only, and every piece starts with the three
characters that tell what became of its line. The pieces of common and removed
lines put together are the one text, those of common and inserted lines the
other, each with a newline where it does not end a line. Some piece is removed
or inserted exactly when the texts differ.
-/

namespace LiterateBook

namespace Diff

variable {current expected : Text} {changes : List (Action × Text)}
  {actions : List Action}

/-! ## Marked pieces -/

/-- The characters in front of a line that is printed. -/
def Action.mark : Action → Text
  | .keep => "   ".toList
  | .remove => "  -".toList
  | .insert => "  +".toList

/-- The pieces with one of the marks, one after another and without the
marks. -/
def readBack (actions : List Action) (pieces : List Text) : Text :=
  (pieces.filter (·.take 3 ∈ actions.map Action.mark)).flatMap (·.drop 3)

/-- Changes that turn the lines of one text into those of another. -/
def Turns (changes : List (Action × Text)) (current expected : Text) : Prop :=
  ∃ first second, IsCut current first ∧ IsCut expected second ∧
    IsScript changes first second

/-- What the pieces of a printed difference tell about the two texts. -/
structure Tells (pieces : List Text) (current expected : Text) : Prop where
  marked : ∀ piece ∈ pieces, ∃ action : Action, action.mark <+: piece
  current_eq : readBack [.keep, .remove] pieces = ended current
  expected_eq : readBack [.keep, .insert] pieces = ended expected
  changed : current ≠ expected →
    ∃ piece ∈ pieces, Action.remove.mark <+: piece ∨
      Action.insert.mark <+: piece

namespace Action

theorem length_mark (action : Action) : action.mark.length = 3 := by
  cases action <;> rfl

theorem mark_injective : Function.Injective mark := by
  intro action other same
  cases action <;> cases other <;> first | rfl | exact absurd same (by decide)

theorem take_mark_append (action : Action) (text : Text) :
    (action.mark ++ text).take 3 = action.mark :=
  List.take_left' action.length_mark

theorem drop_mark_append (action : Action) (text : Text) :
    (action.mark ++ text).drop 3 = text :=
  List.drop_left' action.length_mark

theorem isContent_mark (action : Action) : IsContent action.mark := by
  cases action <;> simp [IsContent, mark]

end Action

/-! ## Printed changes -/

/-- A change as it is printed without colour. -/
def piece (change : Action × Text) : Text :=
  change.1.mark ++ shown change.2

theorem spans_reportLine (change : Action × Text) :
    Display.bare.spans (reportLine change) = piece change := by
  obtain ⟨action, line⟩ := change
  cases action <;>
    simp [Display.spans, Display.bare, reportLine, piece, Action.mark,
      Span.plain, Span.painted]

theorem spans_flatMap_reportLine (changes : List (Action × Text)) :
    Display.bare.spans (changes.flatMap reportLine) =
      (changes.map piece).flatten := by
  induction changes with
  | nil => rfl
  | cons change rest ih =>
      rw [List.map_cons, List.flatten_cons, ← ih, ← spans_reportLine,
        List.flatMap_cons]
      exact List.flatMap_append

/-- The pieces with some of the marks are the lines with those actions. -/
theorem readBack_map_piece (actions : List Action)
    (changes : List (Action × Text)) :
    readBack actions (changes.map piece) =
      (((changes.filter (·.1 ∈ actions)).map (·.2)).map shown).flatten := by
  have marked (change : Action × Text) :
      (piece change).take 3 ∈ actions.map Action.mark ↔ change.1 ∈ actions := by
    rw [piece, Action.take_mark_append]
    exact List.mem_map_of_injective Action.mark_injective
  have unmarked (change : Action × Text) : (piece change).drop 3 =
      shown change.2 :=
    change.1.drop_mark_append _
  simp only [readBack, List.filter_map, List.map_map, Function.comp_def, marked,
    unmarked, List.flatMap_def]

/-! ## Printed scripts -/

namespace IsScript

variable {first second : List Text}

theorem mem_or_mem (script : IsScript changes first second)
    {change : Action × Text} (member : change ∈ changes) :
    change.2 ∈ first ∨ change.2 ∈ second := by
  rw [← script.first_eq, ← script.second_eq, List.mem_map, List.mem_map]
  by_cases inserted : change.1 = .insert
  · exact .inr ⟨change, List.mem_filter.2 ⟨member, by simp [inserted]⟩, rfl⟩
  · exact .inl ⟨change, List.mem_filter.2 ⟨member, by simp [inserted]⟩, rfl⟩

theorem eq_of_kept (script : IsScript changes first second)
    (kept : ∀ change ∈ changes, change.1 = .keep) : first = second := by
  have whole (action : Action) (moves : action ≠ .keep) :
      changes.filter (·.1 ≠ action) = changes := by
    rw [List.filter_eq_self]
    intro change member
    simpa [kept change member] using moves.symm
  rw [← script.first_eq, ← script.second_eq, whole .insert nofun,
    whole .remove nofun]

/-- The pieces of a printed script are lines with their terminators, and no
newline stands in front of one. -/
theorem isCut_map_piece
    (script : IsScript changes (lines current) (lines expected)) :
    IsCut (changes.map piece).flatten (changes.map piece) := by
  apply isCut_flatten
  · rw [List.forall_mem_map]
    intro change member
    have isEnded : IsEnded (shown change.2) := by
      rcases script.mem_or_mem member with old | new
      · exact (isCut_lines current).isEnded_shown change.2 old
      · exact (isCut_lines expected).isEnded_shown change.2 new
    exact isEnded.append_left change.1.isContent_mark
  · rw [List.forall_mem_map]
    intro change member
    obtain ⟨action, line⟩ := change
    cases action <;> nofun

theorem tells_map_piece
    (script : IsScript changes (lines current) (lines expected)) :
    Tells (changes.map piece) current expected where
  marked := by
    rw [List.forall_mem_map]
    intro change member
    exact ⟨change.1, List.prefix_append _ _⟩
  current_eq := by
    have old (action : Action) : action ∈ [.keep, .remove] ↔
        action ≠ .insert := by
      cases action <;> decide
    simp only [readBack_map_piece, old, script.first_eq]
    exact (isCut_lines current).flatten_map_shown
  expected_eq := by
    have new (action : Action) : action ∈ [.keep, .insert] ↔
        action ≠ .remove := by
      cases action <;> decide
    simp only [readBack_map_piece, new, script.second_eq]
    exact (isCut_lines expected).flatten_map_shown
  changed := by
    intro differ
    have moves : ∃ change ∈ changes, change.1 ≠ .keep := by
      by_contra none
      push Not at none
      exact differ (lines_injective (script.eq_of_kept none))
    obtain ⟨⟨action, line⟩, member, moves⟩ := moves
    refine ⟨piece (action, line), List.mem_map_of_mem member, ?_⟩
    cases action with
    | keep => exact absurd rfl moves
    | remove => exact .inl (List.prefix_append _ _)
    | insert => exact .inr (List.prefix_append _ _)

end IsScript

/-- A printed script is cut in one way only, into pieces that tell about the two
texts. -/
theorem Turns.exists_pieces (turns : Turns changes current expected) :
    (∀ cut, IsCut (Display.bare.spans (changes.flatMap reportLine)) cut ↔
      cut = changes.map piece) ∧
      Tells (changes.map piece) current expected := by
  obtain ⟨first, second, oldCut, newCut, script⟩ := turns
  rw [oldCut.eq_lines, newCut.eq_lines] at script
  rw [spans_flatMap_reportLine]
  exact ⟨script.isCut_map_piece.iff_eq, script.tells_map_piece⟩

/-- A printed difference can be read back, and so can whatever changes are
printed instead of it, as long as they turn the lines of the one text into those
of the other. Where the texts are equal, every piece is marked as common. -/
theorem report_tells (current expected : Text) :
    (∃ pieces,
      (∀ cut, IsCut (Display.bare.spans (report current expected)) cut ↔
        cut = pieces) ∧
      Tells pieces current expected ∧
      (current = expected → ∀ piece ∈ pieces, Action.keep.mark <+: piece)) ∧
    Turns (edits current expected) current expected ∧
    ∀ changes, Turns changes current expected →
      ∃ pieces,
        (∀ cut, IsCut (Display.bare.spans (changes.flatMap reportLine)) cut ↔
        cut = pieces) ∧ Tells pieces current expected := by
  have turns : Turns (edits current expected) current expected :=
    ⟨_, _, isCut_lines current, isCut_lines expected, isScript_edits current expected⟩
  obtain ⟨only, tells⟩ := turns.exists_pieces
  refine ⟨⟨_, only, tells, ?_⟩, turns, fun changes other => ⟨_, other.exists_pieces⟩⟩
  rintro rfl
  rw [edits_self, List.map_map, List.forall_mem_map]
  intro line member
  exact List.prefix_append _ _

/-- A carriage return ends a line where the mark of the next line follows it,
and a last line without terminator is told from one with a newline. -/
theorem report_tells_example :
    let current := "x\r\n-y\rz".toList
    let expected := "x\r\n-y\rz\n\n".toList
    let changes :=
      [(.keep, "x\r\n".toList), (.keep, "-y\r".toList), (.remove, ['z']),
      (.insert, ['z', '\n']), (.insert, ['\n'])]
    let pieces :=
      ["   x\r\n".toList, "   -y\r".toList, "  -z\n".toList, "  +z\n".toList,
      "  +\n".toList]
    Turns changes current expected ∧
      IsCut (Display.bare.spans (changes.flatMap reportLine)) pieces ∧
        Tells pieces current expected := by
  intro current expected changes pieces
  have turns : Turns changes current expected :=
    ⟨_, _, isCut_lines current, isCut_lines expected, by decide, by decide⟩
  obtain ⟨others, only, tells⟩ :=
    (report_tells current expected).2.2 changes turns
  have cut : lines (Display.bare.spans (changes.flatMap reportLine)) =
      pieces := by
    decide +kernel
  have same : others = pieces := ((only _).1 (isCut_lines _)).symm.trans cut
  rw [same] at only tells
  exact ⟨turns, (only pieces).2 rfl, tells⟩

end Diff

end LiterateBook
