import LiterateBook.Proofs.BlankLines
import LiterateBook.Proofs.Concatenation
import Mathlib.Data.List.Forall2

/-!
# Logged places

Reading a source logs one event for each block that is not a blank line outside
every region, and the line numbers in the event are where the block stands in
the source. The numbers of an opener are carried along until its region ends, so
what is shown of a run is that the reader remembers the opener it stands behind
and all lines since.
-/

namespace LiterateBook

/-! ## What events say -/

/-- The event that warns of what a diagnostic remarks on. -/
def Diagnostic.event : Diagnostic → Event
  | .unterminatedRegion kind line =>
    ⟨.warn, .parser, kind.name.toList ++ " region is never closed".toList,
      [("line", .number line)]⟩

/-- What an event says about a source with the given lines, counted from one:
which block it speaks of, and which lines that block comes from. -/
inductive Event.Reports (lines : List Text) : Event → Placed → Prop where
  /-- An include line stands where the event says, and names the path. -/
  | inclusion {number : Nat} {line path : Text} (one_le : 1 ≤ number)
      (stands : lines[number - 1]? = some line)
      (marked : Marker.ofLine line = .inclusion path) :
      Reports lines
        ⟨.debug, .parser, "include directive".toList,
          [("line", .number number), ("path", .quoted path)]⟩
        ⟨number, number, .inclusion path⟩
  /-- A region stands between its opener and its first closer. -/
  | closed {kind : RegionKind} {opening closing : Nat} {opener closer : Text}
      {body : List Text} (one_le : 1 ≤ opening) (opening_lt : opening < closing)
      (closing_le : closing ≤ lines.length)
      (openerStands : lines[opening - 1]? = some opener)
      (opens : Marker.ofLine opener = kind.opener)
      (closerStands : lines[closing - 1]? = some closer)
      (closes : Marker.ofLine closer = kind.closer)
      (between : body = (lines.drop opening).take (closing - opening - 1))
      (length_eq : body.length = closing - opening - 1)
      (unmarked : ∀ line ∈ body, Marker.ofLine line ≠ kind.closer) :
      Reports lines
        ⟨.debug, .parser, kind.name.toList ++ " block".toList,
          [("from", .number opening), ("to", .number closing)]⟩
        ⟨opening, closing, kind.block body⟩
  /-- A region without a closer holds all lines behind its opener. -/
  | unclosed {kind : RegionKind} {opening : Nat} {opener : Text}
      (one_le : 1 ≤ opening) (opening_le : opening ≤ lines.length)
      (openerStands : lines[opening - 1]? = some opener)
      (opens : Marker.ofLine opener = kind.opener)
      (unmarked : ∀ line ∈ lines.drop opening, Marker.ofLine line ≠
        kind.closer) :
      Reports lines (Diagnostic.unterminatedRegion kind opening).event
        ⟨opening, lines.length, kind.block (lines.drop opening)⟩

namespace Event.Reports

variable {kind : RegionKind} {before body after : List Text}
  {opener closer : Text}

theorem of_region (before after : List Text)
    (opens : Marker.ofLine opener = kind.opener)
    (unmarked : ∀ line ∈ body, Marker.ofLine line ≠ kind.closer)
    (closes : Marker.ofLine closer = kind.closer) :
    Reports (before ++ opener :: (body ++ closer :: after))
      ⟨.debug, .parser, kind.name.toList ++ " block".toList,
        [("from", .number (before.length + 1)),
          ("to", .number (before.length + 1 + body.length + 1))]⟩
      ⟨before.length + 1, before.length + 1 + body.length + 1,
        kind.block body⟩ := by
  have apart : before.length + 1 + body.length + 1 - (before.length + 1) - 1 =
      body.length := by
    omega
  have behind : (before ++ opener :: (body ++ closer :: after)).drop
      (before.length + 1) =
      body ++ closer :: after := by
    simp [List.drop_append]
  have closerStands :
      (before ++ opener :: (body ++ closer :: after))[before.length + 1 +
        body.length]? =
        some closer := by
    rw [← List.getElem?_drop, behind,
      List.getElem?_append_right (Nat.le_refl _), Nat.sub_self]
    rfl
  refine .closed (Nat.le_add_left 1 _)
    (by omega) ?_ (by simp) opens closerStands closes ?_
    apart.symm unmarked
  · simp only [List.length_append, List.length_cons]
    omega
  · rw [behind, apart, List.take_left]

theorem of_unclosed (before : List Text)
    (opens : Marker.ofLine opener = kind.opener)
    (unmarked : ∀ line ∈ body, Marker.ofLine line ≠ kind.closer) :
    Reports (before ++ opener :: body)
      (Diagnostic.unterminatedRegion kind (before.length + 1)).event
      ⟨before.length + 1, (before ++ opener :: body).length,
        kind.block body⟩ := by
  have behind : (before ++ opener :: body).drop (before.length + 1) = body := by
    simp [List.drop_append]
  have reports : Reports (before ++ opener :: body) _ _ :=
    .unclosed (Nat.le_add_left 1 before.length) (by simp)
      (by simp) opens (behind.symm ▸ unmarked)
  rwa [behind] at reports

end Event.Reports

namespace Note

theorem event_closed (kind : RegionKind) (opening closing : Nat) :
    (closed kind opening closing).event =
      ⟨.debug, .parser, kind.name.toList ++ " block".toList,
        [("from", .number opening), ("to", .number closing)]⟩ := by
  cases kind <;> rfl

theorem event_unclosed (kind : RegionKind) (opening : Nat) :
    (unclosed kind opening).event =
      (Diagnostic.unterminatedRegion kind opening).event := by
  cases kind <;> rfl

end Note

namespace Document

namespace State

variable {policy : BlankPolicy} {state : State} {front : List Text}
  {line : Text}

/-! ## Where the reader stands -/

/-- What a reader behind some lines remembers of them: inside a region its
opener, the number of the opener, and all lines behind it, none of which closes
the region. -/
def StandsBehind (front : List Text) : State → Prop
  | .outside => True
  | .inside kind reversedBody opened =>
    ∃ before opener, front = before ++ opener :: reversedBody.reverse ∧
      opened = before.length + 1 ∧ Marker.ofLine opener = kind.opener ∧
      ∀ line ∈ reversedBody, Marker.ofLine line ≠ kind.closer

/-- The next line is remembered too, or its region is over. -/
theorem StandsBehind.step (stands : state.StandsBehind front)
    (policy : BlankPolicy) (line : Text) :
    (state.step policy (front.length + 1) line).1.StandsBehind
      (front ++ [line]) := by
  cases state.encounters line with
  | inclusion marked =>
      rw [step_inclusion marked]
      trivial
  | opener marked =>
      rw [step_opener marked]
      exact ⟨front, line, rfl, rfl, marked, List.forall_mem_nil _⟩
  | hidden marked =>
      rw [step_hidden marked]
      trivial
  | closer marked =>
      rw [step_closer marked]
      trivial
  | content unmarked =>
      obtain ⟨before, opener, rfl, place, opens, others⟩ := stands
      rw [step_content unmarked]
      refine ⟨before, opener, ?_, place, opens,
        List.forall_mem_cons.2 ⟨unmarked, others⟩⟩
      rw [List.reverse_cons, List.append_assoc, List.cons_append]

theorem StandsBehind.pass (stands : state.StandsBehind front)
    (policy : BlankPolicy) (rest : List Text) :
    (state.pass policy (front.length + 1) rest).1.StandsBehind
      (front ++ rest) := by
  induction rest generalizing state front with
  | nil => rwa [List.append_nil]
  | cons line rest ih =>
      have later := ih (stands.step policy line)
      rwa [List.length_append, List.append_assoc] at later

/-! ## What is logged on the way -/

/-- A line that completes a block logs an event that reports this block, and any
other line logs nothing. -/
theorem StandsBehind.reports_step (stands : state.StandsBehind front)
    (line : Text) (rest : List Text) :
    ((state.step .drop (front.length + 1) line).2.notes.map Note.event).Forall₂
      (Event.Reports (front ++ line :: rest))
      ((state.step .drop (front.length + 1) line).2.blocks.map
        (⟨state.firstLine (front.length + 1), front.length + 1, ·⟩)) := by
  cases state.encounters line with
  | inclusion marked =>
      rw [step_inclusion marked]
      exact .cons (.inclusion (Nat.le_add_left 1 _) (by simp) marked) .nil
  | opener marked =>
      rw [step_opener marked]
      exact .nil
  | hidden marked =>
      rw [step_hidden marked]
      exact .nil
  | @closer kind reversedBody opened marked =>
      obtain ⟨before, opener, rfl, rfl, opens, unmarked⟩ := stands
      have reports : Event.Reports _ _ _ := .of_region before rest opens
        (fun other member => unmarked other (List.mem_reverse.1 member)) marked
      have number : (before ++ opener :: reversedBody.reverse).length + 1 =
          before.length + 1 + reversedBody.reverse.length + 1 := by
        rw [List.length_append, List.length_cons]
        omega
      rw [step_closer marked, List.map_singleton, Note.event_closed, number,
        List.append_assoc, List.cons_append]
      exact .cons reports .nil
  | content unmarked =>
      rw [step_content unmarked]
      exact .nil

/-- The end of the source completes and reports an open region. -/
theorem StandsBehind.reports_finish (stands : state.StandsBehind front) :
    (state.finish.notes.map Note.event).Forall₂ (Event.Reports front)
      (state.finish.blocks.map
        (⟨state.firstLine (front.length + 1), front.length, ·⟩)) := by
  cases state with
  | outside => exact .nil
  | inside kind reversedBody opened =>
      obtain ⟨before, opener, rfl, rfl, opens, unmarked⟩ := stands
      have reports : Event.Reports _ _ _ := .of_unclosed before opens
        fun other member => unmarked other (List.mem_reverse.1 member)
      rw [finish, List.map_singleton, Note.event_unclosed]
      exact .cons reports .nil

/-- What is logged on the way reports, one after another, the blocks that come
from regions and include lines. -/
theorem StandsBehind.reports_read (stands : state.StandsBehind front)
    (rest : List Text) :
    ((state.read .drop (front.length + 1) rest).notes.map Note.event).Forall₂
      (Event.Reports (front ++ rest))
      (state.placed .drop (front.length + 1) rest) := by
  induction rest generalizing state front with
  | nil =>
      rw [List.append_nil]
      exact stands.reports_finish
  | cons line rest ih =>
      have here := stands.reports_step line rest
      have later := ih (stands.step .drop line)
      rw [List.length_append, List.append_assoc] at later
      rw [read_cons, notes_append, List.map_append, placed_cons]
      exact List.rel_append here later

/-! ## Warnings -/

/-- What becomes of blank lines has no say in what is logged. -/
theorem notes_read (policy : BlankPolicy) (state : State) (number : Nat)
    (lines : List Text) :
    (state.read policy number lines).notes =
      (state.read .drop number lines).notes := by
  cases policy with
  | drop => rfl
  | keep =>
      induction lines generalizing state number with
      | nil => rfl
      | cons line rest ih =>
          rw [read_cons, read_cons, step_keep, notes_append, notes_append,
            notes_append, ih]
          rfl

theorem level_event_of_mem_step {number : Nat} {note : Note}
    (member : note ∈ (state.step policy number line).2.notes) :
    note.event.level = .debug := by
  cases state.encounters line with
  | inclusion marked =>
      rw [step_inclusion marked] at member
      cases List.mem_singleton.1 member
      rfl
  | opener marked =>
      rw [step_opener marked] at member
      cases member
  | hidden marked =>
      rw [step_hidden marked] at member
      cases member
  | closer marked =>
      rw [step_closer marked] at member
      cases List.mem_singleton.1 member
      rw [Note.event_closed]
  | content unmarked =>
      rw [step_content unmarked] at member
      cases member

theorem level_event_of_mem_pass {number : Nat} {lines : List Text} {note : Note}
    (member : note ∈ (state.pass policy number lines).2.notes) :
    note.event.level = .debug := by
  induction lines generalizing state number with
  | nil => cases member
  | cons line rest ih =>
      rw [pass_cons, notes_append] at member
      rcases List.mem_append.1 member with here | later
      · exact level_event_of_mem_step here
      · exact ih later

theorem map_event_finish (state : State) :
    state.finish.notes.map Note.event =
      state.finish.diagnostics.map Diagnostic.event := by
  cases state with
  | outside => rfl
  | inside kind reversedBody opened =>
      exact congrArg ([·]) (Note.event_unclosed kind opened)

end State

/-- A region that is open at the end of the source leaves the last block: all
lines behind the one the diagnostic points at. -/
theorem getLast?_blocks_of_diagnostics {policy : BlankPolicy} {source : Text}
    {kind : RegionKind} {line : Nat}
    (unterminated : (ofSource policy source).diagnostics =
      [.unterminatedRegion kind line]) :
    (ofSource policy source).blocks.getLast? =
      some (kind.block (source.lines.drop line)) := by
  have start : State.outside.StandsBehind [] := trivial
  have stands := start.pass policy source.lines
  rw [diagnostics_ofSource] at unterminated
  rw [ofSource_eq_pass, blocks_append]
  rw [List.length_nil, Nat.zero_add, List.nil_append] at stands
  cases reached : (State.outside.pass policy 1 source.lines).1 with
  | outside =>
      rw [reached] at unterminated
      cases unterminated
  | inside other reversedBody opened =>
      rw [reached] at unterminated stands
      cases unterminated
      obtain ⟨before, opener, split, rfl, -, -⟩ := stands
      have behind : source.lines.drop (before.length + 1) =
          reversedBody.reverse := by
        rw [split, List.drop_append]
        simp
      rw [State.finish, List.getLast?_concat, behind]

/-- A reading logs the same whatever becomes of blank lines. Apart from the
blocks of blank lines outside every region, the blocks of a source are reported
one after another by the events, in the order of the lines they come from and
without a line in common. The only warning comes last, and there is one exactly
when there is a diagnostic, of the same kind and with the same line; the last
block is then all there is behind that line. -/
theorem ofSource_events (policy : BlankPolicy) (source : Text) :
    (placed policy source).map Placed.block = (ofSource policy source).blocks ∧
    Inserted
      (if policy = .keep then (blanks source).map fun blank =>
        ⟨blank.1, blank.1, .prose [blank.2]⟩
        else [])
      (placed .drop source) (placed policy source) ∧
    (ofSource policy source).events.Forall₂ (Event.Reports source.lines)
    (placed .drop source) ∧
    Placed.InOrder 1 (placed .drop source) ∧
    (∃ earlier, (ofSource policy source).events =
        earlier ++ (ofSource policy source).diagnostics.map Diagnostic.event ∧
      (∀ event ∈ earlier, event.level = .debug) ∧
      (ofSource policy source).diagnostics.length ≤ 1) ∧
    ∀ kind line, (ofSource policy source).diagnostics =
      [.unterminatedRegion kind line] →
      (ofSource policy source).blocks.getLast? =
        some (kind.block (source.lines.drop line)) := by
  refine ⟨map_block_placed policy source, ?_, ?_, ?_, ?_, ?_⟩
  · cases policy with
    | drop => exact .of_base _
    | keep => exact State.inserted_placed .outside 1 source.lines
  · have start : State.outside.StandsBehind [] := trivial
    rw [events, ofSource, State.notes_read policy]
    exact start.reports_read source.lines
  · have start : State.outside.OpenedBefore 1 := trivial
    exact State.inOrder_placed start .drop source.lines
  · refine ⟨(State.outside.pass policy 1 source.lines).2.notes.map Note.event,
      ?_, ?_, ?_⟩
    · rw [diagnostics_ofSource, ← State.map_event_finish, events,
        ofSource_eq_pass, notes_append, List.map_append]
    · intro event member
      obtain ⟨note, inside, rfl⟩ := List.mem_map.1 member
      exact State.level_event_of_mem_pass inside
    · rw [diagnostics_ofSource]
      cases (State.outside.pass policy 1 source.lines).1 <;>
        simp [State.finish, empty]
  · intro kind line unterminated
    exact getLast?_blocks_of_diagnostics unterminated

/-- A kept blank line stands between a listing with prose markers in it and an
include line, and is not logged; prose that is never closed comes last. -/
theorem ofSource_events_example :
    let source : Text :=
      "x\n//`\n/*-\n//`\n\n//#include \"p\"\n/*-\ny\nz".toList
    ((ofSource .keep source).notes =
        [.closed .code 2 4, .inclusion 6 "p".toList, .unclosed .prose 7] ∧
      (placed .drop source).map (fun place => (place.first, place.last)) =
        [(2, 4), (6, 6), (7, 9)] ∧
      blanks source = [(5, "\n".toList)]) ∧
    (ofSource .keep source).events.Forall₂ (Event.Reports source.lines)
    (placed .drop source) ∧
    (ofSource .keep source).diagnostics = [.unterminatedRegion .prose 7] ∧
    (ofSource .keep source).blocks.getLast? =
      some (.prose ["y\n".toList, "z".toList]) := by
  intro source
  have unterminated : (ofSource .keep source).diagnostics =
      [.unterminatedRegion .prose 7] := by
    decide +kernel
  have behind : source.lines.drop 7 = ["y\n".toList, "z".toList] := by
    decide +kernel
  obtain ⟨-, -, reported, -, -, last⟩ := ofSource_events .keep source
  refine ⟨by decide +kernel, reported, unterminated, ?_⟩
  rw [last .prose 7 unterminated, behind]
  rfl

end Document

end LiterateBook
