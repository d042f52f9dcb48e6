import LiterateBook.Proofs.HiddenText
import LiterateBook.Proofs.LineGrammar
import LiterateBook.Proofs.Lines

/-!
# Line endings

Lines may end in a return and a newline as well as in a newline alone. The
return is white space at the end of its line, so it decides neither which part
the line plays nor whether it is blank; and a source with returns is cut where
the source without them is. The two therefore say the same, in lines that end as
those of their source do.
-/

namespace LiterateBook

namespace Text

/-- A text with a return in front of every newline. -/
def withReturns (text : Text) : Text :=
  text.flatMap fun c => if c = '\n' then ['\r', '\n'] else [c]

/-- A line with a return in front of the newline that ends it, if one does. -/
def endWithReturn (line : Text) : Text :=
  if line.getLast? = some '\n' then line.dropLast ++ ['\r', '\n'] else line

theorem withReturns_append (first second : Text) :
    withReturns (first ++ second) = withReturns first ++ withReturns second :=
  List.flatMap_append

theorem withReturns_of_not_mem {text : Text} (fresh : '\n' ∉ text) :
    withReturns text = text := by
  induction text with
  | nil => rfl
  | cons c rest ih =>
      rw [List.mem_cons, not_or] at fresh
      have later := ih fresh.2
      rw [withReturns] at later ⊢
      rw [List.flatMap_cons, if_neg (Ne.symm fresh.1), later,
        List.singleton_append]

theorem endWithReturn_concat (content : Text) :
    endWithReturn (content ++ ['\n']) = content ++ ['\r', '\n'] := by
  rw [endWithReturn, List.getLast?_concat, if_pos rfl, List.dropLast_concat]

theorem endWithReturn_of_not_mem {line : Text} (fresh : '\n' ∉ line) :
    endWithReturn line = line := by
  apply if_neg
  intro last
  exact fresh (List.mem_of_getLast? last)

theorem IsLine.withReturns_eq {line : Text} (whole : IsLine line) :
    withReturns line = endWithReturn line := by
  obtain ⟨content, fresh, rfl⟩ := isLine_iff.1 whole
  rw [withReturns_append, withReturns_of_not_mem fresh, endWithReturn_concat]
  rfl

theorem IsLine.endWithReturn {line : Text} (whole : IsLine line) :
    IsLine line.endWithReturn := by
  obtain ⟨content, fresh, rfl⟩ := isLine_iff.1 whole
  have stillFresh : '\n' ∉ content ++ ['\r'] := by
    simp [fresh]
  have extended := isLine_concat stillFresh
  rwa [List.append_assoc, List.singleton_append, ← endWithReturn_concat] at extended

/-- A text with returns is cut where the text without them is. -/
theorem IsCut.withReturns {text : Text} {cut : List Text}
    (isCut : IsCut text cut) :
    IsCut text.withReturns (cut.map Text.endWithReturn) := by
  induction isCut with
  | nil => exact .nil
  | last nonempty fresh =>
      rw [withReturns_of_not_mem fresh, List.map_singleton,
        endWithReturn_of_not_mem fresh]
      exact .last nonempty fresh
  | line whole later ih =>
      rw [withReturns_append, whole.withReturns_eq, List.map_cons]
      exact .line whole.endWithReturn ih

theorem lines_withReturns (text : Text) :
    lines text.withReturns = (lines text).map endWithReturn :=
  (isCut_lines text).withReturns.eq_lines.symm

end Text

/-- A return at the end of a line decides neither its part nor whether it is
blank. -/
theorem Marker.samePart_endWithReturn (line : Text) :
    SamePart line line.endWithReturn := by
  by_cases last : line.getLast? = some '\n'
  · obtain ⟨content, rfl⟩ := List.getLast?_eq_some_iff.1 last
    have newline : ['\n'] ⊆ Token.gapCharacters := by decide
    have ending : ['\r', '\n'] ⊆ Token.gapCharacters := by decide
    rw [Text.endWithReturn_concat, SamePart, ofLine_append_gaps newline,
      ofLine_append_gaps ending,
      Text.isBlank_append_gaps newline, Text.isBlank_append_gaps ending]
    exact ⟨rfl, rfl⟩
  · rw [Text.endWithReturn, if_neg last]
    exact ⟨rfl, rfl⟩

/-! ## Lines changed throughout -/

/-- A block with each of its lines changed. An include block has none of its
own. -/
def Block.mapLines (change : Text → Text) : Block → Block
  | .prose lines => .prose (lines.map change)
  | .code block => .code (.ofLines (block.lines.map change))
  | .inclusion path => .inclusion path

theorem RegionKind.mapLines_block (kind : RegionKind) (change : Text → Text)
    (body : List Text) :
    (kind.block body).mapLines change = kind.block (body.map change) := by
  cases kind <;> rfl

namespace Document

/-- A document with each line of its blocks changed. -/
def mapLines (change : Text → Text) (document : Document) : Document :=
  { document with blocks := document.blocks.map (Block.mapLines change) }

theorem mapLines_append (change : Text → Text) (first second : Document) :
    (first ++ second).mapLines change =
      first.mapLines change ++ second.mapLines change := by
  simp only [mapLines, blocks_append, diagnostics_append, notes_append,
    List.map_append]
  rfl

namespace State

variable {change : Text → Text}

/-- A reader whose body so far has each line changed. -/
def mapLines (change : Text → Text) : State → State
  | .outside => .outside
  | .inside kind reversedBody opened =>
    .inside kind (reversedBody.map change) opened

theorem finish_mapLines (change : Text → Text) (state : State) :
    (state.mapLines change).finish = state.finish.mapLines change := by
  cases state with
  | outside => rfl
  | inside kind reversedBody opened =>
      rw [mapLines, finish, ← List.map_reverse, ← kind.mapLines_block]
      rfl

/-- A line that plays the same part after a change adds the same block with its
lines changed. -/
theorem step_mapLines {line : Text} (same : Marker.SamePart line (change line))
    (policy : BlankPolicy) (number : Nat) (state : State) :
    (state.mapLines change).step policy number (change line) =
      ((state.step policy number line).1.mapLines change,
        (state.step policy number line).2.mapLines change) := by
  obtain ⟨part, blank⟩ := same
  cases state.encounters line with
  | inclusion marked =>
      rw [mapLines, step_inclusion marked, step_inclusion (part.trans marked)]
      rfl
  | opener marked =>
      rw [mapLines, step_opener marked, step_opener (part.trans marked)]
      rfl
  | hidden marked =>
      rw [mapLines, step_hidden marked, step_hidden (part ▸ marked), blank]
      by_cases kept : policy = .keep ∧ line.isBlank = true
      · rw [if_pos kept, if_pos kept]
        rfl
      · rw [if_neg kept, if_neg kept]
        rfl
  | @closer kind reversedBody opened marked =>
      rw [mapLines, step_closer marked, step_closer (part.trans marked),
        ← List.map_reverse, ← kind.mapLines_block]
      rfl
  | @content kind reversedBody opened unmarked =>
      have still : Marker.ofLine (change line) ≠ kind.closer := by
        rwa [part]
      rw [mapLines, step_content unmarked, step_content still]
      rfl

/-- A change after which every line plays the same part changes the lines of
blocks alone. -/
theorem read_mapLines (same : ∀ line, Marker.SamePart line (change line))
    (policy : BlankPolicy) (state : State) (number : Nat) (lines : List Text) :
    (state.mapLines change).read policy number (lines.map change) =
      (state.read policy number lines).mapLines change := by
  induction lines generalizing state number with
  | nil => exact finish_mapLines change state
  | cons line rest ih =>
      rw [List.map_cons, read_cons, read_cons, step_mapLines (same line), ih,
        ← mapLines_append]

end State

/-- A source with returns has the diagnostics and the places of the source
without them, and its blocks with a return in front of each newline that ends a
line. -/
theorem ofSource_withReturns (policy : BlankPolicy) (source : Text) :
    (ofSource policy source.withReturns).diagnostics =
      (ofSource policy source).diagnostics ∧
    (ofSource policy source.withReturns).notes =
      (ofSource policy source).notes ∧
    (ofSource policy source.withReturns).blocks =
      (ofSource policy source).blocks.map
        (Block.mapLines Text.endWithReturn) := by
  have same : ofSource policy source.withReturns =
      (ofSource policy source).mapLines Text.endWithReturn := by
    rw [ofSource, Text.lines_withReturns]
    exact State.read_mapLines Marker.samePart_endWithReturn policy .outside 1
      source.lines
  rw [same]
  exact ⟨rfl, rfl, rfl⟩

end Document

end LiterateBook
