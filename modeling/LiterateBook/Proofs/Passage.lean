import LiterateBook.Document

/-!
# Passing over lines

Reading a source is passing over its lines and then meeting its end. The passage
over some lines is separated here from the end of the source, so that passages
compose. Passing over the body of a region only collects it, and the number of
the first line moves all line numbers without any other effect.
-/

namespace LiterateBook

/-- The marker that opens a region of this kind. -/
def RegionKind.opener : RegionKind → Marker
  | .prose => .proseOpen
  | .code => .codeFence

theorem RegionKind.opener_injective {first second : RegionKind}
    (same : first.opener = second.opener) : first = second := by
  cases first <;> cases second <;> first | rfl | cases same

/-- Outside every region a marker includes lines, opens a region or is without
effect. -/
theorem Marker.outside_cases (marker : Marker) :
    (∃ path, marker = .inclusion path) ∨
      (∃ kind : RegionKind, marker = kind.opener) ∨
      (marker = .text ∨ marker = .proseClose) := by
  cases marker with
  | inclusion path => exact .inl ⟨path, rfl⟩
  | proseOpen => exact .inr (.inl ⟨.prose, rfl⟩)
  | codeFence => exact .inr (.inl ⟨.code, rfl⟩)
  | text => exact .inr (.inr (.inl rfl))
  | proseClose => exact .inr (.inr (.inr rfl))

namespace Document

/-! ## Documents in sequence -/

@[simp] theorem empty_append (document : Document) :
    empty ++ document = document := rfl

@[simp] theorem append_empty (document : Document) :
    document ++ empty = document := by
  cases document with
  | mk blocks diagnostics notes =>
      show Document.mk (blocks ++ []) (diagnostics ++ []) (notes ++ []) = _
      rw [List.append_nil, List.append_nil, List.append_nil]

theorem append_assoc (first second third : Document) :
    first ++ second ++ third = first ++ (second ++ third) := by
  cases first
  cases second
  cases third
  show Document.mk (_ ++ _ ++ _) (_ ++ _ ++ _) (_ ++ _ ++ _) = _
  rw [List.append_assoc, List.append_assoc, List.append_assoc]
  rfl

namespace State

variable {policy : BlankPolicy} {number : Nat} {line : Text}

/-! ## One line -/

theorem step_inclusion {path : Text}
    (marked : Marker.ofLine line = .inclusion path) :
    outside.step policy number line =
      (outside, ⟨[.inclusion path], [], [.inclusion number path]⟩) := by
  simp only [step, stepOutside, marked]

theorem step_opener {kind : RegionKind}
    (marked : Marker.ofLine line = kind.opener) :
    outside.step policy number line = (inside kind [] number, empty) := by
  cases kind <;> simp only [step, stepOutside, marked, RegionKind.opener]

/-- A line without effect outside every region leaves a block only where blank
lines are kept. -/
theorem step_hidden
    (marked : Marker.ofLine line = .text ∨ Marker.ofLine line = .proseClose) :
    outside.step policy number line =
      (outside,
        ⟨if policy = .keep ∧ line.isBlank then [.prose [line]] else [], [], []⟩) := by
  rcases marked with marked | marked <;>
    simp only [step, stepOutside, marked] <;>
    split <;>
    rfl

variable {kind : RegionKind} {reversedBody : List Text} {opened : Nat}

theorem step_closer (marked : Marker.ofLine line = kind.closer) :
    (inside kind reversedBody opened).step policy number line =
      (outside, ⟨[kind.block reversedBody.reverse], [],
        [.closed kind opened number]⟩) := by
  rw [step, if_pos marked]

theorem step_content (unmarked : Marker.ofLine line ≠ kind.closer) :
    (inside kind reversedBody opened).step policy number line =
      (inside kind (line :: reversedBody) opened, empty) := by
  rw [step, if_neg unmarked]

/-- The ways in which a reader can encounter a line. Each has its equation for
`step` above. -/
inductive Encounters (line : Text) : State → Prop where
  | inclusion {path : Text} (marked : Marker.ofLine line = .inclusion path) :
      Encounters line outside
  | opener {kind : RegionKind} (marked : Marker.ofLine line = kind.opener) :
      Encounters line outside
  | hidden
      (marked : Marker.ofLine line = .text ∨ Marker.ofLine line = .proseClose) :
      Encounters line outside
  | closer {kind : RegionKind} {reversedBody : List Text} {opened : Nat}
      (marked : Marker.ofLine line = kind.closer) :
      Encounters line (inside kind reversedBody opened)
  | content {kind : RegionKind} {reversedBody : List Text} {opened : Nat}
      (unmarked : Marker.ofLine line ≠ kind.closer) :
      Encounters line (inside kind reversedBody opened)

/-- Every line is encountered in one of these ways. -/
theorem encounters (state : State) (line : Text) : state.Encounters line := by
  cases state with
  | outside =>
      rcases Marker.outside_cases (Marker.ofLine line) with
          ⟨path, marked⟩ | ⟨kind, marked⟩ | marked
      · exact .inclusion marked
      · exact .opener marked
      · exact .hidden marked
  | inside kind reversedBody opened =>
      by_cases marked : Marker.ofLine line = kind.closer
      · exact .closer marked
      · exact .content marked

theorem diagnostics_step (policy : BlankPolicy) (number : Nat) (line : Text)
    (state : State) :
    (state.step policy number line).2.diagnostics = [] := by
  cases state.encounters line with
  | inclusion marked => rw [step_inclusion marked]
  | opener marked =>
      rw [step_opener marked]
      rfl
  | hidden marked => rw [step_hidden marked]
  | closer marked => rw [step_closer marked]
  | content unmarked =>
      rw [step_content unmarked]
      rfl

/-! ## Several lines -/

/-- Where lines leave the reader, and what they add, the end of the source
apart. -/
def pass (policy : BlankPolicy) (state : State) (number : Nat) :
    List Text → State × Document
  | [] => (state, empty)
  | line :: rest =>
    let (next, added) := state.step policy number line
    let (last, more) := pass policy next (number + 1) rest
    (last, added ++ more)

theorem pass_cons (policy : BlankPolicy) (state : State) (number : Nat)
    (line : Text) (rest : List Text) :
    state.pass policy number (line :: rest) =
      (((state.step policy number line).1.pass policy (number + 1) rest).1,
        (state.step policy number line).2 ++
          ((state.step policy number line).1.pass policy (number + 1) rest).2) := rfl

theorem pass_append (policy : BlankPolicy) (state : State) (number : Nat)
    (first second : List Text) :
    state.pass policy number (first ++ second) =
      (((state.pass policy number first).1.pass policy (number + first.length) second).1,
        (state.pass policy number first).2 ++
          ((state.pass policy number first).1.pass policy
            (number + first.length) second).2) := by
  induction first generalizing state number with
  | nil => rfl
  | cons line rest ih =>
      rw [List.cons_append, pass_cons, pass_cons, ih, List.length_cons,
        append_assoc, Nat.add_right_comm, Nat.add_assoc]

/-- To read lines in two parts, pass over the first and read the second from
there. -/
theorem read_append (policy : BlankPolicy) (state : State) (number : Nat)
    (first second : List Text) :
    state.read policy number (first ++ second) =
      (state.pass policy number first).2 ++
        (state.pass policy number first).1.read policy (number + first.length)
          second := by
  induction first generalizing state number with
  | nil => rfl
  | cons line rest ih =>
      rw [List.cons_append, read_cons, pass_cons, ih, List.length_cons,
        append_assoc, Nat.add_right_comm, Nat.add_assoc]

theorem read_eq_pass (policy : BlankPolicy) (state : State) (number : Nat)
    (lines : List Text) :
    state.read policy number lines =
      (state.pass policy number lines).2 ++
        (state.pass policy number lines).1.finish := by
  have split := read_append policy state number lines []
  rwa [List.append_nil, read_nil] at split

theorem diagnostics_pass (policy : BlankPolicy) (state : State) (number : Nat)
    (lines : List Text) :
    (state.pass policy number lines).2.diagnostics = [] := by
  induction lines generalizing state number with
  | nil => rfl
  | cons line rest ih =>
      rw [pass_cons, diagnostics_append, diagnostics_step, ih, List.append_nil]

/-! ## Regions -/

/-- Lines that do not close a region are collected as its body, behind those
collected before. -/
theorem pass_body {body : List Text}
    (unmarked : ∀ line ∈ body, Marker.ofLine line ≠ kind.closer)
    (policy : BlankPolicy) (number : Nat) (reversedBody : List Text)
    (opened : Nat) :
    (inside kind reversedBody opened).pass policy number body =
      (inside kind (body.reverse ++ reversedBody) opened, empty) := by
  induction body generalizing number reversedBody with
  | nil => rfl
  | cons line rest ih =>
      have first := unmarked line (by simp)
      have later := ih fun other member => unmarked other (by simp [member])
      rw [pass_cons, step_content first, later, List.reverse_cons,
        List.append_assoc]
      rfl

/-- An opener and lines that do not close its region leave the reader inside,
with these lines. -/
theorem pass_opened {opener : Text} {body : List Text}
    (opens : Marker.ofLine opener = kind.opener)
    (unmarked : ∀ line ∈ body, Marker.ofLine line ≠ kind.closer)
    (policy : BlankPolicy) (number : Nat) :
    outside.pass policy number (opener :: body) =
      (inside kind body.reverse number, empty) := by
  rw [pass_cons, step_opener opens, pass_body unmarked, List.append_nil]
  rfl

/-- A whole region leaves its block and its place, and the reader outside
again. -/
theorem pass_region {opener closer : Text} {body : List Text}
    (opens : Marker.ofLine opener = kind.opener)
    (unmarked : ∀ line ∈ body, Marker.ofLine line ≠ kind.closer)
    (closes : Marker.ofLine closer = kind.closer) (policy : BlankPolicy)
    (number : Nat) :
    outside.pass policy number (opener :: (body ++ [closer])) =
      (outside,
        ⟨[kind.block body], [],
          [.closed kind number (number + body.length + 1)]⟩) := by
  rw [← List.cons_append, pass_append, pass_opened opens unmarked, pass_cons,
    step_closer closes, List.reverse_reverse, List.length_cons]
  rfl

/-- Lines either hold no closer of a region or have a first one. -/
theorem closer_cases (kind : RegionKind) (lines : List Text) :
    (∀ line ∈ lines, Marker.ofLine line ≠ kind.closer) ∨
      ∃ body closer rest, lines = body ++ closer :: rest ∧
        (∀ line ∈ body, Marker.ofLine line ≠ kind.closer) ∧
        Marker.ofLine closer = kind.closer := by
  cases found : lines.find? fun line => Marker.ofLine line = kind.closer with
  | none =>
      left
      intro line member
      simpa using List.find?_eq_none.1 found line member
  | some closer =>
      right
      obtain ⟨closes, body, rest, split, before⟩ :=
        List.find?_eq_some_iff_append.1 found
      refine ⟨body, closer, rest, split, ?_, of_decide_eq_true closes⟩
      intro line member
      simpa using before line member

theorem closer_unique {body others rest after : List Text} {closer other : Text}
    (split : body ++ closer :: rest = others ++ other :: after)
    (unmarked : ∀ line ∈ body, Marker.ofLine line ≠ kind.closer)
    (closes : Marker.ofLine closer = kind.closer)
    (otherUnmarked : ∀ line ∈ others, Marker.ofLine line ≠ kind.closer)
    (otherCloses : Marker.ofLine other = kind.closer) :
    body = others ∧ closer = other ∧ rest = after := by
  induction body generalizing others with
  | nil =>
      cases others with
      | nil =>
          obtain ⟨rfl, rfl⟩ := List.cons.inj split
          exact ⟨rfl, rfl, rfl⟩
      | cons line others =>
          obtain ⟨rfl, -⟩ := List.cons.inj split
          exact absurd closes (otherUnmarked _ (by simp))
  | cons line body ih =>
      cases others with
      | nil =>
          obtain ⟨rfl, -⟩ := List.cons.inj split
          exact absurd otherCloses (unmarked _ (by simp))
      | cons line others =>
          obtain ⟨rfl, shorter⟩ := List.cons.inj split
          obtain ⟨rfl, same, tails⟩ := ih shorter
            (fun line member => unmarked line (by simp [member]))
            (fun line member => otherUnmarked line (by simp [member]))
          exact ⟨rfl, same, tails⟩

/-- Inside a region that is closed nowhere, all lines are its body. -/
theorem read_inside_of_unmarked {lines : List Text}
    (unmarked : ∀ line ∈ lines, Marker.ofLine line ≠ kind.closer)
    (policy : BlankPolicy) (number : Nat) (reversedBody : List Text)
    (opened : Nat) :
    (inside kind reversedBody opened).read policy number lines =
      ⟨[kind.block (reversedBody.reverse ++ lines)],
        [.unterminatedRegion kind opened],
        [.unclosed kind opened]⟩ := by
  rw [read_eq_pass, pass_body unmarked, empty_append, finish,
    List.reverse_append, List.reverse_reverse]

/-- Inside a region, the lines up to its closer complete its body, and the rest
is read outside. -/
theorem read_inside_of_closer {body rest : List Text} {closer : Text}
    (unmarked : ∀ line ∈ body, Marker.ofLine line ≠ kind.closer)
    (closes : Marker.ofLine closer = kind.closer) (policy : BlankPolicy)
    (number : Nat) (reversedBody : List Text) (opened : Nat) :
    (inside kind reversedBody opened).read policy number
      (body ++ closer :: rest) =
      ⟨[kind.block (reversedBody.reverse ++ body)], [],
          [.closed kind opened (number + body.length)]⟩ ++
        outside.read policy (number + body.length + 1) rest := by
  rw [read_append, pass_body unmarked, empty_append, read_cons,
    step_closer closes, List.reverse_append, List.reverse_reverse]

end State

end Document

/-! ## Line numbers -/

/-- The line that a diagnostic points at. -/
def Diagnostic.line : Diagnostic → Nat
  | .unterminatedRegion _ line => line

/-- A diagnostic that points further down by a number of lines. -/
def Diagnostic.shift (offset : Nat) : Diagnostic → Diagnostic
  | .unterminatedRegion kind line => .unterminatedRegion kind (line + offset)

@[simp] theorem Diagnostic.line_shift (offset : Nat) (diagnostic : Diagnostic) :
    (diagnostic.shift offset).line = diagnostic.line + offset := rfl

/-- A note about lines further down. -/
def Note.shift (offset : Nat) : Note → Note
  | .inclusion line path => .inclusion (line + offset) path
  | .closed kind opening closing =>
    .closed kind (opening + offset) (closing + offset)
  | .unclosed kind opening => .unclosed kind (opening + offset)

namespace Document

/-- A document with all its places further down. -/
def shift (offset : Nat) (document : Document) : Document :=
  ⟨document.blocks, document.diagnostics.map (Diagnostic.shift offset),
    document.notes.map (Note.shift offset)⟩

@[simp] theorem diagnostics_shift (offset : Nat) (document : Document) :
    (document.shift offset).diagnostics =
      document.diagnostics.map (Diagnostic.shift offset) := rfl

theorem shift_append (offset : Nat) (first second : Document) :
    (first ++ second).shift offset =
      first.shift offset ++ second.shift offset := by
  simp only [shift, blocks_append, diagnostics_append, notes_append,
    List.map_append]
  rfl

namespace State

/-- A reader whose region was opened further down. -/
def shift (offset : Nat) : State → State
  | .outside => .outside
  | .inside kind reversedBody opened =>
    .inside kind reversedBody (opened + offset)

theorem step_shift (policy : BlankPolicy) (number offset : Nat) (line : Text)
    (state : State) :
    (state.shift offset).step policy (number + offset) line =
      ((state.step policy number line).1.shift offset,
        (state.step policy number line).2.shift offset) := by
  cases state.encounters line with
  | inclusion marked =>
      rw [shift, step_inclusion marked, step_inclusion marked]
      rfl
  | opener marked =>
      rw [shift, step_opener marked, step_opener marked]
      rfl
  | hidden marked =>
      rw [shift, step_hidden marked, step_hidden marked]
      rfl
  | closer marked =>
      rw [shift, step_closer marked, step_closer marked]
      rfl
  | content unmarked =>
      rw [shift, step_content unmarked, step_content unmarked]
      rfl

theorem finish_shift (offset : Nat) (state : State) :
    (state.shift offset).finish = state.finish.shift offset := by
  cases state <;> rfl

/-- Lines that stand further down say the same, further down. -/
theorem read_shift (policy : BlankPolicy) (state : State) (number offset : Nat)
    (lines : List Text) :
    (state.shift offset).read policy (number + offset) lines =
      (state.read policy number lines).shift offset := by
  induction lines generalizing state number with
  | nil => exact finish_shift offset state
  | cons line rest ih =>
      rw [read_cons, read_cons, step_shift, shift_append, ← ih,
        Nat.add_right_comm]

/-- Outside every region nothing is said about lines already passed. -/
theorem le_line_of_mem_diagnostics {policy : BlankPolicy} {number : Nat}
    {lines : List Text} {diagnostic : Diagnostic}
    (member : diagnostic ∈ (outside.read policy number lines).diagnostics) :
    number ≤ diagnostic.line := by
  have moved := read_shift policy outside 0 number lines
  rw [shift, Nat.zero_add] at moved
  rw [moved, diagnostics_shift, List.mem_map] at member
  obtain ⟨original, -, rfl⟩ := member
  rw [Diagnostic.line_shift]
  exact Nat.le_add_left ..

end State

end Document

end LiterateBook
