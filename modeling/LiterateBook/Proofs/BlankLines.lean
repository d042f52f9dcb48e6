import LiterateBook.Proofs.AskedPaths
import LiterateBook.Proofs.MarkerLines

/-!
# Keeping and dropping blank lines

A blank line outside every region leaves a block where such lines are kept and
none where they are dropped; apart from that the two readings agree. A block of
one blank line may as well come from a region, so blocks are compared together
with the lines they come from, and not by value.
-/

namespace LiterateBook

/-! ## Insertions -/

/-- A list with further elements put in, all in their order. -/
inductive Inserted {α : Type} : List α → List α → List α → Prop where
  | nil : Inserted [] [] []
  | extra {element : α} {extras base whole : List α}
      (later : Inserted extras base whole) :
      Inserted (element :: extras) base (element :: whole)
  | base {element : α} {extras base whole : List α}
      (later : Inserted extras base whole) :
      Inserted extras (element :: base) (element :: whole)

namespace Inserted

variable {α β : Type} {extras base whole others more total : List α}

theorem of_base : (base : List α) → Inserted [] base base
  | [] => .nil
  | _ :: rest => .base (of_base rest)

theorem extras_append (inserted : Inserted extras base whole) :
    (front : List α) → Inserted (front ++ extras) base (front ++ whole)
  | [] => inserted
  | _ :: rest => .extra (inserted.extras_append rest)

theorem base_append (inserted : Inserted extras base whole) :
    (front : List α) → Inserted extras (front ++ base) (front ++ whole)
  | [] => inserted
  | _ :: rest => .base (inserted.base_append rest)

theorem flatMap (inserted : Inserted extras base whole) (f : α → List β) :
    Inserted (extras.flatMap f) (base.flatMap f) (whole.flatMap f) := by
  induction inserted with
  | nil => exact .nil
  | extra later ih => exact ih.extras_append (f _)
  | base later ih => exact ih.base_append (f _)

theorem sublist (inserted : Inserted extras base whole) :
    base.Sublist whole := by
  induction inserted with
  | nil => exact .slnil
  | extra later ih => exact ih.cons _
  | base later ih => exact ih.cons_cons _

end Inserted

/-! ## Blocks and the lines they come from -/

/-- A block with the numbers of the first and the last line that it comes
from. -/
structure Placed where
  first : Nat
  last : Nat
  block : Block

namespace Placed

/-- Blocks from lines that follow each other, no earlier than from the given
one. -/
inductive InOrder : Nat → List Placed → Prop where
  | nil {start : Nat} : InOrder start []
  | cons {start : Nat} {placed : Placed} {rest : List Placed}
      (start_le : start ≤ placed.first) (first_le : placed.first ≤ placed.last)
      (later : InOrder (placed.last + 1) rest) :
      InOrder start (placed :: rest)

theorem InOrder.mono {start earlier : Nat} {blocks : List Placed}
    (ordered : InOrder start blocks) (le : earlier ≤ start) :
    InOrder earlier blocks := by
  cases ordered with
  | nil => exact .nil
  | cons start_le first_le later =>
      exact .cons (Nat.le_trans le start_le) first_le later

end Placed

namespace Document

namespace State

/-- The first line of what a reader will turn into its next block, when it is
about to read the line with the given number. -/
def firstLine (number : Nat) : State → Nat
  | .outside => number
  | .inside _ _ opened => opened

/-- What lines add to a document, block by block, with the lines each block
comes from. -/
def placed (policy : BlankPolicy) (state : State) (number : Nat) :
    List Text → List Placed
  | [] => state.finish.blocks.map (⟨state.firstLine number, number - 1, ·⟩)
  | line :: rest =>
    let (next, added) := state.step policy number line
    added.blocks.map (⟨state.firstLine number, number, ·⟩) ++
      placed policy next (number + 1) rest

theorem placed_cons (policy : BlankPolicy) (state : State) (number : Nat)
    (line : Text) (rest : List Text) :
    state.placed policy number (line :: rest) =
      (state.step policy number line).2.blocks.map
        (⟨state.firstLine number, number, ·⟩) ++
        (state.step policy number line).1.placed policy (number + 1) rest := rfl

theorem map_block_placed (policy : BlankPolicy) (state : State) (number : Nat)
    (lines : List Text) :
    (state.placed policy number lines).map Placed.block =
      (state.read policy number lines).blocks := by
  induction lines generalizing state number with
  | nil => simp [placed, Function.comp_def]
  | cons line rest ih => simp [placed_cons, read_cons, ih, Function.comp_def]

/-! ## The order of blocks -/

/-- An open region was opened on a line before the given one. -/
def OpenedBefore (number : Nat) : State → Prop
  | .outside => True
  | .inside _ _ opened => opened < number

theorem OpenedBefore.firstLine_le {number : Nat} {state : State}
    (before : state.OpenedBefore number) : state.firstLine number ≤ number := by
  cases state with
  | outside => exact Nat.le_refl number
  | inside kind reversedBody opened => exact Nat.le_of_lt before

/-- A line either completes a block and leaves the reader outside, or it leaves
no block and the next one starts no earlier. Either way an open region was
opened before the next line. -/
theorem OpenedBefore.step_cases {number : Nat} {state : State}
    (before : state.OpenedBefore number) (policy : BlankPolicy) (line : Text) :
    (∃ block, (state.step policy number line).2.blocks = [block] ∧
      (state.step policy number line).1 = outside) ∨
    ((state.step policy number line).2.blocks = [] ∧
      state.firstLine number ≤
        (state.step policy number line).1.firstLine (number + 1) ∧
      (state.step policy number line).1.OpenedBefore (number + 1)) := by
  cases state.encounters line with
  | inclusion marked =>
      rw [step_inclusion marked]
      exact .inl ⟨_, rfl, rfl⟩
  | opener marked =>
      rw [step_opener marked]
      exact .inr ⟨rfl, Nat.le_refl number, Nat.lt_succ_self number⟩
  | hidden marked =>
      rw [step_hidden marked]
      by_cases kept : policy = .keep ∧ line.isBlank = true
      · exact .inl ⟨_, if_pos kept, rfl⟩
      · exact .inr ⟨if_neg kept, Nat.le_succ number, trivial⟩
  | closer marked =>
      rw [step_closer marked]
      exact .inl ⟨_, rfl, rfl⟩
  | @content kind reversedBody opened unmarked =>
      rw [step_content unmarked]
      exact .inr ⟨rfl, Nat.le_refl opened, Nat.lt_succ_of_lt before⟩

/-- Blocks stand in the order of the lines they come from, and no line belongs
to two of them. -/
theorem inOrder_placed {state : State} {number : Nat}
    (before : state.OpenedBefore number) (policy : BlankPolicy)
    (lines : List Text) :
    Placed.InOrder (state.firstLine number)
      (state.placed policy number lines) := by
  induction lines generalizing state number with
  | nil =>
      cases state with
      | outside => exact .nil
      | inside kind reversedBody opened =>
          exact .cons (Nat.le_refl opened) (Nat.le_sub_one_of_lt before) .nil
  | cons line rest ih =>
      rw [placed_cons]
      rcases before.step_cases policy line with
          ⟨block, one, left⟩ | ⟨none, le, still⟩
      · have nothingOpen : outside.OpenedBefore (number + 1) := trivial
        rw [one, left]
        exact .cons (Nat.le_refl _) before.firstLine_le (ih nothingOpen)
      · rw [none]
        exact (ih still).mono le

/-! ## Blank lines outside every region -/

/-- The line with the given number, if it is blank and met outside every
region. -/
def blankAt (number : Nat) (line : Text) : State → List (Nat × Text)
  | .outside => if line.isBlank then [(number, line)] else []
  | .inside _ _ _ => []

/-- The blank lines met outside every region, with their numbers. -/
def blanks (state : State) (number : Nat) : List Text → List (Nat × Text)
  | [] => []
  | line :: rest =>
    state.blankAt number line ++
      blanks (state.step .drop number line).1 (number + 1) rest

theorem mem_blankAt_iff {state : State} {start number : Nat}
    {line other : Text} :
    (number, other) ∈ state.blankAt start line ↔
      state = outside ∧ line.isBlank = true ∧ number = start ∧
        other = line := by
  cases state with
  | outside => cases blank : line.isBlank <;> simp [blankAt, blank]
  | inside kind reversedBody opened => simp [blankAt]

theorem map_place_blankAt (state : State) (number : Nat) (line : Text) :
    ((state.blankAt number line).map fun blank => Block.prose [blank.2]).map
        (Placed.mk (state.firstLine number) number) =
      (state.blankAt number line).map fun blank =>
        ⟨blank.1, blank.1, .prose [blank.2]⟩ := by
  cases state with
  | outside => cases blank : line.isBlank <;> simp [blankAt, blank, firstLine]
  | inside kind reversedBody opened => rfl

theorem blankAt_of_ne_text {line : Text} (marked : Marker.ofLine line ≠ .text)
    (number : Nat) (state : State) : state.blankAt number line = [] := by
  cases state with
  | outside =>
      apply if_neg
      intro blank
      exact marked (Marker.ofLine_of_isBlank blank)
  | inside kind reversedBody opened => rfl

/-- Where blank lines are kept, one met outside every region adds its block, and
any line adds what it adds where they are dropped. -/
theorem step_keep (state : State) (number : Nat) (line : Text) :
    state.step .keep number line =
      ((state.step .drop number line).1,
        ⟨(state.blankAt number line).map fun blank => .prose [blank.2],
          [], []⟩ ++
          (state.step .drop number line).2) := by
  cases state.encounters line with
  | inclusion marked =>
      rw [blankAt_of_ne_text (by simp [marked]), step_inclusion marked,
        step_inclusion marked]
      rfl
  | @opener kind marked =>
      have notText : Marker.ofLine line ≠ .text := by
        rw [marked]
        cases kind <;> simp [RegionKind.opener]
      rw [blankAt_of_ne_text notText, step_opener marked, step_opener marked]
      rfl
  | hidden marked =>
      rw [step_hidden marked, step_hidden marked, blankAt]
      cases line.isBlank <;> rfl
  | closer marked =>
      rw [step_closer marked, step_closer marked]
      rfl
  | content unmarked =>
      rw [step_content unmarked, step_content unmarked]
      rfl

/-- What becomes of blank lines has no say in where lines leave the reader. -/
theorem state_pass (policy : BlankPolicy) (state : State) (number : Nat)
    (lines : List Text) :
    (state.pass policy number lines).1 = (state.pass .drop number lines).1 := by
  cases policy with
  | drop => rfl
  | keep =>
      induction lines generalizing state number with
      | nil => rfl
      | cons line rest ih => rw [pass_cons, pass_cons, step_keep, ih]

theorem mem_blanks_iff {state : State} {start number : Nat} {lines : List Text}
    {line : Text} :
    (number, line) ∈ state.blanks start lines ↔
      ∃ before after, lines = before ++ line :: after ∧
        number = start + before.length ∧
        line.isBlank = true ∧ (state.pass .drop start before).1 = outside := by
  induction lines generalizing state start with
  | nil => simp [blanks]
  | cons head rest ih =>
      rw [blanks, List.mem_append, mem_blankAt_iff, ih]
      constructor
      · intro found
        rcases found with
            ⟨rfl, blank, rfl, rfl⟩ | ⟨before, after, rfl, place, blank, left⟩
        · exact ⟨[], rest, rfl, rfl, blank, rfl⟩
        · refine ⟨head :: before, after, rfl, ?_, blank, left⟩
          rw [place, List.length_cons, Nat.add_right_comm, Nat.add_assoc]
      · intro found
        obtain ⟨before, after, split, place, blank, left⟩ := found
        cases before with
        | nil =>
            obtain ⟨rfl, -⟩ := List.cons.inj split
            exact .inl ⟨left, blank, place, rfl⟩
        | cons first before =>
            obtain ⟨rfl, remaining⟩ := List.cons.inj split
            refine .inr ⟨before, after, remaining, ?_, blank, left⟩
            rw [place, List.length_cons, Nat.add_right_comm, Nat.add_assoc]

/-- The blocks of blank lines are put in among the others, which stay as they
are. No line adds both a block of its own and one of the others. -/
theorem inserted_placed (state : State) (number : Nat) (lines : List Text) :
    Inserted ((state.blanks number lines).map fun blank =>
      ⟨blank.1, blank.1, .prose [blank.2]⟩)
      (state.placed .drop number lines) (state.placed .keep number lines) := by
  induction lines generalizing state number with
  | nil => exact .of_base _
  | cons line rest ih =>
      have later := ih (state.step .drop number line).1 (number + 1)
      have here :=
        (later.base_append ((state.step .drop number line).2.blocks.map
        (Placed.mk (state.firstLine number) number))).extras_append
          ((state.blankAt number line).map fun blank =>
            ⟨blank.1, blank.1, .prose [blank.2]⟩)
      rw [placed_cons, placed_cons, step_keep, blocks_append, blanks,
        List.map_append, List.map_append, map_place_blankAt, List.append_assoc]
      exact here

theorem diagnostics_read_keep (state : State) (number : Nat)
    (lines : List Text) :
    (state.read .keep number lines).diagnostics =
      (state.read .drop number lines).diagnostics := by
  rw [read_eq_pass, read_eq_pass, diagnostics_append, diagnostics_append,
    diagnostics_pass, diagnostics_pass, state_pass .keep]

end State

/-- The blocks of a source with the lines they come from. -/
def placed (policy : BlankPolicy) (source : Text) : List Placed :=
  State.outside.placed policy 1 source.lines

/-- The blank lines of a source that are met outside every region, with their
numbers. -/
def blanks (source : Text) : List (Nat × Text) :=
  State.outside.blanks 1 source.lines

end Document

/-! ## Weaving with and without blank lines -/

namespace RenderOptions

variable {ε : Type}

/-- Blocks that ask for the same paths are rendered with the same questions, and
all or none of them. -/
theorem renderAll_of_paths_eq {first second : List Block}
    (same : Block.paths first = Block.paths second) (options : RenderOptions)
    (resolver : Resolver ε) :
    (options.renderAll resolver first).asked =
      (options.renderAll resolver second).asked ∧
    ((options.renderAll resolver first).result =
        .ok (first.flatMap (options.output resolver.linesAt)) ∧
      (options.renderAll resolver second).result =
        .ok (second.flatMap (options.output resolver.linesAt)) ∨
      ∃ failure, (options.renderAll resolver first).result = .error failure ∧
        (options.renderAll resolver second).result = .error failure) := by
  rcases resolver.answered_cases (Block.paths first) with
    answered | ⟨before, path, after, failure, split, answered, failed⟩
  · have alsoAnswered := same ▸ answered
    rw [renderAll_of_answered answered, renderAll_of_answered alsoAnswered]
    exact ⟨same, .inl ⟨rfl, rfl⟩⟩
  · rw [renderAll_of_failed split answered failed,
      renderAll_of_failed (same ▸ split) answered failed]
    exact ⟨rfl, .inr ⟨failure, rfl, rfl⟩⟩

end RenderOptions

namespace Document

theorem map_block_placed (policy : BlankPolicy) (source : Text) :
    (placed policy source).map Placed.block = (ofSource policy source).blocks :=
  State.map_block_placed policy .outside 1 source.lines

/-- Blank lines include nothing, so they do not change what is asked for. -/
theorem paths_ofSource_keep (source : Text) :
    Block.paths (ofSource .keep source).blocks =
      Block.paths (ofSource .drop source).blocks := by
  obtain ⟨segments, segmentation⟩ := Segmentation.exists_of_lines source.lines
  rw [segmentation.ofSource_eq, segmentation.ofSource_eq, blocks_ofSegments,
    blocks_ofSegments,
    Segment.paths_flatMap_blocks, Segment.paths_flatMap_blocks]

/-- In the output too, blank lines are put in among the others. -/
theorem inserted_output (options : RenderOptions) (answer : Text → List Text)
    (source : Text) :
    Inserted ((blanks source).map Prod.snd)
      ((ofSource .drop source).blocks.flatMap (options.output answer))
      ((ofSource .keep source).blocks.flatMap (options.output answer)) := by
  have inserted := (State.inserted_placed .outside 1 source.lines).flatMap
    fun place => options.output answer place.block
  rw [List.flatMap_map] at inserted
  rw [← map_block_placed, ← map_block_placed, List.flatMap_map,
    List.flatMap_map, List.map_eq_flatMap]
  exact inserted

/-- A source read with its blank lines outside every region kept, and with these
lines dropped. Both readings have the same diagnostics. Each of these lines has
a block of its own where they are kept, in its place among the blocks of other
lines; all other blocks are the same, from the same lines. Both weavings ask for
the same paths and fail alike, and the output of the one is that of the other
with these lines put in. -/
theorem ofSource_keep_drop (source : Text) :
    (∀ policy, (placed policy source).map Placed.block =
      (ofSource policy source).blocks) ∧
    Placed.InOrder 1 (placed .keep source) ∧
    (∀ policy number line, (number, line) ∈ blanks source ↔
      ∃ before after, source.lines = before ++ line :: after ∧
        number = 1 + before.length ∧
        line.isBlank = true ∧
          (State.outside.pass policy 1 before).1 = .outside) ∧
    Inserted ((blanks source).map fun blank => ⟨blank.1, blank.1, .prose [blank.2]⟩)
      (placed .drop source) (placed .keep source) ∧
    (ofSource .keep source).diagnostics = (ofSource .drop source).diagnostics ∧
    ∀ {ε : Type} (options : RenderOptions) (resolver : Resolver ε),
      ((Weaver.mk .keep options).weave resolver source).asked =
        ((Weaver.mk .drop options).weave resolver source).asked ∧
      match ((Weaver.mk .keep options).weave resolver source).result,
        ((Weaver.mk .drop options).weave resolver source).result with
      | .ok lines, .ok fewer =>
        fewer.Sublist lines ∧
          Inserted ((blanks source).map Prod.snd) fewer lines
      | .error failure, .error other => failure = other
      | _, _ => False := by
  refine ⟨?_, ?_, ?_, ?_, ?_, ?_⟩
  · intro policy
    exact map_block_placed policy source
  · have start : State.outside.OpenedBefore 1 := trivial
    exact State.inOrder_placed start .keep source.lines
  · intro policy number line
    simp only [State.state_pass policy]
    exact State.mem_blanks_iff
  · exact State.inserted_placed .outside 1 source.lines
  · exact State.diagnostics_read_keep .outside 1 source.lines
  · intro ε options resolver
    obtain ⟨asked, ⟨kept, dropped⟩ | ⟨failure, kept, dropped⟩⟩ :=
      RenderOptions.renderAll_of_paths_eq (paths_ofSource_keep source)
        options resolver
    · have inserted := inserted_output options resolver.linesAt source
      simp only [Weaver.weave, Weaver.document, kept, dropped]
      exact ⟨asked, inserted.sublist, inserted⟩
    · simp only [Weaver.weave, Weaver.document, kept, dropped]
      exact ⟨asked, trivial⟩

/-- A region that holds a blank line is not dropped, though its block looks like
that of the blank line behind it. -/
example : let source : Text := "/*-\n \n-*/\n \n".toList
    (placed .keep source).map (fun place => (place.first, place.last)) =
      [(1, 3), (4, 4)] ∧
      (placed .drop source).map (fun place => (place.first, place.last)) =
        [(1, 3)] := by
  decide +kernel

end Document

end LiterateBook
