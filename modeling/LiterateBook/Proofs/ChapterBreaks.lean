import LiterateBook.Proofs.DirectoryBook
import LiterateBook.Proofs.LoggedPlaces

/-!
# Breaks between chapters

Each source of a book is followed by one newline, which makes an empty line
where the output of the source ends a line. Everything the reader and the
resolver hand on ends a line, except what stands on the last line of a source
that lacks its newline: prose that is still open there, and a blank line that is
kept.
-/

namespace LiterateBook

open Text

/-! ## Blocks of whole lines -/

namespace RenderOptions

theorem endsLine_renderCode (options : RenderOptions) (block : CodeBlock) :
    EndsLine (options.renderCode block).flatten := by
  have split : options.renderCode block =
      ['\n'] :: (fence ++ options.fenceLanguage ++ ['\n']) ::
        (Indent.stripAll block.lines block.minimumIndent ++
          [fence ++ ['\n']]) ++ [['\n']] := by
    simp [renderCode]
  right
  rw [split, List.flatten_append, List.flatten_singleton, List.getLast?_concat]

end RenderOptions

namespace Block

/-- A block of prose may lack a newline on its last line. Other blocks are
rendered with whole lines anyway. -/
def IsWhole : Block → Prop
  | .prose lines => ∀ line ∈ lines, IsLine line
  | _ => True

variable {block : Block} {answer : Text → List Text}

theorem IsWhole.endsLine_output (whole : block.IsWhole)
    (supplied : ∀ path, EndsLine (answer path).flatten)
    (options : RenderOptions) :
    EndsLine (options.output answer block).flatten := by
  cases block with
  | prose lines =>
      exact EndsLine.flatten fun line member => .inr (whole line member).1
  | code block => exact options.endsLine_renderCode block
  | inclusion path => exact supplied path

theorem endsLine_flatMap_output {blocks : List Block}
    (whole : ∀ block ∈ blocks, block.IsWhole)
    (supplied : ∀ path, EndsLine (answer path).flatten)
    (options : RenderOptions) :
    EndsLine (blocks.flatMap (options.output answer)).flatten := by
  induction blocks with
  | nil => exact .inl rfl
  | cons block rest ih =>
      obtain ⟨first, others⟩ := List.forall_mem_cons.1 whole
      rw [List.flatMap_cons, List.flatten_append]
      exact (first.endsLine_output supplied options).append (ih others)

theorem isWhole_region {kind : RegionKind} {reversedBody : List Text}
    (whole : ∀ line ∈ reversedBody, IsLine line) :
    (kind.block reversedBody.reverse).IsWhole := by
  cases kind with
  | prose => exact fun line member => whole line (List.mem_reverse.1 member)
  | code => trivial

end Block

namespace Document

/-- The last line of a source is prose in its document: it stands behind the
opener of prose that is never closed, or it is blank and kept. -/
def EndsInProse (document : Document) (policy : BlankPolicy)
    (lines : List Text) : Prop :=
  (∃ opened, document.diagnostics = [.unterminatedRegion .prose opened] ∧
    opened < lines.length) ∨
    (policy = .keep ∧ document.diagnostics = [] ∧
      ∃ last ∈ lines.getLast?, last.isBlank = true)

/-- What follows a source that runs on does not start a line: the source lacks
its final newline, and its last line is prose. -/
def RunsOn (policy : BlankPolicy) (source : Text) : Prop :=
  ¬ source.EndsLine ∧ (ofSource policy source).EndsInProse policy source.lines

theorem endsInProse_append {first : Document} (silent : first.diagnostics = [])
    (second : Document) (policy : BlankPolicy) (lines : List Text) :
    (first ++ second).EndsInProse policy lines ↔
      second.EndsInProse policy lines := by
  rw [EndsInProse, EndsInProse, diagnostics_append, silent, List.nil_append]

namespace EndsInProse

variable {document : Document} {policy : BlankPolicy} {front : List Text}
  {line : Text}

/-- Where every region is closed, the last line is prose only as a blank line
that is kept. -/
theorem of_silent (ends : document.EndsInProse policy (front ++ [line]))
    (silent : document.diagnostics = []) :
    policy = .keep ∧ line.isBlank = true := by
  rcases ends with ⟨opened, unterminated, -⟩ | ⟨keep, -, last, member, blank⟩
  · rw [silent] at unterminated
    cases unterminated
  · rw [List.getLast?_concat] at member
    cases member
    exact ⟨keep, blank⟩

/-- Where a region is left open, the last line is prose only behind an opener of
prose. -/
theorem of_unterminated {kind : RegionKind} {opened : Nat}
    (ends : document.EndsInProse policy (front ++ [line]))
    (unterminated : document.diagnostics = [.unterminatedRegion kind opened]) :
    kind = .prose ∧ opened < front.length + 1 := by
  rcases ends with ⟨place, prose, before⟩ | ⟨-, silent, -⟩
  · rw [unterminated] at prose
    cases prose
    rw [List.length_append] at before
    exact ⟨rfl, before⟩
  · rw [unterminated] at silent
    cases silent

end EndsInProse

namespace State

variable {state : State} {policy : BlankPolicy} {number : Nat} {line : Text}
  {lines : List Text}

/-- A reader that has collected nothing but whole lines. -/
def IsWhole : State → Prop
  | .outside => True
  | .inside _ reversedBody _ => ∀ line ∈ reversedBody, IsLine line

/-- A whole line leaves whole lines behind, and adds no others. -/
theorem IsWhole.step (whole : state.IsWhole) (policy : BlankPolicy)
    (number : Nat) (isLine : IsLine line) :
    (state.step policy number line).1.IsWhole ∧
      ∀ block ∈ (state.step policy number line).2.blocks, block.IsWhole := by
  cases state.encounters line with
  | inclusion marked =>
      rw [step_inclusion marked]
      exact ⟨trivial, List.forall_mem_singleton.2 trivial⟩
  | opener marked =>
      rw [step_opener marked]
      exact ⟨List.forall_mem_nil _, List.forall_mem_nil _⟩
  | hidden marked =>
      rw [step_hidden marked]
      refine ⟨trivial, ?_⟩
      intro block member
      obtain ⟨rfl, -⟩ := Segment.mem_blocks_hidden member
      exact List.forall_mem_singleton.2 isLine
  | closer marked =>
      rw [step_closer marked]
      exact ⟨trivial, List.forall_mem_singleton.2 (Block.isWhole_region whole)⟩
  | content unmarked =>
      rw [step_content unmarked]
      exact ⟨List.forall_mem_cons.2 ⟨isLine, whole⟩, List.forall_mem_nil _⟩

theorem IsWhole.pass (whole : state.IsWhole) (policy : BlankPolicy)
    (number : Nat) (areLines : ∀ line ∈ lines, IsLine line) :
    (state.pass policy number lines).1.IsWhole ∧
      ∀ block ∈ (state.pass policy number lines).2.blocks, block.IsWhole := by
  induction lines generalizing state number with
  | nil => exact ⟨whole, List.forall_mem_nil _⟩
  | cons line rest ih =>
      obtain ⟨isLine, others⟩ := List.forall_mem_cons.1 areLines
      obtain ⟨next, here⟩ := whole.step policy number isLine
      obtain ⟨last, later⟩ := ih next (number + 1) others
      rw [pass_cons, blocks_append]
      exact ⟨last, List.forall_mem_append.2 ⟨here, later⟩⟩

theorem IsWhole.finish (whole : state.IsWhole) :
    ∀ block ∈ state.finish.blocks, block.IsWhole := by
  cases state with
  | outside => exact List.forall_mem_nil _
  | inside kind reversedBody opened =>
      exact List.forall_mem_singleton.2 (Block.isWhole_region whole)

/-- Behind whole lines a last one, whole or not, is the end of the prose that
its document ends in; or it leaves nothing but whole lines. -/
theorem IsWhole.read_last_cases {front : List Text} (whole : state.IsWhole)
    (stands : state.StandsBehind front) (policy : BlankPolicy) (line : Text) :
    let last := state.read policy (front.length + 1) [line]
    ((∃ body, last.blocks = [.prose (body ++ [line])]) ∧
        last.EndsInProse policy (front ++ [line])) ∨
      ((∀ block ∈ last.blocks, block.IsWhole) ∧
        ¬ last.EndsInProse policy (front ++ [line])) := by
  rw [read_cons, read_nil]
  cases state.encounters line with
  | inclusion marked =>
      have visible : ¬ line.isBlank = true :=
        mt Marker.ofLine_of_isBlank (by simp [marked])
      rw [step_inclusion marked]
      exact .inr ⟨List.forall_mem_singleton.2 trivial,
        fun ends => visible (ends.of_silent rfl).2⟩
  | opener marked =>
      have nothing : ∀ line ∈ ([] : List Text), IsLine line :=
        List.forall_mem_nil _
      rw [step_opener marked]
      exact .inr ⟨List.forall_mem_singleton.2 (Block.isWhole_region nothing),
        fun ends => Nat.lt_irrefl _ (ends.of_unterminated rfl).2⟩
  | hidden marked =>
      rw [step_hidden marked]
      by_cases kept : policy = .keep ∧ line.isBlank = true
      · rw [if_pos kept]
        exact .inl ⟨⟨[], rfl⟩, .inr ⟨kept.1, rfl, line, List.getLast?_concat, kept.2⟩⟩
      · rw [if_neg kept]
        exact .inr ⟨List.forall_mem_nil _, fun ends => kept (ends.of_silent rfl)⟩
  | @closer kind _ _ marked =>
      have visible : ¬ line.isBlank = true := by
        apply mt Marker.ofLine_of_isBlank
        rw [marked]
        cases kind <;> simp [RegionKind.closer]
      rw [step_closer marked]
      exact .inr ⟨List.forall_mem_singleton.2 (Block.isWhole_region whole),
        fun ends => visible (ends.of_silent rfl).2⟩
  | @content kind reversedBody _ unmarked =>
      obtain ⟨before, opener, rfl, rfl, -, -⟩ := stands
      rw [step_content unmarked]
      cases kind with
      | prose =>
          refine .inl ⟨⟨reversedBody.reverse, ?_⟩,
            .inl ⟨before.length + 1, rfl, by simp⟩⟩
          rw [State.finish, List.reverse_cons]
          rfl
      | code =>
          refine .inr ⟨List.forall_mem_singleton.2 trivial, fun ends => ?_⟩
          obtain ⟨prose, -⟩ := ends.of_unterminated rfl
          cases prose

end State

/-- Where includes are whole lines, the output of a source ends a line unless
the source runs on. -/
theorem endsLine_output_iff {answer : Text → List Text}
    (supplied : ∀ path, EndsLine (answer path).flatten)
    (options : RenderOptions) (policy : BlankPolicy) (source : Text) :
    EndsLine
      ((ofSource policy source).blocks.flatMap (options.output answer)).flatten ↔
      ¬ RunsOn policy source := by
  have started : State.outside.IsWhole := trivial
  by_cases ends : source.EndsLine
  · obtain ⟨last, passed⟩ := started.pass policy 1 (isLine_of_mem_lines ends)
    have whole : ∀ block ∈ (ofSource policy source).blocks, block.IsWhole := by
      rw [ofSource_eq_pass, blocks_append]
      exact List.forall_mem_append.2 ⟨passed, last.finish⟩
    exact iff_of_true (Block.endsLine_flatMap_output whole supplied options)
      fun runs => runs.1 ends
  · obtain ⟨front, line, split, areLines, unended⟩ :=
      exists_last_of_not_endsLine ends
    obtain ⟨whole, passed⟩ := started.pass policy 1 areLines
    have nothing : State.outside.StandsBehind [] := trivial
    have stands := nothing.pass policy front
    rw [List.length_nil, Nat.zero_add, List.nil_append] at stands
    have read : ofSource policy source =
        (State.outside.pass policy 1 front).2 ++
        (State.outside.pass policy 1 front).1.read policy (front.length + 1)
        [line] := by
      rw [ofSource, split, State.read_append, Nat.add_comm]
    have before := Block.endsLine_flatMap_output passed supplied options
    have silent := State.diagnostics_pass policy .outside 1 front
    rw [RunsOn, split, read, endsInProse_append silent, blocks_append,
      List.flatMap_append, List.flatten_append, before.append_iff]
    rcases whole.read_last_cases stands policy line with
      ⟨⟨body, prose⟩, inProse⟩ | ⟨others, notInProse⟩
    · refine iff_of_false (fun bodyEnds => ?_) fun runs => runs ⟨ends, inProse⟩
      rw [prose] at bodyEnds
      simp only [List.flatMap_singleton, RenderOptions.output,
        List.flatten_append, List.flatten_singleton] at bodyEnds
      exact unended bodyEnds.of_append
    · exact iff_of_true (Block.endsLine_flatMap_output others supplied options)
        fun runs => notInProse runs.2

end Document

/-! ## The book -/

namespace Book

variable {fs : FileSystem} {weaver : Weaver} {patterns : List Text} {dir : Text}

theorem weaveFiles_cons_eq_ok {path book : Text} {rest : List Text}
    (woven : (weaveFiles fs weaver (path :: rest)).result = .ok book) :
    ∃ lines others, (weaveFile fs weaver path).result = .ok lines ∧
      (weaveFiles fs weaver rest).result = .ok others ∧
        book = lines.flatten ++ '\n' :: others := by
  rw [result_weaveFiles_cons] at woven
  cases first : (weaveFile fs weaver path).result with
  | error failure =>
      rw [first] at woven
      cases woven
  | ok lines =>
      cases later : (weaveFiles fs weaver rest).result with
      | error failure =>
          rw [first, later] at woven
          cases woven
      | ok others =>
          rw [first, later] at woven
          cases woven
          exact ⟨lines, others, rfl, rfl, rfl⟩

/-- The separator makes the output of any number of sources end a line. -/
theorem endsLine_of_weaveFiles {paths : List Text} {book : Text}
    (woven : (weaveFiles fs weaver paths).result = .ok book) :
    EndsLine book := by
  induction paths generalizing book with
  | nil =>
      cases woven
      exact .inl rfl
  | cons path rest ih =>
      obtain ⟨lines, others, -, later, rfl⟩ := weaveFiles_cons_eq_ok woven
      have separated : EndsLine (lines.flatten ++ ['\n']) :=
        .inr List.getLast?_concat
      rw [List.append_cons]
      exact separated.append (ih later)

/-- Of sources that are all woven, the output of each stands between those of
the others. -/
theorem exists_of_weaveFiles {before after : List Text} {path book : Text}
    (woven : (weaveFiles fs weaver (before ++ path :: after)).result =
      .ok book) :
    ∃ earlier lines later, (weaveFiles fs weaver before).result = .ok earlier ∧
      (weaveFile fs weaver path).result = .ok lines ∧
      (weaveFiles fs weaver after).result = .ok later ∧
      book = earlier ++ lines.flatten ++ '\n' :: later := by
  induction before generalizing book with
  | nil =>
      obtain ⟨lines, later, first, rest, rfl⟩ := weaveFiles_cons_eq_ok woven
      exact ⟨[], lines, later, rfl, first, rest, rfl⟩
  | cons head before ih =>
      obtain ⟨output, others, first, rest, rfl⟩ := weaveFiles_cons_eq_ok woven
      obtain ⟨earlier, lines, later, front, here, back, rfl⟩ := ih rest
      refine ⟨output.flatten ++ '\n' :: earlier, lines, later, ?_, here,
        back, by simp⟩
      rw [result_weaveFiles_cons, first, front]
      rfl

/-- The output of a source file ends a line unless the source runs on. -/
theorem endsLine_weaveFile_iff {path : Text} {lines : List Text}
    (woven : (weaveFile fs weaver path).result = .ok lines) :
    ∃ source, fs.readText path = .ok source ∧
      (EndsLine lines.flatten ↔
        ¬ Document.RunsOn weaver.blankPolicy source) := by
  cases weaveFile_eq_iff.1 woven with
  | @woven source answer read resolved =>
      have supplied : ∀ included,
          EndsLine (answer included).terminatedLines.flatten :=
        fun included => endsLine_flatten_terminatedLines (answer included)
      exact ⟨source, read,
        Document.endsLine_output_iff supplied weaver.options
          weaver.blankPolicy source⟩

/-- The book of a directory is the output of its sources with a newline behind
each. What stands before that newline ends a line, so that it makes an empty
line, unless the source runs on: it lacks its final newline, and its last line
is in prose that is never closed, or is blank and kept. -/
theorem separator_startsLine_iff {book : Text}
    (woven : (weave fs weaver patterns dir).result = .ok book) :
    ∃ paths, (sources fs patterns dir).result = .ok paths ∧ paths ≠ [] ∧
      ∀ before path after, paths = before ++ path :: after →
        ∃ earlier lines later source, (weaveFiles fs weaver before).result =
          .ok earlier ∧
          (weaveFile fs weaver path).result = .ok lines ∧
          (weaveFiles fs weaver after).result = .ok later ∧
          book = earlier ++ lines.flatten ++ '\n' :: later ∧
          fs.readText path = .ok source ∧
          (EndsLine (earlier ++ lines.flatten) ↔
            ¬ Document.RunsOn weaver.blankPolicy source) := by
  rw [result_weave] at woven
  cases listed : (sources fs patterns dir).result with
  | error failure =>
      rw [listed] at woven
      cases woven
  | ok paths =>
      rw [listed, Except.bind] at woven
      by_cases empty : paths = []
      · rw [if_pos empty] at woven
        cases woven
      · rw [if_neg empty] at woven
        refine ⟨paths, rfl, empty, ?_⟩
        rintro before path after rfl
        obtain ⟨earlier, lines, later, front, here, back, rfl⟩ :=
          exists_of_weaveFiles woven
        obtain ⟨source, read, ends⟩ := endsLine_weaveFile_iff here
        refine ⟨earlier, lines, later, source, front, here, back, rfl, read, ?_⟩
        rw [(endsLine_of_weaveFiles front).append_iff, ends]

/-- A source that ends in open prose and one that ends in an include line:
neither has a final newline, nor has the included file, but only the first runs
on. -/
theorem separator_startsLine_iff_example :
    let file : Text → Node := fun text => .file (.text text)
    let fs : FileSystem :=
      ⟨.dir [("open".toList, .dir [("a.kt".toList, file "/*-\nx".toList)]),
      ("complete".toList, .dir [("a.kt".toList, file "//#include \"c\"".toList),
        ("c".toList, file "hi".toList)])], []⟩
    (weave fs .default ["*.kt".toList] "open".toList).result =
      .ok "x\n".toList ∧
      (∃ lines, (weaveFile fs .default "open/a.kt".toList).result = .ok lines ∧
        ¬ EndsLine ([] ++ lines.flatten)) ∧
      (weave fs .default ["*.kt".toList] "complete".toList).result =
        .ok "hi\n\n".toList ∧
      ∃ lines, (weaveFile fs .default "complete/a.kt".toList).result =
        .ok lines ∧
        EndsLine ([] ++ lines.flatten) := by
  intro file fs
  have unfinished :
      (weave fs .default ["*.kt".toList] "open".toList).result =
        .ok "x\n".toList := by
    decide +kernel
  have finished : (weave fs .default ["*.kt".toList] "complete".toList).result =
      .ok "hi\n\n".toList := by
    decide +kernel
  have openListed : (sources fs ["*.kt".toList] "open".toList).result =
      .ok ["open/a.kt".toList] := by
    decide +kernel
  have completeListed : (sources fs ["*.kt".toList] "complete".toList).result =
      .ok ["complete/a.kt".toList] := by
    decide +kernel
  refine ⟨unfinished, ?_, finished, ?_⟩
  · obtain ⟨paths, listed, -, breaks⟩ := separator_startsLine_iff unfinished
    cases openListed.symm.trans listed
    obtain ⟨earlier, lines, -, source, none, woven, -, -, read, ends⟩ :=
      breaks [] _ [] rfl
    cases none
    have text : fs.readText "open/a.kt".toList = .ok "/*-\nx".toList := by
      decide +kernel
    cases text.symm.trans read
    have runsOn : Document.RunsOn .drop "/*-\nx".toList :=
      ⟨by decide, .inl ⟨1, by decide +kernel, by decide⟩⟩
    exact ⟨lines, woven, fun startsLine => ends.1 startsLine runsOn⟩
  · obtain ⟨paths, listed, -, breaks⟩ := separator_startsLine_iff finished
    cases completeListed.symm.trans listed
    obtain ⟨earlier, lines, -, source, none, woven, -, -, read, ends⟩ :=
      breaks [] _ [] rfl
    cases none
    have text : fs.readText "complete/a.kt".toList =
        .ok "//#include \"c\"".toList := by
      decide +kernel
    cases text.symm.trans read
    have silent :
        (Document.ofSource .drop "//#include \"c\"".toList).diagnostics =
          [] := by
      decide +kernel
    have stops : ¬ Document.RunsOn .drop "//#include \"c\"".toList := by
      rintro ⟨-, ⟨opened, unterminated, -⟩ | ⟨keep, -, -⟩⟩
      · cases silent.symm.trans unterminated
      · cases keep
    exact ⟨lines, woven, ends.2 stops⟩

/-- The output of a source that ends in open prose without a newline takes the
separator for the end of its last line, and no empty line follows it. -/
theorem separator_not_startsLine :
    ¬ ∀ (fs : FileSystem) (weaver : Weaver) (patterns : List Text) (dir book : Text),
      (weave fs weaver patterns dir).result = .ok book →
      ∀ before path after, (sources fs patterns dir).result =
        .ok (before ++ path :: after) →
        ∀ earlier lines, (weaveFiles fs weaver before).result = .ok earlier →
          (weaveFile fs weaver path).result = .ok lines →
            EndsLine (earlier ++ lines.flatten) := by
  intro endsLineBefore
  let fs : FileSystem :=
    ⟨.dir [("src".toList, .dir [("a.kt".toList, .file (.text "/*-\nx".toList))])], []⟩
  have woven : (weave fs .default ["*.kt".toList] "src".toList).result =
      .ok "x\n".toList := by
    decide +kernel
  have listed : (sources fs ["*.kt".toList] "src".toList).result =
      .ok ([] ++ "src/a.kt".toList :: []) := by
    decide +kernel
  have lines : (weaveFile fs .default "src/a.kt".toList).result =
      .ok ["x".toList] := by
    decide +kernel
  have startsLine := endsLineBefore fs .default _ _ _ woven _ _ _ listed [] _ rfl lines
  exact absurd startsLine (by decide)

end Book

end LiterateBook
