import LiterateBook.Proofs.AskedPaths
import LiterateBook.Proofs.Indentation

/-!
# Where closing fences stand

A closing fence is written behind the last line of its listing, with nothing
between them. Every line of a region that is closed has a newline, so the fence
is a line of its own there; only a listing that the source ends in can run into
its closing fence.
-/

namespace LiterateBook

namespace Text

/-- What follows lines that were moved left fails to start a line exactly when
something without a newline is left of the last of them. -/
theorem getLast?_append_stripAll_ne_iff {lead : Text}
    (newline : lead.getLast? = some '\n') {lines : List Text}
    (whole : ∀ line ∈ lines.dropLast, IsLine line) (width : Nat) :
    (lead ++ (Indent.stripAll lines width).flatten).getLast? ≠ some '\n' ↔
      ∃ last ∈ lines.getLast?, last.getLast? ≠ some '\n' ∧
        Indent.strip last width ≠ [] := by
  rcases lines.eq_nil_or_concat with rfl | ⟨earlier, last, rfl⟩
  · simp [Indent.stripAll, newline]
  · rw [List.concat_eq_append] at whole ⊢
    rw [List.dropLast_concat] at whole
    have before :=
      (Indent.endsLine_flatten_stripAll whole width).getLast?_append newline
    have split : (Indent.stripAll (earlier ++ [last]) width).flatten =
        (Indent.stripAll earlier width).flatten ++ Indent.strip last width := by
      simp [Indent.stripAll]
    rw [split, ← List.append_assoc]
    by_cases empty : Indent.strip last width = []
    · simp [empty, before]
    · rw [List.getLast?_append, List.getLast?_eq_some_getLast empty,
        Option.some_or,
        ← List.getLast?_eq_some_getLast empty, Indent.getLast?_strip empty]
      simp [empty]

end Text

/-! ## Listings among the blocks of a source -/

namespace Segment

variable {policy : BlankPolicy}

theorem blocks_cases (policy : BlankPolicy) (segment : Segment) :
    segment.blocks policy = [] ∨ ∃ block, segment.blocks policy = [block] := by
  cases segment with
  | hidden line =>
      rw [blocks]
      split
      · exact .inr ⟨_, rfl⟩
      · exact .inl rfl
  | inclusion | region | unclosed => exact .inr ⟨_, rfl⟩

/-- A block of segments is that of one of them, in the same place. -/
theorem exists_of_flatMap_blocks {segments : List Segment}
    {before after : List Block} {block : Block}
    (split : segments.flatMap (blocks policy) = before ++ block :: after) :
    ∃ earlier segment later, segments = earlier ++ segment :: later ∧
      segment.blocks policy = [block] ∧
        later.flatMap (blocks policy) = after := by
  induction segments generalizing before with
  | nil => cases before <;> cases split
  | cons segment rest ih =>
      rw [List.flatMap_cons] at split
      rcases blocks_cases policy segment with none | ⟨first, one⟩
      · rw [none, List.nil_append] at split
        obtain ⟨earlier, found, later, rfl, same, tail⟩ := ih split
        exact ⟨segment :: earlier, found, later, rfl, same, tail⟩
      · rw [one] at split
        cases before with
        | nil =>
            obtain ⟨rfl, tail⟩ := List.cons.inj split
            exact ⟨[], segment, rest, rfl, one, tail⟩
        | cons head before =>
            obtain ⟨-, remaining⟩ := List.cons.inj split
            obtain ⟨earlier, found, later, rfl, same, tail⟩ := ih remaining
            exact ⟨segment :: earlier, found, later, rfl, same, tail⟩

/-- A listing comes from a region of code, closed or not, and is not measured
yet. -/
theorem of_blocks_eq_code {segment : Segment} {block : CodeBlock}
    (same : segment.blocks policy = [.code block]) :
    ∃ opener body, block = .ofLines body ∧
      ((∃ closer, segment = .region .code opener body closer) ∨
        segment = .unclosed .code opener body) := by
  cases segment with
  | inclusion line path => cases same
  | hidden line =>
      have member : .code block ∈ (hidden line).blocks policy := by
        rw [same]
        exact List.mem_singleton_self _
      cases (mem_blocks_hidden member).1
  | region kind opener body closer =>
      cases kind <;> cases same
      exact ⟨opener, body, rfl, .inl ⟨closer, rfl⟩⟩
  | unclosed kind opener body =>
      cases kind <;> cases same
      exact ⟨opener, body, rfl, .inr rfl⟩

end Segment

namespace Segmentation

variable {lines : List Text} {segments earlier later : List Segment}

theorem eq_nil_of_unclosed {kind : RegionKind} {opener : Text}
    {body : List Text} (segmentation : Segmentation lines segments)
    (split : segments = earlier ++ .unclosed kind opener body :: later) :
    later = [] := by
  subst split
  have final := segmentation.of_append.2
  generalize List.flatMap _ _ = remaining at final
  cases final
  rfl

theorem isClosed_of_mem_earlier {segment : Segment}
    (segmentation : Segmentation lines segments)
    (split : segments = earlier ++ segment :: later) :
    ∀ other ∈ earlier, other.IsClosed := by
  intro other member
  cases other with
  | unclosed kind opener body =>
      obtain ⟨front, back, rfl⟩ := List.append_of_mem member
      rw [List.append_assoc] at split
      have impossible := segmentation.eq_nil_of_unclosed split
      simp at impossible
  | inclusion | hidden | region => trivial

/-- The body of a closed region stands in front of its closer, so its lines are
whole. -/
theorem isLine_of_mem_region {source : Text} {kind : RegionKind}
    {opener closer : Text} {body : List Text}
    (segmentation : Segmentation source.lines segments)
    (split : segments = earlier ++ .region kind opener body closer :: later) :
    ∀ line ∈ body, Text.IsLine line := by
  have cut : source.lines = (earlier.flatMap Segment.lines ++ opener :: body) ++
      closer :: later.flatMap Segment.lines := by
    rw [← segmentation.flatMap_lines, split]
    simp [Segment.lines]
  intro line member
  apply Text.isLine_of_lines_eq cut
  simp [member]

/-- The body of an unclosed region is what the source ends in. -/
theorem body_suffix_of_unclosed {kind : RegionKind} {opener : Text}
    {body : List Text} (segmentation : Segmentation lines segments)
    (split : segments = earlier ++ [.unclosed kind opener body]) :
    body <:+ lines := by
  rw [← segmentation.flatMap_lines, split, List.flatMap_append,
    List.flatMap_singleton, Segment.lines]
  exact (List.suffix_cons opener body).trans (List.suffix_append _ _)

end Segmentation

namespace Document

variable {policy : BlankPolicy} {source : Text} {before after : List Block}
  {block : CodeBlock}

/-- A listing holds whole lines, unless its region is unclosed: then it is the
last block, the source ends with its lines, and all of them but the last are
whole. -/
theorem listing_cases
    (split : (ofSource policy source).blocks = before ++ .code block :: after) :
    (∀ line ∈ block.lines, Text.IsLine line) ∨
      (after = [] ∧ block.lines <:+ source.lines ∧
        ∃ line, (ofSource policy source).diagnostics =
          [.unterminatedRegion .code line]) := by
  obtain ⟨segments, segmentation⟩ := Segmentation.exists_of_lines source.lines
  rw [segmentation.ofSource_eq, blocks_ofSegments] at split
  obtain ⟨earlier, segment, later, place, same, rest⟩ :=
    Segment.exists_of_flatMap_blocks split
  obtain ⟨opener, body, rfl, ⟨closer, rfl⟩ | rfl⟩ :=
    Segment.of_blocks_eq_code same
  · exact .inl (segmentation.isLine_of_mem_region place)
  · cases segmentation.eq_nil_of_unclosed place
    refine .inr ⟨rest.symm, segmentation.body_suffix_of_unclosed place, ?_⟩
    rw [segmentation.ofSource_eq, place,
      diagnostics_ofSegments_unclosed
        (segmentation.isClosed_of_mem_earlier place)]
    exact ⟨_, rfl⟩

/-- The last line of a listing lacks its newline only where the source does, and
then nothing stands behind the listing. -/
theorem unterminated_of_listing
    (split : (ofSource policy source).blocks = before ++ .code block :: after)
    {last : Text} (member : last ∈ block.lines.getLast?)
    (lacks : last.getLast? ≠ some '\n') :
    after = [] ∧ ¬ source.EndsLine ∧
      ∃ line, (ofSource policy source).diagnostics =
        [.unterminatedRegion .code line] := by
  have inside := List.mem_of_getLast? member
  rcases listing_cases split with whole | ⟨final, suffix, unterminated⟩
  · exact absurd (whole last inside).1 lacks
  · refine ⟨final, ?_, unterminated⟩
    intro ends
    exact lacks (Text.isLine_of_mem_lines ends last (suffix.mem inside)).1

theorem isLine_of_mem_dropLast_listing
    (split : (ofSource policy source).blocks = before ++ .code block :: after) :
    ∀ line ∈ block.lines.dropLast, Text.IsLine line := by
  intro line member
  rcases listing_cases split with whole | ⟨-, suffix, -⟩
  · exact whole line (List.dropLast_subset _ member)
  · obtain ⟨front, cut⟩ := suffix
    have nonempty : block.lines ≠ [] := by
      intro empty
      rw [empty] at member
      cases member
    have whole := Text.isLine_of_mem_dropLast_lines source
    rw [← cut, List.dropLast_append_of_ne_nil nonempty] at whole
    exact whole line (List.mem_append_right front member)

end Document

/-! ## The output in front of a closing fence -/

namespace RenderOptions

/-- What stands in the output before the closing fence of a listing when some
blocks are rendered in front of it. -/
def beforeFence (options : RenderOptions) (answer : Text → List Text)
    (before : List Block) (block : CodeBlock) : Text :=
  (before.flatMap (options.output answer)).flatten ++
    (['\n'] ++ (fence ++ options.fenceLanguage ++ ['\n'])) ++
      (Indent.stripAll block.lines block.minimumIndent).flatten

/-- The closing fence of a listing, and an empty line, follow what stands before
the fence. -/
theorem flatten_output_eq_beforeFence (options : RenderOptions)
    (answer : Text → List Text) (before after : List Block)
    (block : CodeBlock) :
    ((before ++ .code block :: after).flatMap (options.output answer)).flatten =
      options.beforeFence answer before block ++ (fence ++ ['\n']) ++
        (['\n'] ++ (after.flatMap (options.output answer)).flatten) := by
  simp only [beforeFence, List.flatMap_append, List.flatMap_cons, output,
    renderCode,
    List.flatten_append, List.flatten_cons, List.append_assoc, List.flatten_nil,
    List.nil_append]

end RenderOptions

namespace Weaver

variable {ε : Type}

/-- Where a weaving has an output, that output is the lines of all blocks. -/
theorem text_of_weaveToText {weaver : Weaver} {resolver : Resolver ε}
    {source text : Text}
    (woven : weaver.weaveToText resolver source = .ok text) :
    text = ((weaver.document source).blocks.flatMap
      (weaver.options.output resolver.linesAt)).flatten := by
  rw [weaveToText, Rendering.text, weave] at woven
  rcases resolver.answered_cases
    (Block.paths (weaver.document source).blocks) with
    answered | ⟨earlier, path, later, failure, split, answered, failed⟩
  · rw [RenderOptions.renderAll_of_answered answered] at woven
    cases woven
    rfl
  · rw [RenderOptions.renderAll_of_failed split answered failed] at woven
    cases woven

/-- The closing fence of a listing stands behind what `beforeFence` says. It
fails to start a line exactly when something is left of the listing's last line
and that line lacks a newline; a line lacks one only where a source without a
final newline ends inside the listing. -/
theorem closingFence_startsLine {weaver : Weaver} {resolver : Resolver ε}
    {source text : Text} (woven : weaver.weaveToText resolver source = .ok text)
    {before after : List Block} {block : CodeBlock}
    (split : (weaver.document source).blocks = before ++ .code block :: after) :
    let lead := weaver.options.beforeFence resolver.linesAt before block
    (∃ rest, text = lead ++ (RenderOptions.fence ++ ['\n']) ++ (['\n'] ++ rest)) ∧
    (lead.getLast? ≠ some '\n' ↔ ∃ last ∈ block.lines.getLast?,
      last.getLast? ≠ some '\n' ∧ Indent.strip last block.minimumIndent ≠ []) ∧
    ((∃ last ∈ block.lines.getLast?, last.getLast? ≠ some '\n') →
      after = [] ∧ ¬ source.EndsLine ∧
        ∃ line, (weaver.document source).diagnostics =
          [.unterminatedRegion .code line]) := by
  intro lead
  refine ⟨?_, ?_, ?_⟩
  · rw [text_of_weaveToText woven, split, RenderOptions.flatten_output_eq_beforeFence]
    exact ⟨_, rfl⟩
  · have whole := Document.isLine_of_mem_dropLast_listing split
    have opening :
        ((before.flatMap (weaver.options.output resolver.linesAt)).flatten ++
        (['\n'] ++
          (RenderOptions.fence ++ weaver.options.fenceLanguage ++ ['\n']))).getLast? =
          some '\n' := by
      rw [← List.append_assoc, ← List.append_assoc, List.getLast?_concat]
    exact Text.getLast?_append_stripAll_ne_iff opening whole block.minimumIndent
  · intro lacking
    obtain ⟨last, member, lacks⟩ := lacking
    exact Document.unterminated_of_listing split member lacks

/-- A listing that the source closes, with a line that nothing is left of, in
front of one that runs into its closing fence. -/
theorem closingFence_startsLine_example :
    let source : Text := "//`\n  x\n \n//`\n//`\n y".toList
    let refusing : Resolver Text := fun path => .error path
    let closed : CodeBlock := .ofLines ["  x\n".toList, " \n".toList]
    let unclosed : CodeBlock := .ofLines [" y".toList]
    default.weaveToText refusing source =
        .ok "\n```kotlin\nx\n```\n\n\n```kotlin\ny```\n\n".toList ∧
      (default.document source).blocks = [.code closed, .code unclosed] ∧
      (default.options.beforeFence refusing.linesAt [] closed).getLast? =
        some '\n' ∧
      (default.options.beforeFence refusing.linesAt [.code closed]
        unclosed).getLast? ≠
        some '\n' := by
  have woven : default.weaveToText (fun path => .error path : Resolver Text)
      "//`\n  x\n \n//`\n//`\n y".toList =
        .ok "\n```kotlin\nx\n```\n\n\n```kotlin\ny```\n\n".toList := by
    with_unfolding_all rfl
  have blocks : (default.document "//`\n  x\n \n//`\n//`\n y".toList).blocks =
      [.code (.ofLines ["  x\n".toList, " \n".toList]),
        .code (.ofLines [" y".toList])] := by
    with_unfolding_all rfl
  intro source refusing closed unclosed
  have first : (default.document source).blocks =
      [] ++ .code closed :: [.code unclosed] := blocks
  have second : (default.document source).blocks =
      [.code closed] ++ .code unclosed :: [] := blocks
  have whole : ¬ ∃ last ∈ closed.lines.getLast?,
      last.getLast? ≠ some '\n' ∧
        Indent.strip last closed.minimumIndent ≠ [] := by
    decide +kernel
  have lacking : ∃ last ∈ unclosed.lines.getLast?,
      last.getLast? ≠ some '\n' ∧
        Indent.strip last unclosed.minimumIndent ≠ [] := by
    decide +kernel
  have before := not_congr (closingFence_startsLine woven first).2.1
  have behind := (closingFence_startsLine woven second).2.1
  exact ⟨woven, blocks, Decidable.not_not.1 (before.2 whole), behind.2 lacking⟩

/-- Whole lines from the resolver do not help a listing that a source without a
final newline ends in: its closing fence does not start a line. -/
theorem closingFence_not_startsLine :
    ¬ ∀ (weaver : Weaver) (resolver : Resolver Text) (source text : Text),
      (∀ path lines, resolver path = .ok lines →
        ∀ line ∈ lines, line.getLast? = some '\n') →
      weaver.weaveToText resolver source = .ok text →
      ∀ before block after, (weaver.document source).blocks =
        before ++ .code block :: after →
        (weaver.options.beforeFence resolver.linesAt before block).getLast? =
          some '\n' := by
  intro newlineBeforeFence
  have woven : default.weaveToText (fun path => .error path : Resolver Text)
      "//`\nx".toList =
      .ok "\n```kotlin\nx```\n\n".toList := by
    with_unfolding_all rfl
  have blocks : (default.document "//`\nx".toList).blocks =
      [] ++ .code (.ofLines ["x".toList]) :: [] := by
    with_unfolding_all rfl
  have whole : ∀ path lines, (fun path => .error path : Resolver Text) path =
      .ok lines →
      ∀ line ∈ lines, line.getLast? = some '\n' := by
    intro path lines answered
    cases answered
  have newline := newlineBeforeFence default _ _ _ whole woven _ _ _ blocks
  exact absurd newline (by decide +kernel)

end Weaver

end LiterateBook
