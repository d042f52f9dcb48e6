import LiterateBook.Proofs.Segmentation
import LiterateBook.Weaving

/-!
# What a weaving asks for

Rendering blocks one after another asks the resolver for the include paths of
the blocks, in order, up to the first path without an answer. What was asked and
what was answered determine the output: nothing in the answers themselves is
looked at.
-/

namespace LiterateBook

variable {ε : Type}

namespace Rendering

/-! ## Renderings in sequence -/

theorem andThen_of_ok {first : Rendering ε} {lines : List Text}
    (answered : first.result = .ok lines) (second : Rendering ε) :
    first.andThen second =
      ⟨first.asked ++ second.asked, second.result.map (lines ++ ·)⟩ := by
  simp only [andThen, answered]

theorem andThen_of_error {first : Rendering ε} {failure : ε}
    (failed : first.result = .error failure) (second : Rendering ε) :
    first.andThen second = first := by
  cases first with
  | mk asked result =>
      cases failed
      rfl

@[simp] theorem ofLines_nil_andThen (second : Rendering ε) :
    (ofLines []).andThen second = second := by
  cases second with
  | mk asked result => cases result <;> rfl

theorem andThen_assoc (first second third : Rendering ε) :
    (first.andThen second).andThen third =
      first.andThen (second.andThen third) := by
  cases first with
  | mk asked result =>
      cases result with
      | error failure => rfl
      | ok lines =>
          cases second with
          | mk others result =>
              cases result with
              | error failure => rfl
              | ok more =>
                  cases third with
                  | mk rest result =>
                      cases result <;>
                        simp only [andThen, Except.map, List.append_assoc]

end Rendering

namespace Block

@[simp] theorem paths_append (first second : List Block) :
    paths (first ++ second) = paths first ++ paths second :=
  List.filterMap_append

/-- A path of blocks is that of an include block among them, in the same
place. -/
theorem paths_eq_append_cons {blocks : List Block} {before after : List Text}
    {path : Text} (split : paths blocks = before ++ path :: after) :
    ∃ earlier later, blocks = earlier ++ .inclusion path :: later ∧
      paths earlier = before := by
  induction blocks generalizing before with
  | nil =>
      cases before <;> cases split
  | cons block rest ih =>
      cases block with
      | prose lines =>
          obtain ⟨earlier, later, rfl, same⟩ := ih split
          exact ⟨.prose lines :: earlier, later, rfl, same⟩
      | code block =>
          obtain ⟨earlier, later, rfl, same⟩ := ih split
          exact ⟨.code block :: earlier, later, rfl, same⟩
      | inclusion other =>
          cases before with
          | nil =>
              obtain ⟨rfl, -⟩ := List.cons.inj split
              exact ⟨[], rest, rfl, rfl⟩
          | cons head before =>
              obtain ⟨rfl, remaining⟩ := List.cons.inj split
              obtain ⟨earlier, later, rfl, same⟩ := ih remaining
              exact ⟨.inclusion other :: earlier, later, rfl,
                congrArg (other :: ·) same⟩

end Block

namespace RenderOptions

/-- The output of a block when every path is answered. -/
def output (options : RenderOptions) (answer : Text → List Text) :
    Block → List Text
  | .prose lines => lines
  | .code block => options.renderCode block
  | .inclusion path => answer path

theorem renderAll_append (options : RenderOptions) (resolver : Resolver ε)
    (first second : List Block) :
    options.renderAll resolver (first ++ second) =
      (options.renderAll resolver first).andThen
        (options.renderAll resolver second) := by
  induction first with
  | nil => exact (Rendering.ofLines_nil_andThen _).symm
  | cons block rest ih =>
      rw [List.cons_append, renderAll, renderAll, ih, Rendering.andThen_assoc]

/-- Where every path is answered, every path is asked and the output is that of
all blocks. -/
theorem renderAll_of_answered {resolver : Resolver ε}
    {answer : Text → List Text} {blocks : List Block}
    (answered : ∀ path ∈ Block.paths blocks, resolver path = .ok (answer path))
    (options : RenderOptions) :
    options.renderAll resolver blocks =
      ⟨Block.paths blocks, .ok (blocks.flatMap (options.output answer))⟩ := by
  induction blocks with
  | nil => rfl
  | cons block rest ih =>
      cases block with
      | prose lines | code block =>
          rw [renderAll, ih answered]
          rfl
      | inclusion path =>
          have first : resolver path = .ok (answer path) :=
            answered path List.mem_cons_self
          have later := ih fun other member =>
            answered other (List.mem_cons_of_mem _ member)
          have rendered : options.render resolver (.inclusion path) =
              ⟨[path], .ok (answer path)⟩ := by
            rw [render, first]
          rw [renderAll, later, rendered]
          rfl

/-- The first path without an answer is the last that is asked, and its failure
is the result. -/
theorem renderAll_of_failed {resolver : Resolver ε} {answer : Text → List Text}
    {blocks : List Block} {before after : List Text} {path : Text} {failure : ε}
    (split : Block.paths blocks = before ++ path :: after)
    (answered : ∀ earlier ∈ before, resolver earlier = .ok (answer earlier))
    (failed : resolver path = .error failure) (options : RenderOptions) :
    options.renderAll resolver blocks = ⟨before ++ [path], .error failure⟩ := by
  obtain ⟨earlier, later, rfl, same⟩ := Block.paths_eq_append_cons split
  have leading := renderAll_of_answered (same ▸ answered) options
  have rendered : options.render resolver (.inclusion path) =
      ⟨[path], .error failure⟩ := by
    rw [render, failed]
  rw [renderAll_append, leading, renderAll, rendered, same]
  rfl

end RenderOptions

/-- Either all items are answered or there is a first that is not. -/
theorem answered_or_first_error {α β : Type} (answer : α → Except ε β)
    (items : List α) :
    (∀ item ∈ items, ∃ result, answer item = .ok result) ∨
      ∃ before item after error, items = before ++ item :: after ∧
        (∀ earlier ∈ before, ∃ result, answer earlier = .ok result) ∧
        answer item = .error error := by
  induction items with
  | nil => exact .inl fun item member => absurd member List.not_mem_nil
  | cons item rest ih =>
      cases answered : answer item with
      | error error =>
          exact .inr ⟨[], item, rest, error, rfl,
            fun earlier member => absurd member List.not_mem_nil, answered⟩
      | ok result =>
          rcases ih with
              all | ⟨before, first, after, error, rfl, earlier, failed⟩
          · exact .inl (List.forall_mem_cons.2 ⟨⟨result, answered⟩, all⟩)
          · exact .inr ⟨item :: before, first, after, error, rfl,
              List.forall_mem_cons.2 ⟨⟨result, answered⟩, earlier⟩, failed⟩

namespace Resolver

/-- The lines behind a path, none where there is no answer. -/
def linesAt (resolver : Resolver ε) (path : Text) : List Text :=
  match resolver path with
  | .ok lines => lines
  | .error _ => []

theorem eq_linesAt {resolver : Resolver ε} {path : Text}
    (answered : ∃ lines, resolver path = .ok lines) :
    resolver path = .ok (resolver.linesAt path) := by
  obtain ⟨lines, answer⟩ := answered
  rw [linesAt, answer]

theorem answered_cases (resolver : Resolver ε) (paths : List Text) :
    (∀ path ∈ paths, resolver path = .ok (resolver.linesAt path)) ∨
      ∃ before path after failure, paths = before ++ path :: after ∧
        (∀ earlier ∈ before, resolver earlier =
          .ok (resolver.linesAt earlier)) ∧
        resolver path = .error failure := by
  rcases answered_or_first_error resolver paths with
    answered | ⟨before, path, after, failure, split, answered, failed⟩
  · exact .inl fun path member => eq_linesAt (answered path member)
  · exact .inr ⟨before, path, after, failure, split,
      fun earlier member => eq_linesAt (answered earlier member), failed⟩

end Resolver

namespace RenderOptions

/-- Only include paths of the blocks are asked for, in their order. -/
theorem asked_prefix_paths (options : RenderOptions) (resolver : Resolver ε)
    (blocks : List Block) :
    (options.renderAll resolver blocks).asked <+: Block.paths blocks := by
  rcases resolver.answered_cases (Block.paths blocks) with
    answered | ⟨before, path, after, failure, split, answered, failed⟩
  · exact ⟨[], by rw [renderAll_of_answered answered, List.append_nil]⟩
  · rw [renderAll_of_failed split answered failed, split]
    exact ⟨after, by rw [List.append_assoc, List.singleton_append]⟩

/-- Resolvers that agree on what one of them was asked give the same rendering.
A path that fails was asked too, so both fail there in the same way. -/
theorem renderAll_congr {options : RenderOptions} {resolver other : Resolver ε}
    {blocks : List Block}
    (agree : ∀ path ∈ (options.renderAll resolver blocks).asked, other path =
      resolver path) :
    options.renderAll other blocks = options.renderAll resolver blocks := by
  rcases resolver.answered_cases (Block.paths blocks) with
    answered | ⟨before, path, after, failure, split, answered, failed⟩
  · rw [renderAll_of_answered answered] at agree ⊢
    have same : ∀ path ∈ Block.paths blocks, other path =
        .ok (resolver.linesAt path) := by
      intro path member
      rw [agree path member, answered path member]
    exact renderAll_of_answered same options
  · rw [renderAll_of_failed split answered failed] at agree ⊢
    have same : ∀ earlier ∈ before, other earlier =
        .ok (resolver.linesAt earlier) := by
      intro earlier member
      rw [agree earlier (List.mem_append_left _ member), answered earlier member]
    have last : other path = .error failure := by
      rw [agree path (List.mem_append_right _ (List.mem_singleton_self _)), failed]
    exact renderAll_of_failed split same last options

end RenderOptions

/-- Include blocks come from include lines outside every region and from nothing
else. -/
theorem Segment.paths_flatMap_blocks (policy : BlankPolicy)
    (segments : List Segment) :
    Block.paths (segments.flatMap (Segment.blocks policy)) =
      segments.filterMap Segment.path? := by
  induction segments with
  | nil => rfl
  | cons segment rest ih =>
      rw [List.flatMap_cons, Block.paths_append, ih]
      cases segment with
      | inclusion line path => rfl
      | hidden line =>
          rw [blocks]
          split <;> rfl
      | region kind opener body closer => cases kind <;> rfl
      | unclosed kind opener body => cases kind <;> rfl

namespace Weaver

/-- What a weaving asks for and what comes of it. The paths of the include lines
outside every region are asked in order, each as often as it stands there, and
nothing else is. When all are answered the output is that of all blocks, with
the answers as they are; otherwise the first failure ends the weaving and is its
result. Answers that were not asked for have no say. -/
theorem weave_asked (weaver : Weaver) (resolver : Resolver ε) (source : Text) :
    let blocks := (weaver.document source).blocks
    let woven := weaver.weave resolver source
    (∃ segments, Segmentation source.lines segments ∧
      Block.paths blocks = segments.filterMap Segment.path?) ∧
    woven.asked <+: Block.paths blocks ∧
    (∀ answer : Text → List Text,
      (∀ path ∈ Block.paths blocks, resolver path = .ok (answer path)) →
      woven.asked = Block.paths blocks ∧
      woven.result = .ok (blocks.flatMap (weaver.options.output answer))) ∧
    ((∃ path ∈ Block.paths blocks, ∃ failure, resolver path = .error failure) →
      ∃ before path after failure, Block.paths blocks =
        before ++ path :: after ∧
        (∀ earlier ∈ before, ∃ lines, resolver earlier = .ok lines) ∧
        resolver path = .error failure ∧
        woven.asked = before ++ [path] ∧ woven.result = .error failure) ∧
    (∀ other : Resolver ε, (∀ path ∈ woven.asked, other path = resolver path) →
      weaver.weave other source = woven) ∧
    weaver.weaveToText resolver source = woven.result.map List.flatten := by
  intro blocks woven
  refine ⟨?_, ?_, ?_, ?_, ?_, rfl⟩
  · obtain ⟨segments, segmentation⟩ := Segmentation.exists_of_lines source.lines
    have said : blocks =
        segments.flatMap (Segment.blocks weaver.blankPolicy) := by
      show (Document.ofSource weaver.blankPolicy source).blocks = _
      rw [segmentation.ofSource_eq, Document.blocks_ofSegments]
    exact ⟨segments, segmentation, by rw [said, Segment.paths_flatMap_blocks]⟩
  · exact RenderOptions.asked_prefix_paths weaver.options resolver blocks
  · intro answer answered
    have whole : woven = _ :=
      RenderOptions.renderAll_of_answered answered weaver.options
    rw [whole]
    exact ⟨rfl, rfl⟩
  · intro unanswered
    obtain ⟨path, member, failure, failed⟩ := unanswered
    rcases resolver.answered_cases (Block.paths blocks) with
      answered | ⟨before, first, after, reason, split, answered, stops⟩
    · rw [answered path member] at failed
      cases failed
    · have partway : woven = _ :=
        RenderOptions.renderAll_of_failed split answered stops weaver.options
      rw [partway]
      exact ⟨before, first, after, reason, split,
        fun earlier inside => ⟨_, answered earlier inside⟩, stops, rfl, rfl⟩
  · intro other agree
    exact RenderOptions.renderAll_congr agree

/-- Two includes of one path around a region that holds another include line.
The path is answered with an include line and a marker, or not at all. -/
theorem weave_asked_example :
    let source : Text :=
      "//#include \"a\"\n//`\n//#include \"b\"\n//`\n//#include \"a\"".toList
    let answering : Resolver Text :=
      fun _ => .ok ["//#include \"c\"\n".toList, "/*-\n".toList]
    let partly : Resolver Text := fun path =>
      if path = "a".toList then answering path else .error path
    let refusing : Resolver Text := fun path => .error path
    (default.weave answering source).asked = ["a".toList, "a".toList] ∧
      (default.weave answering source).result =
        .ok (["//#include \"c\"\n".toList, "/*-\n".toList] ++
          RenderOptions.default.renderCode
            (.ofLines ["//#include \"b\"\n".toList]) ++
          ["//#include \"c\"\n".toList, "/*-\n".toList]) ∧
      default.weave partly source = default.weave answering source ∧
      ∃ before path after, ["a".toList, "a".toList] = before ++ path :: after ∧
        (default.weave refusing source).asked = before ++ [path] ∧
        (default.weave refusing source).result = .error path := by
  have blocks : (default.document
      "//#include \"a\"\n//`\n//#include \"b\"\n//`\n//#include \"a\"".toList).blocks =
      [.inclusion "a".toList, .code (.ofLines ["//#include \"b\"\n".toList]),
        .inclusion "a".toList] := by
    with_unfolding_all rfl
  intro source answering partly refusing
  have answered := (weave_asked default answering source).2.2.1
    (fun _ => ["//#include \"c\"\n".toList, "/*-\n".toList]) (fun _ _ => rfl)
  have refused := (weave_asked default refusing source).2.2.2.1
    ⟨"a".toList, by rw [blocks]; decide, "a".toList, rfl⟩
  rw [blocks] at answered refused
  have agree : ∀ path ∈ (default.weave answering source).asked, partly path =
      answering path := by
    rw [answered.1]
    intro path member
    have same : path = "a".toList := by
      rcases List.mem_cons.1 member with same | later
      · exact same
      · exact List.mem_singleton.1 later
    subst same
    rfl
  obtain ⟨before, path, after, failure, split, -, failed, asked, result⟩ :=
    refused
  cases failed
  exact ⟨answered.1, answered.2,
    (weave_asked default answering source).2.2.2.2.1 partly agree,
    before, path, after, split, asked, result⟩

end Weaver

end LiterateBook
