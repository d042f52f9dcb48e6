import LiterateBook.Proofs.MarkerLines
import LiterateBook.Proofs.Segmentation

/-!
# Blocks written as sources

Blocks can be written as a source again, each as one segment with bare markers.
Reading what was written gives the blocks back, whatever their lines hold short
of their own closer, and what was read from any source of whole lines can be
written. So the written form is a normal form of sources.
-/

namespace LiterateBook

namespace Block

/-- A block as a source of its own. -/
def written : Block → Text
  | .prose lines => "/*-\n".toList ++ lines.flatten ++ "-*/\n".toList
  | .code block => "//`\n".toList ++ block.lines.flatten ++ "//`\n".toList
  | .inclusion path => "//#include \"".toList ++ path ++ "\"\n".toList

/-- Blocks as one source. -/
def encode (blocks : List Block) : Text :=
  blocks.flatMap written

/-- A block that can be written: whole lines without the closer of their region,
or a path that a pair of quotes can hold. -/
def WellFormed : Block → Prop
  | .prose lines =>
    ∀ line ∈ lines, Text.IsLine line ∧ Marker.ofLine line ≠ .proseClose
  | .code block =>
    ∀ line ∈ block.lines, Text.IsLine line ∧ Marker.ofLine line ≠ .codeFence
  | .inclusion path => '"' ∉ path ∧ '\n' ∉ path

instance : (block : Block) → Decidable block.WellFormed
  | .prose lines => inferInstanceAs (Decidable (∀ line ∈ lines, _ ∧ _))
  | .code block => inferInstanceAs (Decidable (∀ line ∈ block.lines, _ ∧ _))
  | .inclusion _ => inferInstanceAs (Decidable (_ ∧ _))

/-- A region of either kind can be written when its lines are whole and none of
them closes it. -/
theorem wellFormed_of_region {kind : RegionKind} {body : List Text}
    (whole : ∀ line ∈ body, Text.IsLine line)
    (unmarked : ∀ line ∈ body, Marker.ofLine line ≠ kind.closer) :
    (kind.block body).WellFormed := by
  cases kind <;>
    exact fun line member => ⟨whole line member, unmarked line member⟩

/-- The block with its memo forgotten, where it has one. -/
def unmeasured : Block → Block
  | .code block => .code (.ofLines block.lines)
  | block => block

@[simp] theorem unmeasured_block (kind : RegionKind) (body : List Text) :
    (kind.block body).unmeasured = kind.block body := by
  cases kind <;> rfl

theorem unmeasured_beq (block : Block) :
    (block.unmeasured == block) = true := by
  cases block with
  | prose lines => exact beq_self_eq_true lines
  | code block => exact CodeBlock.beq_eq_true_iff.2 rfl
  | inclusion path => exact beq_self_eq_true path

theorem map_unmeasured_beq (blocks : List Block) :
    (blocks.map unmeasured == blocks) = true := by
  induction blocks with
  | nil => rfl
  | cons block rest ih =>
      rw [List.map_cons, List.cons_beq_cons, unmeasured_beq, ih]
      rfl

/-! ## What was written is read -/

/-- The segment as which a block is written. -/
def segment : Block → Segment
  | .prose lines => .region .prose "/*-\n".toList lines "-*/\n".toList
  | .code block => .region .code "//`\n".toList block.lines "//`\n".toList
  | .inclusion path =>
    .inclusion ("//#include \"".toList ++ path ++ "\"\n".toList) path

theorem flatten_lines_segment (block : Block) :
    block.segment.lines.flatten = block.written := by
  cases block with
  | prose lines | code block =>
      rw [segment, Segment.lines, List.flatten_cons, List.flatten_append,
        List.flatten_singleton, ← List.append_assoc]
      rfl
  | inclusion path =>
      rw [segment, Segment.lines, List.flatten_singleton]
      rfl

theorem isLine_inclusion {path : Text} (fresh : '\n' ∉ path) :
    Text.IsLine ("//#include \"".toList ++ path ++ "\"\n".toList) := by
  have content : '\n' ∉ "//#include \"".toList ++ path ++ ['"'] := by
    intro member
    rcases List.mem_append.1 member with earlier | closing
    · rcases List.mem_append.1 earlier with opening | inside
      · exact absurd opening (by decide)
      · exact fresh inside
    · exact absurd closing (by decide)
  have whole := Text.isLine_concat content
  rwa [List.append_assoc] at whole

theorem ofLine_inclusion {path : Text} (quotes : '"' ∉ path)
    (newlines : '\n' ∉ path) :
    Marker.ofLine ("//#include \"".toList ++ path ++ "\"\n".toList) =
      .inclusion path := by
  apply Marker.ofLine_eq_inclusion_iff.2
  apply Marker.includePath?_eq_some_iff.2
  have space : ∀ c ∈ [' '], Token.isGap c = true :=
    List.forall_mem_singleton.2 rfl
  have newline : ∀ c ∈ ['\n'], Token.isGap c = true :=
    List.forall_mem_singleton.2 rfl
  refine ⟨[' '], ['\n'], ?_, space, newline,
    Token.forall_isPath_iff.2 ⟨quotes, newlines⟩⟩
  rw [List.append_assoc]
  rfl

theorem WellFormed.isLine_of_mem_lines {block : Block}
    (wellFormed : block.WellFormed) :
    ∀ line ∈ block.segment.lines, Text.IsLine line := by
  intro line member
  cases block with
  | prose lines | code block =>
      rcases List.mem_cons.1 member with rfl | later
      · decide
      · rcases List.mem_append.1 later with inside | closing
        · exact (wellFormed line inside).1
        · rw [List.mem_singleton.1 closing]
          decide
  | inclusion path =>
      rw [List.mem_singleton.1 member]
      exact isLine_inclusion wellFormed.2

/-- A written block is one segment, whatever follows it. -/
theorem WellFormed.segmentation {block : Block} (wellFormed : block.WellFormed)
    {rest : List Text} {segments : List Segment}
    (later : Segmentation rest segments) :
    Segmentation (block.segment.lines ++ rest) (block.segment :: segments) := by
  cases block with
  | prose lines =>
      rw [segment, Segment.lines, List.cons_append, List.append_assoc]
      have opens : Marker.ofLine "/*-\n".toList = RegionKind.prose.opener := by
        decide +kernel
      have closes : Marker.ofLine "-*/\n".toList = RegionKind.prose.closer := by
        decide +kernel
      exact .region opens (fun line member => (wellFormed line member).2)
        closes later
  | code block =>
      rw [segment, Segment.lines, List.cons_append, List.append_assoc]
      have opens : Marker.ofLine "//`\n".toList = RegionKind.code.opener := by
        decide +kernel
      exact .region opens (fun line member => (wellFormed line member).2)
        opens later
  | inclusion path =>
      exact .inclusion (ofLine_inclusion wellFormed.1 wellFormed.2) later

/-- Written blocks are segmented into themselves. Their lines are whole, so
cutting the source does not run over into the next. -/
theorem segmentation_encode {blocks : List Block}
    (wellFormed : ∀ block ∈ blocks, block.WellFormed) :
    Segmentation (encode blocks).lines (blocks.map segment) := by
  induction blocks with
  | nil => exact .nil
  | cons block rest ih =>
      have first := wellFormed block (by simp)
      have later := ih fun other member => wellFormed other (by simp [member])
      have unfolded : encode (block :: rest) =
          block.segment.lines.flatten ++ encode rest := by
        rw [flatten_lines_segment]
        rfl
      rw [unfolded, Text.lines_flatten_append first.isLine_of_mem_lines]
      exact first.segmentation later

theorem isClosed_segment (block : Block) : block.segment.IsClosed := by
  cases block <;> trivial

theorem blocks_segment (policy : BlankPolicy) (block : Block) :
    block.segment.blocks policy = [block.unmeasured] := by
  cases block <;> rfl

end Block

namespace Document

open Block

theorem blocks_ofSource_encode {blocks : List Block}
    (wellFormed : ∀ block ∈ blocks, block.WellFormed) (policy : BlankPolicy) :
    (ofSource policy (encode blocks)).blocks = blocks.map Block.unmeasured := by
  rw [(segmentation_encode wellFormed).ofSource_eq, blocks_ofSegments,
    List.flatMap_map, List.map_eq_flatMap]
  simp only [blocks_segment]

theorem diagnostics_ofSource_encode {blocks : List Block}
    (wellFormed : ∀ block ∈ blocks, block.WellFormed) (policy : BlankPolicy) :
    (ofSource policy (encode blocks)).diagnostics = [] := by
  have closed : ∀ segment ∈ blocks.map Block.segment, segment.IsClosed := by
    intro segment member
    obtain ⟨block, -, rfl⟩ := List.mem_map.1 member
    exact isClosed_segment block
  rw [(segmentation_encode wellFormed).ofSource_eq,
    diagnostics_ofSegments_of_isClosed closed]

end Document

/-! ## What was read can be written -/

namespace Segmentation

variable {lines : List Text} {segments : List Segment}

/-- The blocks of whole lines can be written, since no body holds a line that
closes its region and a blank line closes none. -/
theorem wellFormed_of_mem_blocks (segmentation : Segmentation lines segments)
    (whole : ∀ line ∈ lines, Text.IsLine line) (policy : BlankPolicy) :
    ∀ block ∈ segments.flatMap (Segment.blocks policy), block.WellFormed := by
  induction segmentation with
  | nil =>
      intro block member
      cases member
  | @inclusion line path rest segments marked later ih =>
      have here : ∀ block ∈ (Segment.inclusion line path).blocks policy,
          block.WellFormed := by
        intro block member
        rw [List.mem_singleton.1 member]
        exact Marker.not_mem_of_ofLine_eq_inclusion marked
      have there := ih fun other inside => whole other (by simp [inside])
      rw [List.flatMap_cons]
      exact List.forall_mem_append.2 ⟨here, there⟩
  | @hidden line rest segments marked later ih =>
      have here : ∀ block ∈ (Segment.hidden line).blocks policy,
          block.WellFormed := by
        intro block member
        obtain ⟨rfl, blank⟩ := Segment.mem_blocks_hidden member
        intro other inside
        rw [List.mem_singleton.1 inside, Marker.ofLine_of_isBlank blank]
        exact ⟨whole line (by simp), by simp⟩
      have there := ih fun other inside => whole other (by simp [inside])
      rw [List.flatMap_cons]
      exact List.forall_mem_append.2 ⟨here, there⟩
  | @region kind opener closer body rest segments opens unmarked closes later ih =>
      have here :
          ∀ block ∈ (Segment.region kind opener body closer).blocks policy,
          block.WellFormed := by
        intro block member
        rw [List.mem_singleton.1 member]
        apply Block.wellFormed_of_region _ unmarked
        intro line inside
        exact whole line (by simp [inside])
      have there := ih fun other inside => whole other (by simp [inside])
      rw [List.flatMap_cons]
      exact List.forall_mem_append.2 ⟨here, there⟩
  | @unclosed kind opener body opens unmarked =>
      intro block member
      rw [List.flatMap_singleton] at member
      rw [List.mem_singleton.1 member]
      apply Block.wellFormed_of_region _ unmarked
      intro line inside
      exact whole line (by simp [inside])

end Segmentation

namespace Segment

theorem unmeasured_of_mem_blocks {policy : BlankPolicy} {segment : Segment}
    {block : Block} (member : block ∈ segment.blocks policy) :
    block.unmeasured = block := by
  cases segment with
  | inclusion line path =>
      rw [List.mem_singleton.1 member]
      rfl
  | hidden line =>
      rw [(mem_blocks_hidden member).1]
      rfl
  | region kind opener body closer | unclosed kind opener body =>
      rw [List.mem_singleton.1 member]
      exact Block.unmeasured_block kind body

end Segment

namespace Document

open Block

theorem map_unmeasured_blocks_ofSource (policy : BlankPolicy) (source : Text) :
    (ofSource policy source).blocks.map Block.unmeasured =
      (ofSource policy source).blocks := by
  obtain ⟨segments, segmentation⟩ := Segmentation.exists_of_lines source.lines
  rw [segmentation.ofSource_eq, blocks_ofSegments]
  have same : ∀ block ∈ segments.flatMap (Segment.blocks policy),
      block.unmeasured = id block := by
    intro block member
    obtain ⟨segment, -, inside⟩ := List.mem_flatMap.1 member
    exact Segment.unmeasured_of_mem_blocks inside
  rw [List.map_congr_left same, List.map_id]

theorem wellFormed_of_mem_blocks_ofSource {source : Text}
    (ends : source.EndsLine) (policy : BlankPolicy) :
    ∀ block ∈ (ofSource policy source).blocks, block.WellFormed := by
  obtain ⟨segments, segmentation⟩ := Segmentation.exists_of_lines source.lines
  rw [segmentation.ofSource_eq, blocks_ofSegments]
  exact segmentation.wellFormed_of_mem_blocks
    (Text.isLine_of_mem_lines ends) policy

/-- Written blocks are read back without diagnostics, their memos apart, which
equality of blocks ignores. The blocks of any source that ends a line can be
written and read back: writing what was read loses no block and no line,
whatever becomes of blank lines in either reading. -/
theorem ofSource_encode :
    (∀ blocks : List Block, (∀ block ∈ blocks, block.WellFormed) → ∀ policy,
      ((ofSource policy (encode blocks)).blocks == blocks) = true ∧
      (ofSource policy (encode blocks)).diagnostics = []) ∧
    (∀ source : Text, source.EndsLine → ∀ policy,
      (∀ block ∈ (ofSource policy source).blocks, block.WellFormed) ∧
      ∀ later,
        (ofSource later (encode (ofSource policy source).blocks)).blocks =
        (ofSource policy source).blocks) := by
  constructor
  · intro blocks wellFormed policy
    constructor
    · rw [blocks_ofSource_encode wellFormed]
      exact map_unmeasured_beq blocks
    · exact diagnostics_ofSource_encode wellFormed policy
  · intro source ends policy
    have wellFormed := wellFormed_of_mem_blocks_ofSource ends policy
    refine ⟨wellFormed, ?_⟩
    intro later
    rw [blocks_ofSource_encode wellFormed, map_unmeasured_blocks_ofSource]

/-- Regions that hold other markers, a listing that was measured and a path with
blanks; and a source with a kept blank line that ends inside a region. -/
theorem ofSource_encode_example :
    let blocks : List Block :=
      [.prose ["//` \"\n".toList, "\t/*-\r\n".toList],
        .code ⟨["  -*/\n".toList], some 2⟩,
        .inclusion "a \r\x00.md".toList]
    let source : Text := " \nhidden\n/*-\n-\n".toList
    (∀ block ∈ blocks, block.WellFormed) ∧
      ((ofSource .keep (encode blocks)).blocks == blocks) = true ∧
      source.EndsLine ∧
      (ofSource .drop (encode (ofSource .keep source).blocks)).blocks =
        (ofSource .keep source).blocks := by
  intro blocks source
  have wellFormed : ∀ block ∈ blocks, block.WellFormed := by decide +kernel
  have ends : source.EndsLine := by decide
  exact ⟨wellFormed, (ofSource_encode.1 blocks wellFormed .keep).1, ends,
    (ofSource_encode.2 source ends .keep).2 .drop⟩

end Document

end LiterateBook
