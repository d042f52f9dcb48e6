import LiterateBook.Proofs.Lines
import LiterateBook.Proofs.Passage

/-!
# Segmentation of sources

The grammar of sources without a reader: the lines of a source fall into
segments, each of which is a single line outside every region or a region with
its markers, and only the last region may lack its closer. Every source has
exactly one segmentation, and its document is what the segments say one after
another.
-/

namespace LiterateBook

/-- A piece of a source that leaves at most one block. -/
inductive Segment where
  /-- An include line. -/
  | inclusion (line path : Text)
  /-- A line without effect outside every region. -/
  | hidden (line : Text)
  /-- A region from its opener to its closer. -/
  | region (kind : RegionKind) (opener : Text) (body : List Text)
      (closer : Text)
  /-- A region that the source ends in. -/
  | unclosed (kind : RegionKind) (opener : Text) (body : List Text)

namespace Segment

/-- The lines of a segment, its markers included. -/
def lines : Segment → List Text
  | .inclusion line _ => [line]
  | .hidden line => [line]
  | .region _ opener body closer => opener :: (body ++ [closer])
  | .unclosed _ opener body => opener :: body

/-- The blocks of a segment. Only hidden lines may leave none. -/
def blocks (policy : BlankPolicy) : Segment → List Block
  | .inclusion _ path => [.inclusion path]
  | .hidden line =>
    if policy = .keep ∧ line.isBlank then [.prose [line]] else []
  | .region kind _ body _ => [kind.block body]
  | .unclosed kind _ body => [kind.block body]

theorem mem_blocks_hidden {policy : BlankPolicy} {line : Text} {block : Block}
    (member : block ∈ (hidden line).blocks policy) :
    block = .prose [line] ∧ line.isBlank = true := by
  rw [blocks] at member
  split at member
  · rename_i kept
    exact ⟨List.mem_singleton.1 member, kept.2⟩
  · cases member

/-- The diagnostics of a segment whose first line has a number. -/
def diagnostics (number : Nat) : Segment → List Diagnostic
  | .unclosed kind _ _ => [.unterminatedRegion kind number]
  | _ => []

/-- The notes on a segment whose first line has a number. -/
def notes (number : Nat) : Segment → List Note
  | .inclusion _ path => [.inclusion number path]
  | .hidden _ => []
  | .region kind _ body _ => [.closed kind number (number + body.length + 1)]
  | .unclosed kind _ _ => [.unclosed kind number]

/-- Only a region can lack its closer. -/
def IsClosed : Segment → Prop
  | .unclosed _ _ _ => False
  | _ => True

theorem IsClosed.diagnostics_eq_nil {segment : Segment}
    (closed : segment.IsClosed) (number : Nat) :
    segment.diagnostics number = [] := by
  cases segment with
  | unclosed kind opener body => exact closed.elim
  | inclusion | hidden | region => rfl

/-- The path of an include line. -/
def path? : Segment → Option Text
  | .inclusion _ path => some path
  | _ => none

end Segment

/-- Lines cut into segments, from the first line on. -/
inductive Segmentation : List Text → List Segment → Prop where
  | nil : Segmentation [] []
  | inclusion {line path : Text} {rest : List Text} {segments : List Segment}
      (marked : Marker.ofLine line = .inclusion path)
      (later : Segmentation rest segments) :
      Segmentation (line :: rest) (.inclusion line path :: segments)
  | hidden {line : Text} {rest : List Text} {segments : List Segment}
      (marked : Marker.ofLine line = .text ∨ Marker.ofLine line = .proseClose)
      (later : Segmentation rest segments) :
      Segmentation (line :: rest) (.hidden line :: segments)
  | region {kind : RegionKind} {opener closer : Text} {body rest : List Text}
      {segments : List Segment} (opens : Marker.ofLine opener = kind.opener)
      (unmarked : ∀ line ∈ body, Marker.ofLine line ≠ kind.closer)
      (closes : Marker.ofLine closer = kind.closer)
      (later : Segmentation rest segments) :
      Segmentation (opener :: (body ++ closer :: rest))
        (.region kind opener body closer :: segments)
  | unclosed {kind : RegionKind} {opener : Text} {body : List Text}
      (opens : Marker.ofLine opener = kind.opener)
      (unmarked : ∀ line ∈ body, Marker.ofLine line ≠ kind.closer) :
      Segmentation (opener :: body) [.unclosed kind opener body]

namespace Segmentation

variable {lines rest body : List Text} {line path : Text} {kind : RegionKind}
variable {segments others : List Segment}

theorem flatMap_lines (segmentation : Segmentation lines segments) :
    segments.flatMap Segment.lines = lines := by
  induction segmentation with
  | nil => rfl
  | inclusion marked later ih | hidden marked later ih =>
      rw [List.flatMap_cons, ih]
      rfl
  | region opens unmarked closes later ih =>
      rw [List.flatMap_cons, ih, Segment.lines, List.cons_append,
        List.append_assoc]
      rfl
  | unclosed opens unmarked => exact List.append_nil _

/-! ## Parts -/

/-- A segmentation can be parted between any two segments. -/
theorem of_append {earlier later : List Segment}
    (segmentation : Segmentation lines (earlier ++ later)) :
    Segmentation (earlier.flatMap Segment.lines) earlier ∧
      Segmentation (later.flatMap Segment.lines) later := by
  induction earlier generalizing lines with
  | nil =>
      rw [← segmentation.flatMap_lines] at segmentation
      exact ⟨.nil, segmentation⟩
  | cons segment earlier ih =>
      rw [List.cons_append] at segmentation
      generalize whole : earlier ++ later = segments at segmentation
      cases segmentation with
      | inclusion marked rest =>
          obtain ⟨first, second⟩ := ih (whole ▸ rest)
          exact ⟨.inclusion marked first, second⟩
      | hidden marked rest =>
          obtain ⟨first, second⟩ := ih (whole ▸ rest)
          exact ⟨.hidden marked first, second⟩
      | region opens unmarked closes rest =>
          obtain ⟨first, second⟩ := ih (whole ▸ rest)
          refine ⟨?_, second⟩
          rw [List.flatMap_cons, Segment.lines, List.cons_append,
            List.append_assoc]
          exact .region opens unmarked closes first
      | unclosed opens unmarked =>
          obtain ⟨rfl, rfl⟩ := List.append_eq_nil_iff.1 whole
          rw [List.flatMap_singleton]
          exact ⟨.unclosed opens unmarked, .nil⟩

/-! ## Existence -/

/-- Lines can be segmented: an opener takes all lines up to its closer, or all
there are, and what is left is segmented after it. -/
theorem exists_of_lines (lines : List Text) :
    ∃ segments, Segmentation lines segments := by
  induction size : lines.length using Nat.strongRecOn generalizing lines with
  | ind size ih =>
      subst size
      cases lines with
      | nil => exact ⟨[], .nil⟩
      | cons line rest =>
          have shorter : rest.length < (line :: rest).length :=
            Nat.lt_succ_self _
          obtain ⟨segments, later⟩ := ih rest.length shorter rest rfl
          rcases Marker.outside_cases (Marker.ofLine line) with
            ⟨path, marked⟩ | ⟨kind, opens⟩ | marked
          · exact ⟨_, .inclusion marked later⟩
          · rcases Document.State.closer_cases kind rest with
              unmarked | ⟨body, closer, after, split, unmarked, closes⟩
            · exact ⟨_, .unclosed opens unmarked⟩
            · subst split
              have smaller : after.length <
                  (line :: (body ++ closer :: after)).length := by
                simp only [List.length_cons, List.length_append]
                omega
              obtain ⟨segments, later⟩ := ih after.length smaller after rfl
              exact ⟨_, .region opens unmarked closes later⟩
          · exact ⟨_, .hidden marked later⟩

/-! ## Uniqueness -/

theorem eq_nil (segmentation : Segmentation [] segments) : segments = [] := by
  cases segmentation
  rfl

theorem of_inclusion (segmentation : Segmentation (line :: rest) segments)
    (marked : Marker.ofLine line = .inclusion path) :
    ∃ later, segments = .inclusion line path :: later ∧
      Segmentation rest later := by
  cases segmentation with
  | inclusion other later =>
      rw [marked] at other
      cases other
      exact ⟨_, rfl, later⟩
  | hidden other later =>
      rw [marked] at other
      rcases other with other | other <;> cases other
  | @region kind _ _ _ _ _ opens =>
      rw [marked] at opens
      cases kind <;> cases opens
  | @unclosed kind _ _ opens =>
      rw [marked] at opens
      cases kind <;> cases opens

theorem of_hidden (segmentation : Segmentation (line :: rest) segments)
    (marked : Marker.ofLine line = .text ∨ Marker.ofLine line = .proseClose) :
    ∃ later, segments = .hidden line :: later ∧ Segmentation rest later := by
  cases segmentation with
  | inclusion other later =>
      rw [other] at marked
      rcases marked with marked | marked <;> cases marked
  | hidden other later => exact ⟨_, rfl, later⟩
  | @region kind _ _ _ _ _ opens =>
      rw [opens] at marked
      cases kind <;> rcases marked with marked | marked <;> cases marked
  | @unclosed kind _ _ opens =>
      rw [opens] at marked
      cases kind <;> rcases marked with marked | marked <;> cases marked

/-- An opener starts a region that is closed by the first closer there is, or by
none. -/
theorem of_opener (segmentation : Segmentation (line :: rest) segments)
    (opens : Marker.ofLine line = kind.opener) :
    (∃ body closer after later, rest = body ++ closer :: after ∧
      (∀ line ∈ body, Marker.ofLine line ≠ kind.closer) ∧
        Marker.ofLine closer = kind.closer ∧
      segments = .region kind line body closer :: later ∧
        Segmentation after later) ∨
    ((∀ line ∈ rest, Marker.ofLine line ≠ kind.closer) ∧
      segments = [.unclosed kind line rest]) := by
  cases segmentation with
  | inclusion other later =>
      rw [other] at opens
      cases kind <;> cases opens
  | hidden other later =>
      rw [opens] at other
      cases kind <;> rcases other with other | other <;> cases other
  | region other unmarked closes later =>
      have same := RegionKind.opener_injective (opens.symm.trans other)
      subst same
      exact .inl ⟨_, _, _, _, rfl, unmarked, closes, rfl, later⟩
  | unclosed other unmarked =>
      have same := RegionKind.opener_injective (opens.symm.trans other)
      subst same
      exact .inr ⟨unmarked, rfl⟩

/-- Lines have at most one segmentation: the marker of the first line decides
how any of them begins. -/
theorem unique (first : Segmentation lines segments)
    (second : Segmentation lines others) :
    segments = others := by
  induction first generalizing others with
  | nil => exact (eq_nil second).symm
  | inclusion marked later ih =>
      obtain ⟨remaining, rfl, tail⟩ := of_inclusion second marked
      rw [ih tail]
  | hidden marked later ih =>
      obtain ⟨remaining, rfl, tail⟩ := of_hidden second marked
      rw [ih tail]
  | region opens unmarked closes later ih =>
      rcases of_opener second opens with
        ⟨body, closer, after, remaining, split, otherUnmarked, otherCloses,
          rfl, tail⟩ |
          ⟨never, -⟩
      · obtain ⟨rfl, rfl, rfl⟩ :=
          Document.State.closer_unique split unmarked closes otherUnmarked
            otherCloses
        rw [ih tail]
      · exact absurd closes (never _ (by simp))
  | unclosed opens unmarked =>
      rcases of_opener second opens with
        ⟨body, closer, after, remaining, split, -, closes, -, -⟩ | ⟨-, rfl⟩
      · subst split
        exact absurd closes (unmarked _ (by simp))
      · rfl

end Segmentation

/-! ## The document of segments -/

namespace Document

/-- What segments say one after another when the first line of the first has a
number. -/
def ofSegments (policy : BlankPolicy) (number : Nat) : List Segment → Document
  | [] => .empty
  | segment :: rest =>
    ⟨segment.blocks policy, segment.diagnostics number, segment.notes number⟩ ++
      ofSegments policy (number + segment.lines.length) rest

theorem blocks_ofSegments (policy : BlankPolicy) (number : Nat)
    (segments : List Segment) :
    (ofSegments policy number segments).blocks =
      segments.flatMap (Segment.blocks policy) := by
  induction segments generalizing number with
  | nil => rfl
  | cons segment rest ih =>
      rw [ofSegments, blocks_append, ih, List.flatMap_cons]

/-- Later segments stand further down by the lines of the earlier ones. -/
theorem ofSegments_append (policy : BlankPolicy) (number : Nat)
    (first second : List Segment) :
    ofSegments policy number (first ++ second) =
      ofSegments policy number first ++
        ofSegments policy (number + (first.flatMap Segment.lines).length)
          second := by
  induction first generalizing number with
  | nil => rfl
  | cons segment rest ih =>
      rw [List.cons_append, ofSegments, ofSegments, ih, append_assoc,
        List.flatMap_cons, List.length_append, Nat.add_assoc]

theorem diagnostics_ofSegments_of_isClosed {segments : List Segment}
    (closed : ∀ segment ∈ segments, segment.IsClosed) (policy : BlankPolicy)
    (number : Nat) :
    (ofSegments policy number segments).diagnostics = [] := by
  induction segments generalizing number with
  | nil => rfl
  | cons segment rest ih =>
      have first := closed segment (by simp)
      have later := ih fun other member => closed other (by simp [member])
      rw [ofSegments, diagnostics_append, later, first.diagnostics_eq_nil,
        List.append_nil]

end Document

namespace Segmentation

open Document

variable {lines : List Text} {segments : List Segment}

/-- The reader says what the segments of its lines say. -/
theorem read_eq_ofSegments (segmentation : Segmentation lines segments)
    (policy : BlankPolicy) (number : Nat) :
    State.outside.read policy number lines =
      ofSegments policy number segments := by
  induction segmentation generalizing number with
  | nil => rfl
  | inclusion marked later ih =>
      rw [State.read_cons, State.step_inclusion marked, ih]
      rfl
  | hidden marked later ih =>
      rw [State.read_cons, State.step_hidden marked, ih]
      rfl
  | @region kind opener closer body rest segments opens unmarked closes later ih =>
      have regroup : opener :: (body ++ closer :: rest) =
          opener :: (body ++ [closer]) ++ rest := by
        rw [List.cons_append, List.append_assoc]
        rfl
      rw [regroup, State.read_append, State.pass_region opens unmarked closes, ih]
      rfl
  | unclosed opens unmarked =>
      rw [State.read_eq_pass, State.pass_opened opens unmarked, State.finish,
        List.reverse_reverse]
      rfl

theorem ofSource_eq {source : Text}
    (segmentation : Segmentation source.lines segments) (policy : BlankPolicy) :
    ofSource policy source = ofSegments policy 1 segments :=
  segmentation.read_eq_ofSegments policy 1

theorem isClosed_cases (segmentation : Segmentation lines segments) :
    (∃ earlier kind opener body, segments =
      earlier ++ [.unclosed kind opener body] ∧
      ∀ segment ∈ earlier, segment.IsClosed) ∨
    ∀ segment ∈ segments, segment.IsClosed := by
  induction segmentation with
  | nil =>
      right
      intro segment member
      cases member
  | inclusion marked later ih | hidden marked later ih
  | region opens unmarked closes later ih =>
      rcases ih with ⟨earlier, kind, opener, body, rfl, closed⟩ | closed
      · exact .inl ⟨_ :: earlier, kind, opener, body, rfl,
          List.forall_mem_cons.2 ⟨trivial, closed⟩⟩
      · exact .inr (List.forall_mem_cons.2 ⟨trivial, closed⟩)
  | @unclosed kind opener body opens unmarked =>
      exact .inl ⟨[], kind, opener, body, rfl,
        fun segment member => absurd member List.not_mem_nil⟩

end Segmentation

namespace Document

theorem diagnostics_ofSegments_unclosed {earlier : List Segment}
    (closed : ∀ segment ∈ earlier, segment.IsClosed) (policy : BlankPolicy)
    (number : Nat) (kind : RegionKind) (opener : Text) (body : List Text) :
    (ofSegments policy number (earlier ++ [.unclosed kind opener body])).diagnostics =
      [.unterminatedRegion kind
        (number + (earlier.flatMap Segment.lines).length)] := by
  rw [ofSegments_append, diagnostics_append,
    diagnostics_ofSegments_of_isClosed closed]
  rfl

/-- Every source has exactly one segmentation. Whatever becomes of blank lines,
the blocks of the source are those of its segments, and it has a diagnostic
exactly when its last segment is unclosed: one, at the line of the opener. -/
theorem ofSource_segmentation (source : Text) :
    (∀ cut, Text.IsCut source cut ↔ cut = source.lines) ∧
    ∃ segments, Segmentation source.lines segments ∧
      (∀ others, Segmentation source.lines others → others = segments) ∧
      ∀ policy,
        (ofSource policy source).blocks =
          segments.flatMap (Segment.blocks policy) ∧
        ((∃ earlier kind opener body,
          segments = earlier ++ [.unclosed kind opener body] ∧
            (∀ segment ∈ earlier, segment.IsClosed) ∧
            (ofSource policy source).diagnostics =
              [.unterminatedRegion kind
                (1 + (earlier.flatMap Segment.lines).length)]) ∨
          ((∀ segment ∈ segments, segment.IsClosed) ∧
            (ofSource policy source).diagnostics = [])) := by
  constructor
  · intro cut
    constructor
    · intro isCut
      exact isCut.eq_lines
    · intro same
      rw [same]
      exact Text.isCut_lines source
  · obtain ⟨segments, segmentation⟩ := Segmentation.exists_of_lines source.lines
    refine ⟨segments, segmentation, fun others other => other.unique segmentation, ?_⟩
    intro policy
    rw [segmentation.ofSource_eq]
    refine ⟨blocks_ofSegments policy 1 segments, ?_⟩
    rcases segmentation.isClosed_cases with
        ⟨earlier, kind, opener, body, rfl, closed⟩ | closed
    · exact .inl ⟨earlier, kind, opener, body, rfl, closed,
        diagnostics_ofSegments_unclosed closed policy 1 kind opener body⟩
    · exact .inr ⟨closed, diagnostics_ofSegments_of_isClosed closed policy 1⟩

end Document

end LiterateBook
