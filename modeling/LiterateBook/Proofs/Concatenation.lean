import LiterateBook.Proofs.AskedPaths

/-!
# Sources one after another

When a source ends a line, what follows it is read on from where it leaves the
reader. A source that leaves no region open says the same whatever follows it,
and what follows says what it says alone, further down. A source that leaves a
region open has its last block continued by what follows.
-/

namespace LiterateBook

namespace Document

open State

theorem ofSource_eq_pass (policy : BlankPolicy) (source : Text) :
    ofSource policy source =
      (outside.pass policy 1 source.lines).2 ++
        (outside.pass policy 1 source.lines).1.finish :=
  read_eq_pass policy outside 1 source.lines

/-- What follows a source that ends a line is read on from where the source
leaves the reader. -/
theorem ofSource_append_eq_read {first : Text} (ends : first.EndsLine)
    (policy : BlankPolicy) (second : Text) :
    ofSource policy (first ++ second) =
      (outside.pass policy 1 first.lines).2 ++
        (outside.pass policy 1 first.lines).1.read policy
          (1 + first.lines.length)
          second.lines := by
  rw [ofSource, Text.lines_append ends, read_append]

/-- Only the end of a source leads to diagnostics. -/
theorem diagnostics_ofSource (policy : BlankPolicy) (source : Text) :
    (ofSource policy source).diagnostics =
      (outside.pass policy 1 source.lines).1.finish.diagnostics := by
  rw [ofSource_eq_pass, diagnostics_append, diagnostics_pass, List.nil_append]

/-- Behind a source that leaves no region open, the next one says what it says
alone. -/
theorem ofSource_append_of_closed {policy : BlankPolicy} {first : Text}
    (ends : first.EndsLine) (closed : (ofSource policy first).diagnostics = [])
    (second : Text) :
    ofSource policy (first ++ second) =
      ofSource policy first ++
        (ofSource policy second).shift first.lines.length := by
  rw [diagnostics_ofSource] at closed
  rw [ofSource_append_eq_read ends, ofSource_eq_pass policy first]
  cases left : (outside.pass policy 1 first.lines).1 with
  | outside =>
      have moved := read_shift policy outside 1 first.lines.length second.lines
      rw [State.finish, append_empty]
      exact congrArg (_ ++ ·) moved
  | inside kind reversedBody opened =>
      rw [left] at closed
      cases closed

/-- Behind a source that leaves a region open, the next one first completes that
region. -/
theorem ofSource_append_of_unterminated {policy : BlankPolicy} {first : Text}
    (ends : first.EndsLine) {kind : RegionKind} {line : Nat}
    (unterminated : .unterminatedRegion kind line ∈
      (ofSource policy first).diagnostics)
    (second : Text) :
    ∃ earlier body more later,
      (ofSource policy first).blocks = earlier ++ [kind.block body] ∧
      (ofSource policy (first ++ second)).blocks =
        earlier ++ kind.block (body ++ more) :: later ∧
      ∀ diagnostic ∈ (ofSource policy (first ++ second)).diagnostics,
        diagnostic = .unterminatedRegion kind line ∨
          first.lines.length < diagnostic.line := by
  rw [diagnostics_ofSource] at unterminated
  rw [ofSource_append_eq_read ends, ofSource_eq_pass policy first]
  cases left : (outside.pass policy 1 first.lines).1 with
  | outside =>
      rw [left] at unterminated
      cases unterminated
  | inside other reversedBody opened =>
      rw [left] at unterminated
      cases List.mem_singleton.1 unterminated
      rcases closer_cases kind second.lines with
        unmarked | ⟨body, closer, rest, split, unmarked, closes⟩
      · rw [read_inside_of_unmarked unmarked]
        refine ⟨_, reversedBody.reverse, second.lines, [], rfl, rfl, ?_⟩
        intro diagnostic member
        rw [diagnostics_append, diagnostics_pass, List.nil_append] at member
        exact .inl (List.mem_singleton.1 member)
      · rw [split, read_inside_of_closer unmarked closes]
        refine ⟨_, reversedBody.reverse, body, _, rfl, rfl, ?_⟩
        intro diagnostic member
        rw [diagnostics_append, diagnostics_append, diagnostics_pass,
          List.nil_append, List.nil_append] at member
        have behind := le_line_of_mem_diagnostics member
        right
        omega

end Document

namespace Weaver

variable {ε : Type}

/-- Sources whose blocks follow each other are woven one after the other. -/
theorem weave_of_blocks_append (weaver : Weaver) {whole first second : Text}
    (blocks : (weaver.document whole).blocks =
      (weaver.document first).blocks ++ (weaver.document second).blocks)
    (resolver : Resolver ε) :
    weaver.weave resolver whole =
      (weaver.weave resolver first).andThen (weaver.weave resolver second) := by
  rw [weave, blocks, RenderOptions.renderAll_append]
  rfl

end Weaver

/-- A source that ends a line, followed by another. When the first leaves no
region open, blocks and output of the two follow each other, the first failure
counts, and the diagnostics of the second stand further down by the lines of the
first. When it leaves a region open, only its last block is continued, and
nothing is said about its lines but that the region may still be
unterminated. -/
theorem Document.ofSource_append {first : Text} (ends : first.EndsLine)
    (second : Text) (policy : BlankPolicy) :
    ((ofSource policy first).diagnostics = [] →
      (ofSource policy (first ++ second)).blocks =
        (ofSource policy first).blocks ++ (ofSource policy second).blocks ∧
      (ofSource policy (first ++ second)).diagnostics =
        (ofSource policy second).diagnostics.map
          (Diagnostic.shift first.lines.length) ∧
      ∀ {ε : Type} (options : RenderOptions) (resolver : Resolver ε),
        ((Weaver.mk policy options).weave resolver (first ++ second)).result =
          match ((Weaver.mk policy options).weave resolver first).result,
            ((Weaver.mk policy options).weave resolver second).result with
          | .ok lines, .ok more => .ok (lines ++ more)
          | .error failure, _ => .error failure
          | .ok _, .error failure => .error failure) ∧
    (∀ kind line, .unterminatedRegion kind line ∈
      (ofSource policy first).diagnostics →
      ∃ earlier body more later,
        (ofSource policy first).blocks = earlier ++ [kind.block body] ∧
        (ofSource policy (first ++ second)).blocks =
          earlier ++ kind.block (body ++ more) :: later ∧
        ∀ diagnostic ∈ (ofSource policy (first ++ second)).diagnostics,
          diagnostic = .unterminatedRegion kind line ∨
            first.lines.length < diagnostic.line) := by
  constructor
  · intro closed
    have whole := ofSource_append_of_closed ends closed second
    have blocks : (ofSource policy (first ++ second)).blocks =
        (ofSource policy first).blocks ++ (ofSource policy second).blocks := by
      rw [whole]
      rfl
    refine ⟨blocks, ?_, ?_⟩
    · rw [whole, diagnostics_append, closed]
      rfl
    · intro ε options resolver
      have woven := Weaver.weave_of_blocks_append ⟨policy, options⟩
        blocks resolver
      rw [woven]
      cases before :
        ((Weaver.mk policy options).weave resolver first).result with
      | error failure => rw [Rendering.andThen_of_error before, before]
      | ok lines =>
          rw [Rendering.andThen_of_ok before]
          cases ((Weaver.mk policy options).weave resolver second).result <;>
            rfl
  · intro kind line unterminated
    exact ofSource_append_of_unterminated ends unterminated second

/-- An open listing behind a closed region, and the same listing in front of its
closer. -/
theorem Document.ofSource_append_example :
    let closed : Text := "/*-\nx\n-*/\n".toList
    let opened : Text := "//`\n".toList
    let second : Text := "y\n//`\n".toList
    (closed.EndsLine ∧ (ofSource .keep closed).diagnostics = [] ∧
      (ofSource .keep (closed ++ opened)).blocks =
        (ofSource .keep closed).blocks ++ (ofSource .keep opened).blocks ∧
      (ofSource .keep (closed ++ opened)).diagnostics =
        [.unterminatedRegion .code 4]) ∧
    (opened.EndsLine ∧
      .unterminatedRegion .code 1 ∈ (ofSource .keep opened).diagnostics ∧
      ∃ earlier body more later,
        (ofSource .keep opened).blocks = earlier ++ [.code (.ofLines body)] ∧
        (ofSource .keep (opened ++ second)).blocks =
          earlier ++ .code (.ofLines (body ++ more)) :: later) := by
  have silent : (ofSource .keep "/*-\nx\n-*/\n".toList).diagnostics = [] := by
    decide +kernel
  have unterminated : (ofSource .keep "//`\n".toList).diagnostics =
      [.unterminatedRegion .code 1] := by
    decide +kernel
  intro closed opened second
  have closedEnds : closed.EndsLine := by decide
  have openedEnds : opened.EndsLine := by decide
  have apart := (ofSource_append closedEnds opened .keep).1 silent
  have member : .unterminatedRegion .code 1 ∈
      (ofSource .keep opened).diagnostics := by
    rw [unterminated]
    exact List.mem_singleton_self _
  obtain ⟨earlier, body, more, later, before, after, -⟩ :=
    (ofSource_append openedEnds second .keep).2 .code 1 member
  refine ⟨⟨closedEnds, silent, apart.1, ?_⟩, openedEnds, member, earlier, body,
    more, later, before, after⟩
  rw [apart.2.1, unterminated]
  decide

end LiterateBook
