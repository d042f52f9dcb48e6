import LiterateBook.Proofs.MarkerLines
import LiterateBook.Proofs.Passage
import LiterateBook.Weaving

/-!
# Text that nobody reads

What stands behind a marker, in front of it, or on lines outside every region is
not read. Which lines these are depends on where the reader stands, so two
sources are compared along the run on one of them: lines that become content
have to be the same, and of any other line only the part it plays counts.
-/

namespace LiterateBook

namespace Marker

/-- Lines that play the same part and are both blank or both not. -/
def SamePart (line other : Text) : Prop :=
  ofLine other = ofLine line ∧ other.isBlank = line.isBlank

instance (line other : Text) : Decidable (SamePart line other) :=
  inferInstanceAs (Decidable (_ ∧ _))

/-! ## What a part does not depend on -/

theorem ofLine_indented {indent : Text} (white : indent.isBlank = true)
    (line : Text) :
    ofLine (indent ++ line) = ofLine line := by
  have trimmed : Text.trimStart (indent ++ line) = Text.trimStart line :=
    List.dropWhile_append_of_pos (List.all_eq_true.1 white)
  rw [ofLine, ofLine, trimmed]

theorem isBlank_indented {indent : Text} (white : indent.isBlank = true)
    (line : Text) :
    Text.isBlank (indent ++ line) = line.isBlank := by
  rw [Text.isBlank_append, white, Bool.true_and]

theorem SamePart.indented {line other indent otherIndent : Text}
    (same : SamePart line other) (white : indent.isBlank = true)
    (alsoWhite : otherIndent.isBlank = true) :
    SamePart (indent ++ line) (otherIndent ++ other) := by
  rw [SamePart, ofLine_indented white, ofLine_indented alsoWhite,
    isBlank_indented white, isBlank_indented alsoWhite]
  exact same

/-- How the markers are spelled that need nothing behind them. -/
def spelling? : Marker → Option Text
  | .proseOpen => some "/*-".toList
  | .proseClose => some "-*/".toList
  | .codeFence => some "//`".toList
  | .inclusion _ | .text => none

/-- Such a marker is one whatever follows it. -/
theorem ofLine_spelling {marker : Marker} {spelling : Text}
    (spelled : marker.spelling? = some spelling) (tail : Text) :
    ofLine (spelling ++ tail) = marker := by
  cases marker with
  | inclusion path | text => cases spelled
  | proseOpen | proseClose | codeFence =>
      cases spelled
      apply ofLine_eq_ofStart
      intro rest included
      cases included

theorem isBlank_spelling {marker : Marker} {spelling : Text}
    (spelled : marker.spelling? = some spelling) (tail : Text) :
    Text.isBlank (spelling ++ tail) = false := by
  cases marker with
  | inclusion path | text => cases spelled
  | proseOpen | proseClose | codeFence =>
      cases spelled
      rfl

theorem samePart_spelling {marker : Marker} {spelling : Text}
    (spelled : marker.spelling? = some spelling) (tail other : Text) :
    SamePart (spelling ++ tail) (spelling ++ other) := by
  rw [SamePart, ofLine_spelling spelled, ofLine_spelling spelled,
    isBlank_spelling spelled, isBlank_spelling spelled]
  exact ⟨rfl, rfl⟩

end Marker

namespace Document

namespace State

open Marker

/-! ## Lines in place of others -/

/-- A line that may be replaced by another where a reader stands. Content has to
stay as it is, and so has a blank line outside every region that is kept; of
other lines their part has to stay. -/
def Alike (policy : BlankPolicy) (line other : Text) : State → Prop
  | .outside =>
    SamePart line other ∧ (policy = .keep → line.isBlank = true → other = line)
  | .inside kind _ _ =>
    if ofLine line = kind.closer then SamePart line other else other = line

instance (policy : BlankPolicy) (line other : Text) :
    (state : State) → Decidable (state.Alike policy line other)
  | .outside => inferInstanceAs (Decidable
      (SamePart line other ∧
        (policy = .keep → line.isBlank = true → other = line)))
  | .inside kind _ _ => inferInstanceAs (Decidable
      (if ofLine line = kind.closer then SamePart line other else other = line))

/-- Lines that may be replaced one by one by others, along the run on the first
ones. -/
def AlikeFrom (policy : BlankPolicy) (state : State) (number : Nat) :
    List Text → List Text → Prop
  | [], [] => True
  | line :: rest, other :: others =>
    state.Alike policy line other ∧
      AlikeFrom policy (state.step policy number line).1 (number + 1)
        rest others
  | _, _ => False

instance decidableAlikeFrom (policy : BlankPolicy) :
    (state : State) → (number : Nat) → (lines others : List Text) →
      Decidable (state.AlikeFrom policy number lines others)
  | _, _, [], [] => isTrue trivial
  | _, _, [], _ :: _ => isFalse id
  | _, _, _ :: _, [] => isFalse id
  | state, number, line :: rest, _ :: others =>
    have := decidableAlikeFrom policy (state.step policy number line).1
      (number + 1) rest others
    inferInstanceAs (Decidable (_ ∧ _))

/-- Replacing a line makes no difference to what it adds and to where it leaves
the reader. -/
theorem step_of_alike {policy : BlankPolicy} {line other : Text} {state : State}
    (alike : state.Alike policy line other) (number : Nat) :
    state.step policy number other = state.step policy number line := by
  cases state.encounters line with
  | inclusion marked =>
      obtain ⟨⟨same, -⟩, -⟩ := alike
      rw [step_inclusion marked, step_inclusion (same.trans marked)]
  | opener marked =>
      obtain ⟨⟨same, -⟩, -⟩ := alike
      rw [step_opener marked, step_opener (same.trans marked)]
  | hidden marked =>
      obtain ⟨⟨same, blank⟩, kept⟩ := alike
      rw [step_hidden marked, step_hidden (same ▸ marked), blank]
      by_cases visible : policy = .keep ∧ line.isBlank = true
      · rw [kept visible.1 visible.2]
      · rw [if_neg visible, if_neg visible]
  | closer marked =>
      rw [Alike, if_pos marked] at alike
      rw [step_closer marked, step_closer (alike.1.trans marked)]
  | content unmarked =>
      rw [Alike, if_neg unmarked] at alike
      rw [alike]

/-- Replacing lines along the run makes no difference to the document. -/
theorem read_of_alikeFrom {policy : BlankPolicy} {state : State} {number : Nat}
    {lines others : List Text}
    (alike : state.AlikeFrom policy number lines others) :
    state.read policy number others = state.read policy number lines := by
  induction lines generalizing state number others with
  | nil =>
      cases others with
      | nil => rfl
      | cons other others => exact alike.elim
  | cons line rest ih =>
      cases others with
      | nil => exact alike.elim
      | cons other others =>
          obtain ⟨first, later⟩ := alike
          rw [read_cons, read_cons, step_of_alike first, ih later]

/-- Lines that may be put in place of each other wherever the first of them is
not content. -/
def Interchangeable (line other : Text) : Prop :=
  ∀ policy, outside.Alike policy line other ∧
    ∀ kind reversedBody opened, ofLine line = kind.closer →
      (inside kind reversedBody opened).Alike policy line other

theorem interchangeable_of_samePart {line other : Text}
    (same : SamePart line other) (visible : line.isBlank = false) :
    Interchangeable line other := by
  intro policy
  constructor
  · refine ⟨same, ?_⟩
    intro _ blank
    rw [visible] at blank
    cases blank
  · intro kind reversedBody opened closes
    rw [Alike, if_pos closes]
    exact same

end State

/-- Sources that are alike along the run on the first of them give the same
document and, whatever the options and the resolver, the same weaving. Lines
that are not content may differ in their indentation and in what stands behind a
marker, and lines of text that are not blank may differ in everything. -/
theorem ofSource_of_alike :
    (∀ (policy : BlankPolicy) (source other : Text),
      State.outside.AlikeFrom policy 1 source.lines other.lines →
      ofSource policy other = ofSource policy source ∧
      ∀ {ε : Type} (options : RenderOptions) (resolver : Resolver ε),
        (Weaver.mk policy options).weave resolver other =
          (Weaver.mk policy options).weave resolver source) ∧
    (∀ indent otherIndent line : Text, indent.isBlank = true →
      otherIndent.isBlank = true →
      line.isBlank = false →
      State.Interchangeable (indent ++ line) (otherIndent ++ line)) ∧
    (∀ (marker : Marker) (spelling : Text), marker.spelling? = some spelling →
      ∀ indent otherIndent tail otherTail : Text,
        indent.isBlank = true → otherIndent.isBlank = true →
        State.Interchangeable (indent ++ (spelling ++ tail))
          (otherIndent ++ (spelling ++ otherTail))) ∧
    ∀ line other : Text, Marker.ofLine line = .text →
      Marker.ofLine other = .text →
      line.isBlank = false → other.isBlank = false →
        State.Interchangeable line other := by
  refine ⟨?_, ?_, ?_, ?_⟩
  · intro policy source other alike
    have same : ofSource policy other = ofSource policy source :=
      State.read_of_alikeFrom alike
    refine ⟨same, ?_⟩
    intro ε options resolver
    rw [Weaver.weave, Weaver.weave, Weaver.document, Weaver.document, same]
  · intro indent otherIndent line white alsoWhite visible
    have same : Marker.SamePart line line := ⟨rfl, rfl⟩
    apply State.interchangeable_of_samePart (same.indented white alsoWhite)
    rwa [Marker.isBlank_indented white]
  · intro marker spelling spelled indent otherIndent tail otherTail
      white alsoWhite
    have same := Marker.samePart_spelling spelled tail otherTail
    apply State.interchangeable_of_samePart (same.indented white alsoWhite)
    rw [Marker.isBlank_indented white, Marker.isBlank_spelling spelled]
  · intro line other text alsoText visible alsoVisible
    apply State.interchangeable_of_samePart _ visible
    exact ⟨alsoText.trans text.symm, alsoVisible.trans visible.symm⟩

/-- A source with every kind of line, and one that differs from it wherever it
may. -/
theorem ofSource_of_alike_example :
    let source : Text :=
      "note\n \n/*- a\n b\n-*/ c\n//#include \"d\"\n-*/\n//`\n/*-\n  //`".toList
    let other : Text :=
      "else\n \n\t/*-\n b\n  -*/\n //#include\t\"d\" \n -*/ -\n//`x\n/*-\n//` y\n".toList
    State.outside.AlikeFrom .keep 1 source.lines other.lines ∧
      ofSource .keep other = ofSource .keep source ∧
      (∀ resolver : Resolver Text, (Weaver.mk .keep .default).weave resolver other =
        (Weaver.mk .keep .default).weave resolver source) ∧
      Text.isBlank " ".toList = true ∧
      Text.isBlank "//#include \"d\"\n".toList = false ∧
      State.Interchangeable "//#include \"d\"\n".toList
        " //#include \"d\"\n".toList ∧
      Marker.codeFence.spelling? = some "//`".toList ∧
      State.Interchangeable "//` y\n".toList " //`".toList ∧
      Marker.ofLine "note\n".toList = .text ∧
      Marker.ofLine "else\n".toList = .text ∧
      Text.isBlank "note\n".toList = false ∧
      Text.isBlank "else\n".toList = false ∧
      State.Interchangeable "note\n".toList "else\n".toList := by
  intro source other
  have alike : State.outside.AlikeFrom .keep 1 source.lines other.lines := by
    decide +kernel
  have blank : Text.isBlank " ".toList = true := by decide
  have visible : Text.isBlank "//#include \"d\"\n".toList = false := by decide
  have spelled : Marker.codeFence.spelling? = some "//`".toList := rfl
  have noteText : Marker.ofLine "note\n".toList = .text := by decide +kernel
  have elseText : Marker.ofLine "else\n".toList = .text := by decide +kernel
  have noteVisible : Text.isBlank "note\n".toList = false := by decide
  have elseVisible : Text.isBlank "else\n".toList = false := by decide
  have same := ofSource_of_alike.1 .keep source other alike
  have indented := ofSource_of_alike.2.1 [] " ".toList _ rfl blank visible
  have marker := ofSource_of_alike.2.2.1 .codeFence _ spelled [] " ".toList
    " y\n".toList []
    rfl blank
  have text := ofSource_of_alike.2.2.2 _ _ noteText elseText noteVisible
    elseVisible
  exact ⟨alike, same.1, fun resolver => same.2 .default resolver, blank,
    visible, indented, spelled,
    marker, noteText, elseText, noteVisible, elseVisible, text⟩

end Document

end LiterateBook
