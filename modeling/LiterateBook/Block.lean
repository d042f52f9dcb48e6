import LiterateBook.Indent

/-!
# Blocks

A block is a unit of a parsed source: lines of prose, lines of code, or a
reference to lines that live elsewhere. A code block remembers its minimum
indent once it has been measured; the memo takes no part in equality, in
listings or in rendering.
-/

namespace LiterateBook

/-- Lines of code, each with its terminator, and the minimum indent if it was
measured before. -/
structure CodeBlock where
  lines : List Text
  memo : Option Nat

namespace CodeBlock

/-- A code block that was not measured yet. -/
def ofLines (lines : List Text) : CodeBlock :=
  ⟨lines, none⟩

/-- The smallest indentation among the lines that are not blank, from the memo
when there is one. -/
def minimumIndent (block : CodeBlock) : Nat :=
  block.memo.getD (Indent.minimum block.lines)

/-- The block with its minimum indent remembered. -/
def measured (block : CodeBlock) : CodeBlock :=
  { block with memo := some block.minimumIndent }

/-- Two code blocks are equal when their lines are; the memo has no say. -/
instance : BEq CodeBlock where
  beq first second := first.lines == second.lines

@[simp] theorem lines_ofLines (lines : List Text) :
    (ofLines lines).lines = lines := rfl

@[simp] theorem lines_measured (block : CodeBlock) :
    block.measured.lines = block.lines := rfl

@[simp] theorem minimumIndent_ofLines (lines : List Text) :
    (ofLines lines).minimumIndent = Indent.minimum lines := rfl

@[simp] theorem minimumIndent_measured (block : CodeBlock) :
    block.measured.minimumIndent = block.minimumIndent := rfl

theorem beq_eq_true_iff {first second : CodeBlock} :
    (first == second) = true ↔ first.lines = second.lines := by
  show (first.lines == second.lines) = true ↔ _
  exact beq_iff_eq

end CodeBlock

/-- A unit of a parsed source, in source order. -/
inductive Block where
  | prose (lines : List Text)
  | code (block : CodeBlock)
  | inclusion (path : Text)
  deriving BEq

namespace Block

/-- The word for a block's kind in listings. -/
def kind : Block → String
  | .prose _ => "prose"
  | .code _ => "code"
  | .inclusion _ => "include"

/-- The paths of the include blocks, in block order. -/
def paths : List Block → List Text :=
  List.filterMap fun
    | .inclusion path => some path
    | _ => none

end Block

end LiterateBook
