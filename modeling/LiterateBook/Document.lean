import LiterateBook.Block
import LiterateBook.Event
import LiterateBook.Marker
import LiterateBook.Text.Decimal
import LiterateBook.Text.Lines

/-!
# Documents

A document is what a literate source says: its blocks in order, a diagnostic for
a region that is never closed, and notes on where each block stands. It is read
line by line by an automaton that is outside every region or inside one of the
two kinds; only the closer of that kind leaves a region, so markers of the other
kind are content there.
-/

namespace LiterateBook

/-- What becomes of a blank line outside every region. -/
inductive BlankPolicy where
  /-- It leaves no block. -/
  | drop
  /-- It becomes a prose block of its own. -/
  | keep
  deriving DecidableEq

/-- The two kinds of region. -/
inductive RegionKind where
  | prose
  | code
  deriving DecidableEq

namespace RegionKind

/-- The word for a kind of region. -/
def name : RegionKind → String
  | .prose => "prose"
  | .code => "code"

/-- The marker that closes a region of this kind. -/
def closer : RegionKind → Marker
  | .prose => .proseClose
  | .code => .codeFence

/-- The block that a region with this body stands for. -/
def block : RegionKind → List Text → Block
  | .prose, body => .prose body
  | .code, body => .code (.ofLines body)

end RegionKind

/-- A remark on input that was accepted leniently. -/
inductive Diagnostic where
  /-- A region was still open at the end of the source and was closed there. -/
  | unterminatedRegion (kind : RegionKind) (line : Nat)
  deriving DecidableEq

namespace Diagnostic

/-- The wording of a diagnostic. -/
def message : Diagnostic → Text
  | .unterminatedRegion kind line =>
    kind.name.toList ++ " region opened on line ".toList ++ Text.decimal line ++
      " is never closed".toList

end Diagnostic

/-- Where a block of a document comes from, in line numbers counted from one. -/
inductive Note where
  | inclusion (line : Nat) (path : Text)
  | closed (kind : RegionKind) (opening closing : Nat)
  | unclosed (kind : RegionKind) (opening : Nat)
  deriving DecidableEq

namespace Note

/-- The event that reports a note. -/
def event : Note → Event
  | .inclusion line path =>
    ⟨.debug, .parser, "include directive".toList,
      [("line", .number line), ("path", .quoted path)]⟩
  | .closed .prose opening closing =>
    ⟨.debug, .parser, "prose block".toList,
      [("from", .number opening), ("to", .number closing)]⟩
  | .closed .code opening closing =>
    ⟨.debug, .parser, "code block".toList,
      [("from", .number opening), ("to", .number closing)]⟩
  | .unclosed .prose opening =>
    ⟨.warn, .parser, "prose region is never closed".toList,
      [("line", .number opening)]⟩
  | .unclosed .code opening =>
    ⟨.warn, .parser, "code region is never closed".toList,
      [("line", .number opening)]⟩

end Note

/-- What a literate source says. -/
structure Document where
  blocks : List Block
  diagnostics : List Diagnostic
  notes : List Note

namespace Document

/-- The document of a source without lines. -/
def empty : Document :=
  ⟨[], [], []⟩

instance : Append Document where
  append first second :=
    ⟨first.blocks ++ second.blocks, first.diagnostics ++ second.diagnostics,
      first.notes ++ second.notes⟩

@[simp] theorem blocks_append (first second : Document) :
    (first ++ second).blocks = first.blocks ++ second.blocks := rfl

@[simp] theorem diagnostics_append (first second : Document) :
    (first ++ second).diagnostics =
      first.diagnostics ++ second.diagnostics := rfl

@[simp] theorem notes_append (first second : Document) :
    (first ++ second).notes = first.notes ++ second.notes := rfl

/-- Where the reader stands between two lines: outside every region, or inside
one that was opened on a line, with the body read so far, last line first. -/
inductive State where
  | outside
  | inside (kind : RegionKind) (reversedBody : List Text) (opened : Nat)

namespace State

/-- What a line read outside every region adds, and where it leaves the
reader. -/
def stepOutside (policy : BlankPolicy) (number : Nat) (line : Text) :
    State × Document :=
  match Marker.ofLine line with
  | .inclusion path =>
    (.outside, ⟨[.inclusion path], [], [.inclusion number path]⟩)
  | .proseOpen => (.inside .prose [] number, empty)
  | .codeFence => (.inside .code [] number, empty)
  | .proseClose | .text =>
    if policy = .keep ∧ line.isBlank then (.outside, ⟨[.prose [line]], [], []⟩)
    else (.outside, empty)

/-- What a line adds to the document, and where it leaves the reader. -/
def step (policy : BlankPolicy) (number : Nat) (line : Text) :
    State → State × Document
  | .outside => stepOutside policy number line
  | .inside kind reversedBody opened =>
    if Marker.ofLine line = kind.closer then
      (.outside, ⟨[kind.block reversedBody.reverse], [],
        [.closed kind opened number]⟩)
    else (.inside kind (line :: reversedBody) opened, empty)

/-- What the end of the source adds: an open region is closed there and
reported. -/
def finish : State → Document
  | .outside => empty
  | .inside kind reversedBody opened =>
    ⟨[kind.block reversedBody.reverse], [.unterminatedRegion kind opened],
      [.unclosed kind opened]⟩

/-- Read lines, the first of which has the given number, from a state on. -/
def read (policy : BlankPolicy) (state : State) (number : Nat) :
    List Text → Document
  | [] => state.finish
  | line :: rest =>
    let (next, added) := state.step policy number line
    added ++ read policy next (number + 1) rest

@[simp] theorem read_nil (policy : BlankPolicy) (state : State) (number : Nat) :
    state.read policy number [] = state.finish := rfl

theorem read_cons (policy : BlankPolicy) (state : State) (number : Nat)
    (line : Text) (rest : List Text) :
    state.read policy number (line :: rest) =
      (state.step policy number line).2 ++
        (state.step policy number line).1.read policy (number + 1) rest := rfl

end State

/-- The document of a source. -/
def ofSource (policy : BlankPolicy) (source : Text) : Document :=
  State.outside.read policy 1 source.lines

/-- The events that report a document's notes, in order. -/
def events (document : Document) : List Event :=
  document.notes.map Note.event

@[simp] theorem ofSource_nil (policy : BlankPolicy) :
    ofSource policy [] = empty := rfl

end Document

end LiterateBook
