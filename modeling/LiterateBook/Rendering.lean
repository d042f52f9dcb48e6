import LiterateBook.Block
import LiterateBook.Text.Lines

/-!
# Rendering blocks

A block becomes lines of markdown. Prose stands as it is, code is moved to the
left margin and fenced, and an include is replaced by the lines that a resolver
supplies. A rendering records the paths it asked the resolver for, so that what
was asked is part of the answer.
-/

namespace LiterateBook

/-- What a resolver answers: the lines behind a path, or why there are none. -/
abbrev Resolver (ε : Type) :=
  Text → Except ε (List Text)

/-- Lines of output, or why there are none, with the paths asked on the way, in
order. -/
structure Rendering (ε : Type) where
  asked : List Text
  result : Except ε (List Text)

namespace Rendering

variable {ε : Type}

/-- A rendering that asks for nothing. -/
def ofLines (lines : List Text) : Rendering ε :=
  ⟨[], .ok lines⟩

/-- One rendering after another; when the first has no output, the second does
not take place. -/
def andThen (first second : Rendering ε) : Rendering ε :=
  match first.result with
  | .error failure => ⟨first.asked, .error failure⟩
  | .ok lines => ⟨first.asked ++ second.asked, second.result.map (lines ++ ·)⟩

/-- The output as one text. -/
def text (rendering : Rendering ε) : Except ε Text :=
  rendering.result.map List.flatten

end Rendering

/-- How blocks become markdown. -/
structure RenderOptions where
  /-- The language named after an opening fence. -/
  fenceLanguage : Text
  deriving DecidableEq

namespace RenderOptions

/-- The options that hold when nothing else is said. -/
def default : RenderOptions :=
  ⟨"kotlin".toList⟩

/-- The characters that open and close a fenced listing. -/
def fence : Text :=
  ['\x60', '\x60', '\x60']

/-- A listing: an empty line, the opening fence, the lines moved to the left
margin, the closing fence and an empty line. -/
def renderCode (options : RenderOptions) (block : CodeBlock) : List Text :=
  ['\n'] :: (fence ++ options.fenceLanguage ++ ['\n']) ::
    (Indent.stripAll block.lines block.minimumIndent ++ [fence ++ ['\n'], ['\n']])

variable {ε : Type}

/-- One block as lines of markdown. Lines a resolver supplies are not read
again. -/
def render (options : RenderOptions) (resolver : Resolver ε) :
    Block → Rendering ε
  | .prose lines => .ofLines lines
  | .code block => .ofLines (options.renderCode block)
  | .inclusion path => ⟨[path], resolver path⟩

/-- Blocks in order, up to the first that fails. -/
def renderAll (options : RenderOptions) (resolver : Resolver ε) :
    List Block → Rendering ε
  | [] => .ofLines []
  | block :: rest =>
    (options.render resolver block).andThen (renderAll options resolver rest)

end RenderOptions

end LiterateBook
