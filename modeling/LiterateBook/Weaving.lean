import LiterateBook.Document
import LiterateBook.Rendering

/-!
# Weaving sources

A weaver reads a literate source into a document and renders its blocks. It
keeps nothing between sources, so one weaver serves a whole book.
-/

namespace LiterateBook

/-- How sources are read and how their blocks are rendered. -/
structure Weaver where
  blankPolicy : BlankPolicy
  options : RenderOptions
  deriving DecidableEq

namespace Weaver

/-- The weaver that drops blank lines outside regions and has the default
options. -/
def default : Weaver :=
  ⟨.drop, .default⟩

/-- The document of a source. -/
def document (weaver : Weaver) (source : Text) : Document :=
  .ofSource weaver.blankPolicy source

variable {ε : Type}

/-- The output lines of a source, up to the first include that fails. -/
def weave (weaver : Weaver) (resolver : Resolver ε) (source : Text) :
    Rendering ε :=
  weaver.options.renderAll resolver (weaver.document source).blocks

/-- The output of a source as one text. -/
def weaveToText (weaver : Weaver) (resolver : Resolver ε) (source : Text) :
    Except ε Text :=
  (weaver.weave resolver source).text

end Weaver

end LiterateBook
