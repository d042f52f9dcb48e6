import LiterateBook.Document
import LiterateBook.Listing.Json

/-!
# Listings

A document can be listed in two ways: one line for each block, or one JSON
document that holds every block and every diagnostic as they are.
-/

namespace LiterateBook

namespace Listing

/-! ## One line for each block -/

/-- What is said of a block. -/
def describe : Block → Text
  | .prose lines =>
    "prose    ".toList ++ Text.decimal lines.length ++ " line(s)".toList
  | .code block =>
    "code     ".toList ++ Text.decimal block.lines.length ++
      " line(s), indent ".toList ++
      Text.decimal block.minimumIndent
  | .inclusion path => "include  ".toList ++ path

/-- One numbered line for each block, counted from the number given. -/
def linesFrom (number : Nat) : List Block → Text
  | [] => []
  | block :: rest =>
    Text.decimalRight 3 number ++ [' ', ' '] ++ describe block ++
      '\n' :: linesFrom (number + 1) rest

/-- One numbered line for each block. -/
def lines (blocks : List Block) : Text :=
  linesFrom 1 blocks

/-! ## One JSON document -/

/-- A list of texts as an array of strings. -/
def ofLines (lines : List Text) : Json :=
  .array (lines.map .string)

/-- A block as an object that names its kind first. -/
def ofBlock (block : Block) : Json :=
  .object (("type".toList, .string block.kind.toList) ::
    match block with
    | .prose lines => [("lines".toList, ofLines lines)]
    | .code code => [("lines".toList, ofLines code.lines)]
    | .inclusion path => [("path".toList, .string path)])

/-- A diagnostic as an object with its parts and its wording. -/
def ofDiagnostic (diagnostic : Diagnostic) : Json :=
  match diagnostic with
  | .unterminatedRegion kind line =>
    .object [("diagnostic".toList, .object [("UnterminatedRegion".toList,
        .object [("kind".toList, .string kind.name.toList),
          ("line".toList, .number line)])]),
      ("message".toList, .string diagnostic.message)]

/-- The blocks and the diagnostics of a document as one object. -/
def ofDocument (document : Document) : Json :=
  .object [("blocks".toList, .array (document.blocks.map ofBlock)),
    ("diagnostics".toList, .array (document.diagnostics.map ofDiagnostic))]

/-- The blocks and the diagnostics of a document as one JSON document. -/
def json (document : Document) : Text :=
  (ofDocument document).pretty 0

end Listing

end LiterateBook
