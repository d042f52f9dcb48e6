import LiterateBook.FileSystem
import LiterateBook.Logged
import LiterateBook.Toml.Reader
import LiterateBook.Weaving

/-!
# Configuration

The settings of a book, and how they are found: the first of three candidate
files is read, and only that one. A document gives settings section by section;
what it leaves out keeps its default, and what it holds besides is ignored.
-/

namespace LiterateBook

/-- The settings of a book. -/
structure Config where
  options : RenderOptions
  blankPolicy : BlankPolicy
  /-- The patterns by which file names are sources. -/
  patterns : List Text
  deriving DecidableEq

namespace Config

/-- The settings that hold when nothing else is said. -/
def default : Config :=
  ⟨.default, .drop, ["*.kt".toList]⟩

/-- The weaver that the settings ask for. -/
def weaver (config : Config) : Weaver :=
  ⟨config.blankPolicy, config.options⟩

/-! ## Decoding

A section is a table, or an array that gives the fields in their order. Every
section here has one field, so that no more than the first element of such an
array is looked at. Everything else in a document is looked at, known or not,
and must be readable. -/

/-- The names of the sections. -/
def sections : List Text :=
  ["render".toList, "parse".toList, "sources".toList]

/-- Whether all that is looked at below a name of a document can be read. -/
def isReadable (name : Text) : Toml.Value → Bool
  | .array elements =>
    sections.contains name || (Toml.Value.array elements).isReadable
  | .tables elements =>
    sections.contains name || (Toml.Value.tables elements).isReadable
  | value => value.isReadable

/-- The value of the field of a section with one field; none when the section
leaves it out. The outer answer is none when the value is no section at all. -/
def field? (name : Text) : Toml.Value → Option (Option Toml.Value)
  | .table _ entries => some (entries.lookup name)
  | .array elements => some elements.head?
  | .tables elements => some (elements.head?.map (.table .header ·))
  | .scalar .moment => some none
  | .scalar _ => none

/-- The text that a value holds. -/
def text? : Toml.Value → Option Text
  | .scalar (.string text) => some text
  | _ => none

/-- Whether a value holds nothing, as the value beside the name of a policy
must. -/
def isUnit : Toml.Value → Bool
  | .table _ entries => entries.isEmpty
  | .array elements => elements.isEmpty
  | _ => false

/-- The policy of a name. -/
def policyOfName? (name : Text) : Option BlankPolicy :=
  if name = "drop".toList then some .drop
  else if name = "keep".toList then some .keep
  else none

/-- The policy that a value stands for: its name, or a table of its name with
nothing beside. -/
def policy? : Toml.Value → Option BlankPolicy
  | .scalar (.string name) => policyOfName? name
  | .table _ [(name, value)] =>
    if isUnit value then policyOfName? name else none
  | _ => none

/-- The texts that an array holds. -/
def texts? : Toml.Value → Option (List Text)
  | .array elements => elements.mapM text?
  | _ => none

/-- The setting that a section's field gives, with its default. -/
def setting? {α : Type} (entries : Toml.Entries) (table field : String)
    (decode : Toml.Value → Option α) (default : α) : Option α :=
  match entries.lookup table.toList with
  | none => some default
  | some value =>
    match field? field.toList value with
    | none => none
    | some none => some default
    | some (some value) => decode value

/-- The settings that the entries of a document give. -/
def ofEntries? (entries : Toml.Entries) : Option Config := do
  let language ← setting? entries "render" "fence_language" text?
      default.options.fenceLanguage
  let policy ← setting? entries "parse" "blank_lines" policy?
      default.blankPolicy
  let patterns ← setting? entries "sources" "patterns" texts? default.patterns
  if entries.all fun (name, value) => isReadable name value then
    some ⟨⟨language⟩, policy, patterns⟩
  else none

/-- The settings that a document gives. -/
def ofDocument? (document : Text) : Option Config :=
  (Toml.entries? document).bind ofEntries?

/-! ## Loading -/

/-- The places of a configuration below a root, the first one that is a file
wins. -/
def candidates : List Text :=
  ["litmd.toml".toList, ".litmd.toml".toList, ".config/litmd.toml".toList]

/-- The configuration file of a root. -/
def path? (fs : FileSystem) (root : Text) : Option Text :=
  (candidates.map (Path.join root)).find? fs.isFile

/-- The event of reading a configuration file. -/
def loadingEvent (path : Text) : Event :=
  ⟨.debug, .config, "loading config".toList, [("path", .plain path)]⟩

/-- The settings that a configuration file holds. -/
def loadFile (fs : FileSystem) (path : Text) : Logged Config := do
  .report (loadingEvent path)
  let document ← .ofExcept ((fs.readText path).mapError .io)
  match ofDocument? document with
  | some config => pure config
  | none => .ofExcept (.error .configParse)

/-- The settings of a root; none when it has no configuration file. -/
def load (fs : FileSystem) (root : Text) : Logged (Option Config) :=
  match path? fs root with
  | none => pure none
  | some path => do return some (← loadFile fs path)

/-- The settings of a root, or the default when it has no configuration file. -/
def loadOrDefault (fs : FileSystem) (root : Text) : Logged Config := do
  return (← load fs root).getD default

end Config

end LiterateBook
