import LiterateBook.Book
import LiterateBook.Command.Arguments
import LiterateBook.Command.Outcome
import LiterateBook.Config
import LiterateBook.Diff.Report
import LiterateBook.Listing

/-!
# Running commands

A run reads the arguments, loads the configuration and carries out the command.
Only building changes the file system.
-/

namespace LiterateBook

/-! ## What commands say -/

namespace Settings

/-- The root below which the configuration is looked for. -/
def root (settings : Settings) (fs : FileSystem) : Text :=
  settings.path.getD fs.currentDir

/-- What is said about the configuration when much is to be said. -/
def notice (settings : Settings) (fs : FileSystem) : List Message :=
  if settings.verbose then
    match Config.path? fs (settings.root fs) with
    | some path => [.text [.plain ("Using config: ".toList ++ path ++ ['\n'])]]
    | none =>
      [.text [.plain ("No config found in ".toList ++ settings.root fs ++
        ", using defaults\n".toList)]]
  else []

end Settings

namespace Command

/-- The outcome of an operation: what its answer leads to after its events, or
its failure. -/
def conclude {α : Type} (answer : Logged α) (next : α → Outcome) : Outcome :=
  Outcome.after (answer.events.map .event)
    (match answer.result with
      | .ok value => next value
      | .error failure => .silent (.failed failure))

/-- What is printed about a book that was written. -/
def written (output book : Text) : Outcome :=
  ⟨[.painted .green "Wrote".toList,
      .plain (' ' :: output ++ " (".toList ++ Text.decimal (Text.lines book).length ++
        " line(s))\n".toList)], [], .done⟩

/-- What is said of a file that is not what it should be. -/
def complaint (output : Text) (reason : String) : Message :=
  .text [.painted .red "✗".toList, .plain (' ' :: output ++ reason.toList ++ ['\n'])]

/-- How the file can be made what it should be. -/
def advice (sourceDir output : Text) : Message :=
  .text [.plain ("\nRun `litmd build ".toList ++ sourceDir ++ ' ' :: output ++
    "` to regenerate it.\n".toList)]

/-- What is printed and said about a comparison. -/
def compared (sourceDir : Text) (diff : Bool) (comparison : Book.Comparison) :
    Outcome :=
  let output := comparison.output
  if comparison.isCurrent then
    ⟨[.painted .green "✓".toList,
        .plain (' ' :: output ++ " is up to date.\n".toList)], [], .done⟩
  else
    let complaints :=
      match comparison.current with
      | none => [complaint output " does not exist."]
      | some current =>
        complaint output " is out of date." ::
          if diff then
            [.text (.plain ['\n'] :: Diff.report current comparison.expected)]
          else []
    ⟨[], complaints ++ [advice sourceDir output], .outdated⟩

/-- The event of having read a source. -/
def parsedEvent (file : Text) (document : Document) : Event :=
  ⟨.debug, .command, "parsed source".toList, [("path", .plain file),
    ("blocks", .number document.blocks.length),
    ("diagnostics", .number document.diagnostics.length)]⟩

/-- What is said about a diagnostic of a source. -/
def warning (file : Text) (diagnostic : Diagnostic) : Message :=
  .text [.painted .yellow "warning:".toList,
    .plain (' ' :: file ++ ": ".toList ++ diagnostic.message ++ ['\n'])]

/-- What is printed and said about the blocks of a source. -/
def listed (file : Text) (format : ListingFormat) (document : Document) :
    Outcome :=
  match format with
  | .json => ⟨[.plain (Listing.json document ++ ['\n'])], [], .done⟩
  | .text =>
    let listing :=
      if document.blocks.isEmpty then
        "No blocks found in ".toList ++ file ++ ".\n".toList
      else Listing.lines document.blocks
    ⟨[.plain listing], document.diagnostics.map (warning file), .done⟩

/-! ## Carrying out commands -/

/-- The document of a source file. -/
def readDocument (fs : FileSystem) (weaver : Weaver) (file : Text) :
    Logged Document := do
  let source ← .ofExcept ((fs.readText file).mapError .io)
  let document := weaver.document source
  ⟨document.events ++ [parsedEvent file document], .ok document⟩

/-- Carry out a command with a configuration. -/
def execute (fs : FileSystem) (config : Config) : Command → Outcome × FileSystem
  | .build sourceDir output =>
    let (answer, after) :=
      Book.build fs config.weaver config.patterns sourceDir output
    (conclude answer (written output), after)
  | .check sourceDir output diff =>
    (conclude (Book.check fs config.weaver config.patterns sourceDir output)
      (compared sourceDir diff), fs)
  | .blocks file format =>
    (conclude (readDocument fs config.weaver file) (listed file format), fs)

/-- Load the configuration and carry out a command with it. -/
def run (fs : FileSystem) (settings : Settings) (command : Command) :
    Outcome × FileSystem :=
  let loaded := Config.loadOrDefault fs (settings.root fs)
  let events := loaded.events.map .event
  match loaded.result with
  | .error failure => ((Outcome.silent (.failed failure)).after events, fs)
  | .ok config =>
    let (outcome, after) := command.execute fs config
    (outcome.after (events ++ settings.notice fs), after)

/-- Only building changes the file system. -/
theorem run_eq_of_not_build {command : Command}
    (harmless : ∀ dir output, command ≠ .build dir output) (fs : FileSystem)
    (settings : Settings) : (command.run fs settings).2 = fs := by
  unfold run
  cases Config.loadOrDefault fs (settings.root fs) with
  | mk events result =>
    cases result with
    | error failure => rfl
    | ok config =>
      cases command with
      | build dir output => exact absurd rfl (harmless dir output)
      | check dir output diff => rfl
      | blocks file format => rfl

end Command

end LiterateBook
