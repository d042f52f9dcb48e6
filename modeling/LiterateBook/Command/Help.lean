import LiterateBook.Command.Topic

/-!
# Help

Each topic has a page of help: what it is for, how it is used, and lists of its
commands, operands and options. A brief page says everything in a line and puts
the explanations of a list in one column; a full page puts them below what they
explain, with more to say.
-/

namespace LiterateBook

/-- How much a page of help says. -/
inductive Layout where
  | brief
  | full
  deriving DecidableEq

namespace Help

/-! ## Lists -/

/-- Something that is explained: briefly in one line, or fully in paragraphs of
lines. -/
structure Entry where
  label : String
  brief : String
  full : List (List String)

/-- An entry that is explained by the same line on either page. -/
def Entry.ofLine (label about : String) : Entry :=
  ⟨label, about, [[about]]⟩

/-- Entries with their explanations in one column. -/
def column (entries : List Entry) : Text :=
  let width := ((entries.map fun entry => entry.label.length).max?).getD 0
  entries.flatMap fun entry =>
    "  ".toList ++ List.rightpad width ' ' entry.label.toList ++ "  ".toList ++
      entry.brief.toList ++ ['\n']

/-- The lines of a paragraph below what it explains. -/
def paragraph (lines : List String) : Text :=
  lines.flatMap fun line => List.replicate 10 ' ' ++ line.toList ++ ['\n']

/-- Texts with an empty line between any two of them. -/
def spaced (texts : List Text) : Text :=
  ['\n'].intercalate texts

/-- Entries with their explanations below them. -/
def stack (entries : List Entry) : Text :=
  spaced (entries.map fun entry =>
    "  ".toList ++ entry.label.toList ++ '\n' ::
      spaced (entry.full.map paragraph))

/-- Entries as a layout arranges them. -/
def arrange : Layout → List Entry → Text
  | .brief => column
  | .full => stack

/-- A list under its heading, after an empty line; nothing when the list is
empty. -/
def list (heading : String) (arranged : List Entry → Text)
    (entries : List Entry) : Text :=
  if entries.isEmpty then []
  else '\n' :: heading.toList ++ ":\n".toList ++ arranged entries

/-! ## Entries -/

/-- What an option looks like: its letter, its word and the name of its
value. -/
def labelOf (flag : Flag) : String :=
  (match flag.letter? with
    | some letter => String.ofList ['-', letter, ',', ' ']
    | none => "    ") ++
  "--" ++ flag.word ++
  (match flag.value? with
    | some value => " <" ++ value ++ ">"
    | none => "")

/-- An option and its explanation. -/
def ofFlag (flag : Flag) : Entry :=
  match flag with
  | .diff =>
    .ofLine (labelOf flag) "Show a diff between the current and expected output"
  | .format =>
    ⟨labelOf flag,
      "Output format for the listing [default: text] [possible values: text, json]",
      [["Output format for the listing"],
        ["Possible values:",
          "- text: One line per block",
          "- json: A JSON object with `blocks` and `diagnostics` arrays",
          "",
          "[default: text]"]]⟩
  | .path =>
    .ofLine (labelOf flag)
      "Project root used to discover `litmd.toml`. Defaults to the current directory"
  | .verbose => .ofLine (labelOf flag) "Enable verbose output"
  | .noColour => .ofLine (labelOf flag) "Disable colored output"
  | .help =>
    ⟨labelOf flag, "Print help (see more with '--help')",
      [["Print help (see a summary with '-h')"]]⟩
  | .version => .ofLine (labelOf flag) "Print version"

/-- An operand and its explanation. -/
def ofOperand (operand : Operand) : Entry :=
  .ofLine ("<" ++ operand.name ++ ">") operand.about

/-- What a topic is for, in one line. -/
def summary : Topic → String
  | .program => "Publish literate source files as a markdown book."
  | .build =>
    "Translate every source file in a directory into one markdown file"
  | .check => "Check that a generated markdown file matches its sources"
  | .blocks => "List the blocks parsed from a single source file"
  | .help => "Print this message or the help of the given subcommand(s)"

/-- What a topic is for, in full. -/
def description : Topic → List String
  | .program =>
    ["litmd reads source files whose prose lives in `/*-` ... `-*/` comments and whose listings " ++
        "sit between //` markers, and renders them into one markdown document.",
      "",
      "Include other files with `//#include \"path\"` on a line of its own; the path is relative " ++
        "to the including file.",
      "",
      "Quick start:",
      "  litmd build src/chapter_01 build/book/chapter_01.md",
      "  litmd check src/chapter_01 build/book/chapter_01.md --diff",
      "  litmd blocks src/chapter_01/01_intro.kt"]
  | .build =>
    ["Translate every source file in a directory into one markdown file.",
      "",
      "Source files are the non-hidden files directly inside `SOURCE_DIR` that match the " ++
        "configured patterns (`*.kt` by default), processed in file-name order. Missing parent " ++
        "directories of `OUTPUT` are created."]
  | .check =>
    ["Check that a generated markdown file matches its sources.",
      "",
      "Exits with status 1 when the output is missing or stale. Nothing is written."]
  | .blocks => [summary .blocks]
  | .help => [summary .help]

/-- A command and what it is for. -/
def ofTopic (topic : Topic) : Entry :=
  .ofLine topic.name (summary topic)

/-! ## Pages -/

/-- How a topic is used. -/
def usage : Topic → String
  | .program => "litmd [OPTIONS] [COMMAND]"
  | .help => "litmd help [COMMAND]..."
  | topic =>
    "litmd " ++ topic.name ++ " [OPTIONS]" ++
      String.join (topic.operands.map fun operand => " <" ++ operand.name ++ ">")

/-- The lines that a page opens with. -/
def opening : Layout → Topic → List String
  | .brief, topic => [summary topic]
  | .full, topic => description topic

/-- The lists of a page. The page on help itself explains the names it takes,
and has nothing more to say in full. -/
def lists (layout : Layout) : Topic → Text
  | .help =>
    list "Arguments" column
      [.ofLine "[COMMAND]..." "Print help for the subcommand(s)"]
  | topic =>
    list "Commands" column
      (if topic = .program then Topic.commands.map ofTopic else []) ++
      list "Arguments" (arrange layout) (topic.operands.map ofOperand) ++
      list "Options" (arrange layout) (topic.flags.map ofFlag)

/-- The page of help on a topic. -/
def page (layout : Layout) (topic : Topic) : Text :=
  (opening layout topic).flatMap (fun line => line.toList ++ ['\n']) ++
    "\nUsage: ".toList ++ (usage topic).toList ++ '\n' :: lists layout topic

end Help

end LiterateBook
