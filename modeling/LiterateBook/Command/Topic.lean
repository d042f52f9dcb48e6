import LiterateBook.Text.White

/-!
# Topics of the command line

The command line has a level for the program itself and one for each command.
Each level is a topic: it has a name, operands, options, and a page of help.
What an option is called and whether it takes a value is the same in every
topic.
-/

namespace LiterateBook

/-! ## Options -/

/-- An option of the command line. -/
inductive Flag where
  | diff
  | format
  | path
  | verbose
  | noColour
  | help
  | version
  deriving DecidableEq

namespace Flag

/-- The letter that stands for an option after a single hyphen. -/
def letter? : Flag → Option Char
  | .path => some 'p'
  | .verbose => some 'v'
  | .help => some 'h'
  | .version => some 'V'
  | .diff | .format | .noColour => none

/-- The word that stands for an option after two hyphens. -/
def word : Flag → String
  | .diff => "diff"
  | .format => "format"
  | .path => "path"
  | .verbose => "verbose"
  | .noColour => "no-color"
  | .help => "help"
  | .version => "version"

/-- The name of the value that an option takes, if it takes one. -/
def value? : Flag → Option String
  | .format => some "FORMAT"
  | .path => some "PATH"
  | _ => none

end Flag

/-! ## Topics -/

/-- A value that a command takes by its position. -/
structure Operand where
  name : String
  about : String
  deriving DecidableEq

/-- The program itself or one of its commands. -/
inductive Topic where
  | program
  | build
  | check
  | blocks
  | help
  deriving DecidableEq

namespace Topic

/-- The word for a topic. -/
def name : Topic → String
  | .program => "litmd"
  | .build => "build"
  | .check => "check"
  | .blocks => "blocks"
  | .help => "help"

/-- The topics that are commands of the program. -/
def commands : List Topic :=
  [.build, .check, .blocks, .help]

/-- The command of a name. -/
def ofName? (name : Text) : Option Topic :=
  commands.find? fun topic => topic.name.toList = name

/-- The options of a topic, those of its own before those that hold
everywhere. -/
def flags : Topic → List Flag
  | .program => [.path, .verbose, .noColour, .help, .version]
  | .build => [.path, .verbose, .noColour, .help]
  | .check => [.diff, .path, .verbose, .noColour, .help]
  | .blocks => [.format, .path, .verbose, .noColour, .help]
  | .help => []

/-- The operands of a topic. Help takes the names of commands, any number of
them, and none of them is an operand in this sense. -/
def operands : Topic → List Operand
  | .program => []
  | .build =>
    [⟨"SOURCE_DIR", "Directory holding the chapter's source files"⟩,
      ⟨"OUTPUT", "Markdown file to write"⟩]
  | .check =>
    [⟨"SOURCE_DIR", "Directory holding the chapter's source files"⟩,
      ⟨"OUTPUT", "Previously generated markdown file"⟩]
  | .blocks => [⟨"FILE", "The source file to parse"⟩]
  | .help => []

/-- The option of a topic that a word stands for. -/
def flagOfWord? (topic : Topic) (word : Text) : Option Flag :=
  topic.flags.find? fun flag => flag.word.toList = word

/-- The option of a topic that a letter stands for. -/
def flagOfLetter? (topic : Topic) (letter : Char) : Option Flag :=
  topic.flags.find? fun flag => flag.letter? = some letter

end Topic

end LiterateBook
