import LiterateBook.Command.Run

/-!
# The program

A run of the program: the arguments ask for a page of help, for the version or
for a command, and the surroundings say how what comes of it is shown.
-/

namespace LiterateBook

namespace Program

/-- What the program is called and which version of it this is. -/
def version : Text :=
  "litmd_cli 0.1.0\n".toList

/-- The surroundings that a run depends on beside its arguments and the file
system. -/
structure Environment where
  /-- Colour is not wanted. -/
  noColour : Bool
  /-- Which events are wanted, if anything is said about it. -/
  logFilter : Option Text
  deriving DecidableEq

/-- How a run with these settings is shown: with colour unless it is not wanted,
and with all events down to the debug level, those that are wanted, or warnings
only. -/
def display (environment : Environment) (settings : Settings) : Display :=
  ⟨!settings.noColour && !environment.noColour,
    if settings.verbose then .upTo .debug
    else (environment.logFilter.bind LogFilter.ofText?).getD (.upTo .warn)⟩

/-- The outcome when no command is run. -/
def interrupted : Interruption → Outcome
  | .page layout topic => ⟨[.plain (Help.page layout topic)], [], .done⟩
  | .version => ⟨[.plain version], [], .done⟩
  | .misuse => .silent .misused

/-- The outcome when no command is given. -/
def idle : Outcome :=
  ⟨[], [.text
    [.plain "No subcommand specified. Run `litmd --help` for usage.\n".toList]],
    .idle⟩

/-- Run the program: what it leaves behind, how that is shown, and the file
system afterwards. -/
def run (fs : FileSystem) (environment : Environment) (arguments : List Text) :
    Outcome × Display × FileSystem :=
  match Arguments.read arguments with
  | .error interruption => (interrupted interruption, .bare, fs)
  | .ok (settings, none) => (idle, display environment settings, fs)
  | .ok (settings, some command) =>
    let (outcome, after) := command.run fs settings
    (outcome, display environment settings, after)

end Program

end LiterateBook
