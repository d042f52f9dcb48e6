import LiterateBook.Command
import LiterateBook.Command.Help

/-!
# Arguments

The arguments of the command line are read one by one by an automaton. At the
level of the program it takes options until the name of a command comes; from
there on it takes the options and operands of that command. A request for help
or for the version is met when it is reached, whatever follows it.

The value of an option that stands in an argument of its own is taken up when
the next option or operand of the same level comes, or at the end. So a fault in
it does not stand in the way of a request for help on the command that follows.
-/

namespace LiterateBook

/-- Why no command is run. -/
inductive Interruption where
  | page (layout : Layout) (topic : Topic)
  | version
  /-- The arguments do not fit the command line. -/
  | misuse
  deriving DecidableEq

/-! ## Reading one level -/

/-- The value that is outstanding for an option. -/
inductive Outstanding where
  | nothing
  /-- The next argument is the value of the option. -/
  | valueOf (flag : Flag)
  /-- The value came in an argument of its own and has not been taken up. -/
  | value (flag : Flag) (text : Text)
  deriving DecidableEq

/-- Where the reading of one level stands. -/
structure Reading where
  topic : Topic
  /-- The options that were taken up, with their values. -/
  given : List (Flag × Text)
  operands : List Text
  outstanding : Outstanding
  /-- After two lone hyphens every argument is an operand. -/
  literal : Bool
  deriving DecidableEq

namespace Reading

/-- The start of a level. -/
def start (topic : Topic) : Reading :=
  ⟨topic, [], [], .nothing, false⟩

/-- Whether an option can have a value. -/
def suits (value : Text) : Flag → Bool
  | .path => value ≠ []
  | .format => (ListingFormat.ofName? value).isSome
  | _ => true

/-- Take up an option. It may be given once at a level. -/
def take (reading : Reading) (flag : Flag) (value : Text) :
    Except Interruption Reading :=
  if (reading.given.lookup flag).isSome || !suits value flag then .error .misuse
  else .ok { reading with given := (flag, value) :: reading.given }

/-- Take up what is outstanding. -/
def settle (reading : Reading) : Except Interruption Reading :=
  match reading.outstanding with
  | .nothing => .ok reading
  | .valueOf _ => .error .misuse
  | .value flag value =>
    { reading with outstanding := .nothing }.take flag value

/-- Take up an option without a value, or meet the request it stands for. A
letter asks for the brief page of help, a word for the full one. -/
def raise (reading : Reading) (layout : Layout) (flag : Flag) :
    Except Interruption Reading := do
  let settled ← reading.settle
  match flag with
  | .help => .error (.page layout reading.topic)
  | .version => .error .version
  | flag => settled.take flag []

/-- Take an option that takes a value: take it up with the value attached to it,
or wait for the value. -/
def await (reading : Reading) (flag : Flag) (attached : Option Text) :
    Except Interruption Reading := do
  let settled ← reading.settle
  match attached with
  | some value => settled.take flag value
  | none => .ok { settled with outstanding := .valueOf flag }

/-- Take an option given by its word, perhaps with a value after an equals
sign. -/
def takeWord (reading : Reading) (argument : Text) :
    Except Interruption Reading :=
  let attached :=
    match argument.dropWhile (· ≠ '=') with
    | [] => none
    | _ :: value => some value
  match reading.topic.flagOfWord? (argument.takeWhile (· ≠ '=')) with
  | none => .error .misuse
  | some flag =>
    if flag.value?.isSome then reading.await flag attached
    else if attached.isSome then .error .misuse
    else reading.raise .full flag

/-- The value attached to a letter: what follows it, without an equals sign in
front. -/
def attachedTo : Text → Option Text
  | [] => none
  | '=' :: value => some value
  | value => some value

/-- Take options given by their letters. What follows the letter of an option
that takes a value is its value. -/
def takeLetters (reading : Reading) : Text → Except Interruption Reading
  | [] => .ok reading
  | letter :: rest =>
    match reading.topic.flagOfLetter? letter with
    | none => .error .misuse
    | some flag =>
      if flag.value?.isSome then reading.await flag (attachedTo rest)
      else do takeLetters (← reading.raise .brief flag) rest

/-- Take an operand. A level takes no more operands than it has, and no empty
one. -/
def takeOperand (reading : Reading) (argument : Text) :
    Except Interruption Reading := do
  let settled ← reading.settle
  if settled.operands.length < reading.topic.operands.length ∧ argument ≠ [] then
    .ok { settled with operands := settled.operands ++ [argument] }
  else .error .misuse

/-- Read an argument that is no option: the value that an option waits for, or
an operand. -/
def takePlain (reading : Reading) (argument : Text) :
    Except Interruption Reading :=
  match reading.outstanding with
  | .valueOf flag => .ok { reading with outstanding := .value flag argument }
  | _ => reading.takeOperand argument

/-- Read an argument. -/
def step (reading : Reading) (argument : Text) : Except Interruption Reading :=
  if reading.literal then reading.takeOperand argument
  else match argument with
    | ['-', '-'] => .ok { reading with literal := true }
    | '-' :: '-' :: word => reading.takeWord word
    | ['-'] => reading.takePlain argument
    | '-' :: letters => reading.takeLetters letters
    | _ => reading.takePlain argument

/-- The command that an argument names. At the level of the program a name is a
command unless an option waits for its value. -/
def command? (reading : Reading) (argument : Text) : Option Topic :=
  match reading.literal, reading.outstanding with
  | true, _ => none
  | _, .valueOf _ => none
  | _, _ => Topic.ofName? argument

/-- Whether an option was given. -/
def has (reading : Reading) (flag : Flag) : Bool :=
  (reading.given.lookup flag).isSome

/-- The command that a level asks for, once it has been read. -/
def command (reading : Reading) : Except Interruption Command :=
  match reading.topic, reading.operands with
  | .build, [sourceDir, output] => .ok (.build sourceDir output)
  | .check, [sourceDir, output] =>
    .ok (.check sourceDir output (reading.has .diff))
  | .blocks, [file] =>
    .ok (.blocks file
      (((reading.given.lookup .format).bind ListingFormat.ofName?).getD .text))
  | _, _ => .error .misuse

end Reading

/-! ## Reading the whole line -/

namespace Arguments

/-- The settings that two levels give together; the level of the command comes
first. -/
def settings (program command : Reading) : Settings :=
  ⟨(command.given.lookup .path).or (program.given.lookup .path),
    program.has .verbose || command.has .verbose, program.has .noColour ||
      command.has .noColour⟩

/-- The page of help that names of commands ask for. Commands have no commands
of their own. -/
def pageOf : List Text → Interruption
  | [] => .page .full .program
  | [name] =>
    match Topic.ofName? name with
    | some topic => .page .full topic
    | none => .misuse
  | _ => .misuse

/-- Read the arguments of a command, after those of the program. -/
def readCommand (program : Reading) (topic : Topic) (arguments : List Text) :
    Except Interruption (Settings × Option Command) := do
  let reading ← (← arguments.foldlM Reading.step (.start topic)).settle
  let command ← reading.command
  pure (settings (← program.settle) reading, some command)

/-- Read the arguments of the program from a state on. -/
def readProgram (program : Reading) :
    List Text → Except Interruption (Settings × Option Command)
  | [] => do pure (settings (← program.settle) (.start .program), none)
  | argument :: rest =>
    match program.command? argument with
    | some .help => .error (pageOf rest)
    | some topic => readCommand program topic rest
    | none => do readProgram (← program.step argument) rest

/-- Read the arguments of the command line: the settings and the command, if any
is given, or why there is nothing to run. -/
def read (arguments : List Text) :
    Except Interruption (Settings × Option Command) :=
  readProgram (.start .program) arguments

end Arguments

end LiterateBook
