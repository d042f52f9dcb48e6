import LiterateBook.FileSystem
import LiterateBook.Glob
import LiterateBook.Logged
import LiterateBook.Weaving

/-!
# Books

A book is woven from the sources of a directory, in the order of their names,
with an empty line after each. Building writes it to a file, and checking
compares it with the file; a book that cannot be woven is never written.
-/

namespace LiterateBook

namespace Book

/-! ## Sources -/

/-- What a directory walk comes upon. -/
structure Entry where
  path : Text
  name : Text
  isFile : Bool
  /-- The walk does not go into it and leaves it out. -/
  isHidden : Bool
  deriving DecidableEq

/-- The entry of a directory under a name. Names that start with a dot are
hidden. -/
def entryOf (dir : Text) (entries : List (Text × Node)) (name : Text) :
    Entry where
  path := Path.join dir name
  name := name
  isFile := match entries.lookup name with
    | some (.file _) => true
    | _ => false
  isHidden := name.head? == some '.'

/-- Whether a path stands for the standard input: its first component is a
hyphen, and the others ask for no step. -/
def isInput (dir : Text) : Bool :=
  match Path.components dir with
  | ['-'] :: rest =>
    rest.all fun component => component = [] ∨ component = ['.']
  | _ => false

/-- What a walk over a directory comes upon directly inside it. A file is walked
as a directory that holds it alone, whatever its name is, and there is nothing
in the standard input. -/
def walk (fs : FileSystem) (dir : Text) : Except IoError (List Entry) :=
  if isInput dir then .ok []
  else match fs.node? dir with
    | .error error => .error error
    | .ok (.dir entries) =>
      .ok ((entries.map (·.1)).eraseDups.map (entryOf dir entries))
    | .ok (.file _) => .ok [⟨dir, Path.lastComponent dir, true, false⟩]
    | .ok (.link _) => .ok []

/-- The event of setting out on a walk. -/
def settingOutEvent (currentDir : Text) : Event :=
  ⟨.trace, .walk, "automatically discovered CWD: ".toList ++ currentDir, []⟩

/-- The event of leaving out a hidden entry. -/
def hidingEvent (entry : Entry) : Event :=
  ⟨.debug, .walk, "ignoring ".toList ++ entry.path ++
    ": Ignore(IgnoreMatch(Hidden))".toList, []⟩

/-- What a walk over a directory finds: what it comes upon, but for what is
hidden. -/
def found (fs : FileSystem) (dir : Text) : Logged (List Entry) := do
  .report (settingOutEvent fs.currentDir)
  let entries ← .ofExcept ((walk fs dir).mapError (.sourceWalk dir))
  ⟨(entries.filter (·.isHidden)).map hidingEvent,
    .ok (entries.filter (!·.isHidden))⟩

/-- The sources among the entries of a walk: the files whose names some glob
matches, in the order of their names. -/
def sourcesOf (globs : List Glob) (entries : List Entry) : List Text :=
  ((entries.filter fun entry => entry.isFile &&
    Glob.anyMatchesName globs entry.name).mergeSort
    fun first second => Text.bytesLe first.name second.name).map (·.path)

/-- The sources of a directory. -/
def sources (fs : FileSystem) (patterns : List Text) (dir : Text) :
    Logged (List Text) := do
  let globs ← Glob.ofPatterns patterns
  let entries ← found fs dir
  pure (sourcesOf globs entries)

/-! ## Includes -/

/-- The directory below which the includes of a source are looked for. -/
def baseOf (source : Text) : Text :=
  (Path.parent? source).getD ['.']

/-- The resolver that reads includes from files below a directory. -/
def resolver (fs : FileSystem) (base : Text) : Resolver Failure := fun path =>
  match fs.readText (Path.join base path) with
  | .ok text => .ok text.terminatedLines
  | .error error => .error (.unresolvedInclude path error.message.toList)

/-- The event of looking for an include. -/
def resolvingEvent (base path : Text) : Event :=
  ⟨.debug, .resolver, "resolving include".toList,
    [("path", .plain (Path.join base path))]⟩

/-! ## Weaving -/

/-- The event of weaving a source. -/
def weavingEvent (path : Text) : Event :=
  ⟨.debug, .book, "translating".toList, [("path", .plain path)]⟩

/-- The output lines of a source text whose includes are looked for below a
directory. -/
def weaveText (fs : FileSystem) (weaver : Weaver) (base source : Text) :
    Logged (List Text) :=
  let rendering := weaver.weave (resolver fs base) source
  ⟨(weaver.document source).events ++ rendering.asked.map (resolvingEvent base),
    rendering.result⟩

/-- The output lines of a source file. -/
def weaveFile (fs : FileSystem) (weaver : Weaver) (path : Text) :
    Logged (List Text) := do
  .report (weavingEvent path)
  let source ← .ofExcept ((fs.readText path).mapError .io)
  weaveText fs weaver (baseOf path) source

/-- The output of source files, each with an empty line after it. -/
def weaveFiles (fs : FileSystem) (weaver : Weaver) : List Text → Logged Text
  | [] => pure []
  | path :: rest => do
    let lines ← weaveFile fs weaver path
    let others ← weaveFiles fs weaver rest
    pure (lines.flatten ++ '\n' :: others)

/-- The event of having woven the sources of a directory. -/
def wovenEvent (count : Nat) (dir : Text) : Event :=
  ⟨.info, .book, "translated sources".toList,
    [("files", .number count), ("dir", .plain dir)]⟩

/-- The book of a directory. -/
def weave (fs : FileSystem) (weaver : Weaver) (patterns : List Text)
    (dir : Text) :
    Logged Text := do
  let files ← sources fs patterns dir
  if files = [] then .ofExcept (.error (.noSources dir))
  let book ← weaveFiles fs weaver files
  .report (wovenEvent files.length dir)
  pure book

/-! ## Building and checking -/

/-- Write a book, making the directories it lacks. -/
def write (fs : FileSystem) (output book : Text) :
    Except Failure Unit × FileSystem :=
  let (result, after) := fs.writeWithDirs output (.text book)
  (result.mapError .io, after)

/-- Weave the book of a directory and write it. -/
def build (fs : FileSystem) (weaver : Weaver) (patterns : List Text)
    (dir output : Text) : Logged Text × FileSystem :=
  let woven := weave fs weaver patterns dir
  match woven.result with
  | .error _ => (woven, fs)
  | .ok book =>
    let (written, after) := write fs output book
    (⟨woven.events, written.map fun _ => book⟩, after)

/-- What a file holds beside what it should hold. -/
structure Comparison where
  output : Text
  expected : Text
  current : Option Text
  deriving DecidableEq

namespace Comparison

/-- Whether the file holds what it should. -/
def isCurrent (comparison : Comparison) : Bool :=
  comparison.current == some comparison.expected

end Comparison

/-- Compare a file with the book of a directory. -/
def check (fs : FileSystem) (weaver : Weaver) (patterns : List Text)
    (dir output : Text) : Logged Comparison := do
  let expected ← weave fs weaver patterns dir
  let current ←
    if fs.isFile output then do
      let text ← .ofExcept ((fs.readText output).mapError .io)
      pure (some text)
    else pure none
  pure ⟨output, expected, current⟩

end Book

end LiterateBook
