import LiterateBook.Command.Reach
import LiterateBook.Log.Moment
import LiterateBook.Program
import Std.Time.DateTime

/-!
# Command line

The part of the disk that a command looks at is copied into a file system, the
program runs on the copy, and what a build has left behind is written to the
disk. Nothing is decided here.
-/

namespace LiterateBook

namespace Disk

/-- The text of a location, from the root. -/
def nameOf (location : Location) : String :=
  String.ofList ('/' :: ['/'].intercalate location)

/-- The location of a path that has neither dots nor symbolic links in it. -/
def locationOf (path : String) : Location :=
  (Path.components path.toList).filter (· ≠ [])

/-- Put a node, with the directories that lead to it. -/
def place (fs : FileSystem) (location : Location) (node : Node) : FileSystem :=
  let leading := (List.range location.length).map (location.take ·)
  (leading.foldl (fun fs above =>
    if (fs.root.find? above).isSome then fs
    else fs.put above (.dir [])) fs).put location node

/-- Put a node where there is none yet. -/
def placeNew (fs : FileSystem) (location : Location) (node : Node) :
    FileSystem :=
  if (fs.root.find? location).isSome then fs else place fs location node

/-- What the disk has at a location. Files come without content, directories
without entries, and symbolic links with the end of the chain they start; one
that leads nowhere leads to itself. -/
def kindAt (location : Location) : IO (Option Node) := do
  let here ← IO.currentDir
  match ← ((here / nameOf location).symlinkMetadata).toBaseIO with
  | .error _ => pure none
  | .ok metadata =>
    match metadata.type with
    | .dir => pure (some (.dir []))
    | .symlink => do
      match ← (IO.FS.realPath (nameOf location)).toBaseIO with
      | .ok target => pure (some (.link target.toString.toList))
      | .error _ => pure (some (.link (nameOf location).toList))
    | _ => pure (some (.file (.text [])))

/-- Copy what a location holds: the content of a file, or the names in a
directory. -/
def copyNode (fs : FileSystem) (location : Location) : IO FileSystem := do
  match ← kindAt location with
  | some (.dir _) =>
    let here ← IO.currentDir
    let some entries := (← ((here / nameOf location).readDir).toBaseIO).toOption
      | pure (placeNew fs location (.dir []))
    entries.foldlM (fun fs entry => do
      let inside := location ++ [entry.fileName.toList]
      match ← kindAt inside with
      | some node => pure (placeNew fs inside node)
      | none => pure fs) (placeNew fs location (.dir []))
  | some (.file _) =>
    match ← (IO.FS.readBinFile (nameOf location)).toBaseIO with
    | .ok bytes => pure (place fs location (.file (.ofBytes bytes.toList)))
    | .error _ => pure fs
  | _ => pure fs

/-- Copy what steps from a location on come upon. -/
def copySteps (fs : FileSystem) (location : Location) :
    List Path.Step → IO FileSystem
  | [] => copyNode fs location
  | .stay :: rest | .settle :: rest => copySteps fs location rest
  | .up :: rest => copySteps fs location.dropLast rest
  | .enter name :: rest => do
    let inside := location ++ [name]
    match ← kindAt inside with
    | none => pure fs
    | some (.link target) =>
      copySteps (place fs inside (.link target))
        (locationOf (String.ofList target)) rest
    | some node => copySteps (placeNew fs inside node) inside rest

/-- Copy what a path leads to. -/
def copyPath (fs : FileSystem) (path : Text) : IO FileSystem :=
  copySteps fs (fs.start path) (Path.steps path)

/-- The file system that holds nothing but the current directory. -/
def bare : IO FileSystem := do
  let here := locationOf (← IO.currentDir).toString
  pure (place ⟨.dir [], here⟩ here (.dir []))

/-- Copy what a command looks at. -/
def copyReach (settings : Settings) (command : Command) :
    Nat → FileSystem → IO FileSystem
  | 0, fs => pure fs
  | rounds + 1, fs => do
    copyReach settings command rounds
      (← (command.reach fs settings).foldlM copyPath fs)

/-- Copy what the program looks at when it is given arguments. -/
def copyFor (arguments : List Text) : IO FileSystem := do
  let fs ← bare
  match Arguments.read arguments with
  | .ok (settings, some command) =>
    copyReach settings command Command.reachRounds fs
  | _ => pure fs

/-- Make the directories on the way to a path that a run has left behind, from
the outermost on. -/
def makeDirs (left : FileSystem) (path : Text) : IO Unit :=
  match _found : Path.parent? path with
  | none => pure ()
  | some parent => do
    makeDirs left parent
    if left.isDir parent then IO.FS.createDirAll (String.ofList parent)
termination_by path.length
decreasing_by exact Path.length_of_parent? _found

/-- Write what a run with these arguments has left behind: the directories above
its book, and the book if the run was a success. -/
def writeBook (arguments : List Text) (ending : Ending) (left : FileSystem) :
    IO Unit := do
  if let .ok (_, some (.build _ output)) := Arguments.read arguments then
    makeDirs left output
    if ending = .done then
      if let .ok text := left.readText output then
        IO.FS.writeFile (String.ofList output) (String.ofList text)

end Disk

/-- The present moment. -/
def now : IO Moment := do
  let time := Std.Time.DateTime.ofTimestampWithZone
    (← Std.Time.Timestamp.now) .UTC
  pure ⟨time.year.toInt.toNat, time.month.val.toNat, time.day.val.toNat,
    time.hour.val.toNat, time.minute.val.toNat, time.second.val.toNat,
    time.nanosecond.val.toNat / 1000⟩

/-- Say why a run failed. -/
def report : Ending → IO Unit
  | .failed failure => do
    IO.eprintln ("Error: " ++ failure.code)
    IO.eprintln ("  " ++ String.ofList failure.message)
    if let some cause := failure.cause then
      IO.eprintln ("  " ++ String.ofList cause)
    if let some help := failure.help then IO.eprintln ("  help: " ++ help)
  | .misused => IO.eprintln "error: the arguments do not fit; try --help"
  | _ => pure ()

end LiterateBook

open LiterateBook

/-- Run the program on the disk. -/
def main (arguments : List String) : IO UInt32 := do
  let texts := arguments.map String.toList
  let environment : Program.Environment :=
    ⟨(← IO.getEnv "NO_COLOR").isSome, (← IO.getEnv "RUST_LOG").map String.toList⟩
  let fs ← Disk.copyFor texts
  let (outcome, display, after) := Program.run fs environment texts
  Disk.writeBook texts outcome.ending after
  IO.eprint (String.ofList (display.messages (← now).text outcome))
  IO.print (String.ofList (display.output outcome))
  report outcome.ending
  pure (UInt32.ofNat outcome.ending.status)
