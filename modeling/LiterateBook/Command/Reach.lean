import LiterateBook.Command.Run

/-!
# The reach of a command

The paths that a command looks at are found with the file system as far as it is
known: what is known of the configuration shows which files are sources, and
what is known of the sources shows which files they include. Whoever holds a
part of a file system can widen it along these paths until nothing is missing.
-/

namespace LiterateBook

namespace Command

/-- The paths that the includes of a source lead to. -/
def includesOf (fs : FileSystem) (weaver : Weaver) (source : Text) :
    List Text :=
  match fs.readText source with
  | .error _ => []
  | .ok text =>
    (weaver.document text).blocks.filterMap fun block =>
      match block with
      | .inclusion path => some (Path.join (Book.baseOf source) path)
      | _ => none

/-- The paths of the sources of a directory and of what they include. -/
def sourcesReach (fs : FileSystem) (config : Config) (dir : Text) : List Text :=
  match (Book.sources fs config.patterns dir).result with
  | .error _ => []
  | .ok sources => sources ++ sources.flatMap (includesOf fs config.weaver)

/-- The paths that a command looks at, as far as the file system shows them. -/
def reach (fs : FileSystem) (settings : Settings) (command : Command) :
    List Text :=
  let places := Config.candidates.map (Path.join (settings.root fs))
  match (Config.loadOrDefault fs (settings.root fs)).result with
  | .error _ => places
  | .ok config =>
    places ++
      match command with
      | .build dir output | .check dir output _ =>
        dir :: output :: sourcesReach fs config dir
      | .blocks file _ => [file]

/-- The rounds after which the reach of a command is known: the configuration
comes in with the first, the sources with the second and what they include with
the third. -/
def reachRounds : Nat := 3

end Command

end LiterateBook
