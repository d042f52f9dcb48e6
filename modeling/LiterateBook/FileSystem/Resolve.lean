import LiterateBook.Failure
import LiterateBook.FileSystem.Node
import LiterateBook.Path
import LiterateBook.Text.Bytes

/-!
# Resolving paths

A path is resolved by taking its steps one by one from the root or from the
current directory, and following symbolic links on the way. It leads to a node
that is there, or to a free name in a directory, where a file may be created.
-/

namespace LiterateBook

/-- A file system: its tree and the directory at which relative paths start. -/
structure FileSystem where
  root : Node
  cwd : Location

namespace FileSystem

/-- Where a path leads. -/
inductive Place where
  | found (location : Location) (node : Node)
  | vacant (directory : Location) (name : Text)

/-- The most bytes that a name may have. -/
def maxNameBytes : Nat := 255

/-- The most bytes that a path may have. -/
def maxPathBytes : Nat := 4095

/-- The most symbolic links that are followed for one path. -/
def maxLinks : Nat := 40

/-- Take steps from a location on; `follow` takes over at a symbolic link, with
the location it is relative to and the steps that are left. A file cannot be
created under a name with a separator after it. -/
def walk (root : Node) (creating : Bool)
    (follow : Location → List Path.Step → Except IoError Place)
    (location : Location) :
    List Path.Step → Except IoError Place
  | [] =>
    match root.find? location with
    | some node => .ok (.found location node)
    | none => .error .notFound
  | step :: rest =>
    match root.find? location with
    | some (.dir entries) =>
      match step with
      | .stay | .settle => walk root creating follow location rest
      | .up => walk root creating follow location.dropLast rest
      | .enter name =>
        if creating ∧ rest = [.settle] then .error .isDirectory
        else if maxNameBytes < name.byteLength then .error .nameTooLong
        else match entries.lookup name with
          | none =>
            if rest = [] then .ok (.vacant location name) else .error .notFound
          | some (.link target) =>
            follow (if Path.isAbsolute target then [] else location)
              (Path.steps target ++ rest)
          | some _ => walk root creating follow (location ++ [name]) rest
    | some _ => .error .notDirectory
    | none => .error .notFound

/-- Take steps from a location on, following at most the given number of
symbolic links. -/
def locate (root : Node) (creating : Bool) :
    Nat → Location → List Path.Step → Except IoError Place
  | 0 => walk root creating fun _ _ => .error .tooManyLinks
  | links + 1 => walk root creating (locate root creating links)

/-- The location at which a path starts. -/
def start (fs : FileSystem) (path : Text) : Location :=
  if Path.isAbsolute path then [] else fs.cwd

/-- What is wrong with a path whatever the file system holds. -/
def checkPath (path : Text) : Except IoError Unit :=
  if path.contains '\x00' then .error .nulInPath
  else if path = [] then .error .notFound
  else if maxPathBytes < path.byteLength then .error .nameTooLong
  else .ok ()

/-- Where a path leads, symbolic links followed. -/
def resolve (fs : FileSystem) (creating : Bool) (path : Text) :
    Except IoError Place := do
  checkPath path
  locate fs.root creating maxLinks (fs.start path) (Path.steps path)

end FileSystem

end LiterateBook
