import LiterateBook.FileSystem.Resolve

/-!
# File systems

Reading, writing and listing by path. An operation that may change the file
system answers with the file system it leaves behind, also when it fails.
-/

namespace LiterateBook

namespace FileSystem

/-! ## Asking -/

/-- The path of the current directory. -/
def currentDir (fs : FileSystem) : Text :=
  '/' :: ['/'].intercalate fs.cwd

/-- The node that a path leads to. -/
def node? (fs : FileSystem) (path : Text) : Except IoError Node := do
  match ← fs.resolve false path with
  | .found _ node => .ok node
  | .vacant _ _ => .error .notFound

/-- Whether a path leads to a file. -/
def isFile (fs : FileSystem) (path : Text) : Bool :=
  match fs.node? path with
  | .ok (.file _) => true
  | _ => false

/-- Whether a path leads to a directory. -/
def isDir (fs : FileSystem) (path : Text) : Bool :=
  match fs.node? path with
  | .ok (.dir _) => true
  | _ => false

/-- What the file holds that a path leads to. -/
def read (fs : FileSystem) (path : Text) : Except IoError Content := do
  match ← fs.node? path with
  | .file content => .ok content
  | .dir _ => .error .isDirectory
  | .link _ => .error .tooManyLinks

/-- The text of the file that a path leads to. -/
def readText (fs : FileSystem) (path : Text) : Except IoError Text := do
  match ← fs.read path with
  | .text text => .ok text
  | .bytes _ => .error .notText

/-! ## Changing -/

/-- The file system with a node put at a location. -/
def put (fs : FileSystem) (location : Location) (node : Node) : FileSystem :=
  { fs with root := node.put location fs.root }

/-- Write a file, in place of what it held before if it is there already. -/
def write (fs : FileSystem) (path : Text) (content : Content) :
    Except IoError Unit × FileSystem :=
  match fs.resolve true path with
  | .error error => (.error error, fs)
  | .ok (.found location (.file _)) => (.ok (), fs.put location (.file content))
  | .ok (.found _ _) => (.error .isDirectory, fs)
  | .ok (.vacant directory name) =>
    (.ok (), fs.put (directory ++ [name]) (.file content))

/-- The directory and the free name at which a path asks for a new entry. The
last name of the path is not followed if it is a symbolic link. -/
def vacancy (fs : FileSystem) (path : Text) :
    Except IoError (Location × Text) := do
  checkPath path
  let backwards := (Path.steps path).reverse.dropWhile (· = .settle)
  match ← locate fs.root false maxLinks (fs.start path)
    backwards.tail.reverse with
  | .found location (.dir entries) =>
    match backwards.head? with
    | some (.enter name) =>
      if maxNameBytes < name.byteLength then .error .nameTooLong
      else if (entries.lookup name).isSome then .error .alreadyExists
      else .ok (location, name)
    | _ => .error .alreadyExists
  | .found _ _ => .error .notDirectory
  | .vacant _ _ => .error .notFound

/-- Add an entry where there is none yet. -/
def add (fs : FileSystem) (path : Text) (node : Node) :
    Except IoError Unit × FileSystem :=
  match fs.vacancy path with
  | .error error => (.error error, fs)
  | .ok (location, name) => (.ok (), fs.put (location ++ [name]) node)

/-- Make a directory; its parent must be there. -/
def makeDir (fs : FileSystem) (path : Text) :
    Except IoError Unit × FileSystem :=
  fs.add path (.dir [])

/-- Make a directory, or fail unless it is there already. -/
def ensureDir (fs : FileSystem) (path : Text) :
    Except IoError Unit × FileSystem :=
  match fs.makeDir path with
  | (.ok (), made) => (.ok (), made)
  | (.error error, _) => (if fs.isDir path then .ok () else .error error, fs)

/-- Make a directory with the parents it lacks. What was made stays when the
rest fails. -/
def makeDirs (fs : FileSystem) (path : Text) :
    Except IoError Unit × FileSystem :=
  if path = [] then (.ok (), fs)
  else match fs.ensureDir path with
    | (.error .notFound, _) =>
      match _found : Path.parent? path with
      | none => (.error .notFound, fs)
      | some parent =>
        match makeDirs fs parent with
        | (.error error, made) => (.error error, made)
        | (.ok (), made) => made.ensureDir path
    | answer => answer
termination_by path.length
decreasing_by exact Path.length_of_parent? _found

/-- Write a file, making the directories it lacks. -/
def writeWithDirs (fs : FileSystem) (path : Text) (content : Content) :
    Except IoError Unit × FileSystem :=
  match fs.makeDirs ((Path.parent? path).getD []) with
  | (.error error, made) => (.error error, made)
  | (.ok (), made) => made.write path content

end FileSystem

end LiterateBook
