import LiterateBook.Proofs.Ancestry
import LiterateBook.Proofs.Route

/-!
# What paths lead to

A path leads to a place along the route of its steps. This module says what
asking the file system about a path means in terms of that place, that a path
still leads to the same location in a file system that keeps what was there, and
that the parent of a path that leads anywhere is a directory.
-/

namespace LiterateBook

namespace FileSystem

/-! ## Places -/

/-- What stands at a location of a file system. -/
def shape? (fs : FileSystem) (location : Location) : Option Node.Shape :=
  fs.root.shape? location

/-- A path leads to a place, however long its text is. -/
def LeadsTo (fs : FileSystem) (path : Text) (place : Place) : Prop :=
  ∃ links, links ≤ maxLinks ∧
    Route fs.root links (fs.start path) (Path.steps path) place

/-- The location of the node that a path leads to, however long its text is. -/
def location? (fs : FileSystem) (path : Text) : Option Location :=
  match locate fs.root false maxLinks (fs.start path) (Path.steps path) with
  | .ok (.found location _) => some location
  | _ => none

variable {fs after : FileSystem} {path : Text} {place : Place}
  {location : Location} {node : Node}

theorem location?_eq_some_iff :
    fs.location? path = some location ↔
      ∃ node, fs.LeadsTo path (.found location node) := by
  simp only [LeadsTo, ← Route.locate_eq_ok_iff, location?]
  cases locate fs.root false maxLinks (fs.start path) (Path.steps path) with
  | error error => simp
  | ok place =>
      cases place with
      | found goal node => simp
      | vacant directory name => simp

theorem LeadsTo.find? (leads : fs.LeadsTo path (.found location node)) :
    fs.root.find? location = some node := by
  obtain ⟨links, few, route⟩ := leads
  exact route.find?_of_found

/-! ## Resolving -/

theorem resolve_eq {creating : Bool} (fs : FileSystem) (path : Text) :
    fs.resolve creating path = (checkPath path).bind fun _ =>
      locate fs.root creating maxLinks (fs.start path) (Path.steps path) := rfl

theorem resolve_eq_ok {creating : Bool}
    (resolved : fs.resolve creating path = .ok place) :
    checkPath path = .ok () ∧
      locate fs.root creating maxLinks (fs.start path) (Path.steps path) =
        .ok place := by
  rw [resolve_eq] at resolved
  cases checked : checkPath path with
  | error error => rw [checked] at resolved; cases resolved
  | ok => rw [checked] at resolved; exact ⟨rfl, resolved⟩

/-- Resolving a path answers with the place it leads to, unless its text is at
fault. -/
theorem resolve_eq_ok_iff :
    fs.resolve false path = .ok place ↔
      checkPath path = .ok () ∧ fs.LeadsTo path place := by
  rw [LeadsTo, ← Route.locate_eq_ok_iff]
  constructor
  · exact resolve_eq_ok
  · intro answer
    rw [resolve_eq, answer.1]
    exact answer.2

/-- Where a file may be created, reading leads to the same place. -/
theorem resolve_of_creating (resolved : fs.resolve true path = .ok place) :
    fs.resolve false path = .ok place := by
  obtain ⟨checked, located⟩ := resolve_eq_ok resolved
  exact resolve_eq_ok_iff.2 ⟨checked, Route.of_locate located⟩

theorem resolve_creating_of_file {content : Content}
    (resolved : fs.resolve false path = .ok (.found location (.file content))) :
    fs.resolve true path = .ok (.found location (.file content)) := by
  obtain ⟨checked, links, few, route⟩ := resolve_eq_ok_iff.1 resolved
  rw [resolve_eq, checked]
  exact route.locate_eq_ok few (by simp)

/-! ## Asking -/

theorem location?_of_resolve
    (resolved : fs.resolve false path = .ok (.found location node)) :
    fs.location? path = some location :=
  location?_eq_some_iff.2 ⟨node, (resolve_eq_ok_iff.1 resolved).2⟩

theorem LeadsTo.isName_of_vacant {directory : Location} {name : Text}
    (leads : fs.LeadsTo path (.vacant directory name)) :
    Path.IsName name ∧ name.byteLength ≤ maxNameBytes := by
  obtain ⟨links, few, route⟩ := leads
  exact ⟨route.property_of_vacant (fun _ => Path.isName_of_enter_mem_steps)
    (fun _ _ => Path.isName_of_enter_mem_steps), route.free_of_vacant.1⟩

theorem node?_eq_ok_iff :
    fs.node? path = .ok node ↔
      ∃ location, fs.resolve false path = .ok (.found location node) := by
  unfold node?
  cases resolved : fs.resolve false path with
  | error error => simp [bind, Except.bind]
  | ok place =>
      cases place with
      | found location other => simp [bind, Except.bind]
      | vacant directory name => simp [bind, Except.bind]

theorem isDir_iff :
    fs.isDir path = true ↔ ∃ entries, fs.node? path = .ok (.dir entries) := by
  unfold isDir
  cases fs.node? path with
  | error error => simp
  | ok node => cases node <;> simp

theorem isFile_iff :
    fs.isFile path = true ↔ ∃ content, fs.node? path = .ok (.file content) := by
  unfold isFile
  cases fs.node? path with
  | error error => simp
  | ok node => cases node <;> simp

theorem readText_eq_ok_iff {text : Text} :
    fs.readText path = .ok text ↔ fs.node? path = .ok (.file (.text text)) := by
  unfold readText read
  cases fs.node? path with
  | error error => simp [bind, Except.bind]
  | ok node =>
      cases node with
      | dir entries => simp [bind, Except.bind]
      | link target => simp [bind, Except.bind]
      | file content => cases content <;> simp [bind, Except.bind]

/-! ## Changed file systems -/

/-- A file system keeps of another what paths depend on. -/
structure Keeps (before after : FileSystem) : Prop where
  cwd : after.cwd = before.cwd
  root : before.root.Keeps after.root

/-- Where the same stands everywhere, paths lead to the same places. -/
theorem keeps_of_shape?_eq (cwd : after.cwd = fs.cwd)
    (same : ∀ location, after.shape? location = fs.shape? location) :
    fs.Keeps after :=
  ⟨cwd, ⟨fun {location} standing => (same location).trans standing,
    fun {location _} standing => (same location).trans standing,
    fun {location content} standing =>
      ⟨content, (same location).trans standing⟩⟩⟩

theorem Keeps.trans {middle : FileSystem} (first : fs.Keeps middle)
    (second : middle.Keeps after) :
    fs.Keeps after :=
  ⟨second.cwd.trans first.cwd, first.root.trans second.root⟩

theorem Keeps.start (keeps : fs.Keeps after) (path : Text) :
    after.start path = fs.start path := by
  rw [FileSystem.start, FileSystem.start, keeps.cwd]

/-- A path still leads to the location it led to, if something that is no link
stands there. -/
theorem LeadsTo.keep (leads : fs.LeadsTo path place) (keeps : fs.Keeps after)
    (standing : after.root.find? place.location = some node)
    (proper : ∀ target, node ≠ .link target) :
    after.LeadsTo path (.found place.location node) := by
  obtain ⟨links, few, route⟩ := leads
  refine ⟨links, few, ?_⟩
  rw [keeps.start]
  exact route.keep keeps.root standing proper

theorem Keeps.resolve (keeps : fs.Keeps after)
    (resolved : fs.resolve false path = .ok place)
    (standing : after.root.find? place.location = some node)
    (proper : ∀ target, node ≠ .link target) :
    after.resolve false path = .ok (.found place.location node) := by
  obtain ⟨checked, leads⟩ := resolve_eq_ok_iff.1 resolved
  exact resolve_eq_ok_iff.2 ⟨checked, leads.keep keeps standing proper⟩

/-- A path to a directory still leads to a directory, in the same place. -/
theorem Keeps.resolve_dir {entries : List (Text × Node)}
    (keeps : fs.Keeps after)
    (resolved : fs.resolve false path = .ok (.found location (.dir entries))) :
    ∃ others, after.resolve false path =
      .ok (.found location (.dir others)) := by
  have found := (resolve_eq_ok_iff.1 resolved).2.find?
  obtain ⟨others, stays⟩ := Node.shape?_eq_dir_iff.1
    (keeps.root.dir (Node.shape?_of_find? found))
  exact ⟨others, keeps.resolve resolved stays (by simp)⟩

theorem Keeps.isDir (keeps : fs.Keeps after) (isDir : fs.isDir path = true) :
    after.isDir path = true := by
  obtain ⟨entries, asked⟩ := isDir_iff.1 isDir
  obtain ⟨location, resolved⟩ := node?_eq_ok_iff.1 asked
  obtain ⟨others, still⟩ := keeps.resolve_dir resolved
  exact isDir_iff.2 ⟨others, node?_eq_ok_iff.2 ⟨location, still⟩⟩

theorem Keeps.resolve_file {content : Content} (keeps : fs.Keeps after)
    (resolved : fs.resolve false path = .ok (.found location (.file content)))
    (same : after.shape? location = fs.shape? location) :
    after.resolve false path = .ok (.found location (.file content)) := by
  have found := (resolve_eq_ok_iff.1 resolved).2.find?
  have stood : fs.shape? location = some (.file content) :=
    Node.shape?_of_find? found
  rw [stood] at same
  obtain ⟨node, stands, isFile⟩ := Node.shape?_eq_some_iff.1 same
  rw [Node.shape_eq_file_iff.1 isFile] at stands
  exact keeps.resolve resolved stands (by simp)

/-! ## Parents -/

theorem checkPath_eq_ok_iff :
    checkPath path = .ok () ↔
      '\x00' ∉ path ∧ path ≠ [] ∧ path.byteLength ≤ maxPathBytes := by
  unfold checkPath
  split
  · next nul => simp [List.contains_iff_mem.1 nul]
  · next clean =>
    rw [List.contains_iff_mem] at clean
    split
    · next empty => simp [empty]
    · next nonempty =>
      split
      · next long => simp [Nat.not_le.2 long]
      · next short => simp [clean, nonempty, Nat.le_of_not_lt short]

theorem checkPath_beginning {parent : Text} (checked : checkPath path = .ok ())
    (beginning : parent <+: path) (nonempty : parent ≠ []) :
    checkPath parent = .ok () := by
  obtain ⟨clean, -, short⟩ := checkPath_eq_ok_iff.1 checked
  rw [checkPath_eq_ok_iff]
  refine ⟨fun member => clean (beginning.subset member), nonempty, ?_⟩
  obtain ⟨rest, rfl⟩ := beginning
  rw [Text.byteLength_append] at short
  omega

theorem start_beginning {parent : Text} (fs : FileSystem)
    (beginning : parent <+: path) (nonempty : parent ≠ []) :
    fs.start parent = fs.start path := by
  obtain ⟨rest, rfl⟩ := beginning
  have same : Path.isAbsolute (parent ++ rest) = Path.isAbsolute parent := by
    cases parent with
    | nil => exact absurd rfl nonempty
    | cons c others => rfl
  rw [FileSystem.start, FileSystem.start, same]

theorem isDir_parent? {parent : Text}
    (resolved : fs.resolve false path = .ok place)
    (found : Path.parent? path = some parent) (nonempty : parent ≠ []) :
    fs.isDir parent = true := by
  obtain ⟨checked, links, few, route⟩ := resolve_eq_ok_iff.1 resolved
  obtain ⟨more, moving, split⟩ := Path.steps_parent? found
  have beginning := Path.parent?_beginning found
  rw [split] at route
  obtain ⟨before, after, middle, entries, sum, first, second⟩ :=
    route.split moving
  have leads : fs.LeadsTo parent (.found middle (.dir entries)) := by
    refine ⟨before, by omega, ?_⟩
    rw [start_beginning fs beginning nonempty]
    exact first
  have reached := resolve_eq_ok_iff.2
    ⟨checkPath_beginning checked beginning nonempty, leads⟩
  exact isDir_iff.2 ⟨entries, node?_eq_ok_iff.2 ⟨middle, reached⟩⟩

/-! ## Directories and what is in them -/

variable {dir name : Text} {entries : List (Text × Node)}

/-- What is left of the steps of a path to a directory when its names were
entered. -/
theorem LeadsTo.names
    (leads : fs.LeadsTo dir (.found location (.dir entries))) :
    ∃ links, links ≤ maxLinks ∧ Route fs.root links (fs.start dir)
      ((Path.names dir).map Path.stepOf) (.found location (.dir entries)) := by
  obtain ⟨links, few, route⟩ := leads
  rw [Path.steps_eq] at route
  obtain ⟨fewer, less, shorter⟩ := route.strip_idle (by
    intro step last
    split at last
    · exact .inr (List.mem_singleton.1 last)
    · cases last)
  exact ⟨fewer, Nat.le_trans less few, shorter⟩

/-- A path that leads to a directory and a name in it lead to the entry of that
name. -/
theorem LeadsTo.entry {content : Content}
    (leads : fs.LeadsTo dir (.found location (.dir entries)))
    (nonempty : dir ≠ []) (isName : Path.IsName name)
    (short : name.byteLength ≤ maxNameBytes)
    (found : entries.lookup name = some (.file content)) :
    fs.LeadsTo (Path.join dir name)
      (.found (location ++ [name]) (.file content)) := by
  obtain ⟨links, few, route⟩ := leads.names
  have standing := leads.find?
  have there : fs.root.find? (location ++ [name]) = some (.file content) := by
    rw [Node.find?_entry standing, found]
  refine ⟨links + 0, few, ?_⟩
  rw [← start_beginning fs (Path.beginning_join isName dir) nonempty,
    Path.steps_join isName]
  apply route.append
  exact .enter (Node.shape?_of_find? standing) short
    (Node.shape?_of_find? there) (by simp [Node.shape])
    (.arrive there)

end FileSystem

end LiterateBook
