import LiterateBook.Text.White

/-!
# Nodes

A file system is a tree of files, directories and symbolic links. A location is
the list of names that leads to a node from the root, through directories only.
The two operations on locations are looking a node up and putting one there; an
entry that comes after another one of the same name is shadowed by it.
-/

namespace LiterateBook

/-- What a file holds: a text, or bytes that are not UTF-8. -/
inductive Content where
  | text (characters : Text)
  | bytes (bytes : List UInt8)
  deriving DecidableEq

namespace Content

/-- The content that bytes make up. -/
def ofBytes (bytes : List UInt8) : Content :=
  match String.fromUTF8? ⟨bytes.toArray⟩ with
  | some string => .text string.toList
  | none => .bytes bytes

end Content

/-- A file, a directory with its entries by name, or a symbolic link. -/
inductive Node where
  | file (content : Content)
  | dir (entries : List (Text × Node))
  | link (target : Text)

/-- The names that lead to a node from the root. -/
abbrev Location := List Text

namespace Node

/-! ## Entries -/

/-- The entries with a node under a name, in the place of the entry of that name
if there is one. -/
def putEntry (name : Text) (node : Node) :
    List (Text × Node) → List (Text × Node)
  | [] => [(name, node)]
  | (other, child) :: rest =>
    if other = name then (name, node) :: rest
    else (other, child) :: putEntry name node rest

@[simp] theorem lookup_putEntry_self (name : Text) (node : Node)
    (entries : List (Text × Node)) :
    (putEntry name node entries).lookup name = some node := by
  induction entries with
  | nil => simp [putEntry]
  | cons entry rest ih =>
    obtain ⟨other, child⟩ := entry
    by_cases same : other = name
    · simp [putEntry, same]
    · have differ : (name == other) = false :=
        beq_eq_false_iff_ne.2 (Ne.symm same)
      simp [putEntry, same, List.lookup_cons, differ, ih]

theorem lookup_putEntry_of_ne {name other : Text} (differ : other ≠ name)
    (node : Node) (entries : List (Text × Node)) :
    (putEntry name node entries).lookup other = entries.lookup other := by
  have apart : (other == name) = false := beq_eq_false_iff_ne.2 differ
  induction entries with
  | nil => simp [putEntry, List.lookup_cons, apart]
  | cons entry rest ih =>
    obtain ⟨third, child⟩ := entry
    by_cases same : third = name
    · simp [putEntry, same, List.lookup_cons, apart]
    · simp only [putEntry, same, if_false, List.lookup_cons, ih]

/-- Putting what is there already changes nothing. -/
theorem putEntry_lookup {name : Text} {node : Node}
    {entries : List (Text × Node)} (found : entries.lookup name = some node) :
    putEntry name node entries = entries := by
  induction entries with
  | nil => simp at found
  | cons entry rest ih =>
    obtain ⟨other, child⟩ := entry
    by_cases same : other = name
    · subst same
      simp only [List.lookup_cons_self, Option.some.injEq] at found
      simp [putEntry, found]
    · have differ : (name == other) = false :=
        beq_eq_false_iff_ne.2 (Ne.symm same)
      rw [List.lookup_cons, differ] at found
      simp [putEntry, same, ih found]

/-! ## Locations -/

/-- The node at a location below a node. -/
def find? : Node → Location → Option Node
  | node, [] => some node
  | .dir entries, name :: rest =>
    match entries.lookup name with
    | some child => child.find? rest
    | none => none
  | _, _ :: _ => none

/-- The tree with a node put at a location, whose directory must be there. -/
def put (node : Node) : Location → Node → Node
  | [], _ => node
  | [name], .dir entries => .dir (putEntry name node entries)
  | name :: rest, .dir entries =>
    match entries.lookup name with
    | some child => .dir (putEntry name (put node rest child) entries)
    | none => .dir entries
  | _ :: _, tree => tree

@[simp] theorem find?_nil (node : Node) : node.find? [] = some node := by
  cases node <;> rfl

@[simp] theorem find?_file_cons (content : Content) (name : Text)
    (rest : Location) :
    (Node.file content).find? (name :: rest) = none := rfl

@[simp] theorem find?_link_cons (target name : Text) (rest : Location) :
    (Node.link target).find? (name :: rest) = none := rfl

end Node

end LiterateBook
