import LiterateBook.Toml.Scalar

/-!
# TOML values

A document is a table of values. Each table remembers how it came about, since
that decides what may still be added to it: a header or a dotted key may extend
a table that other names only implied, and nothing may extend an inline table.
A number may be well written and still be none that can be stored; such a value
is not readable, which matters only to those who look at it.
-/

namespace LiterateBook

namespace Toml

/-- How a table came about. -/
inductive TableForm where
  /-- It has a header of its own, or is the document. -/
  | header
  /-- A longer header passes through it. -/
  | implied
  /-- A dotted key passes through it. -/
  | dotted
  /-- It was written in braces. -/
  | inline
  deriving DecidableEq

/-- A TOML value. -/
inductive Value where
  | scalar (scalar : Scalar)
  | array (elements : List Value)
  | table (form : TableForm) (entries : List (Text × Value))
  /-- An array of the tables that a repeated double header gives, each with its
  entries. -/
  | tables (elements : List (List (Text × Value)))

/-- The entries of a table, in the order in which their names came up. -/
abbrev Entries := List (Text × Value)

mutual

/-- Whether all numbers in a value can be stored. -/
def Value.isReadable : Value → Bool
  | .scalar scalar => scalar.isReadable
  | .array elements => elementsReadable elements
  | .table _ entries => entriesReadable entries
  | .tables elements => tablesReadable elements

/-- Whether all numbers in the elements of an array can be stored. -/
def elementsReadable : List Value → Bool
  | [] => true
  | value :: rest => value.isReadable && elementsReadable rest

/-- Whether all numbers in the entries of a table can be stored. -/
def entriesReadable : List (Text × Value) → Bool
  | [] => true
  | (_, value) :: rest => value.isReadable && entriesReadable rest

/-- Whether all numbers in the tables of an array can be stored. -/
def tablesReadable : List (List (Text × Value)) → Bool
  | [] => true
  | entries :: rest => entriesReadable entries && tablesReadable rest

end

/-- What a line of a document says. -/
inductive Statement where
  | assign (path : List Text) (name : Text) (value : Value)
  | openTable (path : List Text) (name : Text)
  | openElement (path : List Text) (name : Text)

/-- The form of a table after a key of another form passed through it: a dotted
key takes over a table that was only implied. -/
def TableForm.passed (form : TableForm) : TableForm → TableForm
  | .implied => form
  | old => old

namespace Entries

/-- The entries with a value under a name, in the place of what was there. -/
def set (name : Text) (value : Value) : Entries → Entries
  | [] => [(name, value)]
  | (other, old) :: rest =>
    if other = name then (name, value) :: rest
    else (other, old) :: set name value rest

/-- Change the entries of the table at a path. Tables that are missing on the
way come about in the form given, by which it is also decided whether a table
may be passed through; the change is told in which form the table at the path
stands. -/
def change (form : TableForm) (action : TableForm → Entries → Option Entries)
    (current : TableForm) (entries : Entries) : List Text → Option Entries
  | [] => action current entries
  | name :: rest =>
    match entries.lookup name with
    | none => (change form action form [] rest).map fun made =>
      entries.set name (.table form made)
    | some (.table old inner) =>
      if old = .inline ∨ (form = .dotted ∧ old = .header) then none
      else (change form action (form.passed old) inner rest).map fun made =>
        entries.set name (.table (form.passed old) made)
    | some (.tables elements) =>
      match elements.getLast? with
      | none => none
      | some last => (change form action .header last rest).map fun made =>
        entries.set name (.tables (elements.dropLast ++ [made]))
    | some _ => none

/-- Give a new name a value, behind a dotted key of which the path is all but
the last name. A dotted key adds only to tables that dotted keys made or took
over. -/
def assign (entries : Entries) (path : List Text) (name : Text)
    (value : Value) :
    Option Entries :=
  entries.change .dotted (fun form inner =>
    if (form = .dotted) = (path ≠ []) ∧ (inner.lookup name).isNone then
      some (inner.set name value)
    else none) .header path

/-- Open the table of a header: a new one, or one that only longer headers
implied. -/
def openTable (entries : Entries) (path : List Text) (name : Text) :
    Option Entries :=
  entries.change .implied (fun _ inner =>
    match inner.lookup name with
    | none => some (inner.set name (.table .header []))
    | some (.table .implied old) => some (inner.set name (.table .header old))
    | some _ => none) .header path

/-- Open a new element of the array of tables of a double header. -/
def openElement (entries : Entries) (path : List Text) (name : Text) :
    Option Entries :=
  entries.change .implied (fun _ inner =>
    match inner.lookup name with
    | none => some (inner.set name (.tables [[]]))
    | some (.tables elements) =>
      some (inner.set name (.tables (elements ++ [[]])))
    | some _ => none) .header path

/-- The entries that statements build, given the path of the table that is
open. -/
def build (entries : Entries) (opened : List Text) :
    List Statement → Option Entries
  | [] => some entries
  | .assign path name value :: rest =>
    match entries.change .implied (fun _ inner => assign inner path name value)
      .header opened with
    | some made => build made opened rest
    | none => none
  | .openTable path name :: rest =>
    match entries.openTable path name with
    | some made => build made (path ++ [name]) rest
    | none => none
  | .openElement path name :: rest =>
    match entries.openElement path name with
    | some made => build made (path ++ [name]) rest
    | none => none

end Entries

end Toml

end LiterateBook
