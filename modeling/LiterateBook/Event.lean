import LiterateBook.Text.White

/-!
# Events

What the library does is reported as events: a level, the component that speaks,
a message and fields. Whether an event is shown, and how, is decided elsewhere.
-/

namespace LiterateBook

/-- How much an event matters, the most important first. -/
inductive Level where
  | error
  | warn
  | info
  | debug
  | trace
  deriving DecidableEq

namespace Level

/-- The number of a level: one for the most important, five for the least. -/
def rank : Level → Nat
  | .error => 1
  | .warn => 2
  | .info => 3
  | .debug => 4
  | .trace => 5

/-- The word for a level. -/
def name : Level → String
  | .error => "ERROR"
  | .warn => "WARN"
  | .info => "INFO"
  | .debug => "DEBUG"
  | .trace => "TRACE"

end Level

/-- The part of the program that an event comes from. -/
inductive Component where
  | parser
  | resolver
  | config
  | book
  | command
  /-- The walk over a directory. -/
  | walk
  /-- The choice of files by patterns. -/
  | glob
  deriving DecidableEq

namespace Component

/-- The name by which log filters select a component. -/
def target : Component → String
  | .parser => "litmd_core::parser"
  | .resolver => "litmd_core::resolver"
  | .config => "litmd_core::config"
  | .book => "litmd_core::book"
  | .command => "litmd"
  | .walk => "ignore::walk"
  | .glob => "globset"

/-- The names of the fields that all events of a component have and that are
never shown. A walk and the choice of files say where in the program they
speak. -/
def recordFields : Component → List String
  | .walk | .glob => ["log.target", "log.module_path", "log.file", "log.line"]
  | _ => []

end Component

/-- The value of an event's field: a number, a text shown as it stands, or a
text shown quoted. -/
inductive FieldValue where
  | number (value : Nat)
  | plain (value : Text)
  | quoted (value : Text)
  deriving DecidableEq

/-- A report of something the library did. -/
structure Event where
  level : Level
  component : Component
  message : Text
  fields : List (String × FieldValue)
  deriving DecidableEq

namespace Event

/-- The names of all fields of an event; the message is one of them. -/
def fieldNames (event : Event) : List String :=
  "message" :: event.fields.map (·.1) ++ event.component.recordFields

end Event

end LiterateBook
