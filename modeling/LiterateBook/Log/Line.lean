import LiterateBook.Event
import LiterateBook.Paint
import LiterateBook.Text.Decimal
import LiterateBook.Text.Quoted

/-!
# Log lines

An event is logged on one line: the time, the level, the message and the fields.
A message cannot give orders to a terminal: the control characters by which such
orders start are escaped in it.
-/

namespace LiterateBook

namespace LogLine

/-- The colour of a level. -/
def styleOf : Level → Style
  | .error => .red
  | .warn => .yellow
  | .info => .green
  | .debug => .blue
  | .trace => .magenta

/-- A character of a message. -/
def messageChar (c : Char) : Text :=
  if 0x80 ≤ c.toNat ∧ c.toNat ≤ 0x9F then
    "\\u\x7b".toList ++ Nat.toDigits 16 c.toNat ++ ['\x7d']
  else if ['\x07', '\x08', '\x0c', '\x1b', '\x7f'].contains c then
    "\\x".toList ++ List.leftpad 2 '0' (Nat.toDigits 16 c.toNat)
  else [c]

/-- The value of a field. -/
def value : FieldValue → Text
  | .number n => Text.decimal n
  | .plain text => text
  | .quoted text => text.quoted

/-- A field with the space before it. -/
def field (coloured : Bool) (field : String × FieldValue) : Text :=
  ' ' :: Style.italic.paintPart coloured field.1.toList ++
    Style.dim.paintPart coloured ['='] ++
    value field.2

/-- The line of an event that was reported at a time. -/
def ofEvent (coloured : Bool) (time : Text) (event : Event) : Text :=
  Style.dim.paintPart coloured time ++
    ' ' :: (styleOf event.level).paintPart coloured
      (List.leftpad 5 ' ' event.level.name.toList) ++
    ' ' :: event.message.flatMap messageChar ++
      event.fields.flatMap (field coloured) ++ ['\n']

end LogLine

end LiterateBook
