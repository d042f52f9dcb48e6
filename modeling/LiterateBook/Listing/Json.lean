import LiterateBook.Text.Decimal

/-!
# JSON texts

The part of JSON that listings are written in, and its indented form: each
element and each member stands on a line of its own, two spaces deeper than what
holds it, and an empty array or object stays on its line. In a string only the
quote, the backslash and the control characters are escaped.
-/

namespace LiterateBook

/-- A JSON value; objects keep the order of their members. -/
inductive Json where
  | string (value : Text)
  | number (value : Nat)
  | array (elements : List Json)
  | object (members : List (Text × Json))

namespace Json

/-- The hexadecimal digit of a number below sixteen. -/
def hexDigit (n : Nat) : Char :=
  if n < 10 then Char.ofNat ('0'.toNat + n)
  else Char.ofNat ('a'.toNat + (n - 10))

/-- A character as it stands in a string. -/
def escape (c : Char) : Text :=
  if c = '"' then ['\\', '"']
  else if c = '\\' then ['\\', '\\']
  else if c = '\x08' then ['\\', 'b']
  else if c = '\t' then ['\\', 't']
  else if c = '\n' then ['\\', 'n']
  else if c = '\x0c' then ['\\', 'f']
  else if c = '\r' then ['\\', 'r']
  else if c < ' ' then
    ['\\', 'u', '0', '0', hexDigit (c.toNat / 16), hexDigit (c.toNat % 16)]
  else [c]

/-- A text as a string. -/
def quote (text : Text) : Text :=
  '"' :: text.flatMap escape ++ ['"']

/-- A new line, indented to a depth. -/
def newline (depth : Nat) : Text :=
  '\n' :: List.replicate (2 * depth) ' '

mutual

/-- A value in indented form, at a depth. -/
def pretty (depth : Nat) : Json → Text
  | .string value => quote value
  | .number value => Text.decimal value
  | .array [] => ['[', ']']
  | .array (first :: rest) =>
    '[' :: newline (depth + 1) ++ pretty (depth + 1) first ++
      prettyElements depth rest
  | .object [] => ['\x7b', '\x7d']
  | .object ((name, first) :: rest) =>
    '\x7b' :: newline (depth + 1) ++ quote name ++ [':', ' '] ++
      pretty (depth + 1) first ++
      prettyMembers depth rest

/-- The further elements of an array and its closing bracket. -/
def prettyElements (depth : Nat) : List Json → Text
  | [] => newline depth ++ [']']
  | element :: rest =>
    ',' :: newline (depth + 1) ++ pretty (depth + 1) element ++
      prettyElements depth rest

/-- The further members of an object and its closing brace. -/
def prettyMembers (depth : Nat) : List (Text × Json) → Text
  | [] => newline depth ++ ['\x7d']
  | (name, value) :: rest =>
    ',' :: newline (depth + 1) ++ quote name ++ [':', ' '] ++
      pretty (depth + 1) value ++
      prettyMembers depth rest

end

end Json

end LiterateBook
