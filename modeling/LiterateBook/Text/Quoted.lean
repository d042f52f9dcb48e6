import LiterateBook.Text.Unprintable

/-!
# Quoted texts

A text in double quotes, in which the quote, the backslash and every character
that would not be seen are escaped.
-/

namespace LiterateBook

namespace Text

/-- A character as it stands in a quoted text. -/
def escapeQuoted (c : Char) : Text :=
  if c = '\x00' then ['\\', '0']
  else if c = '\t' then ['\\', 't']
  else if c = '\r' then ['\\', 'r']
  else if c = '\n' then ['\\', 'n']
  else if c = '"' then ['\\', '"']
  else if c = '\\' then ['\\', '\\']
  else if isUnprintable c then
    "\\u\x7b".toList ++ Nat.toDigits 16 c.toNat ++ ['\x7d']
  else [c]

/-- A text in quotes. -/
def quoted (text : Text) : Text :=
  '"' :: text.flatMap escapeQuoted ++ ['"']

end Text

end LiterateBook
