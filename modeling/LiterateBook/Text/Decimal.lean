import LiterateBook.Text.White

/-!
# Numbers in texts

Counts and line numbers are written in decimal, without sign or leading zeros.
-/

namespace LiterateBook

namespace Text

/-- The decimal digits of a number. -/
def decimal (n : Nat) : Text :=
  Nat.toDigits 10 n

/-- The decimal digits of a number, moved to the right of a field of at least
`width` characters. -/
def decimalRight (width n : Nat) : Text :=
  List.leftpad width ' ' (decimal n)

end Text

end LiterateBook
