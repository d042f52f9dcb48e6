import LiterateBook.Text.White

/-!
# Digits

Numbers and characters that are written in digits, decimal or hexadecimal.
-/

namespace LiterateBook

namespace Text

/-- Whether a character is a decimal digit. -/
def isDigit (c : Char) : Bool :=
  '0' ≤ c && c ≤ '9'

/-- Whether a character is a hexadecimal digit. -/
def isHexDigit (c : Char) : Bool :=
  isDigit c || ('a' ≤ c && c ≤ 'f') || ('A' ≤ c && c ≤ 'F')

/-- The number that digits in a base make up; letters stand for the digits from
ten on. -/
def natOf (base : Nat) (digits : Text) : Nat :=
  digits.foldl (fun value c =>
    value * base +
      (if isDigit c then c.toNat - '0'.toNat
        else if 'a' ≤ c then c.toNat - 'a'.toNat + 10
        else c.toNat - 'A'.toNat + 10)) 0

/-- The character of which a text starts with the code point in exactly `count`
hexadecimal digits, and what follows them. -/
def hexChar? (count : Nat) (text : Text) : Option (Char × Text) :=
  let digits := text.take count
  let value := natOf 16 digits
  if digits.length = count ∧ digits.all isHexDigit ∧ value.isValidChar then
    some (Char.ofNat value, text.drop count)
  else none

theorem length_of_hexChar? {count : Nat} {text rest : Text} {c : Char}
    (read : hexChar? count text = some (c, rest)) :
    rest.length ≤ text.length := by
  unfold hexChar? at read
  grind

end Text

end LiterateBook
