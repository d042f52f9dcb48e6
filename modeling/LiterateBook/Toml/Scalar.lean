import LiterateBook.Text.Digits

/-!
# TOML scalars

Numbers, truth values and points in time are written without quotes. This module
reads such a word and says which kind of scalar it is, or that it is none. Being
written as a number is one thing, and being a number that can be stored another:
integers must fit into 128 bits and floats must be finite.
-/

namespace LiterateBook

namespace Toml

open Text (isDigit isHexDigit natOf)

/-- A value that holds no other values. -/
inductive Scalar where
  | string (value : Text)
  /-- An integer, and whether it can be stored. -/
  | integer (fits : Bool)
  /-- A float, and whether it can be stored. -/
  | float (fits : Bool)
  | boolean (value : Bool)
  | moment
  deriving DecidableEq

namespace Scalar

/-- Whether a scalar can be stored; only numbers can fail to. -/
def isReadable : Scalar → Bool
  | integer fits => fits
  | float fits => fits
  | _ => true

/-- Whether a word starts with a sign. -/
def isSigned (word : Text) : Bool :=
  word.head? = some '+' || word.head? = some '-'

/-- A word without the sign at its start. -/
def unsigned (word : Text) : Text :=
  if isSigned word then word.tail else word

/-- A word without its underscores. -/
def joined (word : Text) : Text :=
  word.filter (· != '_')

/-- Whether every underscore of a word stands between digits. -/
def isSpaced (digit : Char → Bool) (afterDigit : Bool) : Text → Bool
  | [] => true
  | ['_'] => false
  | '_' :: c :: rest => afterDigit && digit c && isSpaced digit true rest
  | c :: rest => isSpaced digit (digit c) rest

/-! ## Integers -/

/-- The integer of a word behind the prefix of its base. The digits may be
missing, and then it cannot be stored. -/
def based? (base : Nat) (digit : Char → Bool) (word : Text) : Option Scalar :=
  let digits := joined word
  if digits.all digit ∧ isSpaced digit false word then
    some (.integer (digits ≠ [] ∧ natOf base digits < Nat.pow 2 128))
  else none

/-- Whether a decimal number with a sign is written in digits alone and fits
into 128 bits. -/
def integerFits (word : Text) : Bool :=
  let digits := unsigned word
  digits.all isDigit &&
    if word.head? = some '-' then natOf 10 digits ≤ Nat.pow 2 127
    else natOf 10 digits < Nat.pow 2 128

/-- The decimal integer of a word. What follows its first underscore is looked
at only around the underscores, so that a word with other characters can be an
integer that cannot be stored. A zero comes first only alone. -/
def decimalInteger? (word : Text) : Option Scalar :=
  let magnitude := unsigned word
  if (magnitude.head? = some '0' ∧ 1 < magnitude.length) ∨
      isSpaced isHexDigit (isSigned word) magnitude = false then none
  else some (.integer (integerFits (joined word)))

/-! ## Floats -/

/-- Whether a decimal number with a power of ten is below the numbers that round
to infinity. -/
def isFinite (mantissa : Nat) (exponent : Int) : Bool :=
  let digits := (Nat.toDigits 10 mantissa).length
  if mantissa = 0 then true
  else if (400 : Int) < exponent + digits then false
  else if exponent + digits < 300 then true
  else if 0 ≤ exponent then
    mantissa * Nat.pow 10 exponent.toNat < Nat.pow 2 1024 - Nat.pow 2 970
  else mantissa < (Nat.pow 2 1024 - Nat.pow 2 970) * Nat.pow 10
    (-exponent).toNat

/-- Whether a float without underscores is finite. -/
def floatFits (word : Text) : Bool :=
  let magnitude := unsigned word
  let body := magnitude.takeWhile fun c => isDigit c || c == '.'
  let fraction := (body.dropWhile (· != '.')).tail
  let power := (magnitude.drop body.length).tail
  let exponent : Int :=
    if power.head? = some '-' then -(natOf 10 (unsigned power) : Int)
    else natOf 10 (unsigned power)
  isFinite (natOf 10 (body.filter isDigit)) (exponent - fraction.length)

/-- What follows digits and underscores, of which at least one is a digit. -/
def afterDigits? (zeroFirst : Bool) (word : Text) : Option Text :=
  let run := word.takeWhile fun c => isDigit c || c == '_'
  let count := (run.filter isDigit).length
  if count = 0 ∨ (1 < count ∧ run.head? = some '0' ∧ zeroFirst = false) then
    none
  else some (word.drop run.length)

/-- Whether a word without a sign is laid out as a float. -/
def isFloat (magnitude : Text) : Bool :=
  let fraction? : Text → Option Text
    | '.' :: rest => afterDigits? true rest
    | rest => some rest
  let exponent? : Text → Option Text
    | c :: rest =>
      if c = 'e' ∨ c = 'E' then afterDigits? true (unsigned rest)
      else some (c :: rest)
    | [] => some []
  (((afterDigits? false magnitude).bind fraction?).bind exponent?) = some []

/-- The float of a word. -/
def float? (word : Text) : Option Scalar :=
  if isFloat (unsigned word) ∧ isSpaced isDigit (isSigned word) (unsigned word) then
    some (.float (floatFits (joined word)))
  else none

/-! ## Points in time -/

/-- The number that exactly `count` digits at the start of a word make up, and
the rest. -/
def field? (count : Nat) (word : Text) : Option (Nat × Text) :=
  let digits := word.take count
  if digits.length = count ∧ digits.all isDigit then
    some (natOf 10 digits, word.drop count)
  else none

/-- The number of days of a month. -/
def daysOf (year month : Nat) : Nat :=
  if month = 2 then
    if year % 4 = 0 ∧ (year % 100 ≠ 0 ∨ year % 400 = 0) then 29 else 28
  else if month = 4 ∨ month = 6 ∨ month = 9 ∨ month = 11 then 30
  else 31

/-- What follows a date. -/
def afterDate? (word : Text) : Option Text := do
  let (year, rest) ← field? 4 word
  let '-' :: rest := rest | none
  let (month, rest) ← field? 2 rest
  let '-' :: rest := rest | none
  let (day, rest) ← field? 2 rest
  if 1 ≤ month ∧ month ≤ 12 ∧ 1 ≤ day ∧ day ≤ daysOf year month then some rest
  else none

/-- What follows a time of day; the seconds and their fraction may be left
out. -/
def afterTime? (word : Text) : Option Text := do
  let (hour, rest) ← field? 2 word
  let ':' :: rest := rest | none
  let (minute, rest) ← field? 2 rest
  if 23 < hour ∨ 59 < minute then none
  else match rest with
    | ':' :: rest =>
      let (second, rest) ← field? 2 rest
      if 60 < second then none
      else match rest with
        | '.' :: fraction =>
          if (fraction.head?.map isDigit) = some true then
            some (fraction.dropWhile isDigit)
          else none
        | rest => some rest
    | rest => some rest

/-- Whether a word is an offset from universal time. -/
def isOffset : Text → Bool
  | ['Z'] => true
  | ['z'] => true
  | c :: rest =>
    (c == '+' || c == '-') &&
      match field? 2 rest with
      | some (hours, ':' :: rest) =>
        match field? 2 rest with
        | some (minutes, []) => hours ≤ 23 && minutes ≤ 59
        | _ => false
      | _ => false
  | [] => false

/-- Whether a word is a date, a time, or a date with a time and perhaps an
offset. -/
def isMoment (word : Text) : Bool :=
  match afterDate? word with
  | some [] => true
  | some (separator :: rest) =>
    (separator == 'T' || separator == 't' || separator == ' ') &&
      match afterTime? rest with
      | some [] => true
      | some offset => isOffset offset
      | none => false
  | none => afterTime? word == some []

/-! ## Words -/

/-- The number or the point in time of a word, by what comes after its first
digits. -/
def ofDigits? (word : Text) : Option Scalar :=
  let magnitude := unsigned word
  match magnitude.dropWhile isDigit with
  | [] => if magnitude = [] then none else decimalInteger? word
  | c :: rest =>
    if c = '-' ∨ c = ':' then (if isMoment word then some .moment else none)
    else if (c :: rest).any ['.', 'e', 'E'].contains then float? word
    else if c = '_' then decimalInteger? word
    else none

/-- The scalar that a word without quotes stands for. -/
def ofWord? (word : Text) : Option Scalar :=
  if word = ['t', 'r', 'u', 'e'] then some (.boolean true)
  else if word = ['f', 'a', 'l', 's', 'e'] then some (.boolean false)
  else if unsigned word = ['i', 'n', 'f'] ∨ unsigned word = ['n', 'a', 'n'] then
    some (.float true)
  else match word with
    | '0' :: 'x' :: digits => based? 16 isHexDigit digits
    | '0' :: 'o' :: digits => based? 8 (fun c => '0' ≤ c && c ≤ '7') digits
    | '0' :: 'b' :: digits => based? 2 (fun c => c == '0' || c == '1') digits
    | word => ofDigits? word

end Scalar

end Toml

end LiterateBook
