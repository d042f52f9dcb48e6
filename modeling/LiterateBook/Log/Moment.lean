import LiterateBook.Text.Decimal

/-!
# Moments

The time of an event, to the microsecond, as it stands at the start of a log
line.
-/

namespace LiterateBook

/-- A moment in Coordinated Universal Time. -/
structure Moment where
  year : Nat
  month : Nat
  day : Nat
  hour : Nat
  minute : Nat
  second : Nat
  microsecond : Nat
  deriving DecidableEq

namespace Moment

/-- The decimal digits of a number, with zeros in front up to a width. -/
def padded (width n : Nat) : Text :=
  List.leftpad width '0' (Text.decimal n)

/-- A moment as it is written: the date, the time of the day and its
fraction. -/
def text (moment : Moment) : Text :=
  padded 4 moment.year ++ '-' :: padded 2 moment.month ++ '-' ::
    padded 2 moment.day ++
    'T' :: padded 2 moment.hour ++ ':' :: padded 2 moment.minute ++ ':' ::
      padded 2 moment.second ++
    '.' :: padded 6 moment.microsecond ++ ['Z']

end Moment

end LiterateBook
