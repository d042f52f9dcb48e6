import LiterateBook.Text.White

/-!
# Commands

What the program can be asked to do with a directory of sources, a book or a
single source, and the settings that hold for every command.
-/

namespace LiterateBook

/-- How the blocks of a source are listed. -/
inductive ListingFormat where
  | text
  | json
  deriving DecidableEq

namespace ListingFormat

/-- The format of a name. -/
def ofName? (name : Text) : Option ListingFormat :=
  if name = "text".toList then some .text
  else if name = "json".toList then some .json
  else none

end ListingFormat

/-- What the program is asked to do. -/
inductive Command where
  /-- Weave the book of a directory and write it. -/
  | build (sourceDir output : Text)
  /-- Compare a file with the book of a directory, and show the difference if
  asked to. -/
  | check (sourceDir output : Text) (diff : Bool)
  /-- List the blocks of a source. -/
  | blocks (file : Text) (format : ListingFormat)
  deriving DecidableEq

/-- The settings that hold for every command. -/
structure Settings where
  /-- The root below which the configuration is looked for, if it is not the
  current directory. -/
  path : Option Text
  verbose : Bool
  noColour : Bool
  deriving DecidableEq

end LiterateBook
