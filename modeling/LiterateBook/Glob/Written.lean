import LiterateBook.Glob.Pattern

/-!
# Written expressions

The expression of a pattern in the usual notation for regular expressions. It
is reported, and it may not be nested too deep: each group, choice, repetition,
class and sequence is one level below what it is part of.
-/

namespace LiterateBook

namespace Written

/-! ## The text -/

/-- The characters that have a meaning in an expression. -/
def special : Text :=
  ['\\', '.', '+', '*', '?', '(', ')', '|', '[', ']', '\x7b', '\x7d', '^', '$',
    '#', '&', '-', '~']

/-- A byte that stands for itself. -/
def byte (b : UInt8) : Text :=
  let c := Char.ofNat b.toNat
  if 0x80 ≤ b.toNat then '\\' :: 'x' :: Nat.toDigits 16 b.toNat
  else if special.contains c then ['\\', c]
  else [c]

/-- A character that stands for itself. -/
def literal (c : Char) : Text :=
  (String.utf8EncodeChar c).flatMap byte

/-- A member of a class. -/
def range (range : Char × Char) : Text :=
  if range.1 = range.2 then literal range.1
  else literal range.1 ++ '-' :: literal range.2

mutual

/-- The expression of a part of a pattern. -/
def ofToken : PatternToken → Text
  | .literal c => literal c
  | .anyByte => ['.']
  | .anyBytes => ".*".toList
  | .leadingComponents => "(?:/?|.*/)".toList
  | .trailingComponents => "/.*".toList
  | .innerComponents => "(?:/|/.*/)".toList
  | .bracket negated ranges =>
    '[' :: (if negated then ['^'] else []) ++ ranges.flatMap range ++ [']']
  | .alternatives branches =>
    match ofBranches branches with
    | [] => []
    | choices => "(?:".toList ++ ['|'].intercalate choices ++ [')']

/-- The expression of parts one after another. -/
def ofTokens : List PatternToken → Text
  | [] => []
  | token :: rest => ofToken token ++ ofTokens rest

/-- The expressions of alternatives; an empty one is no alternative. -/
def ofBranches : List (List PatternToken) → List Text
  | [] => []
  | branch :: rest =>
    match ofTokens branch with
    | [] => ofBranches rest
    | choice => choice :: ofBranches rest

end

/-- The expression of a pattern, which matches bytes and the whole path; a lone
double star matches everything. -/
def ofPattern (tokens : List PatternToken) : Text :=
  let body := match tokens with
    | [.leadingComponents] => ".*".toList
    | tokens => ofTokens tokens
  "(?-u)^".toList ++ body ++ ['$']

/-! ## Nesting -/

/-- The levels of a class below it: none, or one that holds its members when
there are several. -/
def bracketDepth (ranges : List (Char × Char)) : Nat :=
  let size := fun (first, last) =>
    if first = last then first.utf8Size else first.utf8Size + last.utf8Size - 1
  let members := ranges.foldr (fun range total => size range + total) 0
  if members = 1 then 1 else 2

/-- The levels of a sequence or a choice of parts with the given levels; one
part stands alone. -/
def depthOf : List Nat → Nat
  | [depth] => depth
  | depths => if depths = [] then 0 else 1 + depths.foldl max 0

mutual

/-- The levels of each of the expressions that a part of a pattern is written
as. -/
def tokenDepths : PatternToken → List Nat
  | .literal c => List.replicate c.utf8Size 0
  | .anyByte => [0]
  | .anyBytes => [1]
  | .leadingComponents => [4]
  | .trailingComponents => [0, 1]
  | .innerComponents => [4]
  | .bracket _ ranges => [bracketDepth ranges]
  | .alternatives branches =>
    match branchDepths branches with
    | [] => []
    | depths => [1 + depthOf depths]

/-- The levels of each of the expressions that parts of a pattern are written
as. -/
def tokensDepths : List PatternToken → List Nat
  | [] => []
  | token :: rest => tokenDepths token ++ tokensDepths rest

/-- The levels of alternatives; an empty one is no alternative. -/
def branchDepths : List (List PatternToken) → List Nat
  | [] => []
  | branch :: rest =>
    match tokensDepths branch with
    | [] => branchDepths rest
    | depths => depthOf depths :: branchDepths rest

end

/-- The levels of the expression of a pattern: its parts stand in a sequence
with the marks for its start and end. -/
def depth (tokens : List PatternToken) : Nat :=
  match tokens with
  | [.leadingComponents] => 2
  | tokens => 1 + (tokensDepths tokens).foldl max 0

/-- The most levels that an expression may have. -/
def maxDepth : Nat := 250

end Written

end LiterateBook
