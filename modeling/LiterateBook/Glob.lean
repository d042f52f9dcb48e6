import LiterateBook.Glob.Decision
import LiterateBook.Glob.Expression
import LiterateBook.Glob.Written
import LiterateBook.Logged
import LiterateBook.Text.Bytes
import LiterateBook.Text.Decimal
import LiterateBook.Text.Quoted

/-!
# Globs

A glob is a pattern that was read without fault. It matches a file name when the
byte expression it stands for matches the whole name. A list of patterns selects
the names that any of them matches; the first faulty one makes it fail, and so
does one whose expression is nested too deep.
-/

namespace LiterateBook

/-- A pattern for file names, as it was written and in parts. -/
structure Glob where
  pattern : Text
  tokens : List PatternToken

namespace Glob

/-- The glob that a pattern stands for. -/
def ofPattern (pattern : Text) : Except PatternError Glob :=
  (Pattern.read [] [] none pattern).map (Glob.mk pattern)

/-! ## Meaning -/

/-- The byte ranges of a class member. A class admits one byte, so a character
of several bytes stands for each of them, and a range runs from the last byte of
its first character to the first byte of its last one. -/
def classRange (range : Char × Char) : List (UInt8 × UInt8) :=
  let single (byte : UInt8) : UInt8 × UInt8 := (byte, byte)
  let low := String.utf8EncodeChar range.1
  let high := String.utf8EncodeChar range.2
  if range.1 = range.2 then low.map single
  else
    low.dropLast.map single ++ [(low.getLastD 0, high.headD 0)] ++
      high.tail.map single

/-- The separator of path components. -/
def separator : ByteExpr :=
  .word (Text.bytes ['/'])

/-- Any bytes that end in a separator. -/
def throughSeparator : ByteExpr :=
  .andThen .anything separator

mutual

/-- The byte expression of a part of a pattern. -/
def tokenExpr : PatternToken → ByteExpr
  | .literal c => .word (String.utf8EncodeChar c)
  | .anyByte => .anyByte
  | .anyBytes => .anything
  | .leadingComponents => .choiceAll [.empty, separator, throughSeparator]
  | .trailingComponents => .andThen separator .anything
  | .innerComponents => .choice separator (.andThen separator throughSeparator)
  | .bracket negated ranges => .oneOf negated (ranges.flatMap classRange)
  | .alternatives branches =>
    match branchExprs branches with
    | [] => .empty
    | choices => .choiceAll choices

/-- The byte expression of parts one after another. -/
def tokensExpr : List PatternToken → ByteExpr
  | [] => .empty
  | token :: rest => (tokenExpr token).andThen (tokensExpr rest)

/-- The byte expressions of alternatives; an empty one is no alternative. -/
def branchExprs : List (List PatternToken) → List ByteExpr
  | [] => []
  | branch :: rest =>
    match tokensExpr branch with
    | .empty => branchExprs rest
    | choice => choice :: branchExprs rest

end

/-- The byte expression of a glob; a lone double star matches everything. -/
def expression (glob : Glob) : ByteExpr :=
  match glob.tokens with
  | [.leadingComponents] => .anything
  | tokens => tokensExpr tokens

/-! ## Matching names

A path whose last component is `..` names no file, so it has neither a file name
nor an extension. A glob that is decided by one of these does not match it. -/

/-- By what a glob is decided. -/
def decision (glob : Glob) : Decision :=
  .ofTokens glob.tokens

/-- Whether a path's last component is the parent directory. -/
def endsInParent (name : Text) : Bool :=
  (name.reverse.takeWhile (· != '/')) == ['.', '.']

/-- Whether a glob matches a file name. -/
def matchesName (glob : Glob) (name : Text) : Bool :=
  if endsInParent name && glob.decision.needsFileName then false
  else glob.expression.matchesAll name.bytes

end Glob

/-! ## Lists of patterns

The globs that are decided by their expressions alone are made ready together,
after those that need an extension too. -/

namespace Glob

/-- Whether the expression of a glob is nested too deep. -/
def isTooDeep (glob : Glob) : Bool :=
  Written.maxDepth < Written.depth glob.tokens

/-- The wording for the expression with a number among those that are made ready
together. -/
def tooDeepMessage (index : Nat) : Text :=
  "error parsing pattern ".toList ++ Text.decimal index

/-- Why a list of globs cannot be made ready, if it cannot: an expression that
decides one of them is nested too deep. Expressions have no other limit here. -/
def fault? (globs : List Glob) : Option Text :=
  let apart := globs.filter (·.decision = .expressionWithExtension)
  let together := globs.filter (·.decision = .expression)
  match apart.find? isTooDeep with
  | some glob =>
    some ("error parsing glob '".toList ++ Written.ofPattern glob.tokens ++
      "': ".toList ++
      tooDeepMessage 0)
  | none => (together.findIdx? isTooDeep).map tooDeepMessage

/-- The event of writing the expression of a glob. -/
def writtenEvent (glob : Glob) : Event :=
  ⟨.debug, .glob, "glob `Glob(".toList ++ glob.pattern.quoted ++
    ")` converted to regex: `".toList ++
      (Written.ofPattern glob.tokens).quoted ++ ['`'], []⟩

/-- The globs of a list of patterns, or the failure of the first pattern that is
faulty. -/
def readAll (patterns : List Text) : Except Failure (List Glob) :=
  patterns.mapM fun pattern =>
    (ofPattern pattern).mapError fun error =>
      .invalidPattern pattern (error.message pattern)

/-- The globs of a list of patterns. A failure that is not of one pattern is of
all. -/
def ofPatterns (patterns : List Text) : Logged (List Glob) := do
  let globs ← .ofExcept (readAll patterns)
  ⟨(globs.filter (·.decision = .expression)).map writtenEvent,
    match fault? globs with
    | some reason =>
      .error (.invalidPattern (", ".toList.intercalate patterns) reason)
    | none => .ok globs⟩

/-- Whether any of the globs matches a file name. -/
def anyMatchesName (globs : List Glob) (name : Text) : Bool :=
  globs.any fun glob => glob.matchesName name

end Glob

end LiterateBook
