/-!
# Byte expressions

Regular expressions over bytes, the language that file name patterns are read
into. An expression is run by keeping the list of expressions that may match
what is left of the input; each byte replaces that list by the list of partial
derivatives.
-/

namespace LiterateBook

/-- A regular expression over bytes. -/
inductive ByteExpr where
  | nothing
  | empty
  /-- One byte inside one of the ranges, or outside all of them when negated. -/
  | oneOf (negated : Bool) (ranges : List (UInt8 × UInt8))
  | sequence (first second : ByteExpr)
  | choice (first second : ByteExpr)
  | repeated (body : ByteExpr)
  deriving DecidableEq

namespace ByteExpr

/-- The expression for one given byte. -/
def literal (byte : UInt8) : ByteExpr :=
  .oneOf false [(byte, byte)]

/-- The expression for any one byte. -/
def anyByte : ByteExpr :=
  .oneOf true []

/-- The expression for any bytes at all. -/
def anything : ByteExpr :=
  .repeated anyByte

/-- One expression after another; one that is empty leaves no trace. -/
def andThen : ByteExpr → ByteExpr → ByteExpr
  | .empty, second => second
  | first, .empty => first
  | first, second => .sequence first second

/-- The bytes given, one after another. -/
def word (bytes : List UInt8) : ByteExpr :=
  bytes.foldr (fun byte rest => (literal byte).andThen rest) .empty

/-- One of several expressions. -/
def choiceAll : List ByteExpr → ByteExpr
  | [] => .nothing
  | first :: rest => .choice first (choiceAll rest)

/-- Whether an expression matches no bytes at all. -/
def nullable : ByteExpr → Bool
  | .nothing => false
  | .empty => true
  | .oneOf _ _ => false
  | .sequence first second => first.nullable && second.nullable
  | .choice first second => first.nullable || second.nullable
  | .repeated _ => true

/-- Whether a byte is one that a byte class admits. -/
def admits (negated : Bool) (ranges : List (UInt8 × UInt8)) (byte : UInt8) :
    Bool :=
  (ranges.any fun range => range.1 ≤ byte && byte ≤ range.2) != negated

/-- The expressions that may match what follows a byte. -/
def step (byte : UInt8) : ByteExpr → List ByteExpr
  | .nothing => []
  | .empty => []
  | .oneOf negated ranges => if admits negated ranges byte then [.empty] else []
  | .sequence first second =>
    (first.step byte).map (.sequence · second) ++
      (if first.nullable then second.step byte else [])
  | .choice first second => first.step byte ++ second.step byte
  | .repeated body => (body.step byte).map (.sequence · (.repeated body))

/-- Whether one of several expressions matches all of the bytes. -/
def anyMatches (expressions : List ByteExpr) : List UInt8 → Bool
  | [] => expressions.any nullable
  | byte :: rest => anyMatches (expressions.flatMap (step byte)).eraseDups rest

/-- Whether an expression matches all of the bytes. -/
def matchesAll (expression : ByteExpr) (bytes : List UInt8) : Bool :=
  anyMatches [expression] bytes

end ByteExpr

end LiterateBook
