import LiterateBook.Text.White

/-!
# Patterns

File name patterns as they are written: literal characters, `?`, `*`, classes in
brackets, alternatives in braces, a backslash before a character that is to
stand for itself, and `**` for whole path components. The reader goes through
the characters once and says which rule a pattern breaks first.
-/

namespace LiterateBook

/-- A part of a file name pattern. -/
inductive PatternToken where
  | literal (c : Char)
  /-- Any one byte. -/
  | anyByte
  /-- Any number of bytes. -/
  | anyBytes
  /-- Any leading components, each with its separator. -/
  | leadingComponents
  /-- A separator and anything after it. -/
  | trailingComponents
  /-- A separator, or components between two separators. -/
  | innerComponents
  | bracket (negated : Bool) (ranges : List (Char × Char))
  | alternatives (branches : List (List PatternToken))

/-- The rule that a pattern breaks. -/
inductive PatternError where
  | unclosedClass
  | invalidRange (first last : Char)
  | unopenedAlternates
  | unclosedAlternates
  | danglingEscape
  deriving DecidableEq

namespace PatternError

/-- The wording of a broken rule. -/
def rule : PatternError → Text
  | .unclosedClass => "unclosed character class; missing ']'".toList
  | .invalidRange first last =>
    "invalid range; '".toList ++ [first] ++ "' > '".toList ++ [last, '\'']
  | .unopenedAlternates =>
    "unopened alternate group; missing '\x7b' (maybe escape '\x7d' with '[\x7d]'?)".toList
  | .unclosedAlternates =>
    "unclosed alternate group; missing '\x7d' (maybe escape '\x7b' with '[\x7b]'?)".toList
  | .danglingEscape => "dangling '\\'".toList

/-- The wording of a broken rule, with the pattern that breaks it. -/
def message (error : PatternError) (pattern : Text) : Text :=
  "error parsing glob '".toList ++ pattern ++ "': ".toList ++ error.rule

end PatternError

namespace Pattern

/-! ## Classes -/

/-- Let a range end at a character; it may not run backwards. -/
def extendRange (range : Char × Char) (last : Char) :
    Except PatternError (Char × Char) :=
  if last < range.1 then .error (.invalidRange range.1 last)
  else .ok (range.1, last)

/-- Read a class after its opening bracket and negation sign: its ranges, last
range first, whether its first character is still to come, and whether a range
waits for its end. The closing bracket and the hyphen stand for themselves in
first place, and a hyphen before the closing bracket does too. -/
def readClass (ranges : List (Char × Char)) (first waiting : Bool) :
    Text → Except PatternError (List (Char × Char) × Text)
  | [] => .error .unclosedClass
  | c :: rest =>
    if c = ']' ∧ first = false then
      .ok ((if waiting then ('-', '-') :: ranges else ranges).reverse, rest)
    else if c = '-' ∧ first = false ∧ waiting = false then
      readClass ranges false true rest
    else match waiting, ranges with
      | true, last :: others =>
        match extendRange last c with
        | .error error => .error error
        | .ok longer => readClass (longer :: others) false false rest
      | _, _ => readClass ((c, c) :: ranges) false false rest

/-- What follows a class is shorter than what the class was read from. -/
theorem length_of_readClass {ranges result : List (Char × Char)}
    {first waiting : Bool} {text rest : Text}
    (done : readClass ranges first waiting text = .ok (result, rest)) :
    rest.length < text.length := by
  induction text generalizing ranges first waiting with
  | nil => cases done
  | cons c tail ih =>
    unfold readClass at done
    split at done
    · cases done; simp
    · split at done
      · exact Nat.lt_succ_of_lt (ih done)
      · split at done
        · split at done
          · cases done
          · exact Nat.lt_succ_of_lt (ih done)
        · exact Nat.lt_succ_of_lt (ih done)

/-- Drop the sign that negates a class, and say whether it was there. -/
def negation : Text → Bool × Text
  | '!' :: rest => (true, rest)
  | '^' :: rest => (true, rest)
  | text => (false, text)

theorem length_negation_le (text : Text) :
    (negation text).2.length ≤ text.length := by
  unfold negation
  split <;> simp

/-! ## Double stars -/

/-- What a double star becomes, given the tokens before it, last one first, the
character before it, whether it stands inside braces, and what follows it: the
tokens with it, and what is left to read. It stands for components only between
separators; elsewhere it is two stars. -/
def doubleStar (tokens : List PatternToken) (previous : Option Char)
    (grouped : Bool) (rest : Text) : List PatternToken × Text :=
  let twoStars := (PatternToken.anyBytes :: .anyBytes :: tokens, rest)
  if tokens.isEmpty then
    match rest with
    | [] => ([.leadingComponents], [])
    | '/' :: after => ([.leadingComponents], after)
    | _ => twoStars
  else if previous ≠ some '/' ∧ ¬(grouped ∧ (previous = some ',' ∨ previous = some '\x7b')) then
    twoStars
  else
    let merged (last : PatternToken) : List PatternToken :=
      match tokens with
      | .leadingComponents :: others => .leadingComponents :: others
      | .trailingComponents :: others => .trailingComponents :: others
      | _ :: others => last :: others
      | [] => [last]
    match rest with
    | [] => (merged .trailingComponents, [])
    | '/' :: after => (merged .innerComponents, after)
    | c :: _ =>
      if grouped ∧ (c = ',' ∨ c = '\x7d') then (merged .trailingComponents,
        rest) else twoStars

theorem length_doubleStar_le (tokens : List PatternToken)
    (previous : Option Char) (grouped : Bool) (rest : Text) :
    (doubleStar tokens previous grouped rest).2.length ≤ rest.length := by
  unfold doubleStar
  repeat' split
  all_goals simp

/-! ## The reader -/

/-- A group of alternatives that is still open: the tokens before it, last one
first, and its finished branches, last one first. -/
structure OpenGroup where
  before : List PatternToken
  branches : List (List PatternToken)

/-- Read a pattern, given the open groups, innermost first, the tokens of the
current branch, last one first, and the character before. -/
def read (groups : List OpenGroup) (tokens : List PatternToken)
    (previous : Option Char) (text : Text) :
    Except PatternError (List PatternToken) :=
  match text with
  | [] =>
    if groups.isEmpty then .ok tokens.reverse else .error .unclosedAlternates
  | '?' :: rest => read groups (.anyByte :: tokens) (some '?') rest
  | '*' :: '*' :: rest =>
    match found : doubleStar tokens previous (!groups.isEmpty) rest with
    | (starred, after) =>
      have shorter := length_doubleStar_le tokens previous
        (!groups.isEmpty) rest
      have : after.length ≤ rest.length := by
        rw [found] at shorter; exact shorter
      read groups starred
        (some (if after.length < rest.length then '/' else '*')) after
  | '*' :: rest => read groups (.anyBytes :: tokens) (some '*') rest
  | '[' :: rest =>
    have : (negation rest).2.length ≤ rest.length := length_negation_le rest
    match done : readClass [] true false (negation rest).2 with
    | .error error => .error error
    | .ok (ranges, after) =>
      have : after.length < (negation rest).2.length := length_of_readClass done
      read groups (.bracket (negation rest).1 ranges :: tokens) (some ']') after
  | '\x7b' :: rest => read (⟨tokens, []⟩ :: groups) [] (some '\x7b') rest
  | '\x7d' :: rest =>
    match groups with
    | [] => .error .unopenedAlternates
    | group :: outer =>
      let branches := (tokens.reverse :: group.branches).reverse
      read outer (.alternatives branches :: group.before) (some '\x7d') rest
  | ',' :: rest =>
    match groups with
    | [] => read [] (.literal ',' :: tokens) (some ',') rest
    | group :: outer =>
      read (⟨group.before, tokens.reverse :: group.branches⟩ :: outer) []
        (some ',') rest
  | '\\' :: c :: rest => read groups (.literal c :: tokens) (some c) rest
  | ['\\'] => .error .danglingEscape
  | c :: rest => read groups (.literal c :: tokens) (some c) rest
termination_by text.length

end Pattern

end LiterateBook
