import LiterateBook.Text.Alphanumeric
import LiterateBook.Text.Digits

/-!
# Value patterns

A log filter may ask for a field with a certain value: a number, or a text that
a regular expression matches. Events are not chosen by their values, so all that
matters of an expression is whether it is well formed and can be run in one
pass, which rules out references, looking around and the ends of words. Neither
a closing brace nor a comma can stand in a filter's value, so that no count of
repetitions and no name in braces is ever complete. Each reader leaves less text
than it was given, and so the readers end.
-/

namespace LiterateBook

namespace ValuePattern

/-! ## Escapes -/

/-- What an escape stands for. -/
inductive Escaped where
  | char (c : Char)
  | set
  /-- The start or the end of the text. -/
  | position
  deriving DecidableEq

/-- What an escape whose backslash is gone stands for, and what follows it. -/
def escape? : Text → Option (Escaped × Text)
  | 'x' :: rest => character (Text.hexChar? 2 rest)
  | 'u' :: rest => character (Text.hexChar? 4 rest)
  | 'U' :: rest => character (Text.hexChar? 8 rest)
  | 'a' :: rest => some (.char '\x07', rest)
  | 'f' :: rest => some (.char '\x0c', rest)
  | 't' :: rest => some (.char '\t', rest)
  | 'n' :: rest => some (.char '\n', rest)
  | 'r' :: rest => some (.char '\r', rest)
  | 'v' :: rest => some (.char '\x0b', rest)
  | 'A' :: rest => some (.position, rest)
  | 'z' :: rest => some (.position, rest)
  | 'p' :: c :: rest => if isCategory c then some (.set, rest) else none
  | 'P' :: c :: rest => if isCategory c then some (.set, rest) else none
  | c :: rest =>
    if ['d', 'D', 's', 'S', 'w', 'W'].contains c then some (.set, rest)
    else if c.toNat < 0x80 ∧ !c.isAlphanum ∧ c ≠ '<' ∧ c ≠ '>' then
      some (.char c, rest)
    else none
  | [] => none
where
  /-- Whether a letter names a general category. -/
  isCategory (c : Char) : Bool :=
    ['c', 'l', 'm', 'n', 'p', 's', 'z'].contains c.toLower
  /-- A character as what an escape stands for. -/
  character (read : Option (Char × Text)) : Option (Escaped × Text) :=
    read.map fun (c, rest) => (.char c, rest)

theorem length_of_character {count : Nat} {text rest : Text} {escaped : Escaped}
    (read : escape?.character (Text.hexChar? count text) =
      some (escaped, rest)) :
    rest.length ≤ text.length := by
  obtain ⟨⟨c, after⟩, digits, same⟩ := Option.map_eq_some_iff.1 read
  cases same
  exact Text.length_of_hexChar? digits

theorem length_of_escape? {text rest : Text} {escaped : Escaped}
    (read : escape? text = some (escaped, rest)) :
    rest.length < text.length := by
  unfold escape? at read
  split at read
  · exact Nat.lt_succ_of_le (length_of_character read)
  · exact Nat.lt_succ_of_le (length_of_character read)
  · exact Nat.lt_succ_of_le (length_of_character read)
  all_goals grind

/-! ## Classes -/

/-- What follows the sign that turns a class into all other characters, if it
stands there. -/
def afterCaret : Text → Text
  | '^' :: rest => rest
  | text => text

theorem length_afterCaret_le (text : Text) :
    (afterCaret text).length ≤ text.length := by
  fun_cases afterCaret text <;> grind

/-- What follows the opening bracket of a class and those characters after it
that stand for themselves because they come first. -/
def enterClass (text : Text) : Text :=
  match afterCaret text with
  | ']' :: rest => rest
  | members => members.dropWhile (· = '-')

theorem length_enterClass_le (text : Text) :
    (enterClass text).length ≤ text.length := by
  have members := length_afterCaret_le text
  have dropped :=
    (List.dropWhile_suffix (· = '-') (l := afterCaret text)).length_le
  unfold enterClass
  grind

/-- The names of classes that are written between colons. -/
def classNames : List String :=
  ["alnum", "alpha", "ascii", "blank", "cntrl", "digit", "graph", "lower",
    "print", "punct", "space", "upper", "word", "xdigit"]

/-- What follows a class between colons whose opening bracket is gone. -/
def afterNamedClass? : Text → Option Text
  | ':' :: inside =>
    let name := (afterCaret inside).takeWhile (· ≠ ':')
    match (afterCaret inside).drop name.length with
    | ':' :: ']' :: rest =>
      if classNames.contains (String.ofList name) then some rest else none
    | _ => none
  | _ => none

theorem length_of_afterNamedClass? {text rest : Text}
    (named : afterNamedClass? text = some rest) :
    rest.length < text.length := by
  unfold afterNamedClass? at named
  split at named
  · next inside =>
    have begun := length_afterCaret_le inside
    simp only at named
    split at named
    · next dropped =>
      have shorter := congrArg List.length dropped
      grind
    · cases named
  · cases named

/-- One end of a range, or a member that is no range. -/
def member? : Text → Option (Escaped × Text)
  | '\\' :: rest => escape? rest
  | c :: rest => some (.char c, rest)
  | [] => none

theorem length_of_member? {text rest : Text} {escaped : Escaped}
    (read : member? text = some (escaped, rest)) :
    rest.length < text.length := by
  unfold member? at read
  grind [→ length_of_escape?]

/-- What follows a member of a class or a range. A range may not run
backwards. -/
def afterMember? (text : Text) : Option Text :=
  match member? text with
  | none => none
  | some (first, rest) =>
    let alone := if first = .position then none else some rest
    match rest with
    | '-' :: ']' :: _ => alone
    | '-' :: '-' :: _ => alone
    | '-' :: after =>
      match first, member? after with
      | .char low, some (.char high, rest) =>
        if low ≤ high then some rest else none
      | _, _ => none
    | _ => alone

theorem length_of_afterMember? {text rest : Text}
    (read : afterMember? text = some rest) : rest.length < text.length := by
  unfold afterMember? at read
  grind [→ length_of_member?]

/-- What follows the classes that are open, given how many more of them there
are than one. -/
def afterClass? (outer : Nat) (text : Text) : Option Text :=
  match text with
  | ']' :: rest =>
    match outer with
    | 0 => some rest
    | outer + 1 => afterClass? outer rest
  | '[' :: rest =>
    match _named : afterNamedClass? rest with
    | some after => afterClass? outer after
    | none => afterClass? (outer + 1) (enterClass rest)
  | '&' :: '&' :: rest => afterClass? outer rest
  | '-' :: '-' :: rest => afterClass? outer rest
  | '~' :: '~' :: rest => afterClass? outer rest
  | text =>
    match _read : afterMember? text with
    | some after => afterClass? outer after
    | none => none
termination_by text.length
decreasing_by
  · exact Nat.lt_succ_self _
  · exact Nat.lt_succ_of_lt (length_of_afterNamedClass? _named)
  · exact Nat.lt_succ_of_le (length_enterClass_le _)
  · exact Nat.lt_add_of_pos_right Nat.two_pos
  · exact Nat.lt_add_of_pos_right Nat.two_pos
  · exact Nat.lt_add_of_pos_right Nat.two_pos
  · exact length_of_afterMember? _read

theorem length_of_afterClass? {outer : Nat} {text rest : Text}
    (closed : afterClass? outer text = some rest) :
    rest.length < text.length := by
  fun_induction afterClass? outer text <;>
    grind [→ length_of_afterNamedClass?, → length_of_afterMember?,
      length_enterClass_le]

/-! ## Groups -/

/-- How a group starts. -/
inductive Opening where
  | group (rest : Text)
  | named (name rest : Text)
  /-- Flags that hold from here on, without a group. -/
  | flags (rest : Text)

/-- What follows the start of a group. -/
def Opening.rest : Opening → Text
  | group rest | named _ rest | flags rest => rest

/-- Whether flags are known and none stands twice; a minus stands at most once
and not at the end. -/
def areFlags (flags : Text) : Bool :=
  (flags.all ['i', 'm', 's', 'U', 'u', 'R', 'x', '-'].contains) &&
    flags.eraseDups.length = flags.length && flags.getLast? ≠ some '-'

/-- The name of a group and what follows it. -/
def named? (text : Text) : Option Opening :=
  let name := text.takeWhile (· ≠ '>')
  match name, text.drop name.length with
  | first :: others, '>' :: rest =>
    if (first = '_' ∨ (Text.isAlphanumeric first ∧ !Text.isDigit first)) ∧
        others.all fun c => Text.isAlphanumeric c ||
          ['_', '.', '[', ']'].contains c then
      some (.named name rest)
    else none
  | _, _ => none

/-- How a group starts whose opening parenthesis is gone. -/
def opening? : Text → Option Opening
  | '?' :: 'P' :: '<' :: rest => named? rest
  | '?' :: '<' :: rest => named? rest
  | '?' :: rest =>
    let flags := rest.takeWhile fun c => c ≠ ':' ∧ c ≠ ')'
    match rest.drop flags.length with
    | ':' :: rest => if areFlags flags then some (.group rest) else none
    | ')' :: rest =>
      if areFlags flags ∧ flags ≠ [] then some (.flags rest) else none
    | _ => none
  | rest => some (.group rest)

theorem length_of_named? {text : Text} {opening : Opening}
    (named : named? text = some opening) :
    opening.rest.length ≤ text.length := by
  unfold named? at named
  simp only at named
  split at named
  · next dropped =>
    have shorter := congrArg List.length dropped
    grind [Opening.rest]
  · cases named

theorem length_of_opening? {text : Text} {opening : Opening}
    (opened : opening? text = some opening) :
    opening.rest.length ≤ text.length := by
  unfold opening? at opened
  split at opened
  · grind [→ length_of_named?]
  · grind [→ length_of_named?]
  · simp only at opened
    split at opened
    · next dropped =>
      have shorter := congrArg List.length dropped
      grind [Opening.rest]
    · next dropped =>
      have shorter := congrArg List.length dropped
      grind [Opening.rest]
    · cases opened
  · cases opened
    exact Nat.le_refl _

/-! ## Expressions -/

/-- Whether what is left of an expression is well formed, given the names of the
groups so far, the number of groups that are open, and whether there is
something that a repetition can repeat. -/
def goesOn (names : List Text) (opened : Nat) (repeatable : Bool)
    (text : Text) : Bool :=
  match text with
  | [] => opened = 0
  | '\x7b' :: _ => false
  | '|' :: rest => goesOn names opened false rest
  | ')' :: rest => opened ≠ 0 && goesOn names (opened - 1) true rest
  | '(' :: rest =>
    match _starts : opening? rest with
    | none => false
    | some (.group rest) => goesOn names (opened + 1) false rest
    | some (.named name rest) =>
      !names.contains name && goesOn (name :: names) (opened + 1) false rest
    | some (.flags rest) => goesOn names opened false rest
  | '[' :: rest =>
    match _closed : afterClass? 0 (enterClass rest) with
    | some after => goesOn names opened true after
    | none => false
  | '\\' :: rest =>
    match _read : escape? rest with
    | some (_, after) => goesOn names opened true after
    | none => false
  | c :: rest =>
    if ['?', '*', '+'].contains c then
      repeatable &&
        goesOn names opened true
          (if rest.head? = some '?' then rest.tail else rest)
    else goesOn names opened true rest
termination_by text.length
decreasing_by
  · exact Nat.lt_succ_self _
  · exact Nat.lt_succ_self _
  · exact Nat.lt_succ_of_le (length_of_opening? _starts)
  · exact Nat.lt_succ_of_le (length_of_opening? _starts)
  · exact Nat.lt_succ_of_le (length_of_opening? _starts)
  · have closed := length_of_afterClass? _closed
    have entered := length_enterClass_le rest
    exact Nat.lt_succ_of_lt (Nat.lt_of_lt_of_le closed entered)
  · exact Nat.lt_succ_of_lt (length_of_escape? _read)
  · grind
  · exact Nat.lt_succ_self _

/-- Whether a text is a number with a plus in front, which would be no
expression. -/
def isPositive : Text → Bool
  | '+' :: number =>
    let whole := number.takeWhile Text.isDigit
    let afterWhole := number.drop whole.length
    let fraction := match afterWhole with
      | '.' :: rest => rest.takeWhile Text.isDigit
      | _ => []
    let power := match afterWhole with
      | '.' :: rest => rest.drop fraction.length
      | rest => rest
    let plain := whole ++ fraction ≠ [] &&
      match power with
      | [] => true
      | e :: exponent =>
        let digits :=
          if ['+', '-'].any (exponent.head? = some ·) then exponent.tail
          else exponent
        (e == 'e' || e == 'E') && digits ≠ [] && digits.all Text.isDigit
    plain || ["inf", "infinity", "nan"].contains
      (String.ofList (number.map Char.toLower))
  | _ => false

/-- Whether a text is a value that a field can be asked for. -/
def isWellFormed (text : Text) : Bool :=
  isPositive text || goesOn [] 0 false text

end ValuePattern

end LiterateBook
