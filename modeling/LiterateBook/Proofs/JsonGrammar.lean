import LiterateBook.Text.Digits

/-!
# The grammar of JSON texts

What a JSON text says, apart from any way to write one. A text is read from its
start: each part of it stands for something and leaves the rest to be read. The
grammar is all of JSON, with every kind of value, every escape and every way to
write a number, and a text says at most one thing.
-/

namespace LiterateBook

/-- What a JSON text can say. Objects keep the order of their members. -/
inductive JsonValue where
  | null
  | truth (value : Bool)
  | number (value : Rat)
  | string (value : Text)
  | array (elements : List JsonValue)
  | object (members : List (Text × JsonValue))

namespace JsonValue

/-! ## Gaps -/

/-- The characters that may stand around every part of a text. -/
def isGap (c : Char) : Bool :=
  c == ' ' || c == '\t' || c == '\n' || c == '\r'

/-- A text without the gap at its start. -/
def skip (text : Text) : Text :=
  text.dropWhile isGap

/-! ## Strings -/

/-- The character that a letter stands for behind a backslash. -/
def escaped? : Char → Option Char
  | '"' => some '"'
  | '\\' => some '\\'
  | '/' => some '/'
  | 'b' => some '\x08'
  | 'f' => some '\x0c'
  | 'n' => some '\n'
  | 'r' => some '\r'
  | 't' => some '\t'
  | _ => none

/-- The number in four hexadecimal digits that a text starts with, and what
follows them. -/
def codeUnit? (text : Text) : Option (Nat × Text) :=
  let digits := text.take 4
  if digits.length = 4 ∧ digits.all Text.isHexDigit then
    some (Text.natOf 16 digits, text.drop 4)
  else none

/-- The character of a pair of code units, the second of which has a backslash
and a letter of its own, and what follows it. -/
def surrogatePair? (text : Text) : Option (Char × Text) := do
  let (high, '\\' :: 'u' :: rest) ← codeUnit? text | none
  let (low, rest) ← codeUnit? rest
  if 0xD800 ≤ high ∧ high < 0xDC00 ∧ 0xDC00 ≤ low ∧ low < 0xE000 then
    some (Char.ofNat (0x10000 + (high - 0xD800) * 0x400 + (low - 0xDC00)), rest)
  else none

/-- The character that the inside of a string starts with, and what follows
it. -/
def character? : Text → Option (Char × Text)
  | '\\' :: 'u' :: rest => (Text.hexChar? 4 rest).or (surrogatePair? rest)
  | '\\' :: letter :: rest => (escaped? letter).map (·, rest)
  | c :: rest => if c < ' ' ∨ c = '"' ∨ c = '\\' then none else some (c, rest)
  | [] => none

/-- The inside of a string, up to and with the quote that closes it. -/
inductive Characters : Text → Text → Text → Prop where
  | close {rest : Text} : Characters ('"' :: rest) [] rest
  | next {text after value rest : Text} {c : Char}
      (first : character? text = some (c, after))
      (later : Characters after value rest) :
      Characters text (c :: value) rest

/-! ## Numbers -/

/-- What stands before the first character of a kind, and what stands behind it,
if there is one. -/
def cutAt (kind : Char → Bool) (text : Text) : Text × Option Text :=
  (text.takeWhile (!kind ·), (text.dropWhile (!kind ·)).tail?)

/-- The number that digits stand for; there must be at least one. -/
def digits? (text : Text) : Option Nat :=
  if text ≠ [] ∧ text.all Char.isDigit then some (Nat.ofDigitChars 10 text 0)
  else none

/-- The part of a number before the point, in which a zero comes first only
alone. -/
def whole? (text : Text) : Option Nat :=
  if text.head? = some '0' ∧ text ≠ ['0'] then none else digits? text

/-- A power of ten. -/
def powerOfTen : Int → Rat
  | .ofNat n => (Nat.pow 10 n : Nat)
  | .negSucc n => 1 / (Nat.pow 10 (n + 1) : Nat)

/-- The part of a number behind the point, if there is a point. -/
def fraction? : Option Text → Option Rat
  | none => some 0
  | some text =>
    (digits? text).map fun number => number * powerOfTen (-text.length)

/-- The power of ten behind the letter that announces one, if there is one. -/
def power? : Option Text → Option Int
  | none => some 0
  | some ('-' :: text) => (digits? text).map fun number => -number
  | some ('+' :: text) => (digits? text).map fun number => number
  | some text => (digits? text).map fun number => number

/-- The number that a word without a sign stands for. -/
def magnitude? (word : Text) : Option Rat := do
  let (decimal, power) := cutAt (fun c => c == 'e' || c == 'E') word
  let (whole, fraction) := cutAt (· == '.') decimal
  pure (((← whole? whole) + (← fraction? fraction)) * powerOfTen (← power? power))

/-- The number that a word stands for. -/
def number? : Text → Option Rat
  | '-' :: word => (magnitude? word).map fun number => -number
  | word => magnitude? word

/-- The characters that numbers are written in. None of them can follow a
number, which therefore takes all of them up to the first other character. -/
def isNumeral (c : Char) : Bool :=
  c.isDigit || c == '-' || c == '+' || c == '.' || c == 'e' || c == 'E'

/-! ## Values -/

/-- What a part of a text stands for: a value, a member, or the elements or
members that come after another up to the bracket that closes them. -/
inductive Part where
  | value (value : JsonValue)
  | member (name : Text) (value : JsonValue)
  | elements (elements : List JsonValue)
  | members (members : List (Text × JsonValue))

namespace Part

/-- Two parts of the same sort. -/
def Alike : Part → Part → Prop
  | value _, value _ => True
  | member _ _, member _ _ => True
  | elements _, elements _ => True
  | members _, members _ => True
  | _, _ => False

end Part

/-- A text that starts with a part and goes on with a rest. The bracket that
opens an array or an object stands before the first of its parts as a comma
stands before the others. -/
inductive Reads : Text → Part → Text → Prop where
  | null {rest : Text} : Reads ("null".toList ++ rest) (.value .null) rest
  | true {rest : Text} :
      Reads ("true".toList ++ rest) (.value (.truth .true)) rest
  | false {rest : Text} :
      Reads ("false".toList ++ rest) (.value (.truth .false)) rest
  | number {c : Char} {text : Text} {value : Rat} (starts : isNumeral c)
      (written : number? (c :: text.takeWhile isNumeral) = some value) :
      Reads (c :: text) (.value (.number value)) (text.dropWhile isNumeral)
  | string {text value rest : Text} (inside : Characters text value rest) :
      Reads ('"' :: text) (.value (.string value)) rest
  | emptyArray {text rest : Text} (closed : skip text = ']' :: rest) :
      Reads ('[' :: text) (.value (.array [])) rest
  | array {text rest : Text} {elements : List JsonValue}
      (inside : Reads (',' :: text) (.elements elements) rest) :
      Reads ('[' :: text) (.value (.array elements)) rest
  | lastElement {rest : Text} : Reads (']' :: rest) (.elements []) rest
  | nextElement {text after rest : Text} {next : JsonValue}
      {others : List JsonValue} (head : Reads (skip text) (.value next) after)
      (tail : Reads (skip after) (.elements others) rest) :
      Reads (',' :: text) (.elements (next :: others)) rest
  | emptyObject {text rest : Text} (closed : skip text = '\x7d' :: rest) :
      Reads ('\x7b' :: text) (.value (.object [])) rest
  | object {text rest : Text} {members : List (Text × JsonValue)}
      (inside : Reads (',' :: text) (.members members) rest) :
      Reads ('\x7b' :: text) (.value (.object members)) rest
  | lastMember {rest : Text} : Reads ('\x7d' :: rest) (.members []) rest
  | nextMember {text after rest name : Text} {next : JsonValue}
      {others : List (Text × JsonValue)}
      (head : Reads (skip text) (.member name next) after)
      (tail : Reads (skip after) (.members others) rest) :
      Reads (',' :: text) (.members ((name, next) :: others)) rest
  | member {text after value rest name : Text} {named : JsonValue}
      (inside : Characters text name after) (colon : skip after = ':' :: value)
      (behind : Reads (skip value) (.value named) rest) :
      Reads ('"' :: text) (.member name named) rest

/-- A text is a JSON text and says a value: it is that value, with gaps around
it. -/
def Says (text : Text) (value : JsonValue) : Prop :=
  ∃ rest, Reads (skip text) (.value value) rest ∧ skip rest = []

/-! ## A text says one thing -/

theorem Characters.unique {text value rest other left : Text}
    (first : Characters text value rest) (second : Characters text other left) :
    value = other ∧ rest = left := by
  induction first generalizing other with
  | close =>
      cases second with
      | close => exact ⟨rfl, rfl⟩
      | next starts => cases starts
  | next starts later ih =>
      cases second with
      | close => cases starts
      | next again others =>
          cases starts.symm.trans again
          obtain ⟨rfl, rfl⟩ := ih others
          exact ⟨rfl, rfl⟩

/-- What a reading can be whose text starts with a character. -/
def Opened (c : Char) (text : Text) (part : Part) (rest : Text) : Prop :=
  match c with
  | 'n' => part = .value .null ∧ text = "ull".toList ++ rest
  | 't' => part = .value (.truth true) ∧ text = "rue".toList ++ rest
  | 'f' => part = .value (.truth false) ∧ text = "alse".toList ++ rest
  | '"' =>
    (∃ value, part = .value (.string value) ∧ Characters text value rest) ∨
      ∃ name named after value, part = .member name named ∧
        Characters text name after ∧
        skip after = ':' :: value ∧ Reads (skip value) (.value named) rest
  | '[' =>
    (part = .value (.array []) ∧ skip text = ']' :: rest) ∨
      ∃ elements, part = .value (.array elements) ∧
        Reads (',' :: text) (.elements elements) rest
  | '\x7b' =>
    (part = .value (.object []) ∧ skip text = '\x7d' :: rest) ∨
      ∃ members, part = .value (.object members) ∧
        Reads (',' :: text) (.members members) rest
  | ',' =>
    (∃ next others after, part = .elements (next :: others) ∧
      Reads (skip text) (.value next) after ∧
        Reads (skip after) (.elements others) rest) ∨
    ∃ name next others after, part = .members ((name, next) :: others) ∧
      Reads (skip text) (.member name next) after ∧
        Reads (skip after) (.members others) rest
  | ']' => part = .elements [] ∧ text = rest
  | '\x7d' => part = .members [] ∧ text = rest
  | c =>
    isNumeral c ∧ ∃ value, part = .value (.number value) ∧
      number? (c :: text.takeWhile isNumeral) = some value ∧
        text.dropWhile isNumeral = rest

/-- The first character of a text decides what a reading of it can be. -/
theorem Reads.opened {c : Char} {text rest : Text} {part : Part}
    (reads : Reads (c :: text) part rest) : Opened c text part rest := by
  cases reads with
  | null => exact ⟨rfl, rfl⟩
  | true => exact ⟨rfl, rfl⟩
  | false => exact ⟨rfl, rfl⟩
  | number starts written =>
      unfold Opened
      split
      case h_10 => exact ⟨starts, _, rfl, written, rfl⟩
      all_goals cases starts
  | string inside => exact .inl ⟨_, rfl, inside⟩
  | member inside colon behind =>
      exact .inr ⟨_, _, _, _, rfl, inside, colon, behind⟩
  | emptyArray closed => exact .inl ⟨rfl, closed⟩
  | array inside => exact .inr ⟨_, rfl, inside⟩
  | emptyObject closed => exact .inl ⟨rfl, closed⟩
  | object inside => exact .inr ⟨_, rfl, inside⟩
  | nextElement head tail => exact .inl ⟨_, _, _, rfl, head, tail⟩
  | nextMember head tail => exact .inr ⟨_, _, _, _, rfl, head, tail⟩
  | lastElement => exact ⟨rfl, rfl⟩
  | lastMember => exact ⟨rfl, rfl⟩

/-- No value starts with a closing bracket, so an empty array is nothing
else. -/
theorem not_reads_elements {text rest after : Text}
    (closed : skip text = ']' :: after) {elements : List JsonValue} :
    ¬ Reads (',' :: text) (.elements elements) rest := by
  intro reads
  rcases reads.opened with
      ⟨next, others, after, -, head, -⟩ | ⟨_, _, _, _, same, -⟩
  · rw [closed] at head
    cases head.opened.1
  · cases same

/-- No member starts with a closing brace, so an empty object is nothing
else. -/
theorem not_reads_members {text rest after : Text}
    (closed : skip text = '\x7d' :: after) {members : List (Text × JsonValue)} :
    ¬ Reads (',' :: text) (.members members) rest := by
  intro reads
  rcases reads.opened with
      ⟨_, _, _, same, -⟩ | ⟨name, next, others, after, -, head, -⟩
  · cases same
  · rw [closed] at head
    cases head.opened.1

/-- The first character of a part decides what it is, and what is inside it is
read in one way. -/
theorem Reads.unique {text rest left : Text} {part other : Part}
    (first : Reads text part rest) (second : Reads text other left)
    (alike : part.Alike other) :
    part = other ∧ rest = left := by
  induction first generalizing other left with
  | null =>
      obtain ⟨rfl, same⟩ := second.opened
      exact ⟨rfl, List.append_cancel_left same⟩
  | true =>
      obtain ⟨rfl, same⟩ := second.opened
      exact ⟨rfl, List.append_cancel_left same⟩
  | false =>
      obtain ⟨rfl, same⟩ := second.opened
      exact ⟨rfl, List.append_cancel_left same⟩
  | number starts written =>
      cases second with
      | number _ again =>
          cases written.symm.trans again
          exact ⟨rfl, rfl⟩
      | _ => cases starts
  | string inside =>
      rcases second.opened with ⟨value, rfl, again⟩ | ⟨_, _, _, _, rfl, -⟩
      · obtain ⟨rfl, rfl⟩ := inside.unique again
        exact ⟨rfl, rfl⟩
      · cases alike
  | member inside colon behind ih =>
      rcases second.opened with
        ⟨_, rfl, -⟩ | ⟨name, named, after, value, rfl, again, colonAgain,
          following⟩
      · cases alike
      · obtain ⟨rfl, rfl⟩ := inside.unique again
        cases colon.symm.trans colonAgain
        obtain ⟨same, rfl⟩ := ih following trivial
        cases same
        exact ⟨rfl, rfl⟩
  | emptyArray closed =>
      rcases second.opened with ⟨rfl, again⟩ | ⟨elements, -, inside⟩
      · cases closed.symm.trans again
        exact ⟨rfl, rfl⟩
      · exact absurd inside (not_reads_elements closed)
  | array inside ih =>
      rcases second.opened with ⟨-, closed⟩ | ⟨elements, rfl, again⟩
      · exact absurd inside (not_reads_elements closed)
      · obtain ⟨same, rfl⟩ := ih again trivial
        cases same
        exact ⟨rfl, rfl⟩
  | emptyObject closed =>
      rcases second.opened with ⟨rfl, again⟩ | ⟨members, -, inside⟩
      · cases closed.symm.trans again
        exact ⟨rfl, rfl⟩
      · exact absurd inside (not_reads_members closed)
  | object inside ih =>
      rcases second.opened with ⟨-, closed⟩ | ⟨members, rfl, again⟩
      · exact absurd inside (not_reads_members closed)
      · obtain ⟨same, rfl⟩ := ih again trivial
        cases same
        exact ⟨rfl, rfl⟩
  | nextElement head tail headIH tailIH =>
      rcases second.opened with
          ⟨next, others, after, rfl, again, following⟩ | ⟨_, _, _, _, rfl, -⟩
      · obtain ⟨same, rfl⟩ := headIH again trivial
        cases same
        obtain ⟨same, rfl⟩ := tailIH following trivial
        cases same
        exact ⟨rfl, rfl⟩
      · cases alike
  | nextMember head tail headIH tailIH =>
      rcases second.opened with
        ⟨_, _, _, rfl, -⟩ | ⟨name, next, others, after, rfl, again, following⟩
      · cases alike
      · obtain ⟨same, rfl⟩ := headIH again trivial
        cases same
        obtain ⟨same, rfl⟩ := tailIH following trivial
        cases same
        exact ⟨rfl, rfl⟩
  | lastElement => exact ⟨second.opened.1.symm, second.opened.2⟩
  | lastMember => exact ⟨second.opened.1.symm, second.opened.2⟩

theorem Says.unique {text : Text} {value other : JsonValue}
    (first : Says text value) (second : Says text other) : value = other := by
  obtain ⟨_, reads, _⟩ := first
  obtain ⟨_, again, _⟩ := second
  cases (reads.unique again trivial).1
  rfl

end JsonValue

end LiterateBook
