import LiterateBook.Toml.Value

/-!
# The parts of TOML statements

Statements are made of spacing, strings, keys and words without quotes. Each
reader takes the text that is left and answers with what it read and what
remains, or with nothing when the text breaks the grammar. What remains is never
longer, and it is shorter where something was read: from this the readers end.
-/

namespace LiterateBook

namespace Toml

namespace Reader

/-! ## Characters -/

/-- White space inside a line. -/
def isBlank (c : Char) : Bool :=
  c == ' ' || c == '\t'

/-- Characters other than control characters, and the tab. -/
def isPrintable (c : Char) : Bool :=
  c == '\t' || (' ' ≤ c && c != '\x7f')

/-- Characters of a key without quotes. -/
def isBare (c : Char) : Bool :=
  c.isAlphanum || c == '_' || c == '-'

/-- Characters at which a word without quotes ends. -/
def endsWord (c : Char) : Bool :=
  isBlank c || ['\n', '\r', '#', '=', ',', '[', ']', '\x7b', '\x7d'].contains c

/-- What follows the end of a line. -/
def afterNewline? : Text → Option Text
  | '\n' :: rest => some rest
  | '\r' :: '\n' :: rest => some rest
  | _ => none

theorem length_getD_afterNewline?_le (text : Text) :
    ((afterNewline? text).getD text).length ≤ text.length := by
  fun_cases afterNewline? text <;> grind [afterNewline?]

/-- What follows white space, newlines and comments. -/
def skip? (inComment : Bool) : Text → Option Text
  | [] => some []
  | '\n' :: rest => skip? false rest
  | '\r' :: '\n' :: rest => skip? false rest
  | c :: rest =>
    if inComment then (if isPrintable c then skip? true rest else none)
    else if isBlank c then skip? false rest
    else if c = '#' then skip? true rest
    else some (c :: rest)

theorem length_of_skip? {inComment : Bool} {text rest : Text}
    (skipped : skip? inComment text = some rest) :
    rest.length ≤ text.length := by
  fun_induction skip? inComment text <;> grind

/-- What follows the rest of a line that holds nothing more than white space and
a comment. -/
def endLine? (inComment : Bool) : Text → Option Text
  | [] => some []
  | '\n' :: rest => some rest
  | '\r' :: '\n' :: rest => some rest
  | c :: rest =>
    if inComment then (if isPrintable c then endLine? true rest else none)
    else if isBlank c then endLine? false rest
    else if c = '#' then endLine? true rest
    else none

theorem length_of_endLine? {inComment : Bool} {text rest : Text}
    (ended : endLine? inComment text = some rest) :
    rest.length ≤ text.length := by
  fun_induction endLine? inComment text <;> grind

/-! ## Strings -/

/-- The character of an escape whose backslash is gone, and what follows it. -/
def escape? : Text → Option (Char × Text)
  | 'b' :: rest => some ('\x08', rest)
  | 't' :: rest => some ('\t', rest)
  | 'n' :: rest => some ('\n', rest)
  | 'f' :: rest => some ('\x0c', rest)
  | 'r' :: rest => some ('\r', rest)
  | 'e' :: rest => some ('\x1b', rest)
  | '"' :: rest => some ('"', rest)
  | '\\' :: rest => some ('\\', rest)
  | 'x' :: rest => Text.hexChar? 2 rest
  | 'u' :: rest => Text.hexChar? 4 rest
  | 'U' :: rest => Text.hexChar? 8 rest
  | _ => none

theorem length_of_escape? {text rest : Text} {c : Char}
    (read : escape? text = some (c, rest)) : rest.length < text.length := by
  unfold escape? at read
  grind [→ Text.length_of_hexChar?]

/-- What follows a backslash at the end of a line: the next character that is
neither white space nor a newline. Nothing when the line goes on after the
backslash. -/
def continued? (seenNewline : Bool) : Text → Option Text
  | '\n' :: rest => continued? true rest
  | '\r' :: '\n' :: rest => continued? true rest
  | c :: rest =>
    if isBlank c then continued? seenNewline rest
    else if seenNewline then some (c :: rest) else none
  | [] => none

theorem length_of_continued? {seenNewline : Bool} {text rest : Text}
    (continued : continued? seenNewline text = some rest) :
    rest.length ≤ text.length := by
  fun_induction continued? seenNewline text <;> grind

/-- The characters of a string up to its closing quote, last one first. In a
literal string a backslash stands for itself. -/
def line? (quote : Char) (reversed : Text) : Text → Option (Text × Text)
  | [] => none
  | c :: rest =>
    if c = quote then some (reversed.reverse, rest)
    else if c = '\\' ∧ quote = '"' then
      match _read : escape? rest with
      | some (escaped, after) => line? quote (escaped :: reversed) after
      | none => none
    else if isPrintable c then line? quote (c :: reversed) rest
    else none
termination_by text => text.length
decreasing_by
  · exact Nat.lt_succ_of_lt (length_of_escape? _read)
  · exact Nat.lt_succ_self _

theorem length_of_line? {quote : Char} {reversed text string rest : Text}
    (read : line? quote reversed text = some (string, rest)) :
    rest.length < text.length := by
  fun_induction line? quote reversed text <;> grind [→ length_of_escape?]

/-- The characters of a string of several lines up to its three closing quotes,
before which one or two more quotes may stand. -/
def block? (quote : Char) (reversed : Text) : Text → Option (Text × Text)
  | [] => none
  | c :: rest =>
    if c = quote then
      if rest.take 2 = [quote, quote] then
        let extra := (rest.drop 2).take 2 |>.takeWhile (· = quote)
        some ((extra ++ reversed).reverse, rest.drop (2 + extra.length))
      else block? quote (c :: reversed) rest
    else if c = '\\' ∧ quote = '"' then
      match _continued : continued? false rest with
      | some after => block? quote reversed after
      | none =>
        match _read : escape? rest with
        | some (escaped, after) => block? quote (escaped :: reversed) after
        | none => none
    else if c = '\r' then
      match rest with
      | '\n' :: after => block? quote ('\n' :: '\r' :: reversed) after
      | _ => none
    else if c = '\n' ∨ isPrintable c then block? quote (c :: reversed) rest
    else none
termination_by text => text.length
decreasing_by
  · exact Nat.lt_succ_self _
  · exact Nat.lt_succ_of_le (length_of_continued? _continued)
  · exact Nat.lt_succ_of_lt (length_of_escape? _read)
  · exact Nat.lt_add_of_pos_right Nat.two_pos
  · exact Nat.lt_succ_self _

theorem length_of_block? {quote : Char} {reversed text string rest : Text}
    (read : block? quote reversed text = some (string, rest)) :
    rest.length < text.length := by
  fun_induction block? quote reversed text <;>
    grind [→ length_of_continued?, → length_of_escape?]

/-- A string that starts with the given quote, which is gone. A newline right
after three quotes is not part of it. -/
def string? (quote : Char) (text : Text) : Option (Text × Text) :=
  if text.take 2 = [quote, quote] then
    let body := text.drop 2
    block? quote [] ((afterNewline? body).getD body)
  else line? quote [] text

theorem length_of_string? {quote : Char} {text string rest : Text}
    (read : string? quote text = some (string, rest)) :
    rest.length < text.length := by
  unfold string? at read
  split at read
  · have shorter := length_of_block? read
    have begun := length_getD_afterNewline?_le (text.drop 2)
    rw [List.length_drop] at begun
    omega
  · exact length_of_line? read

/-! ## Keys -/

/-- One name of a key. -/
def name? : Text → Option (Text × Text)
  | '"' :: rest => line? '"' [] rest
  | '\'' :: rest => line? '\'' [] rest
  | text =>
    let name := text.takeWhile isBare
    if name = [] then none else some (name, text.dropWhile isBare)

theorem length_of_name? {text name rest : Text}
    (read : name? text = some (name, rest)) :
    rest.length < text.length := by
  unfold name? at read
  split at read
  · exact Nat.lt_succ_of_lt (length_of_line? read)
  · exact Nat.lt_succ_of_lt (length_of_line? read)
  · have parts := congrArg List.length
      (List.takeWhile_append_dropWhile (p := isBare) (l := text))
    rw [List.length_append] at parts
    grind [List.length_eq_zero_iff]

/-- The most names that a key may have. -/
def maxNames : Nat := 80

/-- A key: at most `count` names with dots between them, all but the last one as
a path. White space around it is skipped. -/
def names? (count : Nat) (text : Text) : Option (List Text × Text × Text) :=
  match count with
  | 0 => none
  | count + 1 =>
    match name? (text.dropWhile isBlank) with
    | none => none
    | some (name, rest) =>
      match rest.dropWhile isBlank with
      | '.' :: after =>
        (names? count after).map fun (path, last, rest) =>
          (name :: path, last, rest)
      | after => some ([], name, after)

/-- A key, which has no more names than are allowed. -/
def key? (text : Text) : Option (List Text × Text × Text) :=
  names? maxNames text

theorem length_dropWhile_le (p : Char → Bool) (text : Text) :
    (text.dropWhile p).length ≤ text.length :=
  (List.dropWhile_suffix p).length_le

theorem length_of_names? {count : Nat} {text name rest : Text}
    {path : List Text} (read : names? count text = some (path, name, rest)) :
    rest.length < text.length := by
  induction count generalizing text path with
  | zero => cases read
  | succ count ih =>
      rw [names?] at read
      have start := length_dropWhile_le isBlank text
      cases first : name? (text.dropWhile isBlank) with
      | none => simp [first] at read
      | some part =>
          obtain ⟨part, after⟩ := part
          have shorter := length_of_name? first
          have spaced := length_dropWhile_le isBlank after
          simp only [first] at read
          split at read
          · next others dotted =>
            obtain ⟨⟨path, last, rest⟩, further, same⟩ :=
              Option.map_eq_some_iff.1 read
            cases same
            have shortest := ih further
            rw [dotted, List.length_cons] at spaced
            omega
          · cases read
            omega

theorem length_of_key? {text name rest : Text} {path : List Text}
    (read : key? text = some (path, name, rest)) : rest.length < text.length :=
  length_of_names? read

/-! ## Words -/

/-- The word without quotes that a text starts with; a date may be followed by a
space and a time. -/
def word (text : Text) : Text × Text :=
  let first := text.takeWhile (!endsWord ·)
  let rest := text.dropWhile (!endsWord ·)
  match Scalar.afterDate? first, rest with
  | some [], ' ' :: c :: after =>
    if Text.isDigit c then
      (first ++ ' ' :: (c :: after).takeWhile (!endsWord ·),
        (c :: after).dropWhile (!endsWord ·))
    else (first, rest)
  | _, _ => (first, rest)

/-- A word and what follows it are the text. -/
theorem word_append (text : Text) : (word text).1 ++ (word text).2 = text := by
  unfold word
  grind [List.takeWhile_append_dropWhile]

end Reader

end Toml

end LiterateBook
