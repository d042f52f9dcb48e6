import LiterateBook.Toml.Lexemes

/-!
# Reading TOML

A document is read into statements, line by line. Values may hold values: the
reader of a value takes the reader of those inside it, so that the depth of
nesting is counted down, and the parts of an array or an inline table are read
one after another as long as there is text.
-/

namespace LiterateBook

namespace Toml

namespace Reader

/-! ## Values -/

/-- A reader of items of at least one character. -/
structure ItemReader (α : Type) where
  read? : Text → Option (α × Text)
  shorter : ∀ {text rest : Text} {item : α},
    read? text = some (item, rest) → rest.length < text.length

/-- The elements of an array up to its closing bracket, after those read
already. -/
def elements? (inner : ItemReader Value) (before : List Value) (text : Text) :
    Option (Value × Text) :=
  match _started : skip? false text with
  | some (']' :: rest) => some (.array before, rest)
  | some start =>
    match _read : inner.read? start with
    | none => none
    | some (value, rest) =>
      match _ended : skip? false rest with
      | some (',' :: rest) => elements? inner (before ++ [value]) rest
      | some (']' :: rest) => some (.array (before ++ [value]), rest)
      | _ => none
  | none => none
termination_by text.length
decreasing_by
  have started := length_of_skip? _started
  have shorter := inner.shorter _read
  have ended := length_of_skip? _ended
  rw [List.length_cons] at ended
  omega

theorem length_of_elements? {inner : ItemReader Value} {before : List Value}
    {text rest : Text} {value : Value}
    (read : elements? inner before text = some (value, rest)) :
    rest.length < text.length := by
  fun_induction elements? inner before text <;>
    grind [→ length_of_skip?, → inner.shorter]

/-- A key with its value. -/
def field? (inner : ItemReader Value) (text : Text) :
    Option (List Text × Text × Value × Text) :=
  match key? text with
  | some (path, name, '=' :: rest) =>
    (inner.read? (rest.dropWhile isBlank)).map fun (value, after) =>
      (path, name, value, after)
  | _ => none

theorem length_of_field? {inner : ItemReader Value} {text name rest : Text}
    {path : List Text} {value : Value}
    (read : field? inner text = some (path, name, value, rest)) :
    rest.length < text.length := by
  unfold field? at read
  split at read
  · next after named =>
    obtain ⟨⟨value, rest⟩, valued, same⟩ := Option.map_eq_some_iff.1 read
    cases same
    have begun := length_of_key? named
    have spaced := length_dropWhile_le isBlank after
    have shorter := inner.shorter valued
    rw [List.length_cons] at begun
    omega
  · cases read

/-- The fields of an inline table up to its closing brace, after those read
already. -/
def fields? (inner : ItemReader Value) (before : Entries) (text : Text) :
    Option (Value × Text) :=
  match _started : skip? false text with
  | some ('\x7d' :: rest) => some (.table .inline before, rest)
  | some start =>
    match _read : field? inner start with
    | none => none
    | some (path, name, value, rest) =>
      match before.assign path name value, _ended : skip? false rest with
      | some entries, some (',' :: rest) => fields? inner entries rest
      | some entries, some ('\x7d' :: rest) =>
        some (.table .inline entries, rest)
      | _, _ => none
  | none => none
termination_by text.length
decreasing_by
  have started := length_of_skip? _started
  have shorter := length_of_field? _read
  have ended := length_of_skip? _ended
  rw [List.length_cons] at ended
  omega

theorem length_of_fields? {inner : ItemReader Value} {before : Entries}
    {text rest : Text} {value : Value}
    (read : fields? inner before text = some (value, rest)) :
    rest.length < text.length := by
  fun_induction fields? inner before text <;>
    grind [→ length_of_skip?, → length_of_field?]

/-- A value; the reader of the values inside it is missing where there must be
none. -/
def value? (inner : Option (ItemReader Value)) : Text → Option (Value × Text)
  | '"' :: rest =>
    (string? '"' rest).map fun (s, after) => (.scalar (.string s), after)
  | '\'' :: rest =>
    (string? '\'' rest).map fun (s, after) => (.scalar (.string s), after)
  | '[' :: rest => inner.bind (elements? · [] rest)
  | '\x7b' :: rest => inner.bind (fields? · [] rest)
  | text =>
    let (word, rest) := word text
    (Scalar.ofWord? word).map fun scalar => (.scalar scalar, rest)

theorem length_of_value? {inner : Option (ItemReader Value)} {text rest : Text}
    {value : Value} (read : value? inner text = some (value, rest)) :
    rest.length < text.length := by
  unfold value? at read
  split at read
  · obtain ⟨⟨s, after⟩, string, same⟩ := Option.map_eq_some_iff.1 read
    cases same
    exact Nat.lt_succ_of_lt (length_of_string? string)
  · obtain ⟨⟨s, after⟩, string, same⟩ := Option.map_eq_some_iff.1 read
    cases same
    exact Nat.lt_succ_of_lt (length_of_string? string)
  · obtain ⟨inner, -, elements⟩ := Option.bind_eq_some_iff.1 read
    exact Nat.lt_succ_of_lt (length_of_elements? elements)
  · obtain ⟨inner, -, fields⟩ := Option.bind_eq_some_iff.1 read
    exact Nat.lt_succ_of_lt (length_of_fields? fields)
  · have parts := congrArg List.length (word_append text)
    rw [List.length_append] at parts
    cases cut : word text with
    | mk first after =>
        rw [cut] at read parts
        obtain ⟨scalar, written, same⟩ := Option.map_eq_some_iff.1 read
        cases same
        have nonempty : first ≠ [] := by
          rintro rfl
          cases written
        have positive := List.length_pos_iff.2 nonempty
        simp only at parts
        omega

/-- The deepest that arrays and inline tables may be nested. -/
def maxDepth : Nat := 80

/-- The reader of values that hold values nested at most `depth` deep. -/
def values : (depth : Nat) → ItemReader Value
  | 0 => ⟨value? none, length_of_value?⟩
  | depth + 1 => ⟨value? (some (values depth)), length_of_value?⟩

/-! ## Statements -/

/-- One statement, on the line where it starts. -/
def statement? : Text → Option (Statement × Text)
  | '[' :: '[' :: rest =>
    match key? rest with
    | some (path, name, ']' :: ']' :: after) =>
      some (.openElement path name, after)
    | _ => none
  | '[' :: rest =>
    match key? rest with
    | some (path, name, ']' :: after) => some (.openTable path name, after)
    | _ => none
  | text =>
    (field? (values maxDepth) text).map fun (path, name, value, after) =>
      (.assign path name value, after)

theorem length_of_statement? {text rest : Text} {statement : Statement}
    (read : statement? text = some (statement, rest)) :
    rest.length < text.length := by
  unfold statement? at read
  split at read
  · grind [→ length_of_key?]
  · grind [→ length_of_key?]
  · obtain ⟨⟨path, name, value, after⟩, assigned, same⟩ :=
      Option.map_eq_some_iff.1 read
    cases same
    exact length_of_field? assigned

/-- All statements, each on lines of its own. -/
def statements? (text : Text) : Option (List Statement) :=
  match _started : skip? false text with
  | none => none
  | some [] => some []
  | some start =>
    match _read : statement? start with
    | none => none
    | some (statement, rest) =>
      match _ended : endLine? false rest with
      | none => none
      | some rest => (statements? rest).map (statement :: ·)
termination_by text.length
decreasing_by
  have started := length_of_skip? _started
  have shorter := length_of_statement? _read
  have ended := length_of_endLine? _ended
  omega

end Reader

/-- The entries of a document; none when it is not well formed. A byte order
mark at its start is skipped. -/
def entries? (document : Text) : Option Entries :=
  let text := match document with
    | '\ufeff' :: rest => rest
    | text => text
  match Reader.statements? text with
  | some statements => Entries.build [] [] statements
  | none => none

end Toml

end LiterateBook
