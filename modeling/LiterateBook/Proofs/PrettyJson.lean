import LiterateBook.Listing.Json
import LiterateBook.Proofs.JsonGrammar
import Mathlib.Data.List.TakeWhile

/-!
# Indented JSON texts

A value in indented form is a JSON text that says this value, at every depth and
whatever its texts hold. Escaped characters, digits and strings are read back
one by one; arrays and objects follow by induction over the value, where what
follows a part must not go on with a number.
-/

namespace LiterateBook

/-! ## What a value says -/

namespace Json

mutual

/-- The value that a printed value is in the grammar. -/
def value : Json → JsonValue
  | .string text => .string text
  | .number n => .number n
  | .array elements => .array (values elements)
  | .object members => .object (namedValues members)

/-- The values of elements, in order. -/
def values : List Json → List JsonValue
  | [] => []
  | element :: rest => element.value :: values rest

/-- The values of members, in order and under their names. -/
def namedValues : List (Text × Json) → List (Text × JsonValue)
  | [] => []
  | (name, member) :: rest => (name, member.value) :: namedValues rest

end

theorem values_eq_map (elements : List Json) :
    values elements = elements.map value := by
  induction elements with
  | nil => rfl
  | cons element rest ih => rw [values, ih, List.map_cons]

end Json

namespace JsonValue

open Json (hexDigit escape quote newline pretty prettyElements prettyMembers
  values namedValues)

/-! ## Strings -/

theorem hexChar?_control {n : Nat} (small : n < 32) (rest : Text) :
    Text.hexChar? 4 ('0' :: '0' :: hexDigit (n / 16) :: hexDigit (n % 16) :: rest) =
      some (Char.ofNat n, rest) := by
  have digits : ∀ n < 32,
      let digits : Text := ['0', '0', hexDigit (n / 16), hexDigit (n % 16)]
      digits.all Text.isHexDigit ∧ Text.natOf 16 digits = n := by
    decide
  obtain ⟨areDigits, equal⟩ := digits n small
  have valid : n.isValidChar := .inl (by omega)
  simp only [Text.hexChar?, List.take_succ_cons, List.take_zero,
    List.drop_succ_cons, List.drop_zero]
  rw [equal, if_pos ⟨rfl, areDigits, valid⟩]

theorem character?_plain {c : Char} (visible : ¬ c < ' ') (noQuote : c ≠ '"')
    (noBackslash : c ≠ '\\') (rest : Text) :
    character? (c :: rest) = some (c, rest) := by
  have plain : ¬ (c < ' ' ∨ c = '"' ∨ c = '\\') :=
    not_or.2 ⟨visible, not_or.2 ⟨noQuote, noBackslash⟩⟩
  rw [character?.eq_3 c rest, if_neg plain]
  · exact fun _ same _ => noBackslash same
  · exact fun _ _ same _ => noBackslash same

theorem character?_escape (c : Char) (rest : Text) :
    character? (escape c ++ rest) = some (c, rest) := by
  by_cases short : c ∈ ['"', '\\', '\x08', '\t', '\n', '\x0c', '\r']
  · simp only [List.mem_cons, List.not_mem_nil, or_false] at short
    rcases short with rfl | rfl | rfl | rfl | rfl | rfl | rfl <;> rfl
  · simp only [List.mem_cons, List.not_mem_nil, or_false, not_or] at short
    obtain ⟨noQuote, noBackslash, noBackspace, noTab, noNewline, noFeed,
      noReturn⟩ := short
    rw [escape, if_neg noQuote, if_neg noBackslash, if_neg noBackspace,
      if_neg noTab, if_neg noNewline, if_neg noFeed, if_neg noReturn]
    by_cases control : c < ' '
    · have small : c.toNat < 32 := control
      have read := hexChar?_control small rest
      rw [Char.ofNat_toNat] at read
      rw [if_pos control]
      exact congrArg (Option.or · _) read
    · rw [if_neg control]
      exact character?_plain control noQuote noBackslash rest

theorem characters_escape (text rest : Text) :
    Characters (text.flatMap escape ++ '"' :: rest) text rest := by
  induction text with
  | nil => exact .close
  | cons c text ih =>
      rw [List.flatMap_cons, List.append_assoc]
      exact .next (character?_escape c _) ih

theorem quote_append (text rest : Text) :
    quote text ++ rest = '"' :: (text.flatMap escape ++ '"' :: rest) := by
  rw [quote, List.cons_append, List.cons_append, List.append_assoc]
  rfl

theorem reads_quote (text rest : Text) :
    Reads (quote text ++ rest) (.value (.string text)) rest := by
  rw [quote_append]
  exact .string (characters_escape text rest)

/-! ## Numbers -/

theorem isDigit_of_mem_decimal {n : Nat} {c : Char}
    (member : c ∈ Text.decimal n) : c.isDigit :=
  Nat.isDigit_of_mem_toDigits (by decide) (by decide) member

theorem exists_cons_decimal (n : Nat) :
    ∃ first others, Text.decimal n = first :: others ∧ first.isDigit ∧
      ∀ c ∈ others, c.isDigit := by
  cases shape : Text.decimal n with
  | nil => exact absurd shape Nat.toDigits_ne_nil
  | cons first others =>
      have areDigits : ∀ c ∈ first :: others, c.isDigit :=
        fun c member => isDigit_of_mem_decimal (shape ▸ member)
      exact ⟨first, others, rfl, List.forall_mem_cons.1 areDigits⟩

theorem digits?_decimal (n : Nat) : digits? (Text.decimal n) = some n := by
  have areDigits : (Text.decimal n).all Char.isDigit :=
    List.all_eq_true.2 fun _ member => isDigit_of_mem_decimal member
  rw [digits?, if_pos ⟨Nat.toDigits_ne_nil, areDigits⟩]
  exact congrArg some (Nat.ofDigitChars_toDigits (by decide) (by decide))

theorem eq_zero_of_head?_decimal {n : Nat}
    (zero : (Text.decimal n).head? = some '0') : n = 0 := by
  have digit : ∀ n < 10, [Nat.digitChar n].head? = some '0' → n = 0 := by decide
  induction n using Nat.strongRecOn with
  | ind n ih =>
      rw [Text.decimal, Nat.toDigits_eq_if (by decide)] at zero
      by_cases small : n < 10
      · rw [if_pos small] at zero
        exact digit n small zero
      · have first := List.head?_eq_some_head
          (Nat.toDigits_ne_nil (n := n / 10) (b := 10))
        rw [if_neg small, List.head?_append, first, Option.some_or] at zero
        have quotient := ih (n / 10) (by omega) (first.trans zero)
        omega

theorem whole?_decimal (n : Nat) : whole? (Text.decimal n) = some n := by
  have canonical :
      ¬ ((Text.decimal n).head? = some '0' ∧ Text.decimal n ≠ ['0']) := by
    rintro ⟨zero, other⟩
    cases eq_zero_of_head?_decimal zero
    exact other rfl
  rw [whole?, if_neg canonical, digits?_decimal]

/-- Digits have no part that another character announces. -/
theorem cutAt_decimal {kind : Char → Bool} (noDigit : ∀ c, kind c → ¬ c.isDigit)
    (n : Nat) :
    cutAt kind (Text.decimal n) = (Text.decimal n, none) := by
  have others : ∀ c ∈ Text.decimal n, (!kind c) = true := by
    intro c member
    rw [Bool.not_eq_true', Bool.eq_false_iff]
    exact fun announced => noDigit c announced (isDigit_of_mem_decimal member)
  rw [cutAt, List.takeWhile_eq_self_iff.2 others, List.dropWhile_eq_nil_iff.2 others]
  rfl

theorem magnitude?_decimal (n : Nat) :
    magnitude? (Text.decimal n) = some n := by
  have noPower : cutAt (fun c => c == 'e' || c == 'E') (Text.decimal n) =
      (Text.decimal n, none) := by
    apply cutAt_decimal
    intro c announced
    rcases Bool.or_eq_true_iff.1 announced with small | large
    · cases eq_of_beq small
      decide
    · cases eq_of_beq large
      decide
  have noFraction : cutAt (· == '.') (Text.decimal n) =
      (Text.decimal n, none) := by
    apply cutAt_decimal
    intro c point
    cases eq_of_beq point
    decide
  have whole : powerOfTen 0 = 1 := rfl
  rw [magnitude?]
  simp only [noPower, noFraction, whole?_decimal, fraction?, power?,
    Option.bind_eq_bind,
    Option.bind_some, Option.pure_def, Rat.add_zero, whole, Rat.mul_one]

theorem number?_decimal (n : Nat) : number? (Text.decimal n) = some n := by
  obtain ⟨first, others, shape, digit, -⟩ := exists_cons_decimal n
  have unsigned : number? (first :: others) = magnitude? (first :: others) := by
    apply number?.eq_2
    rintro word same
    cases same
    cases digit
  rw [← magnitude?_decimal, shape, unsigned]

theorem isNumeral_of_isDigit {c : Char} (digit : c.isDigit) : isNumeral c := by
  rw [isNumeral, digit]
  rfl

/-- A rest that does not go on with the number in front of it. -/
def EndsNumber (rest : Text) : Prop :=
  ∀ c ∈ rest.head?, ¬ isNumeral c

theorem EndsNumber.cut {rest : Text} (ended : EndsNumber rest) :
    rest.takeWhile isNumeral = [] ∧ rest.dropWhile isNumeral = rest := by
  cases rest with
  | nil => exact ⟨rfl, rfl⟩
  | cons c rest =>
      have other := ended c rfl
      exact ⟨List.takeWhile_cons_of_neg other, List.dropWhile_cons_of_neg other⟩

theorem reads_decimal {rest : Text} (ended : EndsNumber rest) (n : Nat) :
    Reads (Text.decimal n ++ rest) (.value (.number n)) rest := by
  have written := number?_decimal n
  obtain ⟨first, others, shape, digit, areDigits⟩ := exists_cons_decimal n
  have numerals : ∀ c ∈ others, isNumeral c :=
    fun c member => isNumeral_of_isDigit (areDigits c member)
  have reads : number? (first :: (others ++ rest).takeWhile isNumeral) =
      some (n : Rat) →
      Reads (first :: (others ++ rest)) (.value (.number n))
        ((others ++ rest).dropWhile isNumeral) :=
    Reads.number (isNumeral_of_isDigit digit)
  rw [List.takeWhile_append_of_pos numerals,
    List.dropWhile_append_of_pos numerals, ended.cut.1,
    ended.cut.2, List.append_nil, ← shape] at reads
  rw [shape]
  exact reads written

/-! ## Values -/

theorem skip_newline (depth : Nat) (text : Text) :
    skip (newline depth ++ text) = skip text := by
  have gap : ∀ c ∈ newline depth, isGap c := by
    intro c member
    rcases List.mem_cons.1 member with rfl | blank
    · rfl
    · rw [List.eq_of_mem_replicate blank]
      rfl
  exact List.dropWhile_append_of_pos gap

theorem skip_pretty (depth : Nat) (json : Json) (rest : Text) :
    skip (pretty depth json ++ rest) = pretty depth json ++ rest := by
  cases json with
  | string text => rw [pretty, quote_append]; rfl
  | number n =>
      obtain ⟨first, others, shape, digit, -⟩ := exists_cons_decimal n
      rw [pretty, shape]
      apply List.dropWhile_cons_of_neg
      intro gap
      simp only [isGap, Bool.or_eq_true, beq_iff_eq] at gap
      rcases gap with ((rfl | rfl) | rfl) | rfl <;> cases digit
  | array elements => cases elements <;> rfl
  | object members => rcases members with _ | ⟨⟨name, first⟩, others⟩ <;> rfl

theorem endsNumber_prettyElements (depth : Nat) (elements : List Json)
    (rest : Text) :
    EndsNumber (prettyElements depth elements ++ rest) := by
  cases elements <;> exact fun c starts => by cases starts; decide

theorem endsNumber_prettyMembers (depth : Nat) (members : List (Text × Json))
    (rest : Text) :
    EndsNumber (prettyMembers depth members ++ rest) := by
  rcases members with _ | ⟨⟨name, first⟩, others⟩ <;>
    exact fun c starts => by cases starts; decide

mutual

/-- A value is read back when what follows it does not go on with a number. -/
theorem reads_pretty (depth : Nat) {rest : Text} (ended : EndsNumber rest) :
    (json : Json) → Reads (pretty depth json ++ rest) (.value json.value) rest
  | .string text => reads_quote text rest
  | .number n => reads_decimal ended n
  | .array [] => .emptyArray rfl
  | .array (first :: others) =>
    .array (reads_elements depth rest (first :: others))
  | .object [] => .emptyObject rfl
  | .object ((name, first) :: others) =>
      .object (reads_members depth rest ((name, first) :: others))

/-- Elements behind a comma, or behind the bracket of their array in its
place. -/
theorem reads_elements (depth : Nat) (rest : Text) :
    (elements : List Json) →
      Reads (skip (prettyElements depth elements ++ rest))
        (.elements (values elements)) rest
  | [] => by
      rw [prettyElements, List.append_assoc, skip_newline]
      exact .lastElement
  | next :: others => by
      have shape : prettyElements depth (next :: others) ++ rest =
          ',' :: (newline (depth + 1) ++
            (pretty (depth + 1) next ++ (prettyElements depth others ++ rest))) := by
        simp only [prettyElements, List.cons_append, List.append_assoc]
      rw [shape]
      refine .nextElement ?_ (reads_elements depth rest others)
      rw [skip_newline, skip_pretty]
      exact reads_pretty (depth + 1)
        (endsNumber_prettyElements depth others rest) next

/-- Members behind a comma, or behind the brace of their object in its place. -/
theorem reads_members (depth : Nat) (rest : Text) :
    (members : List (Text × Json)) →
      Reads (skip (prettyMembers depth members ++ rest))
        (.members (namedValues members)) rest
  | [] => by
      rw [prettyMembers, List.append_assoc, skip_newline]
      exact .lastMember
  | (name, next) :: others => by
      have shape : prettyMembers depth ((name, next) :: others) ++ rest =
          ',' :: (newline (depth + 1) ++ (quote name ++ (':' :: ' ' ::
            (pretty (depth + 1) next ++ (prettyMembers depth others ++ rest))))) := by
        simp only [prettyMembers, List.cons_append, List.append_assoc,
          List.nil_append]
      rw [shape]
      refine .nextMember ?_ (reads_members depth rest others)
      rw [skip_newline, quote_append]
      refine .member (characters_escape name _) rfl ?_
      show Reads (skip (pretty (depth + 1) next ++ _)) _ _
      rw [skip_pretty]
      exact reads_pretty (depth + 1)
        (endsNumber_prettyMembers depth others rest) next

end

/-- A value in indented form, on lines of its own, is a JSON text that says this
value alone. -/
theorem says_pretty_iff (json : Json) {value : JsonValue} :
    Says (pretty 0 json ++ ['\n']) value ↔ value = json.value := by
  have reads : Says (pretty 0 json ++ ['\n']) json.value := by
    refine ⟨['\n'], ?_, rfl⟩
    rw [skip_pretty]
    exact reads_pretty 0 (fun c starts => by cases starts; decide) json
  constructor
  · exact fun said => said.unique reads
  · rintro rfl
    exact reads

end JsonValue

end LiterateBook
