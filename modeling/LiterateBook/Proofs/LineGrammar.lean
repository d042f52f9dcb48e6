import LiterateBook.Proofs.MarkerLines

/-!
# The grammar of lines

What a line is does not depend on how it is read. A text is read as the longest
token it starts with, and each part of the marker grammar is described here by
the texts that play it, their leading white space apart. The description is
exact: a line plays a part when and only when its text is of that form. It
follows that a line may end in any spaces, tabs, returns and newlines.
-/

namespace LiterateBook

namespace Text

variable {front back before after : Text} {c : Char}

theorem split_of_not_mem_left (same : before ++ c :: after = front ++ back)
    (fresh : c ∉ front) :
    ∃ middle, before = front ++ middle ∧ back = middle ++ c :: after := by
  rcases List.append_eq_append_iff.1 same with ⟨middle, rfl, rest⟩ | found
  · cases middle with
    | nil => exact ⟨[], by simp, rest.symm⟩
    | cons first middle =>
        rw [(List.cons.inj rest).1] at fresh
        simp at fresh
  · exact found

theorem split_of_not_mem_right (same : before ++ c :: after = front ++ back)
    (fresh : c ∉ back) :
    ∃ middle, front = before ++ c :: middle ∧ after = middle ++ back := by
  rcases List.append_eq_append_iff.1 same with
      ⟨middle, rfl, rest⟩ | ⟨middle, rfl, rest⟩
  · cases middle with
    | nil =>
        rw [List.nil_append] at rest
        rw [← rest] at fresh
        simp at fresh
    | cons first middle =>
        obtain ⟨rfl, later⟩ := List.cons.inj rest
        exact ⟨middle, rfl, later⟩
  · rw [rest] at fresh
    simp at fresh

end Text

namespace Token

/-! ## Longest tokens -/

/-- A token that a text starts with, where no longer beginning of the text
stands for a token. -/
structure Starts (text : Text) (token : Token) (spelling rest : Text) :
    Prop where
  spells : Spells token spelling
  split : text = spelling ++ rest
  longest : ∀ other longer, Spells other longer → longer <+: text →
    longer.length ≤ spelling.length

/-- A text that starts like a token is read as that token, which may take more
of the text. -/
theorem exists_next?_of_spells {token : Token} {spelling : Text}
    (spells : Spells token spelling) (rest : Text) :
    ∃ after, next? (spelling ++ rest) = some (token, after) ∧
      after <:+ rest := by
  cases token with
  | proseOpen | proseClose | codeFence | includeWord =>
      subst spells
      exact ⟨rest, rfl, List.suffix_refl rest⟩
  | quoted path =>
      obtain ⟨rfl, clean⟩ := spells
      refine ⟨rest, ?_, List.suffix_refl rest⟩
      rw [List.cons_append, List.append_assoc, List.singleton_append]
      exact next?_quoted clean rest
  | gap =>
      obtain ⟨nonempty, gap⟩ := spells
      cases spelling with
      | nil => exact absurd rfl nonempty
      | cons c spelling =>
          have later : ∀ other ∈ spelling, isGap other = true := by
            intro other member
            exact gap other (by simp [member])
          refine ⟨rest.dropWhile isGap, ?_, List.dropWhile_suffix isGap⟩
          rw [List.cons_append, next?_gap (gap c (by simp)),
            List.dropWhile_append_of_pos later]

/-- Nothing at the start of a text stands for a token and is longer than the
token it is read as. -/
theorem Starts.of_next? {text rest : Text} {token : Token}
    (found : next? text = some (token, rest)) :
    ∃ spelling, Starts text token spelling rest := by
  obtain ⟨spelling, spells, split⟩ := spells_of_next? found
  refine ⟨spelling, spells, split, ?_⟩
  intro other longer alsoSpells isStart
  obtain ⟨remaining, rfl⟩ := isStart
  obtain ⟨after, read, shorter⟩ := exists_next?_of_spells alsoSpells remaining
  rw [read] at found
  cases found
  have lengths := congrArg List.length split
  rw [List.length_append, List.length_append] at lengths
  have bound := shorter.length_le
  omega

/-- The token that a text is read as is the longest it starts with: reading
takes no more than the longest spelling, and so leaves the same rest. -/
theorem next?_eq_some_iff {text rest : Text} {token : Token} :
    next? text = some (token, rest) ↔
      ∃ spelling, Starts text token spelling rest := by
  constructor
  · exact Starts.of_next?
  · intro starts
    obtain ⟨spelling, starts⟩ := starts
    obtain ⟨after, read, shorter⟩ := exists_next?_of_spells starts.spells rest
    rw [← starts.split] at read
    obtain ⟨taken, alsoSpells, split⟩ := spells_of_next? read
    have bound := starts.longest token taken alsoSpells ⟨after, split.symm⟩
    have lengths := congrArg List.length (starts.split.symm.trans split)
    rw [List.length_append, List.length_append] at lengths
    have same := shorter.eq_of_length_le (by omega)
    rw [read, same]

theorem next?_eq_none_iff {text : Text} :
    next? text = none ↔
      ∀ token spelling, Spells token spelling → ¬ spelling <+: text := by
  constructor
  · intro missing token spelling spells isStart
    obtain ⟨rest, rfl⟩ := isStart
    obtain ⟨after, read, -⟩ := exists_next?_of_spells spells rest
    rw [read] at missing
    cases missing
  · intro never
    cases found : next? text with
    | none => rfl
    | some first =>
        obtain ⟨token, rest⟩ := first
        obtain ⟨spelling, spells, split⟩ := spells_of_next? found
        exact absurd ⟨rest, split.symm⟩ (never token spelling spells)

/-- The characters of gaps. -/
def gapCharacters : List Char :=
  [' ', '\t', '\r', '\n']

theorem forall_isGap_iff {text : Text} :
    (∀ c ∈ text, isGap c = true) ↔ text ⊆ gapCharacters := by
  simp [isGap, gapCharacters, List.subset_def, or_assoc]

end Token

namespace Marker

/-! ## The texts that play a part -/

/-- What follows the include word on an include line: one path in quotes, with
nothing but spaces, tabs, returns and newlines around it. -/
def Quotes (tail path : Text) : Prop :=
  ∃ before after : Text, tail = before ++ '"' :: (path ++ '"' :: after) ∧
    before ⊆ Token.gapCharacters ∧ after ⊆ Token.gapCharacters ∧ '"' ∉ path ∧
      '\n' ∉ path

/-- The include word and what follows it on an include line. -/
def Includes (trimmed path : Text) : Prop :=
  ∃ tail, trimmed = "//#include".toList ++ tail ∧ Quotes tail path

/-- The texts that play a part. Each marker is known by its beginning, and text
is what is left. -/
def Fits (trimmed : Text) : Marker → Prop
  | .inclusion path => Includes trimmed path
  | .proseOpen => "/*-".toList <+: trimmed
  | .proseClose => "-*/".toList <+: trimmed
  | .codeFence => "//`".toList <+: trimmed
  | .text => (∀ path, ¬ Includes trimmed path) ∧ ¬ "/*-".toList <+: trimmed ∧
      ¬ "-*/".toList <+: trimmed ∧ ¬ "//`".toList <+: trimmed

theorem includePath?_eq_some_iff_includes {trimmed path : Text} :
    includePath? trimmed = some path ↔ Includes trimmed path := by
  rw [includePath?_eq_some_iff]
  simp only [Token.forall_isGap_iff, Token.forall_isPath_iff]
  constructor
  · intro shape
    obtain ⟨before, after, split, around⟩ := shape
    exact ⟨_, split, before, after, rfl, around⟩
  · intro shape
    obtain ⟨tail, split, before, after, rfl, around⟩ := shape
    exact ⟨before, after, split, around⟩

theorem Includes.unique {trimmed path other : Text}
    (included : Includes trimmed path) (alsoIncluded : Includes trimmed other) :
    other = path := by
  have first := includePath?_eq_some_iff_includes.2 included
  have second := includePath?_eq_some_iff_includes.2 alsoIncluded
  exact Option.some.inj (second.symm.trans first)

/-- A line is of the form of the part it plays. -/
theorem fits_ofLine (line : Text) : Fits line.trimStart (ofLine line) := by
  cases found : includePath? line.trimStart with
  | some path =>
      rw [ofLine_eq_inclusion_iff.2 found]
      exact includePath?_eq_some_iff_includes.1 found
  | none =>
      have decided : ofLine line = ofStart line.trimStart := by
        simp only [ofLine, found]
      rw [decided, ofStart]
      split
      case h_1 first | h_2 first | h_3 first =>
        obtain ⟨spelling, rfl, split⟩ := Token.spells_of_next? first
        exact ⟨_, split.symm⟩
      case h_4 noOpen noClose noFence =>
        refine ⟨?_, ?_, ?_, ?_⟩
        · intro path included
          rw [includePath?_eq_some_iff_includes.2 included] at found
          cases found
        · intro isStart
          obtain ⟨rest, split⟩ := isStart
          exact noOpen rest (split ▸ rfl)
        · intro isStart
          obtain ⟨rest, split⟩ := isStart
          exact noClose rest (split ▸ rfl)
        · intro isStart
          obtain ⟨rest, split⟩ := isStart
          exact noFence rest (split ▸ rfl)

theorem ofLine_of_fits {line : Text} {marker : Marker}
    (fits : Fits line.trimStart marker) :
    ofLine line = marker := by
  cases marker with
  | inclusion path =>
      exact ofLine_eq_inclusion_iff.2 (includePath?_eq_some_iff_includes.2 fits)
  | proseOpen | proseClose | codeFence =>
      obtain ⟨rest, split⟩ := fits
      rw [ofLine_eq_ofStart] <;> rw [← split]
      · rfl
      · intro after included
        cases included
  | text =>
      obtain ⟨noInclude, noOpen, noClose, noFence⟩ := fits
      have actual := fits_ofLine line
      generalize ofLine line = played at actual ⊢
      cases played with
      | text => rfl
      | inclusion path => exact absurd actual (noInclude path)
      | proseOpen => exact absurd actual noOpen
      | proseClose => exact absurd actual noClose
      | codeFence => exact absurd actual noFence

theorem ofLine_eq_iff {line : Text} {marker : Marker} :
    ofLine line = marker ↔ Fits line.trimStart marker := by
  constructor
  · intro same
    rw [← same]
    exact fits_ofLine line
  · exact ofLine_of_fits

/-! ## What no include line has -/

/-- Behind the include word stands one pair of quotes and no other. -/
theorem Quotes.count_quote {tail path : Text} (quotes : Quotes tail path) :
    tail.count '"' = 2 := by
  obtain ⟨before, after, rfl, beforeGap, afterGap, fresh, -⟩ := quotes
  have noneBefore : before.count '"' = 0 :=
    List.count_eq_zero.2 fun member => absurd (beforeGap member) (by decide)
  have noneAfter : after.count '"' = 0 :=
    List.count_eq_zero.2 fun member => absurd (afterGap member) (by decide)
  simp [noneBefore, noneAfter, List.count_eq_zero.2 fresh]

/-- What stands in front of the quotes or behind them is a space, a tab, a
return or a newline. -/
theorem Quotes.mem_of_outside {before after path : Text} {c : Char}
    (quotes : Quotes (before ++ c :: after) path) (differ : c ≠ '"')
    (outside : '"' ∉ before ∨ '"' ∉ after) : c ∈ Token.gapCharacters := by
  obtain ⟨lead, trail, split, leadGap, trailGap, -, -⟩ := quotes
  rcases outside with opening | closing
  · obtain ⟨middle, rfl, rest⟩ := Text.split_of_not_mem_left split.symm opening
    cases middle with
    | nil => exact absurd (List.cons.inj rest).1 differ
    | cons first middle =>
        rw [(List.cons.inj rest).1]
        exact leadGap (by simp)
  · have regroup : (lead ++ '"' :: path) ++ '"' :: trail =
        (before ++ [c]) ++ after := by
      simp [split]
    obtain ⟨middle, rest, rfl⟩ := Text.split_of_not_mem_right regroup closing
    rcases middle.eq_nil_or_concat with rfl | ⟨middle, last, rfl⟩
    · exact absurd (List.append_singleton_inj.1 rest).2 differ
    · rw [List.concat_eq_append, ← List.cons_append, ← List.append_assoc] at rest
      rw [(List.append_singleton_inj.1 rest).2]
      exact trailGap (by simp)

/-! ## Ends of lines -/

variable {gaps : Text}

/-- What a text starts with is not a matter of the gaps it ends in. -/
theorem prefix_append_gaps_iff (white : gaps ⊆ Token.gapCharacters)
    (spelling text : Text)
    (apart : Token.gapCharacters.all (· ∉ spelling) = true) :
    spelling <+: text ++ gaps ↔ spelling <+: text := by
  constructor
  · intro isStart
    rcases List.prefix_or_prefix_of_prefix isStart
      (List.prefix_append text gaps) with
      inside | ⟨rest, rfl⟩
    · exact inside
    · rw [List.prefix_append_right_inj] at isStart
      cases rest with
      | nil => simp
      | cons c rest =>
          have member := white (isStart.subset (List.mem_cons_self ..))
          exact absurd (by simp)
            (of_decide_eq_true (List.all_eq_true.1 apart c member))
  · intro inside
    exact inside.trans (List.prefix_append text gaps)

theorem quotes_append_gaps_iff (white : gaps ⊆ Token.gapCharacters)
    {tail path : Text} :
    Quotes (tail ++ gaps) path ↔ Quotes tail path := by
  constructor
  · intro quotes
    obtain ⟨before, after, split, beforeGap, afterGap, fresh⟩ := quotes
    have noQuote : '"' ∉ gaps := fun member => absurd (white member) (by decide)
    have regroup : (before ++ '"' :: path) ++ '"' :: after = tail ++ gaps := by
      simp [split]
    obtain ⟨middle, rfl, rfl⟩ := Text.split_of_not_mem_right regroup noQuote
    refine ⟨before, middle, by simp, beforeGap, ?_, fresh⟩
    exact List.Subset.trans (List.subset_append_left middle gaps) afterGap
  · intro quotes
    obtain ⟨before, after, rfl, beforeGap, afterGap, fresh⟩ := quotes
    refine ⟨before, after ++ gaps, by simp, beforeGap, ?_, fresh⟩
    exact List.append_subset.2 ⟨afterGap, white⟩

theorem includes_append_gaps_iff (white : gaps ⊆ Token.gapCharacters)
    {trimmed path : Text} :
    Includes (trimmed ++ gaps) path ↔ Includes trimmed path := by
  constructor
  · intro included
    obtain ⟨tail, split, quotes⟩ := included
    have isStart : "//#include".toList <+: trimmed :=
      (prefix_append_gaps_iff white _ trimmed (by decide)).1 ⟨tail, split.symm⟩
    obtain ⟨rest, rfl⟩ := isStart
    rw [List.append_assoc] at split
    rw [← List.append_cancel_left split, quotes_append_gaps_iff white] at quotes
    exact ⟨rest, rfl, quotes⟩
  · intro included
    obtain ⟨tail, rfl, quotes⟩ := included
    exact ⟨tail ++ gaps, by simp, (quotes_append_gaps_iff white).2 quotes⟩

theorem fits_append_gaps_iff (white : gaps ⊆ Token.gapCharacters)
    {trimmed : Text} {marker : Marker} :
    Fits (trimmed ++ gaps) marker ↔ Fits trimmed marker := by
  have proseOpen :=
    prefix_append_gaps_iff white "/*-".toList trimmed (by decide)
  have proseClose :=
    prefix_append_gaps_iff white "-*/".toList trimmed (by decide)
  have codeFence :=
    prefix_append_gaps_iff white "//`".toList trimmed (by decide)
  cases marker with
  | inclusion path => exact includes_append_gaps_iff white
  | proseOpen => exact proseOpen
  | proseClose => exact proseClose
  | codeFence => exact codeFence
  | text =>
      simp only [Fits, includes_append_gaps_iff white, proseOpen, proseClose,
        codeFence]

end Marker

theorem Text.isBlank_append_gaps {gaps : Text}
    (white : gaps ⊆ Token.gapCharacters) (line : Text) :
    Text.isBlank (line ++ gaps) = line.isBlank := by
  have all : Token.gapCharacters.all isWhite = true := by decide
  have blank : gaps.isBlank = true :=
    List.all_eq_true.2 fun c member => List.all_eq_true.1 all c (white member)
  rw [isBlank_append, blank, Bool.and_true]

namespace Marker

/-- A line plays the same part with any spaces, tabs, returns and newlines at
its end. -/
theorem ofLine_append_gaps {gaps : Text} (white : gaps ⊆ Token.gapCharacters)
    (line : Text) :
    ofLine (line ++ gaps) = ofLine line := by
  cases blank : line.isBlank with
  | true =>
      have alsoBlank := Text.isBlank_append_gaps white line
      rw [blank] at alsoBlank
      rw [ofLine_of_isBlank blank, ofLine_of_isBlank alsoBlank]
  | false =>
      apply ofLine_of_fits
      rw [Text.trimStart_append_of_not_isBlank blank, fits_append_gaps_iff white]
      exact fits_ofLine line

/-! ## The whole grammar -/

/-- A text is read as the longest token it starts with, and as none when it
starts with none. A line plays a part exactly when its text, its leading white
space apart, is of that form, and an include line has one path only. The include
word makes a line text when there is not exactly one pair of quotes behind it,
and when anything but a gap stands in front of the quotes or behind them. -/
theorem ofLine_grammar :
    (∀ text token rest, Token.next? text = some (token, rest) ↔
      ∃ spelling, Token.Starts text token spelling rest) ∧
    (∀ text, Token.next? text = none ↔
      ∀ token spelling, Token.Spells token spelling → ¬ spelling <+: text) ∧
    ∀ line : Text,
      (∀ marker, ofLine line = marker ↔ Fits line.trimStart marker) ∧
      (∀ path other, Includes line.trimStart path →
        Includes line.trimStart other →
        other = path) ∧
      ∀ tail : Text, line.trimStart = "//#include".toList ++ tail →
        (tail.count '"' ≠ 2 ∨
          ∃ before c after, tail = before ++ c :: after ∧ c ≠ '"' ∧
          c ∉ Token.gapCharacters ∧ ('"' ∉ before ∨ '"' ∉ after)) →
        ofLine line = .text := by
  refine ⟨fun text token rest => Token.next?_eq_some_iff,
    fun text => Token.next?_eq_none_iff, ?_⟩
  intro line
  refine ⟨fun marker => ofLine_eq_iff, fun path other => Includes.unique, ?_⟩
  intro tail split broken
  apply ofLine_of_fits
  rw [split]
  refine ⟨?_, ?_, ?_, ?_⟩
  · intro path included
    obtain ⟨rest, same, quotes⟩ := included
    rw [← List.append_cancel_left same] at quotes
    rcases broken with count | ⟨before, c, after, rfl, differ, noGap, outside⟩
    · exact count quotes.count_quote
    · exact noGap (quotes.mem_of_outside differ outside)
  all_goals
    intro isStart
    obtain ⟨rest, impossible⟩ := isStart
    cases impossible

/-- An indented include line whose path holds a return, and lines that only
start like it: without a path, with an open quote, with a second path, with a
form feed, and with text at the end. -/
theorem ofLine_grammar_example :
    (Includes (Text.trimStart "\u00a0//#include\t\"a\r\"\n".toList) "a\r".toList ∧
      ∀ other, Includes
        (Text.trimStart "\u00a0//#include\t\"a\r\"\n".toList) other →
        other = "a\r".toList) ∧
    ∀ tail ∈ ["\n".toList, " \"a\n".toList, " \"a\" \"b\"".toList, "\x0c\"a\"".toList,
        "\"a\" b\n".toList],
      ofLine ("//#include".toList ++ tail) = .text := by
  have included : Includes (Text.trimStart "\u00a0//#include\t\"a\r\"\n".toList)
      "a\r".toList :=
    ⟨"\t\"a\r\"\n".toList, by decide, "\t".toList, "\n".toList, by decide⟩
  refine ⟨⟨included, fun other => (ofLine_grammar.2.2 _).2.1 _ other included⟩, ?_⟩
  have text := fun tail =>
    (ofLine_grammar.2.2 ("//#include".toList ++ tail)).2.2 tail rfl
  simp only [List.forall_mem_cons]
  refine ⟨text _ (.inl (by decide)), text _ (.inl (by decide)),
    text _ (.inl (by decide)),
    text _ (.inr ⟨[], '\x0c', "\"a\"".toList, by decide⟩),
    text _ (.inr ⟨"\"a\" ".toList, 'b', "\n".toList, by decide⟩), ?_⟩
  intro tail impossible
  cases impossible

end Marker

end LiterateBook
