import LiterateBook.Proofs.Tokens

/-!
# Marker lines

Which lines play which part. An include line is the include word and one quoted
path among gaps, and its path holds neither quotes nor newlines. Every other
part is decided by the first token alone, so a blank line is plain text.
-/

namespace LiterateBook

theorem Token.forall_isPath_iff {path : Text} :
    (∀ c ∈ path, Token.isPath c = true) ↔ '"' ∉ path ∧ '\n' ∉ path := by
  simp only [isPath, Bool.and_eq_true, bne_iff_ne, ne_eq]
  constructor
  · intro clean
    constructor
    · intro member
      exact (clean _ member).1 rfl
    · intro member
      exact (clean _ member).2 rfl
  · intro fresh c member
    constructor
    · intro same
      exact fresh.1 (same ▸ member)
    · intro same
      exact fresh.2 (same ▸ member)

namespace Marker

/-! ## Include lines -/

/-- The grammar of include lines, their leading white space apart. -/
theorem includePath?_eq_some_iff {trimmed path : Text} :
    includePath? trimmed = some path ↔
      ∃ before after,
        trimmed = "//#include".toList ++
          (before ++ '"' :: (path ++ '"' :: after)) ∧
        (∀ c ∈ before, Token.isGap c = true) ∧
          (∀ c ∈ after, Token.isGap c = true) ∧
        ∀ c ∈ path, Token.isPath c = true := by
  constructor
  · intro found
    unfold includePath? at found
    split at found
    · rename_i others tokens
      split at found
      · rename_i quoted
        cases found
        cases Token.written_of_all? tokens with
        | cons spells later =>
            subst spells
            obtain ⟨before, after, rfl, gaps⟩ :=
              later.quoted_of_filter_eq quoted
            exact ⟨before, after, rfl, gaps⟩
      · cases found
    · cases found
  · intro shape
    obtain ⟨before, after, rfl, beforeGap, afterGap, clean⟩ := shape
    obtain ⟨tokens, read, quoted⟩ := Token.all?_quoted beforeGap clean afterGap
    generalize before ++ '"' :: (path ++ '"' :: after) = rest at read ⊢
    have first : Token.next? ("//#include".toList ++ rest) =
        some (.includeWord, rest) := rfl
    rw [includePath?, Token.all?_of_next? first, read, Option.map_some]
    simp only [quoted]

theorem next?_of_includePath? {trimmed path : Text}
    (found : includePath? trimmed = some path) :
    ∃ rest, Token.next? trimmed = some (.includeWord, rest) := by
  obtain ⟨before, after, rfl, -⟩ := includePath?_eq_some_iff.1 found
  exact ⟨_, rfl⟩

theorem ofStart_ne_inclusion (trimmed path : Text) :
    ofStart trimmed ≠ .inclusion path := by
  intro same
  unfold ofStart at same
  split at same <;> cases same

theorem ofLine_eq_inclusion_iff {line path : Text} :
    ofLine line = .inclusion path ↔
      includePath? line.trimStart = some path := by
  cases found : includePath? line.trimStart with
  | none =>
      simp only [ofLine, found]
      constructor
      · intro same
        exact absurd same (ofStart_ne_inclusion _ path)
      · intro impossible
        cases impossible
  | some other =>
      simp only [ofLine, found, Marker.inclusion.injEq, Option.some.injEq]

theorem not_mem_of_ofLine_eq_inclusion {line path : Text}
    (marked : ofLine line = .inclusion path) : '"' ∉ path ∧ '\n' ∉ path := by
  obtain ⟨_, _, _, _, _, clean⟩ :=
    includePath?_eq_some_iff.1 (ofLine_eq_inclusion_iff.1 marked)
  exact Token.forall_isPath_iff.1 clean

/-! ## Other lines -/

/-- A line that does not start with the include word is decided by its first
token. -/
theorem ofLine_eq_ofStart {line : Text}
    (first : ∀ rest, Token.next? line.trimStart ≠ some (.includeWord, rest)) :
    ofLine line = ofStart line.trimStart := by
  cases found : includePath? line.trimStart with
  | none => simp only [ofLine, found]
  | some path =>
      obtain ⟨rest, next⟩ := next?_of_includePath? found
      exact absurd next (first rest)

theorem ofLine_of_isBlank {line : Text} (blank : line.isBlank = true) :
    ofLine line = .text := by
  have empty := Text.trimStart_eq_nil_iff.2 blank
  rw [ofLine_eq_ofStart] <;> rw [empty]
  · rfl
  · intro rest impossible
    cases impossible

end Marker

end LiterateBook
