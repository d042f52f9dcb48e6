import LiterateBook.Marker

/-!
# Spellings of tokens

Which texts stand for a token, and that a text is read as the tokens it is
written with. Reading takes the longest token, so a gap is read as one token
only when nothing that may stand in a gap follows it.
-/

namespace LiterateBook

namespace Token

/-- The texts that stand for a token. -/
def Spells : Token → Text → Prop
  | .proseOpen, text => text = "/*-".toList
  | .proseClose, text => text = "-*/".toList
  | .codeFence, text => text = "//`".toList
  | .includeWord, text => text = "//#include".toList
  | .quoted path, text =>
    text = '"' :: (path ++ ['"']) ∧ ∀ c ∈ path, isPath c = true
  | .gap, text => text ≠ [] ∧ ∀ c ∈ text, isGap c = true

/-- Texts written as tokens one after another. -/
inductive Written : List Token → Text → Prop where
  | nil : Written [] []
  | cons {token : Token} {tokens : List Token} {spelling rest : Text}
      (spells : Spells token spelling) (later : Written tokens rest) :
      Written (token :: tokens) (spelling ++ rest)

/-! ## What was read is written there -/

theorem spells_of_next? {text rest : Text} {token : Token}
    (found : next? text = some (token, rest)) :
    ∃ spelling, Spells token spelling ∧ text = spelling ++ rest := by
  unfold next? at found
  split at found
  case h_5 body =>
    split at found
    · rename_i after closed
      cases found
      refine ⟨'"' :: (body.takeWhile isPath ++ ['"']), ⟨rfl, ?_⟩, ?_⟩
      · intro c member
        exact List.all_eq_true.1 List.all_takeWhile c member
      · rw [List.cons_append, List.append_assoc, List.singleton_append, ← closed,
          List.takeWhile_append_dropWhile]
    · cases found
  case h_6 c body _ _ _ _ _ =>
    split at found
    · rename_i gap
      cases found
      refine ⟨c :: body.takeWhile isGap, ⟨List.cons_ne_nil _ _, ?_⟩, ?_⟩
      · intro other member
        rcases List.mem_cons.1 member with rfl | later
        · exact gap
        · exact List.all_eq_true.1 List.all_takeWhile other later
      · rw [List.cons_append, List.takeWhile_append_dropWhile]
    · cases found
  all_goals cases found
  all_goals exact ⟨_, rfl, rfl⟩

theorem all?_nil : all? [] = some [] := by
  rw [all?, if_pos rfl]

theorem all?_of_next? {text rest : Text} {token : Token}
    (found : next? text = some (token, rest)) :
    all? text = (all? rest).map (token :: ·) := by
  have nonempty : text ≠ [] := by
    intro empty
    subst empty
    cases found
  rw [all?, if_neg nonempty]
  split
  · rename_i missing
    rw [missing] at found
    cases found
  · rename_i other remaining present
    rw [present] at found
    cases found
    rfl

theorem written_of_all? {text : Text} {tokens : List Token}
    (found : all? text = some tokens) :
    Written tokens text := by
  induction size :
    text.length using Nat.strongRecOn generalizing text tokens with
  | ind size ih =>
      subst size
      by_cases empty : text = []
      · subst empty
        rw [all?_nil] at found
        cases found
        exact .nil
      · cases next : next? text with
        | none =>
            rw [all?, if_neg empty] at found
            split at found
            · cases found
            · rename_i present
              rw [present] at next
              cases next
        | some first =>
            obtain ⟨token, rest⟩ := first
            rw [all?_of_next? next] at found
            obtain ⟨later, remaining, rfl⟩ := Option.map_eq_some_iff.1 found
            have tail := ih rest.length (length_of_next? next) remaining rfl
            obtain ⟨spelling, spells, rfl⟩ := spells_of_next? next
            exact .cons spells tail

/-- A text written with gaps alone holds nothing else. -/
theorem Written.isGap_of_filter_eq_nil {tokens : List Token} {text : Text}
    (written : Written tokens text) (gaps : tokens.filter (· ≠ .gap) = []) :
    ∀ c ∈ text, isGap c = true := by
  induction written with
  | nil => exact fun c member => absurd member List.not_mem_nil
  | @cons token tokens spelling rest spells later ih =>
      by_cases same : token = .gap
      · subst same
        rw [List.filter_cons_of_neg (by decide)] at gaps
        intro c member
        rcases List.mem_append.1 member with inside | behind
        · exact spells.2 c inside
        · exact ih gaps c behind
      · rw [List.filter_cons_of_pos (by simpa using same)] at gaps
        cases gaps

/-- A text written with one quoted path and gaps holds that path between
quotes. -/
theorem Written.quoted_of_filter_eq {tokens : List Token} {text path : Text}
    (written : Written tokens text)
    (quoted : tokens.filter (· ≠ .gap) = [.quoted path]) :
    ∃ before after, text = before ++ '"' :: (path ++ '"' :: after) ∧
      (∀ c ∈ before, isGap c = true) ∧ (∀ c ∈ after, isGap c = true) ∧
      ∀ c ∈ path, isPath c = true := by
  induction written with
  | nil => cases quoted
  | @cons token tokens spelling rest spells later ih =>
      by_cases same : token = .gap
      · subst same
        rw [List.filter_cons_of_neg (by decide)] at quoted
        obtain ⟨before, after, rfl, beforeGap, afterGap, clean⟩ := ih quoted
        refine ⟨spelling ++ before,
          after, by rw [List.append_assoc], ?_, afterGap, clean⟩
        intro c member
        rcases List.mem_append.1 member with inside | behind
        · exact spells.2 c inside
        · exact beforeGap c behind
      · rw [List.filter_cons_of_pos (by simpa using same)] at quoted
        obtain ⟨rfl, gaps⟩ := List.cons.inj quoted
        obtain ⟨rfl, clean⟩ := spells
        refine ⟨[], rest, ?_, fun c member => absurd member List.not_mem_nil,
          later.isGap_of_filter_eq_nil gaps, clean⟩
        rw [List.nil_append, List.cons_append, List.append_assoc,
          List.singleton_append]

/-! ## What is written is read -/

theorem next?_gap {c : Char} (gap : isGap c = true) (rest : Text) :
    next? (c :: rest) = some (.gap, rest.dropWhile isGap) := by
  simp only [isGap, Bool.or_eq_true, beq_iff_eq] at gap
  rcases gap with ((rfl | rfl) | rfl) | rfl <;> rfl

theorem next?_quoted {path : Text} (clean : ∀ c ∈ path, isPath c = true)
    (rest : Text) :
    next? ('"' :: (path ++ '"' :: rest)) = some (.quoted path, rest) := by
  have taken : (path ++ '"' :: rest).takeWhile isPath = path := by
    rw [List.takeWhile_append_of_pos clean, List.takeWhile_cons_of_neg (by decide),
      List.append_nil]
  have dropped : (path ++ '"' :: rest).dropWhile isPath = '"' :: rest := by
    rw [List.dropWhile_append_of_pos clean, List.dropWhile_cons_of_neg (by decide)]
  simp only [next?, taken, dropped]

/-- Characters that may stand in a gap are read as gaps alone, where the gap
ends with them. -/
theorem all?_gaps_append {gaps : Text} (gap : ∀ c ∈ gaps, isGap c = true)
    (rest : Text) (boundary : rest.dropWhile isGap = rest) :
    ∃ skipped : List Token, skipped.filter (· ≠ .gap) = [] ∧
      all? (gaps ++ rest) = (all? rest).map (skipped ++ ·) := by
  cases gaps with
  | nil =>
      refine ⟨[], rfl, ?_⟩
      rw [List.nil_append]
      exact Option.map_id'.symm
  | cons c gaps =>
      refine ⟨[.gap], rfl, ?_⟩
      have first := gap c (by simp)
      have later : ∀ c ∈ gaps, isGap c = true := by
        intro c member
        exact gap c (by simp [member])
      have skip := next?_gap first (gaps ++ rest)
      rw [List.dropWhile_append_of_pos later, boundary] at skip
      exact all?_of_next? skip

theorem all?_quoted {before path after : Text}
    (beforeGap : ∀ c ∈ before, isGap c = true)
    (clean : ∀ c ∈ path, isPath c = true)
    (afterGap : ∀ c ∈ after, isGap c = true) :
    ∃ tokens, all? (before ++ '"' :: (path ++ '"' :: after)) = some tokens ∧
      tokens.filter (· ≠ .gap) = [.quoted path] := by
  obtain ⟨leading, leadingGaps, readBefore⟩ :=
    all?_gaps_append beforeGap ('"' :: (path ++ '"' :: after)) rfl
  obtain ⟨trailing, trailingGaps, readAfter⟩ := all?_gaps_append afterGap [] rfl
  rw [List.append_nil, all?_nil, Option.map_some, List.append_nil] at readAfter
  rw [all?_of_next? (next?_quoted clean after), readAfter] at readBefore
  refine ⟨leading ++ .quoted path :: trailing, readBefore, ?_⟩
  rw [List.filter_append, leadingGaps, List.filter_cons_of_pos rfl,
    trailingGaps]
  rfl

end Token

end LiterateBook
