import LiterateBook.Text.White

/-!
# Markers

A line of a literate source plays one of five parts, decided by its first
characters that are not white space. An include line is read as a sequence of
tokens: the include word, then exactly one quoted path, with gaps allowed
anywhere between them. Every other marker needs only the first token.
-/

namespace LiterateBook

/-- A token of the marker grammar. -/
inductive Token where
  | proseOpen
  | proseClose
  | codeFence
  | includeWord
  | quoted (path : Text)
  | gap
  deriving DecidableEq

namespace Token

/-- The characters that may stand between the parts of an include line. -/
def isGap (c : Char) : Bool :=
  c == ' ' || c == '\t' || c == '\r' || c == '\n'

/-- The characters a quoted path may hold. -/
def isPath (c : Char) : Bool :=
  c != '"' && c != '\n'

/-- The longest token a text starts with, and what follows it; none at the end
and where no token starts. -/
def next? : Text → Option (Token × Text)
  | '/' :: '*' :: '-' :: rest => some (.proseOpen, rest)
  | '-' :: '*' :: '/' :: rest => some (.proseClose, rest)
  | '/' :: '/' :: '\x60' :: rest => some (.codeFence, rest)
  | '/' :: '/' :: '#' :: 'i' :: 'n' :: 'c' :: 'l' :: 'u' :: 'd' :: 'e' :: rest =>
    some (.includeWord, rest)
  | '"' :: rest =>
    match rest.dropWhile isPath with
    | '"' :: after => some (.quoted (rest.takeWhile isPath), after)
    | _ => none
  | c :: rest => if isGap c then some (.gap, rest.dropWhile isGap) else none
  | [] => none

/-- A token has at least one character. -/
theorem length_of_next? {text rest : Text} {token : Token}
    (found : next? text = some (token, rest)) : rest.length < text.length := by
  unfold next? at found
  split at found
  all_goals try
    (simp only [Option.some.injEq, Prod.mk.injEq] at found; obtain ⟨-, rfl⟩ := found)
  all_goals try (simp; omega)
  · rename_i body
    split at found
    · rename_i after closed
      simp only [Option.some.injEq, Prod.mk.injEq] at found
      obtain ⟨-, rfl⟩ := found
      have shorter := (List.dropWhile_suffix (l := body) isPath).length_le
      rw [closed] at shorter
      simp only [List.length_cons] at shorter ⊢
      omega
    · cases found
  · rename_i c body _ _ _ _ _
    split at found
    · simp only [Option.some.injEq, Prod.mk.injEq] at found
      obtain ⟨-, rfl⟩ := found
      have shorter := (List.dropWhile_suffix (l := body) isGap).length_le
      simp only [List.length_cons]
      omega
    · cases found
  · cases found

/-- All tokens of a text; none when some part of it starts no token. -/
def all? (text : Text) : Option (List Token) :=
  if text = [] then some []
  else match _found : next? text with
    | none => none
    | some (token, rest) => (all? rest).map (token :: ·)
termination_by text.length
decreasing_by exact length_of_next? _found

end Token

/-- The part a line plays in the marker grammar. -/
inductive Marker where
  | inclusion (path : Text)
  | proseOpen
  | proseClose
  | codeFence
  | text
  deriving DecidableEq

namespace Marker

/-- The path of an include line whose leading white space is gone: the include
word and one quoted path, with nothing but gaps around the path. -/
def includePath? (trimmed : Text) : Option Text :=
  match Token.all? trimmed with
  | some (.includeWord :: others) =>
    match others.filter (· ≠ .gap) with
    | [.quoted path] => some path
    | _ => none
  | _ => none

/-- The part of a line whose leading white space is gone and that is no include
line. -/
def ofStart (trimmed : Text) : Marker :=
  match Token.next? trimmed with
  | some (.proseOpen, _) => .proseOpen
  | some (.proseClose, _) => .proseClose
  | some (.codeFence, _) => .codeFence
  | _ => .text

/-- The part a line plays; what follows a marker on its line has no say. -/
def ofLine (line : Text) : Marker :=
  let trimmed := line.trimStart
  match includePath? trimmed with
  | some path => .inclusion path
  | none => ofStart trimmed

end Marker

end LiterateBook
