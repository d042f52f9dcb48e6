import LiterateBook.Glob.Pattern

/-!
# What decides a glob

Most patterns have a simple shape, by which a path is matched without looking at
the whole expression: a name, an extension, or a beginning or an end of the
path. The first shape that a pattern has decides it. Only a pattern of no such
shape is decided by its expression, alone or among the paths with an extension.
-/

namespace LiterateBook

/-- By what a glob is decided. -/
inductive Decision where
  | fileName
  | wholePath
  | extension
  | beginning
  | ending
  /-- The expression, for paths with the extension in which the pattern ends. -/
  | expressionWithExtension
  | expression
  deriving DecidableEq

namespace Decision

/-- The literal characters of a list of tokens; none when some token is no
literal. -/
def literals? : List PatternToken → Option Text
  | [] => some []
  | .literal c :: rest => (literals? rest).map (c :: ·)
  | _ => none

/-- Whether tokens are literal characters with a property. -/
def areLiterals (property : Text → Bool) (tokens : List PatternToken) : Bool :=
  (literals? tokens).any property

/-- Whether a pattern is a name in any directory. -/
def isFileName : List PatternToken → Bool
  | .leadingComponents :: rest =>
    areLiterals (fun name => !name.isEmpty && !name.contains '/') rest
  | _ => false

/-- Whether a pattern is a star and an extension, in any directory. -/
def isExtension (tokens : List PatternToken) : Bool :=
  let starred := match tokens with
    | .leadingComponents :: rest => rest
    | tokens => tokens
  match starred with
  | .anyBytes :: .literal '.' :: rest =>
    areLiterals (fun name => !name.contains '/' && !name.contains '.') rest
  | _ => false

/-- Whether a pattern is literal up to a star or to components at its end. -/
def isBeginning (tokens : List PatternToken) : Bool :=
  match tokens.getLast? with
  | some .anyBytes => areLiterals (!·.isEmpty) tokens.dropLast
  | some .trailingComponents => areLiterals (fun _ => true) tokens.dropLast
  | _ => areLiterals (!·.isEmpty) tokens

/-- Whether a pattern is literal after a star or after components at its start.
A lone separator is no end. -/
def isEnding (tokens : List PatternToken) : Bool :=
  let proper (ending : Text) : Bool := ending ≠ [] && ending ≠ ['/']
  match tokens with
  | .leadingComponents :: .anyBytes :: rest => areLiterals proper rest
  | .leadingComponents :: rest => areLiterals (!·.isEmpty) rest
  | .anyBytes :: rest => areLiterals proper rest
  | rest => areLiterals proper rest

/-- Whether a pattern ends in a literal dot and characters that are no
separator. -/
def endsInExtension (tokens : List PatternToken) : Bool :=
  let ending := tokens.reverse.takeWhile fun
    | .literal c => c != '.' && c != '/'
    | _ => false
  match tokens.reverse.drop ending.length with
  | .literal '.' :: _ => true
  | _ => false

/-- By what the glob of a pattern is decided. -/
def ofTokens (tokens : List PatternToken) : Decision :=
  if isFileName tokens then .fileName
  else if areLiterals (!·.isEmpty) tokens then .wholePath
  else if isExtension tokens then .extension
  else if isBeginning tokens then .beginning
  else if isEnding tokens then .ending
  else if endsInExtension tokens then .expressionWithExtension
  else .expression

/-- Whether a glob is decided by the file name or the extension, and so matches
no path that names no file. -/
def needsFileName : Decision → Bool
  | .fileName | .extension | .expressionWithExtension => true
  | _ => false

end Decision

end LiterateBook
