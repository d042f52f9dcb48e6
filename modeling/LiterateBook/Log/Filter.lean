import LiterateBook.Event
import LiterateBook.Log.ValuePattern
import LiterateBook.Text.Alphanumeric
import LiterateBook.Text.Bytes
import LiterateBook.Text.Cut

/-!
# Log filters

A filter says for each component down to which level its events are shown. It is
written as directives with commas between them: a level for all components, or a
component's name with a level or without one. A directive may ask for events
with a certain field. Of the directives that fit an event the most specific one
decides.
-/

namespace LiterateBook

/-- How much is shown: events up to a rank, of the components whose name starts
with the target, and only those with a field if one is named. -/
structure Directive where
  target : Text
  field : Option Text
  rank : Nat
  deriving DecidableEq

/-- A list of directives; of two for the same events the later one counts. -/
structure LogFilter where
  directives : List Directive
  deriving DecidableEq

namespace Directive

/-- Whether a directive is about an event. -/
def fits (directive : Directive) (event : Event) : Bool :=
  directive.target.isPrefixOf event.component.target.toList &&
    directive.field.all ((event.fieldNames.map String.toList).contains ·)

/-- Whether a directive comes before another that fits the same event: it has
the longer target, or the same one and a field, the greater name of two. -/
def precedes (first second : Directive) : Bool :=
  if first.target.length ≠ second.target.length then
    second.target.length < first.target.length
  else match first.field, second.field with
    | none, _ => false
    | some _, none => true
    | some one, some other => !Text.bytesLe one other

end Directive

namespace LogFilter

/-- The filter that shows the events of all components up to a level. -/
def upTo (level : Level) : LogFilter :=
  ⟨[⟨[], none, level.rank⟩]⟩

/-- The directive that decides about an event. -/
def deciding? (filter : LogFilter) (event : Event) : Option Directive :=
  (filter.directives.filter (·.fits event)).foldl (fun best directive =>
    match best with
    | none => some directive
    | some other =>
      some (if other.precedes directive then other else directive)) none

/-- Whether an event is shown. -/
def admits (filter : LogFilter) (event : Event) : Bool :=
  (filter.deciding? event).any (event.level.rank ≤ ·.rank)

/-! ## Levels -/

/-- The words for levels, in any case, with their ranks; nothing is shown when
it is off. -/
def levelNames : List (String × Nat) :=
  [("off", 0), ("error", 1), ("warn", 2), ("info", 3), ("debug", 4),
    ("trace", 5)]

/-- The rank that a number stands for. -/
def rankOfNumber? (word : Text) : Option Nat :=
  let digits := if word.head? = some '+' then word.tail else word
  let significant := digits.dropWhile (· = '0')
  if digits = [] then none
  else match significant with
    | [] => some 0
    | [c] => if '1' ≤ c ∧ c ≤ '5' then some (c.toNat - '0'.toNat) else none
    | _ => none

/-- The rank that a word for a level stands for. -/
def rank? (word : Text) : Option Nat :=
  match rankOfNumber? word with
  | some rank => some rank
  | none =>
    (levelNames.find? fun entry => entry.1.toList = word.map Char.toLower).map
      (·.2)

/-- The rank that stands after an equals sign; without a word everything is
shown. -/
def rankAfter? (word : Text) : Option Nat :=
  if word = [] then some Level.trace.rank else rank? word

/-! ## Directives

White space around a directive does not keep it from being read. Its parts are
found without that white space, but they are taken from the directive as it was
written, at the same distances from its start. -/

/-- Drop the white space at both ends. -/
def trim (word : Text) : Text :=
  (Text.trimStart (Text.trimStart word).reverse).reverse

/-- Characters that a directive may start with, unless it starts with a
bracket. -/
def startsName (c : Char) : Bool :=
  Text.isAlphanumeric c || c == '_' || c == '-' || c == ':'

/-- The rank at the end of a directive, given what was found of it and what is
left: nothing, or an equals sign and a level. -/
def ending? (written before : Text) : Text → Option Nat
  | [] => some Level.trace.rank
  | '=' :: _ => (written.fromByte? (before.byteLength + 1)).bind rankAfter?
  | _ => none

/-- The value that a field is asked for, if there is one: what stands between
its first equals sign and the next. -/
def value? (field : Text) : Option Text :=
  match field.cutAt '=' with
  | _ :: value :: _ => some value
  | _ => none

/-- Read what is left of a directive after its name and a bracket: the name of a
span, or a field in braces, and the closing bracket. What asks for spans, or for
a field with a certain value, says nothing about events. -/
def bracketed? (written name inside : Text) : Option (Option Directive) :=
  let span : Text := inside.takeWhile fun c => c ≠ ']' ∧ c ≠ '\x7b'
  let before : Text := name ++ '[' :: span
  match written.toByte? name.byteLength,
  written.slice? (name.byteLength + 1) span.byteLength,
      inside.drop span.length with
  | some _, some _, ']' :: rest =>
    (ending? written (before ++ [']']) rest).map fun _ => none
  | some target, some _, '\x7b' :: body =>
    let inner : Text := body.takeWhile (· ≠ '\x7d')
    match body.drop inner.length with
    | '\x7d' :: ']' :: rest => do
      let field ← written.slice? (before.byteLength + 1) inner.byteLength
      let rank ← ending? written
          (before ++ '\x7b' :: inner ++ ['\x7d', ']']) rest
      if inner = [] then none
      else match value? field with
        | some value =>
          if ValuePattern.isWellFormed value then some none else none
        | none =>
          some (if span = [] then some ⟨target, some field, rank⟩ else none)
    | _ => none
  | _, _, _ => none

/-- Read a directive. One that says nothing about events gives none; the outer
answer is none when the directive is faulty. -/
def directive? (written : Text) : Option (Option Directive) :=
  let text := trim written
  let name : Text := text.takeWhile fun c => c ≠ '=' ∧ c ≠ '['
  match name.head?.map startsName, text.drop name.length with
  | some false, _ => none
  | none, '[' :: inside => bracketed? written [] inside
  | none, _ => none
  | some true, '[' :: inside => bracketed? written name inside
  | some true, [] =>
    match rank? written with
    | some rank => some (some ⟨[], none, rank⟩)
    | none => some (some ⟨written, none, Level.trace.rank⟩)
  | some true, rest => do
    let target ← written.toByte? name.byteLength
    let rank ← ending? written name rest
    some (some ⟨target, none, rank⟩)

/-- Read a filter; none when some directive is faulty. -/
def ofText? (text : Text) : Option LogFilter :=
  (((text.cutAt ',').filter (· ≠ [])).mapM directive?).map fun directives =>
    ⟨directives.filterMap id⟩

end LogFilter

end LiterateBook
