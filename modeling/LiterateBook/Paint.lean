import LiterateBook.Text.White

/-!
# Paint

Texts for a terminal may be painted. A painted text starts with the code of its
style and ends with a code that takes the style back: spans with the code of the
default colour, parts of a log line with the code that resets everything.
Without colour a text is shown as it stands.
-/

namespace LiterateBook

/-- A way to paint a text. -/
inductive Style where
  | dim
  | italic
  | red
  | green
  | yellow
  | blue
  | magenta
  deriving DecidableEq

namespace Style

/-- The number of a style. -/
def code : Style → String
  | .dim => "2"
  | .italic => "3"
  | .red => "31"
  | .green => "32"
  | .yellow => "33"
  | .blue => "34"
  | .magenta => "35"

/-- The control sequence for a number. -/
def sequence (code : String) : Text :=
  '\x1b' :: '[' :: code.toList ++ ['m']

/-- A text between the code of a style and a code that ends it, or as it
stands. -/
def paintUntil (finish : String) (style : Style) (coloured : Bool)
    (text : Text) : Text :=
  if coloured then sequence style.code ++ text ++ sequence finish else text

/-- A painted part of a log line. -/
def paintPart (style : Style) (coloured : Bool) (text : Text) : Text :=
  style.paintUntil "0" coloured text

end Style

/-- A text with the style it is painted in, if it is painted at all. -/
structure Span where
  style : Option Style
  text : Text
  deriving DecidableEq

namespace Span

/-- A text without a style. -/
def plain (text : Text) : Span :=
  ⟨none, text⟩

/-- A text in a style. -/
def painted (style : Style) (text : Text) : Span :=
  ⟨some style, text⟩

/-- A span as it is shown. -/
def shown (coloured : Bool) (span : Span) : Text :=
  match span.style with
  | none => span.text
  | some style => style.paintUntil "39" coloured span.text

/-- Without colour a span is its text. -/
@[simp] theorem shown_false (span : Span) : span.shown false = span.text := by
  cases shape : span.style <;> simp [shown, shape, Style.paintUntil]

end Span

end LiterateBook
