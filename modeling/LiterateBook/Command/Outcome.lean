import LiterateBook.Failure
import LiterateBook.Log.Filter
import LiterateBook.Log.Line
import LiterateBook.Paint

/-!
# Outcomes

What a run of the program leaves behind for its caller: what it printed, its
messages and events in the order in which they came, and how it ended. Whether
colour is used and which events are shown is decided when an outcome is shown;
the outcome itself does not depend on it.
-/

namespace LiterateBook

/-- How a run ends. -/
inductive Ending where
  | done
  /-- A check found a file that is missing or does not hold what it should. -/
  | outdated
  /-- No command was given. -/
  | idle
  | failed (failure : Failure)
  /-- The arguments do not fit the command line. -/
  | misused
  deriving DecidableEq

namespace Ending

/-- The status with which the program exits. -/
def status : Ending → Nat
  | .done => 0
  | .outdated | .idle => 1
  | .failed _ | .misused => 2

end Ending

/-- Something said beside the output: spans of text or an event. -/
inductive Message where
  | text (spans : List Span)
  | event (event : Event)
  deriving DecidableEq

/-- What a run leaves behind for its caller. -/
structure Outcome where
  output : List Span
  messages : List Message
  ending : Ending
  deriving DecidableEq

namespace Outcome

/-- The outcome of printing and saying nothing. -/
def silent (ending : Ending) : Outcome :=
  ⟨[], [], ending⟩

/-- An outcome with messages before its own. -/
def after (messages : List Message) (outcome : Outcome) : Outcome :=
  { outcome with messages := messages ++ outcome.messages }

@[simp] theorem output_after (messages : List Message) (outcome : Outcome) :
    (outcome.after messages).output = outcome.output := rfl

@[simp] theorem ending_after (messages : List Message) (outcome : Outcome) :
    (outcome.after messages).ending = outcome.ending := rfl

end Outcome

/-! ## Showing outcomes -/

/-- How outcomes are shown. -/
structure Display where
  coloured : Bool
  filter : LogFilter
  deriving DecidableEq

namespace Display

/-- Without colour and without events. -/
def bare : Display :=
  ⟨false, ⟨[]⟩⟩

/-- Spans as they are shown. -/
def spans (display : Display) (spans : List Span) : Text :=
  spans.flatMap (·.shown display.coloured)

/-- Whether a message is shown. -/
def admits (display : Display) : Message → Bool
  | .text _ => true
  | .event event => display.filter.admits event

/-- A message as it is shown at a time. -/
def message (display : Display) (time : Text) : Message → Text
  | .text spans => display.spans spans
  | .event event => LogLine.ofEvent display.coloured time event

/-- What an outcome prints. -/
def output (display : Display) (outcome : Outcome) : Text :=
  display.spans outcome.output

/-- What an outcome says beside its output, as of a time. -/
def messages (display : Display) (time : Text) (outcome : Outcome) : Text :=
  (outcome.messages.filter display.admits).flatMap (display.message time)

end Display

end LiterateBook
