import LiterateBook.Event
import LiterateBook.Failure

/-!
# Logged answers

An answer together with the events that were reported on the way to it. Events
stay when the operation fails later on.
-/

namespace LiterateBook

/-- An answer, or why there is none, with the events reported on the way, in
order. -/
structure Logged (α : Type) where
  events : List Event
  result : Except Failure α

namespace Logged

variable {α β : Type}

/-- An answer without events. -/
def ofExcept (result : Except Failure α) : Logged α :=
  ⟨[], result⟩

/-- Report an event. -/
def report (event : Event) : Logged Unit :=
  ⟨[event], .ok ()⟩

/-- Go on with an answer; without one, nothing more is done or reported. -/
def andThen (first : Logged α) (next : α → Logged β) : Logged β :=
  match first.result with
  | .error failure => ⟨first.events, .error failure⟩
  | .ok answer => ⟨first.events ++ (next answer).events, (next answer).result⟩

instance : Monad Logged where
  pure answer := ⟨[], .ok answer⟩
  bind := andThen

@[simp] theorem result_pure (answer : α) :
    (pure answer : Logged α).result = .ok answer := rfl

@[simp] theorem result_ofExcept (result : Except Failure α) :
    (ofExcept result).result = result :=
  rfl

@[simp] theorem result_report (event : Event) :
    (report event).result = .ok () := rfl

/-- The answer of a chain is the chain of the answers, whatever was reported. -/
@[simp] theorem result_bind (first : Logged α) (next : α → Logged β) :
    (first >>= next).result = first.result.bind fun answer =>
      (next answer).result := by
  show (andThen first next).result = _
  cases shape : first.result <;> simp [andThen, shape, Except.bind]

end Logged

end LiterateBook
