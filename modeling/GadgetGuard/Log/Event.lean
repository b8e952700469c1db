import GadgetGuard.Log.Level
/-!
# Log events

What the program reports while it works: a level, the part of the program that reports, a
message and named values. A computation that reports is its value together with the events
in order.
-/

namespace GadgetGuard

/-- A value of an event. Plain text is shown as it is, and a quoted one between quotes where
values are not told apart otherwise. -/
inductive FieldValue
  | text (value : String)
  | quoted (value : String)
  | number (value : Nat)
  deriving DecidableEq, Repr

structure Event where
  level : Level
  target : String
  message : String
  fields : List (String × FieldValue)
  deriving DecidableEq, Repr

/-- A value and the events reported on the way to it. -/
structure Traced (α : Type) where
  value : α
  events : List Event
  deriving Repr

namespace Traced

/-- A value reached without a report. -/
def silent {α : Type} (value : α) : Traced α :=
  ⟨value, []⟩

def map {α β : Type} (f : α → β) (traced : Traced α) : Traced β :=
  ⟨f traced.value, traced.events⟩

def bind {α β : Type} (traced : Traced α) (next : α → Traced β) : Traced β :=
  ⟨(next traced.value).value, traced.events ++ (next traced.value).events⟩

instance : Monad Traced where
  pure := silent
  bind := bind

def report (event : Event) : Traced Unit :=
  ⟨(), [event]⟩

@[simp]
theorem value_pure {α : Type} (value : α) : (pure value : Traced α).value = value := rfl

@[simp]
theorem events_pure {α : Type} (value : α) : (pure value : Traced α).events = [] := rfl

@[simp]
theorem value_bind {α β : Type} (traced : Traced α) (next : α → Traced β) :
    (traced >>= next).value = (next traced.value).value := rfl

@[simp]
theorem events_bind {α β : Type} (traced : Traced α) (next : α → Traced β) :
    (traced >>= next).events = traced.events ++ (next traced.value).events := rfl

@[simp]
theorem value_report (event : Event) : (report event).value = () := rfl

@[simp]
theorem events_report (event : Event) : (report event).events = [event] := rfl

end Traced

end GadgetGuard
