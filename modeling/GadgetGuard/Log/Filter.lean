import GadgetGuard.Log.Event
import GadgetGuard.Text.Blank
import GadgetGuard.Text.Cut
import GadgetGuard.Unicode.Letter
/-!
# Log filters

A filter is written as directives with commas between them. A directive names the beginning
of the targets that it is about and the least severe level that it lets through. Of the
directives that are about an event the most specific one decides; an event that no directive
is about is left out.
-/

namespace GadgetGuard

open GadgetGuard.Text

/-- The least severe level that is let through; without one nothing is. -/
abbrev Threshold := Option Level

namespace Threshold

/-- Reads a threshold: a level, or the word or number for none. -/
def ofText? (text : String) : Option Threshold :=
  if natural? maxNatural text.toList == some 0 || equalIgnoringCase text "off" then some none
  else (Level.ofText? text).map some

def passes (threshold : Threshold) (level : Level) : Bool :=
  match threshold with
  | some least => least.severity ≤ level.severity
  | none => false

end Threshold

/-- Which levels of which events are let through. -/
structure Directive where
  threshold : Threshold
  /-- How the targets begin that the directive is about. -/
  target : Option String := none
  /-- A value that the events have that the directive is about. -/
  field : Option String := none
  /-- Whether it is about events inside of some span of work; no event is. -/
  isForSpans : Bool := false
  deriving DecidableEq, Repr

namespace Directive

def startsTarget (c : Char) : Bool :=
  c == '-' || c == ':' || c == '_' || c.isDigit || Unicode.isLetter c

/-- Reads the level after a target or a span, if there is one. Without one all levels are let
through. -/
def level? (text : List Char) : Option Threshold :=
  match text with
  | [] | ['='] => some (some .trace)
  | '=' :: level => Threshold.ofText? (String.ofList level)
  | _ => none

/-- Reads the span after its opening bracket: a name, and a value in braces. -/
def ofSpan? (target : Option String) (text : List Char) : Option Directive :=
  match text.span (fun c => c != ']' && c != '\x7b') with
  | (_, ']' :: level) =>
    (level? level).map fun threshold => { threshold, target, isForSpans := true }
  | (name, '\x7b' :: rest) =>
    match rest.span (· != '\x7d') with
    | (value, '\x7d' :: ']' :: level) =>
      if value.isEmpty then none
      else (level? level).map fun threshold =>
        { threshold, target, field := some (String.ofList value)
          isForSpans := !name.isEmpty || value.contains '=' }
    | _ => none
  | _ => none

/-- Reads a directive. With blanks around it, a level cannot be read, and a target is one
that no event has. -/
def ofText? (text : List Char) : Option Directive :=
  let trimmed := trimBlanks text
  match trimmed with
  | [] => none
  | '[' :: span => ofSpan? none span
  | c :: _ =>
    if !startsTarget c then none
    else
      match trimmed.span (fun c => c != '=' && c != '[') with
      | (target, '[' :: span) => ofSpan? (some (String.ofList target)) span
      | (target, []) =>
        match Threshold.ofText? (String.ofList text) with
        | some threshold => some { threshold }
        | none => some
          { threshold := some .trace
            target := some (String.ofList (if trimmed = text then target else text)) }
      | (target, level) =>
        if trimmed = text then
          (level? level).map fun threshold => { threshold, target := some (String.ofList target) }
        else none

def hasField (event : Event) (name : String) : Bool :=
  name == "message" || event.fields.any (·.1 == name)

def isAbout (directive : Directive) (event : Event) : Bool :=
  !directive.isForSpans &&
    directive.target.all (hasBeginning · event.target) &&
    directive.field.all (hasField event)

/-- Whether a directive is less specific than another that is about the same event. Longer
beginnings of the target are more specific, and so is a named value. -/
def isBelow (directive other : Directive) : Bool :=
  let length (d : Directive) := d.target.elim 0 (·.length + 1)
  length directive < length other ||
    (length directive == length other && match directive.field, other.field with
      | none, some _ => true
      | some name, some otherName => name < otherName
      | _, none => false)

end Directive

structure LogFilter where
  directives : List Directive
  deriving DecidableEq, Repr

namespace LogFilter

/-- Lets through a level and the more severe ones, whatever the target. -/
def atLevel (level : Level) : LogFilter :=
  ⟨[{ threshold := some level }]⟩

def ofText? (text : String) : Option LogFilter :=
  (((splitAt (· == ',') text.toList).filter (! ·.isEmpty)).mapM Directive.ofText?).map
    LogFilter.mk

/-- The most specific directive about an event; of several that are alike the last counts. -/
def deciding? (filter : LogFilter) (event : Event) : Option Directive :=
  (filter.directives.filter (·.isAbout event)).foldl
    (fun best directive =>
      match best with
      | some other => if directive.isBelow other then best else some directive
      | none => some directive) none

def passes (filter : LogFilter) (event : Event) : Bool :=
  (filter.deciding? event).any (·.threshold.passes event.level)

end LogFilter

end GadgetGuard
