/-
# Log events

An event is what happened, with the values that mattered. Its severity, its wording and
the part of the program that speaks are fixed by what happened.
-/

import Tasking.Selection

namespace Tasking

/-- How much an event matters, the gravest first. -/
inductive Severity where
  | error
  | warn
  | info
  | debug
  | trace
  deriving DecidableEq, Repr

def Severity.label : Severity → String
  | .error => "ERROR"
  | .warn => "WARN"
  | .info => "INFO"
  | .debug => "DEBUG"
  | .trace => "TRACE"

inductive Event where
  /-- The user's setting replaced the decision table. -/
  | overrideTaken (text : String)
  /-- The decision table was consulted. -/
  | decided (facts : Facts)
  /-- A selection made earlier was given again. -/
  | cacheHit (choice : Choice)
  /-- A selection is about to be printed. -/
  | printing (choice : Choice) (rule : Rule)
  deriving DecidableEq, Repr

inductive FieldValue where
  | text (text : String)
  | flag (flag : Bool)
  deriving DecidableEq, Repr

def FieldValue.shown : FieldValue → String
  | .text shown => shown
  | .flag holds => Facts.flagText holds

namespace Event

/-- Giving a selection again is routine. -/
def severity : Event → Severity
  | .cacheHit _ => .trace
  | _ => .debug

def message : Event → String
  | .overrideTaken _ => "CHPL_TASKS taken from environment"
  | .decided _ => "CHPL_TASKS selected"
  | .cacheHit _ => "CHPL_TASKS cache hit"
  | .printing _ _ => "printing selection"

/-- The part of the program that speaks, by which a reader of logs can filter. -/
def origin : Event → String
  | .printing _ _ => "chpl_tasks::commands::tasks"
  | _ => "chplenv::engine::selector"

def fields : Event → List (String × FieldValue)
  | .overrideTaken text => [("tasks", .text text)]
  | .decided facts =>
      [("tasks", .text facts.decision.backend.name),
        ("rule", .text facts.decision.rule.reason),
        ("arch", .text facts.arch),
        ("platform", .text facts.platform),
        ("compiler", .text facts.compiler),
        ("module", .flag facts.usingVendorModule)]
  | .cacheHit choice => [("tasks", .text choice.name)]
  | .printing choice rule => [("tasks", .text choice.name), ("rule", .text rule.reason)]

/-- The names by which a reader of logs can ask for an event. What the event is called
counts as a field too. -/
def fieldNames (event : Event) : List String :=
  "message" :: event.fields.map Prod.fst

end Event

end Tasking
