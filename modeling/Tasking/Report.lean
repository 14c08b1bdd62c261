/-
# Reporting a selection

An explanation is written first: if it cannot be written, the identifier is not written
either.
-/

import Tasking.Event
import Tasking.Sink

namespace Tasking

structure Streams where
  out : Sink
  diag : Sink
  deriving DecidableEq, Repr

inductive ReportFault where
  | explanation
  | identifier
  /-- The identifier was written and then not flushed. -/
  | flush
  deriving DecidableEq, Repr

def ReportFault.message : ReportFault → String
  | .explanation => "Failed to write explanation"
  | .identifier => "Failed to write CHPL_TASKS to stdout"
  | .flush => "Failed to flush stdout"

structure ReportFailure where
  fault : ReportFault
  cause : String
  deriving DecidableEq, Repr

namespace Selection

def explanation (selection : Selection) : List String :=
  ("CHPL_TASKS=" ++ selection.choice.name ++ " (" ++ selection.rule.reason ++ ")\n") ::
    (selection.facts.map (fun facts => "  " ++ facts.text ++ "\n")).toList

def line (selection : Selection) : String :=
  selection.choice.name ++ "\n"

/-- The event that precedes a report. -/
def announcement (selection : Selection) : Event :=
  .printing selection.choice selection.rule

/-- The sinks are given afterwards, with the failure that stopped the report, if one did. -/
def report (selection : Selection) (explain : Bool) (streams : Streams) :
    Streams × Option ReportFailure :=
  match streams.diag.writeTexts (if explain then selection.explanation else []) with
  | (diag, some cause) => ({ streams with diag := diag }, some ⟨.explanation, cause⟩)
  | (diag, none) =>
      match streams.out.writeText selection.line with
      | (out, some cause) => (⟨out, diag⟩, some ⟨.identifier, cause⟩)
      | (out, none) => (⟨out, diag⟩, out.flushFault.map (fun cause => ⟨.flush, cause⟩))

end Selection

end Tasking
