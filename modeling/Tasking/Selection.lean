/-
# Selections

A choice is a backend from the decision table or the user's own text, which is trusted as
it stands. The two kinds are never equal, though they may have the same name.
-/

import Tasking.Decision

namespace Tasking

inductive Choice where
  | fromTable (backend : Backend)
  | override (text : String)
  deriving DecidableEq, Repr

namespace Choice

/-- The identifier that the rest of the build sees. -/
def name : Choice → String
  | .fromTable backend => backend.name
  | .override text => text

instance : ToString Choice where
  toString := name

def backend? : Choice → Option Backend
  | .fromTable backend => some backend
  | .override text => (Backend.ofName text).toOption

def isOverride : Choice → Bool
  | .fromTable _ => false
  | .override _ => true

theorem backend?_eq_ofName_name (choice : Choice) :
    choice.backend? = (Backend.ofName choice.name).toOption := by
  cases choice with
  | fromTable backend => simp [backend?, name, Except.toOption]
  | override text => rfl

end Choice

/-- The facts are absent when the table was not consulted. -/
structure Selection where
  choice : Choice
  rule : Rule
  facts : Option Facts
  deriving DecidableEq, Repr

namespace Selection

def ofOverride (text : String) : Selection where
  choice := .override text
  rule := .override
  facts := none

def ofFacts (facts : Facts) : Selection where
  choice := .fromTable facts.decision.backend
  rule := facts.decision.rule
  facts := some facts

end Selection

end Tasking
