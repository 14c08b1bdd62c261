/-
# What is logged

Of the directives that are about an event the most special one counts. One directive that
cannot be read spoils the whole filter.
-/

import Tasking.Log.Directive

namespace Tasking.Log

/-- The directives in the order in which they were written. -/
abbrev Filter := List Directive

namespace Filter

def uniform (amount : Amount) : Filter := [{ amount := amount }]

/-- Directives may be empty, and say nothing then. -/
def read? (text : String) : Option Filter :=
  ((text.toList.splitOn ',').filter (fun piece => !piece.isEmpty)).mapM Directive.read?

def moreSpecial (earlier : Option Directive) (later : Directive) : Option Directive :=
  match earlier with
  | none => some later
  | some directive => if directive.outranks later then some directive else some later

def directiveFor? (filter : Filter) (event : Event) : Option Directive :=
  (filter.filter (fun directive => directive.concerns event)).foldl moreSpecial none

/-- What no directive is about is not shown. -/
def shows (filter : Filter) (event : Event) : Bool :=
  match filter.directiveFor? event with
  | none => false
  | some directive => decide (amountThrough event.severity ≤ directive.amount)

end Filter

/-- Values are written as they are, so a line end in one of them is one in the log. -/
def fieldText (field : String × FieldValue) : String :=
  " " ++ field.1 ++ "=" ++ field.2.shown

def line (event : Event) : String :=
  event.severity.label ++ " " ++ event.origin ++ ": " ++ event.message
    ++ String.join (event.fields.map fieldText) ++ "\n"

def lines (filter : Filter) (events : List Event) : List String :=
  (events.filter filter.shows).map line

end Tasking.Log
