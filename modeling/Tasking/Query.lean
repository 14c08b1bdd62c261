/-
# Queries

A `Query` is a computation with nothing hidden: each lookup, each question to a probe and
each event is a node of its own. It can therefore be run at once over one source of
settings, and it can also be run node by node while the settings change in between.
-/

import Tasking.Environment
import Tasking.Event

namespace Tasking

inductive Request where
  | arch (side : Side) (lcd : Bool)
  | platform (side : Side)
  | compiler (side : Side)
  | vendorModule
  deriving DecidableEq, Repr

inductive Observation where
  | lookedUp (setting : Setting)
  | asked (request : Request)
  | reported (event : Event)
  deriving DecidableEq, Repr

namespace Observation

def setting? : Observation → Option Setting
  | .lookedUp setting => some setting
  | _ => none

def request? : Observation → Option Request
  | .asked request => some request
  | _ => none

def event? : Observation → Option Event
  | .reported event => some event
  | _ => none

end Observation

inductive Query (α : Type) where
  | done (value : α)
  | lookUp (setting : Setting) (next : Option String → Query α)
  /-- It asks a probe that answers by itself. -/
  | ask (request : Request) (next : Query α)
  | report (event : Event) (next : Query α)

namespace Query

variable {α β : Type}

def bind : Query α → (α → Query β) → Query β
  | .done value, following => following value
  | .lookUp setting next, following => .lookUp setting (fun answer => (next answer).bind following)
  | .ask request next, following => .ask request (next.bind following)
  | .report event next, following => .report event (next.bind following)

instance : Monad Query where
  pure := .done
  bind := bind

/-- What the query finds out when `source` answers its lookups. -/
def value (source : Source) : Query α → α
  | .done value => value
  | .lookUp setting next => (next (source setting)).value source
  | .ask _ next => next.value source
  | .report _ next => next.value source

/-- What the query does, in order, when `source` answers its lookups. -/
def trail (source : Source) : Query α → List Observation
  | .done _ => []
  | .lookUp setting next => .lookedUp setting :: (next (source setting)).trail source
  | .ask request next => .asked request :: next.trail source
  | .report event next => .reported event :: next.trail source

/-- The empty text counts as no answer. -/
def setting (setting : Setting) : Query (Option String) :=
  .lookUp setting (fun answer => .done (present answer))

def asking (request : Request) (answer : α) : Query α :=
  .ask request (.done answer)

def reporting (event : Event) : Query Unit :=
  .report event (.done ())

@[simp]
theorem pure_eq_done (value : α) : (pure value : Query α) = .done value := rfl

@[simp]
theorem lookUp_bind (setting : Setting) (next : Option String → Query α)
    (following : α → Query β) :
    (Query.lookUp setting next >>= following) =
      .lookUp setting (fun answer => next answer >>= following) := rfl

@[simp]
theorem ask_bind (request : Request) (next : Query α) (following : α → Query β) :
    (Query.ask request next >>= following) = .ask request (next >>= following) := rfl

@[simp]
theorem report_bind (event : Event) (next : Query α) (following : α → Query β) :
    (Query.report event next >>= following) = .report event (next >>= following) := rfl

instance : LawfulMonad Query :=
  LawfulMonad.mk' Query
    (fun query => by
      change query.bind (fun value => .done value) = query
      induction query with
      | done value => rfl
      | lookUp setting next ih => simp only [Query.bind, ih]
      | ask request next ih => simp only [Query.bind, ih]
      | report event next ih => simp only [Query.bind, ih])
    (fun _ _ => rfl)
    (fun query first second => by
      change (query.bind first).bind second = query.bind (fun value => (first value).bind second)
      induction query with
      | done value => rfl
      | lookUp setting next ih => simp only [Query.bind, ih]
      | ask request next ih => simp only [Query.bind, ih]
      | report event next ih => simp only [Query.bind, ih])

@[simp]
theorem value_done (source : Source) (value : α) : (Query.done value).value source = value := rfl

@[simp]
theorem trail_done (source : Source) (value : α) : (Query.done value).trail source = [] := rfl

@[simp]
theorem value_bind (source : Source) (query : Query α) (following : α → Query β) :
    (query >>= following).value source = (following (query.value source)).value source := by
  induction query with
  | done value => rfl
  | lookUp setting next ih => exact ih (source setting)
  | ask request next ih => exact ih
  | report event next ih => exact ih

@[simp]
theorem trail_bind (source : Source) (query : Query α) (following : α → Query β) :
    (query >>= following).trail source =
      query.trail source ++ (following (query.value source)).trail source := by
  induction query with
  | done value => rfl
  | lookUp setting next ih =>
      simp only [lookUp_bind, trail, value, List.cons_append, ih]
  | ask request next ih =>
      simp only [ask_bind, trail, value, List.cons_append, ih]
  | report event next ih =>
      simp only [report_bind, trail, value, List.cons_append, ih]

@[simp]
theorem value_setting (source : Source) (asked : Setting) :
    (setting asked).value source = present (source asked) := rfl

@[simp]
theorem trail_setting (source : Source) (asked : Setting) :
    (setting asked).trail source = [.lookedUp asked] := rfl

@[simp]
theorem trail_reporting (source : Source) (event : Event) :
    (reporting event).trail source = [.reported event] := rfl

/-- Sources that agree on every setting in the trail lead the query the same way. -/
theorem trail_congr {query : Query α} {first second : Source}
    (agree : ∀ setting, .lookedUp setting ∈ query.trail first → first setting = second setting) :
    query.trail second = query.trail first := by
  induction query with
  | done value => rfl
  | lookUp setting next ih =>
      have here : first setting = second setting := agree setting (by simp [trail])
      have rest := ih (first setting) (fun other seen => agree other (by simp [trail, seen]))
      simp only [trail, ← here, rest]
  | ask request next ih =>
      simp only [trail, ih (fun other seen => agree other (by simp [trail, seen]))]
  | report event next ih =>
      simp only [trail, ih (fun other seen => agree other (by simp [trail, seen]))]

theorem value_congr {query : Query α} {first second : Source}
    (agree : ∀ setting, .lookedUp setting ∈ query.trail first → first setting = second setting) :
    query.value second = query.value first := by
  induction query with
  | done value => rfl
  | lookUp setting next ih =>
      have here : first setting = second setting := agree setting (by simp [trail])
      have rest := ih (first setting) (fun other seen => agree other (by simp [trail, seen]))
      simp only [value, ← here, rest]
  | ask request next ih =>
      exact ih (fun other seen => agree other (by simp [trail, seen]))
  | report event next ih =>
      exact ih (fun other seen => agree other (by simp [trail, seen]))

end Query

end Tasking
