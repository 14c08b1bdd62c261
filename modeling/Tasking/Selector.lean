/-
# Selectors

A selector makes one selection in its life, and gives it again however the settings
change. When several threads ask at once, one of them makes the selection and all of them
get it. Here this is a single step; that nothing else can come of it, in whatever order
the threads take their own steps, is the business of `Tasking.Race`.
-/

import Tasking.Probe

namespace Tasking

inductive ProbeKind where
  | settings
  | given
  deriving DecidableEq, Repr

def ProbeKind.probe (kind : ProbeKind) (facts : Facts) : Probe :=
  match kind with
  | .settings => .ofSettings
  | .given => .ofFacts facts

inductive Inquiry where
  | get
  | selection
  /-- Asked by so many threads at once. -/
  | concurrentGet (threads : Nat)
  | isCached
  | gatherFacts
  | overrideText
  deriving DecidableEq, Repr

inductive Answer where
  | nothing
  | text (text : String)
  | textIfAny (text : Option String)
  | texts (texts : List String)
  | flag (holds : Bool)
  | index (index : Nat)
  | facts (facts : Facts)
  | selection (selection : Selection)
  deriving DecidableEq, Repr

structure Selector where
  kind : ProbeKind
  cache : Option Selection := none
  deriving DecidableEq, Repr

/-- What comes of a question: the answer, what was done to find it, and the state afterwards. -/
structure Outcome (σ ω : Type) where
  answer : ω
  trail : List Observation
  state : σ

namespace Selector

def isCached (selector : Selector) : Bool :=
  selector.cache.isSome

def consult (selector : Selector) (facts : Facts) (source : Source) :
    Outcome Selector Selection :=
  match selector.cache with
  | some selection => ⟨selection, [.reported (.cacheHit selection.choice)], selector⟩
  | none =>
      let query := (selector.kind.probe facts).select
      ⟨query.value source, query.trail source,
        { selector with cache := some (query.value source) }⟩

theorem consult_of_cached {selector : Selector} {selection : Selection}
    (made : selector.cache = some selection) (facts : Facts) (source : Source) :
    selector.consult facts source =
      ⟨selection, [.reported (.cacheHit selection.choice)], selector⟩ := by
  simp [consult, made]

/-- What is left of a trail when nobody listens to the events. -/
def unreported (trail : List Observation) : List Observation :=
  trail.filter (fun observation => observation.event?.isNone)

/-- The events of threads that ask at once are not listened to. -/
def answer (selector : Selector) (facts : Facts) (source : Source) :
    Inquiry → Outcome Selector Answer
  | .get =>
      let outcome := selector.consult facts source
      ⟨.text outcome.answer.choice.name, outcome.trail, outcome.state⟩
  | .selection =>
      let outcome := selector.consult facts source
      ⟨.selection outcome.answer, outcome.trail, outcome.state⟩
  | .concurrentGet 0 => ⟨.texts [], [], selector⟩
  | .concurrentGet (others + 1) =>
      let outcome := selector.consult facts source
      ⟨.texts (List.replicate (others + 1) outcome.answer.choice.name),
        unreported outcome.trail, outcome.state⟩
  | .isCached => ⟨.flag selector.isCached, [], selector⟩
  | .gatherFacts =>
      let query := (selector.kind.probe facts).targetFacts
      ⟨.facts (query.value source), query.trail source, selector⟩
  | .overrideText =>
      ⟨.textIfAny (Probe.overrideText.value source), Probe.overrideText.trail source, selector⟩

end Selector

end Tasking
