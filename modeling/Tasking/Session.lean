/-
# Sessions

A session is an environment that can change, facts that can be given from outside, and any
number of selectors that all look at the same environment. An action addressed to a
selector that does not exist does nothing.
-/

import Tasking.Selector

namespace Tasking

structure Session where
  environment : Environment String
  /-- The facts for probes that are given their answers. -/
  facts : Facts
  selectors : List Selector

inductive Action where
  | ask (selector : Nat) (inquiry : Inquiry)
  | set (name value : String)
  | unset (name : String)
  | setFacts (facts : Facts)
  | new (kind : ProbeKind)
  deriving DecidableEq, Repr

structure Reply where
  answer : Answer
  /-- Which selectors have made their selection, by their numbers. -/
  cached : List Bool
  trail : List Observation
  deriving DecidableEq, Repr

namespace Session

def start (environment : Environment String) (facts : Facts) (kind : ProbeKind) : Session where
  environment := environment
  facts := facts
  selectors := [{ kind := kind }]

/-- Setting or removing a variable answers with the value that the variable had before. -/
def act (session : Session) : Action → Outcome Session Answer
  | .ask number inquiry =>
      match session.selectors[number]? with
      | none => ⟨.nothing, [], session⟩
      | some selector =>
          let outcome := selector.answer session.facts session.environment.source inquiry
          ⟨outcome.answer, outcome.trail,
            { session with selectors := session.selectors.set number outcome.state }⟩
  | .set name value =>
      ⟨.textIfAny (session.environment.get? name), [],
        { session with environment := session.environment.insert name value }⟩
  | .unset name =>
      ⟨.textIfAny (session.environment.get? name), [],
        { session with environment := session.environment.erase name }⟩
  | .setFacts facts => ⟨.nothing, [], { session with facts := facts }⟩
  | .new kind =>
      ⟨.index session.selectors.length, [],
        { session with selectors := session.selectors ++ [{ kind := kind }] }⟩

def next (session : Session) (action : Action) : Session :=
  (session.act action).state

def reply (session : Session) (action : Action) : Reply where
  answer := (session.act action).answer
  cached := (session.next action).selectors.map Selector.isCached
  trail := (session.act action).trail

def after (session : Session) (actions : List Action) : Session :=
  actions.foldl next session

def replies (session : Session) : List Action → List Reply
  | [] => []
  | action :: rest => session.reply action :: (session.next action).replies rest

@[simp]
theorem after_cons (session : Session) (action : Action) (rest : List Action) :
    session.after (action :: rest) = (session.next action).after rest := rfl

theorem after_append (session : Session) (first second : List Action) :
    session.after (first ++ second) = (session.after first).after second := by
  simp [after]

@[simp]
theorem length_replies (session : Session) (actions : List Action) :
    (session.replies actions).length = actions.length := by
  induction actions generalizing session with
  | nil => rfl
  | cons action rest ih => simp [replies, ih]

theorem replies_append (session : Session) (first second : List Action) :
    session.replies (first ++ second) =
      session.replies first ++ (session.after first).replies second := by
  induction first generalizing session with
  | nil => rfl
  | cons action rest ih => simp [replies, ih]

end Session

end Tasking
