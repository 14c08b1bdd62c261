/-
# Selectors do not see each other

All selectors of a session look at one environment, and only asking can change a
selector. So a question to one selector is no business of another, and a question
that needs no selection is not even the business of the selector that is asked. Such
questions can be left out of a session. Whatever remains shows the same of the
selector in question, down to the lookups and the events.

`SameFor` says when two sessions stand alike for one selector. Every action that is
taken in both keeps it, and so does every question that is taken in one of them only.
-/

import Tasking.Proofs.Session.Freezing

namespace Tasking

/-- A question that does not concern the selector `number`, either because it asks
another one or because it needs no selection. -/
def Action.IsAside (action : Action) (number : Nat) : Prop :=
  ∃ asked inquiry, action = .ask asked inquiry ∧
    (asked ≠ number ∨ ¬ inquiry.needsSelection = true)

namespace Session

/-- All of the actions, those that are marked to be left out among them. -/
def allActions (steps : List (Action × Bool)) : List Action :=
  steps.map Prod.fst

/-- The actions that stay when those marked `false` are left out. -/
def keptActions (steps : List (Action × Bool)) : List Action :=
  (steps.filter Prod.snd).map Prod.fst

/-- Nothing that the selector `number` could show tells the two sessions apart. -/
structure SameFor (number : Nat) (first second : Session) : Prop where
  environment : first.environment = second.environment
  facts : first.facts = second.facts
  count : first.selectors.length = second.selectors.length
  selector : first.selectors[number]? = second.selectors[number]?

variable {number : Nat} {first second session : Session} {action : Action}

theorem SameFor.next (same : SameFor number first second) (action : Action) :
    SameFor number (first.next action) (second.next action) := by
  constructor
  case environment => rw [environment_next, environment_next, same.environment]
  case facts => rw [facts_next, facts_next, same.facts]
  case count => rw [length_selectors_next, length_selectors_next, same.count]
  case selector =>
    rw [getElem?_selectors_next, getElem?_selectors_next, same.selector, same.count,
      same.environment, same.facts]

/-- Taking a step aside is the same for the selector as not taking it. -/
theorem sameFor_next_of_isAside (session : Session) (aside : action.IsAside number) :
    SameFor number (session.next action) session := by
  obtain ⟨asked, inquiry, rfl, unconcerned⟩ := aside
  constructor
  case environment => exact environment_next session _
  case facts => exact facts_next session _
  case count => exact length_selectors_next session _
  case selector =>
    rw [getElem?_selectors_next]
    by_cases own : asked = number
    · have observes : ¬ inquiry.needsSelection = true :=
        unconcerned.resolve_left fun other => other own
      refine (if_pos own).trans ?_
      simp only [Selector.state_answer_of_not_needsSelection _ _ _ observes]
      exact Option.map_id'
    · exact if_neg own

theorem SameFor.trans {third : Session} (same : SameFor number first second)
    (further : SameFor number second third) : SameFor number first third :=
  ⟨same.environment.trans further.environment, same.facts.trans further.facts,
    same.count.trans further.count, same.selector.trans further.selector⟩

/-- A run and the same run with steps aside left out end alike for the selector. -/
theorem SameFor.after {steps : List (Action × Bool)} (same : SameFor number first second)
    (aside : ∀ action, (action, false) ∈ steps → action.IsAside number) :
    SameFor number (first.after (allActions steps)) (second.after (keptActions steps)) := by
  induction steps generalizing first second with
  | nil => exact same
  | cons step rest ih =>
      obtain ⟨action, stays⟩ := step
      have later : ∀ action, (action, false) ∈ rest → action.IsAside number :=
        fun action among => aside action (List.mem_cons_of_mem _ among)
      cases stays with
      | true => exact ih (same.next action) later
      | false =>
          -- only the longer run takes the step, and the selector does not notice
          have unseen := sameFor_next_of_isAside first (aside action List.mem_cons_self)
          exact ih (unseen.trans same) later

/-- What two replies to one action show of the selector `number` is the same. -/
structure AlikeFor (number : Nat) (action : Action) (full short : Reply) : Prop where
  /-- Whatever the action was, the selector counts as cached after both or after neither. -/
  flag : full.cached[number]? = short.cached[number]?
  /-- Unless another selector was asked, the answers are the same, and the same variables
  were looked up, the same questions asked and the same events reported in the same order. -/
  shown : (∀ other inquiry, action = .ask other inquiry → other = number) →
    full.answer = short.answer ∧ full.trail = short.trail

theorem SameFor.reply (same : SameFor number first second) (action : Action) :
    AlikeFor number action (first.reply action) (second.reply action) := by
  constructor
  case flag =>
    change ((first.next action).selectors.map Selector.isCached)[number]? =
      ((second.next action).selectors.map Selector.isCached)[number]?
    rw [List.getElem?_map, List.getElem?_map, (same.next action).selector]
  case shown =>
    intro own
    cases action with
    | set name value =>
        exact ⟨congrArg (fun environment : Environment String =>
          Answer.textIfAny (environment.get? name)) same.environment, rfl⟩
    | unset name =>
        exact ⟨congrArg (fun environment : Environment String =>
          Answer.textIfAny (environment.get? name)) same.environment, rfl⟩
    | setFacts facts => exact ⟨rfl, rfl⟩
    | new kind => exact ⟨congrArg Answer.index same.count, rfl⟩
    | ask asked inquiry =>
        obtain rfl := own asked inquiry rfl
        change (first.act (.ask asked inquiry)).answer = (second.act (.ask asked inquiry)).answer ∧
          (first.act (.ask asked inquiry)).trail = (second.act (.ask asked inquiry)).trail
        rw [act, act, same.selector, same.facts, same.environment]
        cases second.selectors[asked]? with
        | none => exact ⟨rfl, rfl⟩
        | some selector => exact ⟨rfl, rfl⟩

/-- Leaving out questions to other selectors, and questions that only observe, changes
nothing that the steps that stay show of a selector. -/
theorem left_out_unnoticed {environment : Environment String} {facts : Facts} {kind : ProbeKind}
    {number : Nat} {before behind : List (Action × Bool)} {action : Action}
    (aside : ∀ other, (other, false) ∈ before ++ (action, true) :: behind → other.IsAside number) :
    ∃ full short,
      ((start environment facts kind).replies
        (allActions (before ++ (action, true) :: behind)))[(allActions before).length]? =
          some full ∧
      ((start environment facts kind).replies
        (keptActions (before ++ (action, true) :: behind)))[(keptActions before).length]? =
          some short ∧
      AlikeFor number action full short := by
  let opening := start environment facts kind
  have unseen : ∀ other, (other, false) ∈ before → other.IsAside number :=
    fun other among => aside other (List.mem_append_left _ among)
  have same : SameFor number opening opening := ⟨rfl, rfl, rfl, rfl⟩
  have all : allActions (before ++ (action, true) :: behind) =
      allActions before ++ action :: allActions behind :=
    List.map_append
  have kept : keptActions (before ++ (action, true) :: behind) =
      keptActions before ++ action :: keptActions behind := by
    rw [keptActions, List.filter_append, List.map_append]
    rfl
  refine ⟨_, _, ?_, ?_, (same.after unseen).reply action⟩
  · rw [all]
    exact getElem?_replies opening (allActions before) action (allActions behind)
  · rw [kept]
    exact getElem?_replies opening (keptActions before) action (keptActions behind)

/-- Selector 1 is asked for its selection as though nobody had asked selector 0 for its own
and nobody had asked selector 1 for its facts. -/
theorem left_out_unnoticed_between_selectors :
    (∀ other, (other, false) ∈ ([(.new .settings, true), (.ask 0 .get, false),
        (.ask 1 .gatherFacts, false), (.set "CHPL_TASKS" "fifo", true)] : List (Action × Bool)) ++
          (.ask 1 .selection, true) :: [(.ask 0 (.concurrentGet 2), false)] →
      other.IsAside 1) ∧
    ∃ full short,
      ((start .empty .unknown .settings).replies [.new .settings, .ask 0 .get, .ask 1 .gatherFacts,
        .set "CHPL_TASKS" "fifo", .ask 1 .selection, .ask 0 (.concurrentGet 2)])[4]? =
          some full ∧
      ((start .empty .unknown .settings).replies
        [.new .settings, .set "CHPL_TASKS" "fifo", .ask 1 .selection])[2]? = some short ∧
      AlikeFor 1 (.ask 1 .selection) full short := by
  have aside : ∀ other, (other, false) ∈ ([(.new .settings, true), (.ask 0 .get, false),
      (.ask 1 .gatherFacts, false), (.set "CHPL_TASKS" "fifo", true)] : List (Action × Bool)) ++
        (.ask 1 .selection, true) :: [(.ask 0 (.concurrentGet 2), false)] →
      other.IsAside 1 := by
    intro other among
    simp only [List.cons_append, List.nil_append, List.mem_cons, Prod.mk.injEq, List.not_mem_nil,
      Bool.false_eq_true, and_false, and_true, or_false, false_or] at among
    rcases among with rfl | rfl | rfl
    · exact ⟨0, .get, rfl, Or.inl Nat.zero_ne_one⟩
    · exact ⟨1, .gatherFacts, rfl, Or.inr Bool.false_ne_true⟩
    · exact ⟨0, .concurrentGet 2, rfl, Or.inl Nat.zero_ne_one⟩
  exact ⟨aside, left_out_unnoticed aside⟩

end Session

end Tasking
