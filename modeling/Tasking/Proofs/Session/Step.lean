/-
# What one action does to one selector

An action can touch a selector in one way only: by asking it something that
needs its selection while the selection has not been made. This module derives
that from a single equation for the selector behind a number, so that arguments
about whole runs never look into an action again.
-/

import Tasking.Proofs.Session.Question
import Tasking.Session

namespace Tasking

/-- Whether the action asks the selector `number` something that needs its selection. -/
def Action.queries (action : Action) (number : Nat) : Bool :=
  match action with
  | .ask asked inquiry => asked == number && inquiry.needsSelection
  | _ => false

theorem Action.queries_ask {asked number : Nat} {inquiry : Inquiry} :
    (Action.ask asked inquiry).queries number = true ↔
      asked = number ∧ inquiry.needsSelection = true := by
  rw [queries, Bool.and_eq_true, beq_iff_eq]

namespace Session

variable {session : Session} {action : Action} {number : Nat} {selector : Selector}

theorem next_ask_of_none {inquiry : Inquiry} (missing : session.selectors[number]? = none) :
    session.next (.ask number inquiry) = session := by
  rw [next, act, missing]

theorem next_ask_of_some {inquiry : Inquiry}
    (there : session.selectors[number]? = some selector) :
    session.next (.ask number inquiry) =
      { session with
        selectors := session.selectors.set number
          (selector.answer session.facts session.environment.source inquiry).state } := by
  rw [next, act, there]

theorem act_ask (there : session.selectors[number]? = some selector) (inquiry : Inquiry) :
    (session.act (.ask number inquiry)).answer =
        (selector.answer session.facts session.environment.source inquiry).answer ∧
      (session.act (.ask number inquiry)).trail =
        (selector.answer session.facts session.environment.source inquiry).trail := by
  rw [act, there]
  exact ⟨rfl, rfl⟩

theorem act_ask_of_none {inquiry : Inquiry} (missing : session.selectors[number]? = none) :
    session.act (.ask number inquiry) = ⟨.nothing, [], session⟩ := by
  rw [act, missing]

/-- A question changes at most what a selector holds. -/
theorem exists_next_ask (session : Session) (number : Nat) (inquiry : Inquiry) :
    ∃ selectors, session.next (.ask number inquiry) = { session with selectors := selectors } ∧
      selectors.length = session.selectors.length := by
  cases there : session.selectors[number]? with
  | none => exact ⟨session.selectors, next_ask_of_none there, rfl⟩
  | some selector => exact ⟨_, next_ask_of_some there, List.length_set⟩

/-- Only setting and removing variables changes the environment. -/
theorem environment_next (session : Session) (action : Action) :
    (session.next action).environment =
      match action with
      | .set name value => session.environment.insert name value
      | .unset name => session.environment.erase name
      | _ => session.environment := by
  cases action with
  | set | unset | setFacts | new => rfl
  | ask asked inquiry =>
      obtain ⟨selectors, stands, -⟩ := session.exists_next_ask asked inquiry
      rw [stands]

theorem facts_next (session : Session) (action : Action) :
    (session.next action).facts =
      match action with
      | .setFacts facts => facts
      | _ => session.facts := by
  cases action with
  | set | unset | setFacts | new => rfl
  | ask asked inquiry =>
      obtain ⟨selectors, stands, -⟩ := session.exists_next_ask asked inquiry
      rw [stands]

theorem length_selectors_next (session : Session) (action : Action) :
    (session.next action).selectors.length =
      match action with
      | .new _ => session.selectors.length + 1
      | _ => session.selectors.length := by
  cases action with
  | set | unset | setFacts => rfl
  | new kind => exact List.length_append
  | ask asked inquiry =>
      obtain ⟨selectors, stands, length⟩ := session.exists_next_ask asked inquiry
      rw [stands]
      exact length

/-- The selector behind a number after one action, in terms of the one before. -/
theorem getElem?_selectors_next (session : Session) (action : Action) (number : Nat) :
    (session.next action).selectors[number]? =
      match action with
      | .ask asked inquiry =>
          if asked = number then
            session.selectors[number]?.map fun selector =>
              (selector.answer session.facts session.environment.source inquiry).state
          else session.selectors[number]?
      | .new kind =>
          if number = session.selectors.length then some { kind := kind }
          else session.selectors[number]?
      | _ => session.selectors[number]? := by
  cases action with
  | set name value => rfl
  | unset name => rfl
  | setFacts facts => rfl
  | new kind =>
      change (session.selectors ++ [{ kind := kind }])[number]? = _
      by_cases last : number = session.selectors.length
      · rw [last, List.getElem?_concat_length]
        exact (if_pos rfl).symm
      · rw [List.getElem?_append]
        by_cases within : number < session.selectors.length
        · rw [if_pos within]
          exact (if_neg last).symm
        · have beyond : session.selectors.length < number := by omega
          rw [if_neg within, List.getElem?_eq_none (by simp only [List.length_singleton]; omega)]
          exact ((if_neg last).trans (List.getElem?_eq_none (Nat.le_of_lt beyond))).symm
  | ask asked inquiry =>
      cases there : session.selectors[asked]? with
      | none =>
          rw [next_ask_of_none there]
          by_cases same : asked = number
          · subst same
            simp only [there, Option.map_none, ite_self]
          · exact (if_neg same).symm
      | some selector =>
          rw [next_ask_of_some there]
          by_cases same : asked = number
          · subst same
            rw [List.getElem?_set_self (List.getElem?_eq_some_iff.mp there).1, there]
            exact (if_pos rfl).symm
          · rw [List.getElem?_set_ne same]
            exact (if_neg same).symm

/-- An action that does not need a selector's selection leaves the selector alone. -/
theorem getElem?_selectors_next_of_not_queries
    (there : session.selectors[number]? = some selector)
    (other : ¬ action.queries number = true) :
    (session.next action).selectors[number]? = some selector := by
  rw [getElem?_selectors_next]
  cases action with
  | set | unset | setFacts => exact there
  | new kind =>
      have within : number < session.selectors.length := (List.getElem?_eq_some_iff.mp there).1
      exact (if_neg (Nat.ne_of_lt within)).trans there
  | ask asked inquiry =>
      by_cases same : asked = number
      · have observes : ¬ inquiry.needsSelection = true :=
          fun needs => other (Action.queries_ask.mpr ⟨same, needs⟩)
        rw [there]
        refine (if_pos same).trans ?_
        rw [Option.map_some, Selector.state_answer_of_not_needsSelection _ _ _ observes]
      · exact (if_neg same).trans there

/-- An action that needs a selector's selection leaves the selector with it. -/
theorem getElem?_selectors_next_of_queries (there : session.selectors[number]? = some selector)
    (asks : action.queries number = true) :
    (session.next action).selectors[number]? =
      some { selector with
        cache := some (selector.consult session.facts session.environment.source).answer } := by
  rw [getElem?_selectors_next]
  cases action with
  | set | unset | setFacts | new => exact absurd asks Bool.false_ne_true
  | ask asked inquiry =>
      obtain ⟨same, needs⟩ := Action.queries_ask.mp asks
      rw [there]
      refine (if_pos same).trans ?_
      rw [Option.map_some, Selector.state_answer_of_needsSelection _ _ _ needs,
        Selector.state_consult]

/-- No action touches a selector that has made its selection. -/
theorem getElem?_selectors_next_of_cached {selection : Selection}
    (there : session.selectors[number]? = some selector)
    (made : selector.cache = some selection) :
    (session.next action).selectors[number]? = some selector := by
  by_cases asks : action.queries number = true
  · rw [getElem?_selectors_next_of_queries there asks, Selector.consult_of_cached made, ← made]
  · exact getElem?_selectors_next_of_not_queries there asks

/-- A selector that was not there before an action has not been asked after it. -/
theorem cache_eq_none_of_getElem?_eq_none (missing : session.selectors[number]? = none)
    (there : (session.next action).selectors[number]? = some selector) :
    selector.cache = none := by
  rw [getElem?_selectors_next] at there
  cases action with
  | set | unset | setFacts => exact absurd (missing.symm.trans there) (Option.some_ne_none _).symm
  | ask asked inquiry =>
      rw [missing] at there
      change (if asked = number then none else none) = some selector at there
      rw [ite_self] at there
      cases there
  | new kind =>
      by_cases last : number = session.selectors.length
      · cases (if_pos last).symm.trans there
        rfl
      · exact absurd (missing.symm.trans ((if_neg last).symm.trans there))
          (Option.some_ne_none _).symm

/-- What a fresh selector has, and a selector keeps when it gives its selection, every
selector of a session keeps through an action. -/
theorem forall_mem_selectors_next {Holds : Selector → Prop}
    (now : ∀ selector ∈ session.selectors, Holds selector)
    (fresh : ∀ kind, action = .new kind → Holds { kind := kind })
    (consulted : ∀ selector facts source, Holds selector →
      Holds (Selector.consult selector facts source).state) :
    ∀ selector ∈ (session.next action).selectors, Holds selector := by
  intro selector among
  obtain ⟨number, there⟩ := List.mem_iff_getElem?.mp among
  rw [getElem?_selectors_next] at there
  cases action with
  | set | unset | setFacts => exact now selector (List.mem_of_getElem? there)
  | new kind =>
      by_cases last : number = session.selectors.length
      · cases (if_pos last).symm.trans there
        exact fresh kind rfl
      · exact now selector (List.mem_of_getElem? ((if_neg last).symm.trans there))
  | ask asked inquiry =>
      by_cases same : asked = number
      · obtain ⟨before, present, rfl⟩ := Option.map_eq_some_iff.mp ((if_pos same).symm.trans there)
        have held := now before (List.mem_of_getElem? present)
        rw [Selector.state_answer]
        by_cases needs : inquiry.needsSelection = true
        · rw [if_pos needs]
          exact consulted before _ _ held
        · rw [if_neg needs]
          exact held
      · exact now selector (List.mem_of_getElem? ((if_neg same).symm.trans there))

/-- And so it does through a whole run. -/
theorem forall_mem_selectors_after {Holds : Selector → Prop} {actions : List Action}
    (now : ∀ selector ∈ session.selectors, Holds selector)
    (fresh : ∀ kind, .new kind ∈ actions → Holds { kind := kind })
    (consulted : ∀ selector facts source, Holds selector →
      Holds (Selector.consult selector facts source).state) :
    ∀ selector ∈ (session.after actions).selectors, Holds selector := by
  induction actions generalizing session with
  | nil => exact now
  | cons action rest ih =>
      apply ih
      · apply forall_mem_selectors_next now
        · intro kind same
          exact fresh kind (same ▸ List.mem_cons_self)
        · exact consulted
      · intro kind among
        exact fresh kind (List.mem_cons_of_mem _ among)

end Session

end Tasking
