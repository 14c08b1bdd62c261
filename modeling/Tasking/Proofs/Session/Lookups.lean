/-
# The lookups of a session

Every step of a session has an effort that can be read off the session as it stands
before the step. A selector makes its selection once, so all steps of a session that
need the selection of one selector take together what the first of them takes. No
variable is looked up twice for one selection, however long the session is and however
many threads ask.
-/

import Tasking.Proofs.Probe.Lookups
import Tasking.Proofs.Session.Freezing

namespace Tasking

namespace Selector

/-- The effort of answering a question. A selection that has been made takes none. -/
def effort (environment : Environment String) (selector : Selector) : Inquiry → Effort
  | .get | .selection | .concurrentGet (_ + 1) =>
      if selector.isCached then {} else selector.kind.selectionEffort environment
  | .concurrentGet 0 | .isCached => {}
  | .gatherFacts => selector.kind.factEffort environment
  | .overrideText => { lookups := ["CHPL_TASKS"] }

theorem ofTrail_consult (selector : Selector) (facts : Facts) (environment : Environment String) :
    Effort.ofTrail (selector.consult facts environment.source).trail =
      if selector.isCached then {} else selector.kind.selectionEffort environment := by
  cases made : selector.cache with
  | some selection =>
      rw [consult_of_cached made, isCached, made]
      rfl
  | none =>
      have trail : (selector.consult facts environment.source).trail =
          (selector.kind.probe facts).select.trail environment.source := by
        simp only [consult, made]
      rw [trail, isCached, made, ProbeKind.ofTrail_select]
      rfl

/-- What a selector does to answer a question is what the environment lets one expect. -/
theorem ofTrail_answer (selector : Selector) (facts : Facts) (environment : Environment String)
    (inquiry : Inquiry) :
    Effort.ofTrail (selector.answer facts environment.source inquiry).trail =
      selector.effort environment inquiry := by
  cases inquiry with
  | get | selection => exact selector.ofTrail_consult facts environment
  | concurrentGet threads =>
      cases threads with
      | zero => rfl
      | succ others =>
          exact (Effort.ofTrail_unreported _).trans (selector.ofTrail_consult facts environment)
  | isCached => rfl
  | gatherFacts => exact selector.kind.ofTrail_targetFacts facts environment
  | overrideText => rfl

/-- All questions that need the selection take the same effort. -/
theorem effort_of_needsSelection (selector : Selector) (environment : Environment String)
    {inquiry : Inquiry} (needs : inquiry.needsSelection = true) :
    selector.effort environment inquiry = selector.effort environment .get := by
  cases inquiry with
  | get | selection => rfl
  | concurrentGet threads =>
      cases threads with
      | zero => exact absurd needs Bool.false_ne_true
      | succ others => rfl
  | isCached | gatherFacts | overrideText => exact absurd needs Bool.false_ne_true

end Selector

namespace Session

/-- The effort of one action. Whoever is not there takes none. -/
def effort (session : Session) : Action → Effort
  | .ask number inquiry =>
      match session.selectors[number]? with
      | some selector => selector.effort session.environment inquiry
      | none => {}
  | _ => {}

/-- What was done, in the course of the actions, by the steps that need the selection of
the selector `number`. -/
def selectionTrail (session : Session) (number : Nat) (actions : List Action) :
    List Observation :=
  ((actions.zip (session.replies actions)).filter fun step => step.1.queries number).flatMap
    fun step => step.2.trail

variable {number : Nat} {session : Session} {selector : Selector}

/-- What a step does is what the session before it lets one expect. -/
theorem ofTrail_reply (session : Session) (action : Action) :
    Effort.ofTrail (session.reply action).trail = session.effort action := by
  cases action with
  | set | unset | setFacts | new => rfl
  | ask number inquiry =>
      change Effort.ofTrail (session.act (.ask number inquiry)).trail = _
      cases there : session.selectors[number]? with
      | none =>
          rw [act_ask_of_none there, effort, there]
          rfl
      | some selector =>
          rw [(act_ask there inquiry).2, Selector.ofTrail_answer, effort, there]

theorem selectionTrail_cons (session : Session) (number : Nat) (action : Action)
    (rest : List Action) :
    session.selectionTrail number (action :: rest) =
      (if action.queries number then (session.reply action).trail else []) ++
        (session.next action).selectionTrail number rest := by
  rw [selectionTrail, replies, List.zip_cons_cons, List.filter_cons]
  by_cases asks : action.queries number = true
  · rw [if_pos asks, if_pos asks]
    rfl
  · rw [if_neg asks, if_neg asks]
    rfl

theorem effort_of_queries {action : Action} (asks : action.queries number = true) :
    session.effort action = session.effort (.ask number .get) := by
  cases action with
  | set | unset | setFacts | new => exact absurd asks Bool.false_ne_true
  | ask asked inquiry =>
      obtain ⟨rfl, needs⟩ := Action.queries_ask.mp asks
      rw [effort, effort]
      cases session.selectors[asked]? with
      | none => rfl
      | some selector => exact selector.effort_of_needsSelection session.environment needs

/-- A selector that has made its selection takes no more effort for it. -/
theorem ofTrail_selectionTrail_of_cached {selection : Selection}
    (there : session.selectors[number]? = some selector)
    (made : selector.cache = some selection) (actions : List Action) :
    Effort.ofTrail (session.selectionTrail number actions) = {} := by
  induction actions generalizing session with
  | nil => rfl
  | cons action rest ih =>
      have stays : (session.next action).selectors[number]? = some selector :=
        getElem?_selectors_next_of_cached there made
      rw [selectionTrail_cons, Effort.ofTrail_append, ih stays, Effort.andThen_nothing]
      by_cases asks : action.queries number = true
      · rw [if_pos asks, ofTrail_reply, effort_of_queries asks, effort, there]
        change (if selector.isCached then _ else _) = _
        rw [Selector.isCached, made]
        rfl
      · rw [if_neg asks]
        rfl

/-- All steps that need one selection take together what the first of them takes. -/
theorem ofTrail_selectionTrail (session : Session) (number : Nat) (actions : List Action) :
    Effort.ofTrail (session.selectionTrail number actions) =
      (session.firstQuery number actions).elim {} fun asked =>
        asked.effort (.ask number .get) := by
  induction actions generalizing session with
  | nil => rfl
  | cons action rest ih =>
      rw [selectionTrail_cons, Effort.ofTrail_append, firstQuery]
      by_cases first : action.queries number = true ∧ number < session.selectors.length
      · obtain ⟨asks, within⟩ := first
        have filled := getElem?_selectors_next_of_queries (List.getElem?_eq_getElem within) asks
        rw [if_pos asks, if_pos ⟨asks, within⟩, ofTrail_selectionTrail_of_cached filled rfl rest,
          Effort.andThen_nothing, ofTrail_reply, effort_of_queries asks]
        rfl
      · -- the step asks for another selector, or for one that does not exist yet
        have idle : Effort.ofTrail
            (if action.queries number then (session.reply action).trail else []) = {} := by
          by_cases asks : action.queries number = true
          · have missing : session.selectors[number]? = none :=
              List.getElem?_eq_none (Nat.le_of_not_lt fun within => first ⟨asks, within⟩)
            rw [if_pos asks, ofTrail_reply, effort_of_queries asks, effort, missing]
          · rw [if_neg asks]
            rfl
        rw [if_neg first, idle]
        exact ih (session.next action)

/-- What holds of the lookups and questions of a session. -/
structure AccountsFor (opening : Session) (actions : List Action) : Prop where
  /-- Each step does just what the session before it lets one expect. -/
  stepwise : ∀ (past future : List Action) (action : Action), actions = past ++ action :: future →
    ∃ reply, (opening.replies actions)[past.length]? = some reply ∧
      Effort.ofTrail reply.trail = (opening.after past).effort action
  /-- All steps that need one selection take together what the first of them takes. -/
  altogether : ∀ number : Nat,
    Effort.ofTrail (opening.selectionTrail number actions) =
      (opening.firstQuery number actions).elim {} fun asked => asked.effort (.ask number .get)
  /-- So for one selection no variable is looked up twice, and no question put twice. -/
  nodup : ∀ number : Nat,
    (Effort.ofTrail (opening.selectionTrail number actions)).lookups.Nodup ∧
      (Effort.ofTrail (opening.selectionTrail number actions)).requests.Nodup

theorem nodup_effort_ask_get (session : Session) (number : Nat) :
    (session.effort (.ask number .get)).lookups.Nodup ∧
      (session.effort (.ask number .get)).requests.Nodup := by
  rw [effort]
  cases session.selectors[number]? with
  | none => exact ⟨List.nodup_nil, List.nodup_nil⟩
  | some selector =>
      change (if selector.isCached then ({} : Effort) else _).lookups.Nodup ∧
        (if selector.isCached then ({} : Effort) else _).requests.Nodup
      cases selector.isCached with
      | true => exact ⟨List.nodup_nil, List.nodup_nil⟩
      | false => exact selector.kind.nodup_selectionEffort session.environment

/-- Every lookup of a session, and every question to a probe, is accounted for. -/
theorem accounts_for_lookups (environment : Environment String) (facts : Facts) (kind : ProbeKind)
    (actions : List Action) : AccountsFor (start environment facts kind) actions := by
  let opening := start environment facts kind
  constructor
  case stepwise =>
    rintro past future action rfl
    exact ⟨_, getElem?_replies opening past action future, (opening.after past).ofTrail_reply action⟩
  case altogether => exact fun number => opening.ofTrail_selectionTrail number actions
  case nodup =>
    intro number
    rw [ofTrail_selectionTrail]
    cases (start environment facts kind).firstQuery number actions with
    | none => exact ⟨List.nodup_nil, List.nodup_nil⟩
    | some asked => exact asked.nodup_effort_ask_get number

-- The chain of platforms ends at the host's, and both directories are looked up.
example :
    (start (.ofList [("CHPL_HOST_PLATFORM", "cray-xc")]) .unknown .settings).effort (.ask 0 .get) =
      { lookups := ["CHPL_TASKS", "CHPL_TARGET_ARCH", "CHPL_TARGET_PLATFORM", "CHPL_HOST_PLATFORM",
          "CHPL_TARGET_COMPILER", "CHPL_HOME", "CHPL_MODULE_HOME"] } := by
  decide

end Session

end Tasking
