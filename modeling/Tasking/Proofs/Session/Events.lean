/-
# The log of a session

Only a question that one thread asks for a selection is reported. The first such
question reports how the selection came out, unless several threads have made the
selection before, whose events nobody hears; every later one reports that the selection
was given again. The events of a single step follow from what the selector holds when
the step is taken. The events of a whole session are counted with the steps: each
question of one thread has its event, and at most one of these events is about making a
selection, because a selection is made once.
-/

import Tasking.Proofs.Probe.Events
import Tasking.Proofs.Session.Freezing

namespace Tasking

/-- Whether one thread asks for the selection. -/
def Inquiry.asksAlone : Inquiry → Bool
  | .get | .selection => true
  | .concurrentGet _ | .isCached | .gatherFacts | .overrideText => false

namespace Action

/-- Whether the action is addressed to the selector `number`. -/
def isOn (action : Action) (number : Nat) : Bool :=
  match action with
  | .ask asked _ => asked == number
  | _ => false

/-- Whether one thread asks the selector `number` for its selection. -/
def asksAlone (action : Action) (number : Nat) : Bool :=
  match action with
  | .ask asked inquiry => asked == number && inquiry.asksAlone
  | _ => false

theorem asksAlone_iff {action : Action} {number : Nat} :
    action.asksAlone number = true ↔
      action = .ask number .get ∨ action = .ask number .selection := by
  cases action with
  | set | unset | setFacts | new => simp [asksAlone]
  | ask asked inquiry => cases inquiry <;> simp [asksAlone, Inquiry.asksAlone]

theorem queries_of_asksAlone {action : Action} {number : Nat}
    (alone : action.asksAlone number = true) : action.queries number = true := by
  rcases asksAlone_iff.mp alone with rfl | rfl
  · exact queries_ask.mpr ⟨rfl, rfl⟩
  · exact queries_ask.mpr ⟨rfl, rfl⟩

end Action

namespace Event

/-- Whether a reader of a log learns from the event how a selection came out. -/
def isSelection (event : Event) : Bool :=
  event.message == "CHPL_TASKS taken from environment" || event.message == "CHPL_TASKS selected"

/-- Whether a reader of a log learns from the event that a selection was given again. -/
def isHit (event : Event) : Bool :=
  event.message == "CHPL_TASKS cache hit"

theorem TellsOf.kinds {event : Event} {selection : Selection} (tells : event.TellsOf selection) :
    event.isSelection = true ∧ event.isHit = false := by
  rw [isSelection, isHit]
  cases chosen : selection.choice with
  | override text =>
      rw [(tells.overridden text chosen).1]
      decide
  | fromTable backend =>
      rw [(tells.decided backend chosen).1]
      decide

theorem TellsAgain.kinds {event : Event} {identifier : String}
    (tells : event.TellsAgain identifier) : event.isSelection = false ∧ event.isHit = true := by
  rw [isSelection, isHit, tells.message]
  decide

end Event

/-- Only the question of one thread for the selection is reported. -/
theorem Selector.eventsOf_answer (selector : Selector) (facts : Facts) (source : Source)
    (inquiry : Inquiry) :
    eventsOf (selector.answer facts source inquiry).trail =
      if inquiry.asksAlone then eventsOf (selector.consult facts source).trail else [] := by
  cases inquiry with
  | get | selection | isCached | overrideText => rfl
  | concurrentGet threads =>
      cases threads with
      | zero => rfl
      | succ others => exact eventsOf_unreported _
  | gatherFacts => exact (selector.kind.isSilent_targetFacts facts).eventsOf_trail source

namespace Session

/-- The actions of a run, each with the session in which it is taken. -/
def moments (session : Session) : List Action → List (Session × Action)
  | [] => []
  | action :: rest => (session, action) :: (session.next action).moments rest

/-- What the steps that are addressed to the selector `number` report. -/
def log (session : Session) (number : Nat) (actions : List Action) : List Event :=
  ((actions.zip (session.replies actions)).filter fun step => step.1.isOn number).flatMap
    fun step => eventsOf step.2.trail

/-- Whether the selector `number` has made its selection. -/
def hasSelected (session : Session) (number : Nat) : Bool :=
  session.selectors[number]?.any Selector.isCached

/-- Whether the selector `number` makes its selection in the course of the action. -/
def fills (session : Session) (action : Action) (number : Nat) : Bool :=
  !session.hasSelected number && (session.next action).hasSelected number

/-- Whether the selector `number` is there, and one thread asks it for its selection. -/
def answersAlone (session : Session) (action : Action) (number : Nat) : Bool :=
  action.asksAlone number && decide (number < session.selectors.length)

/-- Whether one thread, asking alone, made the selector `number` make its selection. -/
def isFilledAlone (session : Session) (number : Nat) (actions : List Action) : Bool :=
  (session.moments actions).any fun moment =>
    moment.1.fills moment.2 number && moment.2.asksAlone number

variable {session : Session} {action : Action} {number : Nat} {selector : Selector}

theorem eventsOf_reply_ask (there : session.selectors[number]? = some selector)
    (inquiry : Inquiry) :
    eventsOf (session.reply (.ask number inquiry)).trail =
      if inquiry.asksAlone then
        eventsOf (selector.consult session.facts session.environment.source).trail
      else [] := by
  rw [← selector.eventsOf_answer]
  exact congrArg eventsOf (act_ask there inquiry).2

/-- Whoever does not ask for a selection alone is not reported, and neither is a question
to a selector that is not there. -/
theorem eventsOf_reply_of_silent
    (silent : ∀ number selector, session.selectors[number]? = some selector →
      ¬ action.asksAlone number = true) :
    eventsOf (session.reply action).trail = [] := by
  cases action with
  | set | unset | setFacts | new => rfl
  | ask asked inquiry =>
      cases there : session.selectors[asked]? with
      | none =>
          change eventsOf (session.act (.ask asked inquiry)).trail = []
          rw [act_ask_of_none there]
          rfl
      | some selector =>
          have others : ¬ inquiry.asksAlone = true := by
            intro alone
            apply silent asked selector there
            rw [Action.asksAlone, alone, beq_self_eq_true]
            rfl
          rw [eventsOf_reply_ask there, if_neg others]

theorem eventsOf_reply_of_asksAlone (there : session.selectors[number]? = some selector)
    (alone : action.asksAlone number = true) :
    eventsOf (session.reply action).trail =
      eventsOf (selector.consult session.facts session.environment.source).trail := by
  rcases Action.asksAlone_iff.mp alone with rfl | rfl
  · exact eventsOf_reply_ask there .get
  · exact eventsOf_reply_ask there .selection

/-- What a step reports, where `before` is the session in which the step is taken. -/
structure Reports (before : Session) (action : Action) (reply : Reply) : Prop where
  /-- Who is the first to ask is told of the selection that is then kept. -/
  made : ∀ number selector, action.asksAlone number = true →
    before.selectors[number]? = some selector → selector.cache = none →
    ∃ event selection, eventsOf reply.trail = [event] ∧ event.TellsOf selection ∧
      (before.next action).selectors[number]? = some { selector with cache := some selection }
  /-- Who asks later is told that the selection, whoever made it, is given again. -/
  again : ∀ number selector, action.asksAlone number = true →
    before.selectors[number]? = some selector → selector.cache ≠ none →
    ∃ event identifier, eventsOf reply.trail = [event] ∧ event.TellsAgain identifier ∧
      (action = .ask number .get → reply.answer = .text identifier) ∧
      (action = .ask number .selection →
        ∃ selection, reply.answer = .selection selection ∧ selection.choice.name = identifier)
  /-- Nobody else is told anything. -/
  nothing : (∀ number selector, before.selectors[number]? = some selector →
    ¬ action.asksAlone number = true) → eventsOf reply.trail = []

theorem reports_reply (session : Session) (action : Action) :
    Reports session action (session.reply action) := by
  constructor
  case made =>
    intro number selector alone there unmade
    obtain ⟨event, only, tells⟩ :=
      Selector.exists_eventsOf_consult unmade session.facts session.environment.source
    have kept := getElem?_selectors_next_of_queries there (Action.queries_of_asksAlone alone)
    exact ⟨event, _, (eventsOf_reply_of_asksAlone there alone).trans only, tells, kept⟩
  case again =>
    intro number selector alone there made
    obtain ⟨selection, held⟩ := Option.ne_none_iff_exists'.mp made
    refine ⟨.cacheHit selection.choice, selection.choice.name, ?_,
      Event.tellsAgain_cacheHit selection.choice, ?_, ?_⟩
    · rw [eventsOf_reply_of_asksAlone there alone, Selector.consult_of_cached held]
      rfl
    · rintro rfl
      refine (act_ask there .get).1.trans ?_
      rw [Selector.answer, Selector.consult_of_cached held]
    · rintro rfl
      refine ⟨selection, (act_ask there .selection).1.trans ?_, rfl⟩
      rw [Selector.answer, Selector.consult_of_cached held]
  case nothing => exact eventsOf_reply_of_silent

theorem hasSelected_of_some (there : session.selectors[number]? = some selector) :
    session.hasSelected number = selector.isCached := by
  rw [hasSelected, there, Option.any_some]

/-- Of a selection that has been made, it stays true that it has. -/
theorem hasSelected_next (made : session.hasSelected number = true) (action : Action) :
    (session.next action).hasSelected number = true := by
  cases there : session.selectors[number]? with
  | none =>
      rw [hasSelected, there] at made
      exact absurd made Bool.false_ne_true
  | some selector =>
      rw [hasSelected_of_some there] at made
      obtain ⟨selection, held⟩ := Option.isSome_iff_exists.mp made
      rw [hasSelected_of_some (getElem?_selectors_next_of_cached there held), made]

/-- No selection is made twice. -/
theorem countP_fills_le_one (session : Session) (number : Nat) (actions : List Action) :
    (session.moments actions).countP (fun moment => moment.1.fills moment.2 number) ≤
      if session.hasSelected number then 0 else 1 := by
  induction actions generalizing session with
  | nil => exact Nat.zero_le _
  | cons action rest ih =>
      rw [moments, List.countP_cons]
      have later := ih (session.next action)
      rw [fills]
      cases made : session.hasSelected number with
      | true =>
          rw [hasSelected_next made, if_pos rfl] at later
          exact later
      | false =>
          cases filled : (session.next action).hasSelected number with
          | true =>
              rw [filled, if_pos rfl] at later
              exact Nat.succ_le_succ later
          | false =>
              rw [filled] at later
              exact later

theorem answersAlone_iff :
    session.answersAlone action number = true ↔
      action.asksAlone number = true ∧ ∃ selector, session.selectors[number]? = some selector := by
  rw [answersAlone, Bool.and_eq_true, decide_eq_true_eq]
  refine and_congr_right fun _ => ⟨fun within => ⟨_, List.getElem?_eq_getElem within⟩, ?_⟩
  rintro ⟨selector, there⟩
  exact (List.getElem?_eq_some_iff.mp there).1

/-- What a step adds to the log of the selector `number`. -/
def logged (session : Session) (action : Action) (number : Nat) : List Event :=
  if action.isOn number then eventsOf (session.reply action).trail else []

theorem log_cons (session : Session) (number : Nat) (action : Action) (rest : List Action) :
    session.log number (action :: rest) =
      session.logged action number ++ (session.next action).log number rest := by
  rw [log, replies, List.zip_cons_cons, List.filter_cons, logged]
  by_cases on : action.isOn number = true
  · rw [if_pos on, if_pos on]
    rfl
  · rw [if_neg on, if_neg on]
    rfl

theorem logged_of_not_answersAlone (other : ¬ session.answersAlone action number = true) :
    session.logged action number = [] := by
  rw [logged]
  by_cases on : action.isOn number = true
  · rw [if_pos on]
    apply eventsOf_reply_of_silent
    intro asked selector there alone
    have same : asked = number := by
      rcases Action.asksAlone_iff.mp alone with rfl | rfl
      · exact beq_iff_eq.mp on
      · exact beq_iff_eq.mp on
    subst same
    exact other (answersAlone_iff.mpr ⟨alone, selector, there⟩)
  · exact if_neg on

theorem logged_of_asksAlone (alone : action.asksAlone number = true) :
    session.logged action number = eventsOf (session.reply action).trail := by
  have on : action.isOn number = true := by
    rcases Action.asksAlone_iff.mp alone with rfl | rfl
    · exact beq_self_eq_true number
    · exact beq_self_eq_true number
  rw [logged, if_pos on]

/-- A selector that is not there makes no selection when it is asked. -/
theorem fills_of_asksAlone_of_none (alone : action.asksAlone number = true)
    (missing : session.selectors[number]? = none) : session.fills action number = false := by
  have unmade : session.hasSelected number = false := by
    rw [hasSelected, missing, Option.any_none]
  rcases Action.asksAlone_iff.mp alone with rfl | rfl
  · rw [fills, next_ask_of_none missing, unmade, Bool.and_false]
  · rw [fills, next_ask_of_none missing, unmade, Bool.and_false]

theorem fills_of_asksAlone (alone : action.asksAlone number = true)
    (there : session.selectors[number]? = some selector) :
    session.fills action number = selector.cache.isNone := by
  have kept := getElem?_selectors_next_of_queries there (Action.queries_of_asksAlone alone)
  rw [fills, hasSelected_of_some there, hasSelected_of_some kept, Selector.isCached,
    Selector.isCached, Option.isSome_some, Bool.and_true, Option.not_isSome]

/-- A step adds one event where one thread asks for the selection, and it is about making
the selection just if the step makes it. -/
theorem countP_logged (session : Session) (action : Action) (number : Nat) :
    (session.logged action number).countP Event.isSelection =
        (if session.fills action number && action.asksAlone number then 1 else 0) ∧
      (session.logged action number).countP Event.isHit +
          (if session.fills action number && action.asksAlone number then 1 else 0) =
        if session.answersAlone action number then 1 else 0 := by
  by_cases answers : session.answersAlone action number = true
  · obtain ⟨alone, selector, there⟩ := answersAlone_iff.mp answers
    rw [if_pos answers, alone, Bool.and_true, fills_of_asksAlone alone there,
      logged_of_asksAlone alone]
    cases held : selector.cache with
    | none =>
        obtain ⟨event, selection, only, tells, -⟩ :=
          (session.reports_reply action).made number selector alone there held
        rw [only, List.countP_singleton, List.countP_singleton, tells.kinds.1, tells.kinds.2]
        exact ⟨rfl, rfl⟩
    | some selection =>
        obtain ⟨event, identifier, only, tells, -⟩ :=
          (session.reports_reply action).again number selector alone there
            (held ▸ Option.some_ne_none selection)
        rw [only, List.countP_singleton, List.countP_singleton, tells.kinds.1, tells.kinds.2]
        exact ⟨rfl, rfl⟩
  · rw [if_neg answers, logged_of_not_answersAlone answers]
    have idle : ¬ (session.fills action number && action.asksAlone number) = true := by
      rw [Bool.and_eq_true]
      rintro ⟨filled, alone⟩
      cases there : session.selectors[number]? with
      | none =>
          rw [fills_of_asksAlone_of_none alone there] at filled
          exact Bool.false_ne_true filled
      | some selector => exact answers (answersAlone_iff.mpr ⟨alone, selector, there⟩)
    rw [if_neg idle]
    exact ⟨rfl, rfl⟩

/-- The questions of single threads have one event each, and those that made the selection
have the events that are about making it. -/
theorem countP_log (session : Session) (number : Nat) (actions : List Action) :
    (session.log number actions).countP Event.isSelection =
        (session.moments actions).countP (fun moment =>
          moment.1.fills moment.2 number && moment.2.asksAlone number) ∧
      (session.log number actions).countP Event.isHit +
          (session.moments actions).countP (fun moment =>
            moment.1.fills moment.2 number && moment.2.asksAlone number) =
        (session.moments actions).countP (fun moment =>
          moment.1.answersAlone moment.2 number) := by
  induction actions generalizing session with
  | nil => exact ⟨rfl, rfl⟩
  | cons action rest ih =>
      obtain ⟨selections, hits⟩ := ih (session.next action)
      obtain ⟨selection, hit⟩ := session.countP_logged action number
      simp only [log_cons, moments, List.countP_append, List.countP_cons]
      omega

/-- What holds of the log of a session, and of the log of each of its selectors. -/
structure LogsTruly (opening : Session) (actions : List Action) : Prop where
  /-- Each step reports what it does, and what it gives. -/
  stepwise : ∀ (past future : List Action) (action : Action), actions = past ++ action :: future →
    ∃ reply, (opening.replies actions)[past.length]? = some reply ∧
      Reports (opening.after past) action reply
  /-- At most one step makes the selection. -/
  once : ∀ number,
    (opening.moments actions).countP (fun moment => moment.1.fills moment.2 number) ≤ 1
  /-- Making the selection is reported at most once: if one thread made it alone. -/
  selections : ∀ number,
    (opening.log number actions).countP Event.isSelection =
      if opening.isFilledAlone number actions then 1 else 0
  /-- It is not reported if several threads made it. -/
  threads : ∀ number, ∀ moment ∈ opening.moments actions, ∀ threads,
    moment.1.fills moment.2 number = true → moment.2 = .ask number (.concurrentGet threads) →
      (opening.log number actions).countP Event.isSelection = 0
  /-- All other questions of single threads are reported as being given it again. -/
  hits : ∀ number,
    (opening.log number actions).countP Event.isHit +
        (if opening.isFilledAlone number actions then 1 else 0) =
      (opening.moments actions).countP fun moment => moment.1.answersAlone moment.2 number

/-- As a selection is made at most once, it counts at most once that one thread made it. -/
theorem countP_fills_and_asksAlone {actions : List Action}
    (once : (session.moments actions).countP (fun moment => moment.1.fills moment.2 number) ≤ 1) :
    (session.moments actions).countP (fun moment =>
        moment.1.fills moment.2 number && moment.2.asksAlone number) =
      if session.isFilledAlone number actions then 1 else 0 := by
  have fewer : (session.moments actions).countP (fun moment =>
      moment.1.fills moment.2 number && moment.2.asksAlone number) ≤ 1 :=
    Nat.le_trans (List.countP_mono_left fun _ _ both => (Bool.and_eq_true_iff.mp both).1) once
  rw [isFilledAlone]
  cases found : (session.moments actions).any fun moment =>
      moment.1.fills moment.2 number && moment.2.asksAlone number with
  | true =>
      exact Nat.le_antisymm fewer (List.countP_pos_iff.mpr (List.any_eq_true.mp found))
  | false => exact List.countP_eq_zero.mpr fun moment among => List.any_eq_false.mp found moment among

/-- Where several threads made the selection, no thread made it alone. -/
theorem isFilledAlone_of_concurrentGet {actions : List Action} {moment : Session × Action}
    {threads : Nat}
    (once : (session.moments actions).countP (fun moment => moment.1.fills moment.2 number) ≤ 1)
    (among : moment ∈ session.moments actions) (filled : moment.1.fills moment.2 number = true)
    (asked : moment.2 = .ask number (.concurrentGet threads)) :
    session.isFilledAlone number actions = false := by
  have split := List.countP_eq_countP_filter_add (session.moments actions)
    (fun moment => moment.1.fills moment.2 number) (fun moment => moment.2.asksAlone number)
  rw [List.countP_filter, List.countP_filter] at split
  have together : 0 < (session.moments actions).countP (fun moment =>
      moment.1.fills moment.2 number && !moment.2.asksAlone number) := by
    refine List.countP_pos_iff.mpr ⟨moment, among, ?_⟩
    rw [filled, asked, Action.asksAlone, Inquiry.asksAlone, Bool.and_false]
    rfl
  have alone := countP_fills_and_asksAlone once
  cases found : session.isFilledAlone number actions with
  | false => rfl
  | true =>
      rw [found, if_pos rfl] at alone
      omega

/-- The log tells the truth: each step reports just what it does, a selection is reported
when it is made and once only, and all else that is reported is that it is given again. -/
theorem log_tells_truth (environment : Environment String) (facts : Facts) (kind : ProbeKind)
    (actions : List Action) : LogsTruly (start environment facts kind) actions := by
  let opening := start environment facts kind
  have once (number : Nat) :
      (opening.moments actions).countP (fun moment => moment.1.fills moment.2 number) ≤ 1 := by
    have most := opening.countP_fills_le_one number actions
    split at most
    · exact Nat.le_trans most (Nat.zero_le 1)
    · exact most
  constructor
  case stepwise =>
    rintro past future action rfl
    exact ⟨_, getElem?_replies opening past action future,
      (opening.after past).reports_reply action⟩
  case once => exact once
  case selections =>
    intro number
    exact (opening.countP_log number actions).1.trans (countP_fills_and_asksAlone (once number))
  case threads =>
    intro number moment among threads filled asked
    have together := isFilledAlone_of_concurrentGet (once number) among filled asked
    refine (opening.countP_log number actions).1.trans
      ((countP_fills_and_asksAlone (once number)).trans ?_)
    rw [together]
    rfl
  case hits =>
    intro number
    rw [← countP_fills_and_asksAlone (once number)]
    exact (opening.countP_log number actions).2

end Session

end Tasking
