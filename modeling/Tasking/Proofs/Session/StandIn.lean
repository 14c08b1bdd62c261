/-
# Given facts in place of the probe over settings

A selector that asks the probe over settings can be replaced by one that is given its
facts beforehand. The facts have to be those that the probe would find, and they have to
be given anew after everything that can make them wrong. Nobody can tell the two apart:
the answers, the events and the caches are the same at every step, before and after a
cache is filled.

The stand-in for a session is made from the session as it is. So there is no relation to
be kept along a run, only an equation: making the stand-in commutes with every step.

What can make the facts wrong is setting and removing variables, and also facts that are
given by someone else. The first session does not look at those, and its stand-in would.
-/

import Tasking.Proofs.Probe.Events
import Tasking.Proofs.Session.Freezing

namespace Tasking

/-- Of what a probe answers, a selection depends on the facts alone. -/
theorem Probe.value_select_ofFacts (probe : Probe) (source : Source) :
    (ofFacts (probe.targetFacts.value source)).select.value source =
      probe.select.value source := by
  rw [value_select, value_select, value_targetFacts_ofFacts]

namespace Action

/-- The action as it is taken in a session whose selectors are given their facts. -/
def forGiven : Action → Action
  | .new _ => .new .given
  | other => other

/-- The action sets or removes a variable. -/
def writes : Action → Bool
  | .set _ _ | .unset _ => true
  | .ask _ _ | .setFacts _ | .new _ => false

/-- The action sets or removes a variable, or gives facts. -/
def unsettles : Action → Bool
  | .set _ _ | .unset _ | .setFacts _ => true
  | .ask _ _ | .new _ => false

end Action

namespace Selector

/-- The selector that is given its facts, with the same selection if that has been made. -/
def standIn (selector : Selector) : Selector :=
  { selector with kind := .given }

/-- What comes of a question to a stand-in is what comes of it otherwise, events included. -/
structure StandsInFor {ω : Type} (stand original : Outcome Selector ω) : Prop where
  answer : stand.answer = original.answer
  events : eventsOf stand.trail = eventsOf original.trail
  state : stand.state = original.state.standIn

variable {selector : Selector}

/-- A stand-in that is given what the settings amount to selects the same. -/
theorem consult_standIn (settings : selector.kind = .settings) (facts : Facts)
    (source : Source) :
    StandsInFor (selector.standIn.consult (Probe.ofSettings.targetFacts.value source) source)
      (selector.consult facts source) := by
  cases made : selector.cache with
  | some selection =>
      have held : selector.standIn.cache = some selection := made
      rw [consult_of_cached made, consult_of_cached held]
      exact ⟨rfl, rfl, rfl⟩
  | none =>
      have unmade : selector.standIn.cache = none := made
      have value := Probe.ofSettings.value_select_ofFacts source
      have events := (Probe.eventsOf_trail_select Probe.isSilent_targetFacts_ofSettings source).symm
      have given : (Probe.ofFacts (Probe.ofSettings.targetFacts.value source)).targetFacts.IsSilent :=
        trivial
      rw [← Probe.value_targetFacts_ofFacts (Probe.ofSettings.targetFacts.value source) source,
        ← Probe.eventsOf_trail_select given] at events
      simp only [consult, made, unmade, settings]
      exact ⟨value, events, congrArg (fun cache => Selector.mk .given (some cache)) value⟩

/-- So it does with every question. -/
theorem answer_standIn (settings : selector.kind = .settings) (facts : Facts)
    (source : Source) (inquiry : Inquiry) :
    StandsInFor
      (selector.standIn.answer (Probe.ofSettings.targetFacts.value source) source inquiry)
      (selector.answer facts source inquiry) := by
  obtain ⟨answer, events, state⟩ := consult_standIn settings facts source
  cases inquiry with
  | get =>
      exact ⟨congrArg (fun made : Selection => Answer.text made.choice.name) answer, events, state⟩
  | selection => exact ⟨congrArg Answer.selection answer, events, state⟩
  | concurrentGet threads =>
      cases threads with
      | zero => exact ⟨rfl, rfl, rfl⟩
      | succ others =>
          have same := congrArg (fun selection : Selection =>
            Answer.texts (List.replicate (others + 1) selection.choice.name)) answer
          exact ⟨same, (eventsOf_unreported _).trans (eventsOf_unreported _).symm, state⟩
  | isCached | overrideText => exact ⟨rfl, rfl, rfl⟩
  | gatherFacts =>
      have silent := (selector.kind.isSilent_targetFacts facts).eventsOf_trail source
      have found : (selector.kind.probe facts).targetFacts = Probe.ofSettings.targetFacts := by
        rw [settings]
        rfl
      have same := congrArg (fun query : Query Facts => Answer.facts (query.value source)) found
      exact ⟨same.symm, silent.symm, rfl⟩

end Selector

namespace Session

/-- The facts that the probe over settings would find now. -/
def settingsFacts (session : Session) : Facts :=
  Probe.ofSettings.targetFacts.value session.environment.source

/-- The same session with selectors that are given these facts. -/
def standIn (session : Session) : Session where
  environment := session.environment
  facts := session.settingsFacts
  selectors := session.selectors.map Selector.standIn

/-- The facts as they should be given after an action, if `renews` marks it. -/
def anew (renews : Action → Bool) (session : Session) (action : Action) : List Action :=
  if renews action then [.setFacts (session.next action).settingsFacts] else []

/-- The actions of a session, retold for selectors that are given their facts. After each
action that `renews` marks, the facts are given anew. -/
def retold (renews : Action → Bool) (session : Session) : List Action → List Action
  | [] => []
  | action :: rest =>
      action.forGiven :: (session.anew renews action ++ (session.next action).retold renews rest)

/-- Every selector asks the probe over settings. -/
def AsksSettings (session : Session) : Prop :=
  ∀ selector ∈ session.selectors, selector.kind = .settings

variable {session : Session} {action : Action}

theorem AsksSettings.after {actions : List Action} (asks : session.AsksSettings)
    (fresh : ∀ kind, .new kind ∈ actions → kind = .settings) :
    (session.after actions).AsksSettings :=
  forall_mem_selectors_after asks fresh fun selector facts source settings => by
    rw [Selector.state_consult]
    exact settings

theorem AsksSettings.next (asks : session.AsksSettings)
    (fresh : ∀ kind, action = .new kind → kind = .settings) :
    (session.next action).AsksSettings := by
  have alone : ∀ kind, .new kind ∈ [action] → kind = .settings :=
    fun kind among => fresh kind (List.mem_singleton.mp among).symm
  exact asks.after alone

theorem eq_standIn {other : Session} (environment : other.environment = session.environment)
    (facts : other.facts = session.settingsFacts)
    (selectors : other.selectors = session.selectors.map Selector.standIn) :
    other = session.standIn := by
  cases other
  cases environment
  cases facts
  cases selectors
  rfl

theorem getElem?_selectors_standIn (session : Session) (number : Nat) :
    session.standIn.selectors[number]? = session.selectors[number]?.map Selector.standIn :=
  List.getElem?_map

/-- What a step shows is the same for the stand-in, apart from how facts are found. -/
structure ShowsAlike (reply other : Reply) : Prop where
  answer : other.answer = reply.answer
  cached : other.cached = reply.cached
  events : eventsOf other.trail = eventsOf reply.trail

section Step

variable (asks : session.AsksSettings) (fresh : ∀ kind, action = .new kind → kind = .settings)
include asks fresh

theorem selectors_next_standIn :
    (session.standIn.next action.forGiven).selectors =
      (session.next action).selectors.map Selector.standIn := by
  cases action with
  | set | unset | setFacts => rfl
  | new kind =>
      cases fresh kind rfl
      show _ = (session.selectors ++ [({ kind := .settings } : Selector)]).map Selector.standIn
      rw [List.map_append]
      rfl
  | ask number inquiry =>
      show (session.standIn.next (.ask number inquiry)).selectors = _
      have there := session.getElem?_selectors_standIn number
      cases original : session.selectors[number]? with
      | none =>
          rw [original] at there
          rw [next_ask_of_none original, next_ask_of_none there]
          rfl
      | some selector =>
          rw [original] at there
          have settings := asks selector (List.mem_of_getElem? original)
          have stands := Selector.answer_standIn settings session.facts
            session.environment.source inquiry
          rw [next_ask_of_some original, next_ask_of_some there]
          exact (congrArg (session.standIn.selectors.set number) stands.state).trans
            List.map_set.symm

/-- Every step shows the same of a session and of the stand-in for it. -/
theorem showsAlike_standIn :
    ShowsAlike (session.reply action) (session.standIn.reply action.forGiven) := by
  have cached : (session.standIn.reply action.forGiven).cached = (session.reply action).cached := by
    show (session.standIn.next action.forGiven).selectors.map Selector.isCached = _
    rw [selectors_next_standIn asks fresh, List.map_map]
    rfl
  cases action with
  | set | unset | setFacts => exact ⟨rfl, cached, rfl⟩
  | new kind => exact ⟨congrArg Answer.index (List.length_map Selector.standIn), cached, rfl⟩
  | ask number inquiry =>
      have there := session.getElem?_selectors_standIn number
      cases original : session.selectors[number]? with
      | none =>
          rw [original] at there
          have nothing : session.act (.ask number inquiry) = ⟨.nothing, [], session⟩ :=
            act_ask_of_none original
          have nothing' : session.standIn.act (.ask number inquiry) =
              ⟨.nothing, [], session.standIn⟩ :=
            act_ask_of_none there
          refine ⟨?_, cached, ?_⟩
          · exact (congrArg Outcome.answer nothing').trans (congrArg Outcome.answer nothing).symm
          · show eventsOf (session.standIn.act (.ask number inquiry)).trail =
              eventsOf (session.act (.ask number inquiry)).trail
            rw [nothing, nothing']
      | some selector =>
          rw [original] at there
          have settings := asks selector (List.mem_of_getElem? original)
          have stands := Selector.answer_standIn settings session.facts
            session.environment.source inquiry
          obtain ⟨answer, trail⟩ := act_ask original inquiry
          obtain ⟨answer', trail'⟩ := act_ask there inquiry
          exact ⟨answer'.trans (stands.answer.trans answer.symm), cached,
            (congrArg eventsOf trail').trans (stands.events.trans (congrArg eventsOf trail).symm)⟩

/-- With the facts given anew where it is needed, a step leads from stand-in to stand-in. -/
theorem next_standIn {renews : Action → Bool}
    (renewed : action.unsettles = true → renews action = true) :
    (session.standIn.next action.forGiven).after (session.anew renews action) =
      (session.next action).standIn := by
  have selectors := selectors_next_standIn asks fresh
  have environment : (session.standIn.next action.forGiven).environment =
      (session.next action).environment := by
    rw [environment_next, environment_next]
    cases action <;> rfl
  rw [anew]
  by_cases marked : renews action = true
  · rw [if_pos marked]
    exact eq_standIn environment rfl selectors
  · rw [if_neg marked]
    -- nobody gave the facts anew, so they must still be right
    have still : (session.standIn.next action.forGiven).facts = (session.next action).settingsFacts := by
      rw [facts_next, settingsFacts, environment_next]
      cases action with
      | ask | new => rfl
      | set | unset | setFacts => exact absurd (renewed rfl) marked
    exact eq_standIn environment still selectors

end Step

section Run

variable {renews : Action → Bool} {actions : List Action}

/-- And so does a whole run. -/
theorem after_retold (asks : session.AsksSettings)
    (fresh : ∀ kind, .new kind ∈ actions → kind = .settings)
    (renewed : ∀ action ∈ actions, action.unsettles = true → renews action = true) :
    session.standIn.after (session.retold renews actions) = (session.after actions).standIn := by
  induction actions generalizing session with
  | nil => rfl
  | cons action rest ih =>
      have here : ∀ kind, action = .new kind → kind = .settings :=
        fun kind same => fresh kind (same ▸ List.mem_cons_self)
      rw [retold, after_cons, after_append,
        next_standIn asks here (renewed action List.mem_cons_self)]
      apply ih (asks.next here)
      · exact fun kind among => fresh kind (List.mem_cons_of_mem _ among)
      · exact fun other among => renewed other (List.mem_cons_of_mem _ among)

theorem retold_append (renews : Action → Bool) (session : Session) (first second : List Action) :
    session.retold renews (first ++ second) =
      session.retold renews first ++ (session.after first).retold renews second := by
  induction first generalizing session with
  | nil => rfl
  | cons action rest ih => simp [retold, ih]

end Run

/-- The steps of a session, and what they become in the retelling, show the same. The number
of a step in the retelling is the length of what the steps before it become there. -/
def Retells (renews : Action → Bool) (opening : Session) (actions : List Action) : Prop :=
  ∀ (past future : List Action) (action : Action), actions = past ++ action :: future →
    ∃ reply other, (opening.replies actions)[past.length]? = some reply ∧
      (opening.standIn.replies
        (opening.retold renews actions))[(opening.retold renews past).length]? = some other ∧
      ShowsAlike reply other

theorem retells {opening : Session} {renews : Action → Bool} {actions : List Action}
    (asks : opening.AsksSettings) (fresh : ∀ kind, .new kind ∈ actions → kind = .settings)
    (renewed : ∀ action ∈ actions, action.unsettles = true → renews action = true) :
    Retells renews opening actions := by
  intro past future action split
  subst split
  have before : ∀ kind, .new kind ∈ past → kind = .settings :=
    fun kind among => fresh kind (List.mem_append_left _ among)
  have here : ∀ kind, action = .new kind → kind = .settings :=
    fun kind same => fresh kind (List.mem_append_right _ (same ▸ List.mem_cons_self))
  have reached : opening.standIn.after (opening.retold renews past) =
      (opening.after past).standIn :=
    after_retold asks before fun other among => renewed other (List.mem_append_left _ among)
  have there := getElem?_replies opening.standIn (opening.retold renews past) action.forGiven
    ((opening.after past).anew renews action ++
      ((opening.after past).next action).retold renews future)
  rw [reached] at there
  refine ⟨_, _, getElem?_replies opening past action future, ?_,
    showsAlike_standIn (asks.after before) here⟩
  rw [retold_append]
  exact there

/-- The probe over settings can be replaced by given facts, and it does not show. The facts
have to be given anew after each action that sets or removes a variable or gives facts, so
where nobody else gives any, setting and removing variables is all that matters. -/
theorem probe_replaced_unnoticed (environment : Environment String) (facts : Facts)
    {actions : List Action} (fresh : ∀ kind, .new kind ∈ actions → kind = .settings) :
    (start environment facts .settings).standIn =
        start environment (Probe.ofSettings.targetFacts.value environment.source) .given ∧
      Retells Action.unsettles (start environment facts .settings) actions ∧
      ((∀ given, .setFacts given ∉ actions) →
        Retells Action.writes (start environment facts .settings) actions) ∧
      ∀ (probe : Probe) (source : Source),
        (Probe.ofFacts (probe.targetFacts.value source)).select.value source =
          probe.select.value source := by
  have asks : (start environment facts .settings).AsksSettings := by
    intro selector among
    cases List.mem_singleton.mp among
    rfl
  refine ⟨rfl, retells asks fresh fun _ _ => id, ?_, Probe.value_select_ofFacts⟩
  intro undisturbed
  apply retells asks fresh
  intro action among unsettled
  cases action with
  | set | unset => rfl
  | ask | new => exact unsettled
  | setFacts given => exact absurd among (undisturbed given)

/-- An override comes and goes around the first question, and a second selector is asked
when the variables are others. -/
theorem probe_replaced_unnoticed_around_override :
    (∀ kind, .new kind ∈ ([.set "CHPL_TASKS" "muxed", .ask 0 .get, .unset "CHPL_TASKS",
        .setFacts { arch := "knc" }, .new .settings, .ask 1 .selection, .ask 0 .selection] :
          List Action) → kind = .settings) ∧
    Retells Action.unsettles
      (start (.ofList [("CHPL_TARGET_PLATFORM", "cygwin64")]) .unknown .settings)
      [.set "CHPL_TASKS" "muxed", .ask 0 .get, .unset "CHPL_TASKS", .setFacts { arch := "knc" },
        .new .settings, .ask 1 .selection, .ask 0 .selection] := by
  have fresh : ∀ kind, .new kind ∈ ([.set "CHPL_TASKS" "muxed", .ask 0 .get, .unset "CHPL_TASKS",
      .setFacts { arch := "knc" }, .new .settings, .ask 1 .selection, .ask 0 .selection] :
        List Action) → kind = .settings := by
    intro kind among
    cases kind with
    | settings => rfl
    | given => exact absurd among (by decide)
  exact ⟨fresh, (probe_replaced_unnoticed _ .unknown fresh).2.1⟩

/-- Facts that someone else gives are seen by a stand-in, if only what is set and removed
leads to their being given anew. -/
theorem not_retells_beside_given_facts :
    ¬ Retells Action.writes (start .empty .unknown .settings)
      [.setFacts { arch := "knc" }, .ask 0 .get] := by
  intro retells
  obtain ⟨reply, other, shown, shown', alike⟩ :=
    retells [.setFacts { arch := "knc" }] [] (.ask 0 .get) rfl
  have original : ((start .empty .unknown .settings).replies
      [.setFacts { arch := "knc" }, .ask 0 .get])[1]?.map Reply.answer =
        some (.text "qthreads") := by
    decide
  have retold : ((start .empty .unknown .settings).standIn.replies
      [.setFacts { arch := "knc" }, .ask 0 .get])[1]?.map Reply.answer = some (.text "fifo") := by
    decide
  have said := (congrArg (Option.map Reply.answer) shown).symm.trans original
  have said' := (congrArg (Option.map Reply.answer) shown').symm.trans retold
  have same := said'.symm.trans ((congrArg some alike.answer).trans said)
  exact absurd same (by decide)

end Session

end Tasking
