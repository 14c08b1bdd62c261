/-
# The two selectors of a process

A process has one selector that all of its parts share and one that a part made for
itself. Both look at the same variables, and neither sees the other. What each of them
keeps is therefore settled by two things alone: what was set and removed before it was
first asked, and, for the second one, when it was last replaced.

Together with the mirror this describes a process completely in terms of selectors
over decoded values, as long as nobody asks for a name that no variable can have.
-/

import Tasking.Proofs.RawSession.Mirror

namespace Tasking

/-- Whether the step asks the shared selector something that needs its selection. -/
def RawAction.queriesShared : RawAction → Bool
  | .askShared inquiry => inquiry.needsSelection
  | _ => false

/-- Whether the step asks the other selector something that needs its selection. -/
def RawAction.queriesOwn : RawAction → Bool
  | .askOwn inquiry => inquiry.needsSelection
  | _ => false

/-- The variables after a step. Only setting and removing changes them. -/
def RawAction.change (environment : Environment Bytes) : RawAction → Environment Bytes
  | .set name value => environment.insert name value
  | .unset name => environment.erase name
  | _ => environment

namespace RawSession

/-- The process after a list of steps. -/
def after (session : RawSession) (actions : List RawAction) : RawSession :=
  actions.foldl (fun session action => (session.act action).state) session

/-- The selection that a fresh selector makes over the decoded values. -/
def selectionOver (environment : Environment Bytes) : Selection :=
  Selector.freshSelection .settings .unknown environment.decoded.source

/-- The variables as they were just before the first step of the kind that `asks` marks. -/
def firstAsked (asks : RawAction → Bool) (environment : Environment Bytes) :
    List RawAction → Option (Environment Bytes)
  | [] => none
  | action :: rest =>
      if asks action then some environment else firstAsked asks (action.change environment) rest

theorem firstAsked_append (asks : RawAction → Bool) (environment : Environment Bytes)
    (first second : List RawAction) :
    firstAsked asks environment (first ++ second) =
      (firstAsked asks environment first).or
        (firstAsked asks (first.foldl RawAction.change environment) second) := by
  induction first generalizing environment with
  | nil => rfl
  | cons action rest ih =>
      rw [List.cons_append, firstAsked, firstAsked]
      by_cases asked : asks action = true
      · rw [if_pos asked, if_pos asked]
        rfl
      · rw [if_neg asked, if_neg asked, ih]
        rfl

variable {session : RawSession} {action : RawAction} {actions : List RawAction}

theorem environment_act (session : RawSession) (action : RawAction) :
    (session.act action).state.environment = action.change session.environment := by
  cases action <;> rfl

theorem environment_after (session : RawSession) (actions : List RawAction) :
    (session.after actions).environment = actions.foldl RawAction.change session.environment := by
  induction actions generalizing session with
  | nil => rfl
  | cons action rest ih =>
      rw [List.foldl_cons, ← environment_act]
      exact ih (session.act action).state

theorem getElem?_answers (session : RawSession) (actions : List RawAction) (number : Nat) :
    (session.answers actions)[number]? =
      actions[number]?.map fun action =>
        ((session.after (actions.take number)).act action).answer := by
  induction actions generalizing session number with
  | nil => rfl
  | cons action rest ih =>
      cases number with
      | zero => rfl
      | succ number => exact ih (session.act action).state number

theorem shared_act (session : RawSession) (action : RawAction) :
    (session.act action).state.shared =
      if action.queriesShared then
        (session.shared.consult .unknown session.environment.byteSource).state
      else session.shared := by
  cases action with
  | askOwn | renew | survey | lookUpAll | set | unset => rfl
  | askShared inquiry => exact session.shared.state_answer .unknown _ inquiry

theorem own_act (session : RawSession) (stays : action ≠ .renew) :
    (session.act action).state.own =
      if action.queriesOwn then
        (session.own.consult .unknown session.environment.byteSource).state
      else session.own := by
  cases action with
  | renew => exact absurd rfl stays
  | askShared | survey | lookUpAll | set | unset => rfl
  | askOwn inquiry => exact session.own.state_answer .unknown _ inquiry

/-- What a fresh selector has, and a selector keeps when it gives its selection, both
selectors of a process keep through a step. -/
theorem selectors_act {Holds : Selector → Prop} (now : Holds session.shared ∧ Holds session.own)
    (fresh : Holds freshSelector)
    (consulted : ∀ selector source, Holds selector →
      Holds (Selector.consult selector .unknown source).state) (action : RawAction) :
    Holds (session.act action).state.shared ∧ Holds (session.act action).state.own := by
  obtain ⟨shared, own⟩ := now
  apply And.intro
  · rw [shared_act]
    by_cases asks : action.queriesShared = true
    · rw [if_pos asks]
      exact consulted _ _ shared
    · rw [if_neg asks]
      exact shared
  · by_cases renews : action = .renew
    · rw [renews]
      exact fresh
    · rw [own_act session renews]
      by_cases asks : action.queriesOwn = true
      · rw [if_pos asks]
        exact consulted _ _ own
      · rw [if_neg asks]
        exact own

/-- And so they do through a whole run. -/
theorem selectors_after {Holds : Selector → Prop} (now : Holds session.shared ∧ Holds session.own)
    (fresh : Holds freshSelector)
    (consulted : ∀ selector source, Holds selector →
      Holds (Selector.consult selector .unknown source).state) (actions : List RawAction) :
    Holds (session.after actions).shared ∧ Holds (session.after actions).own := by
  induction actions generalizing session with
  | nil => exact now
  | cons action rest ih => exact ih (selectors_act now fresh consulted action)

/-- A selector over the variables gives what it has, and else what a fresh one selects. -/
theorem answer_consult_settings (held : Option Selection) (environment : Environment Bytes) :
    (({ kind := .settings, cache := held } : Selector).consult .unknown
      environment.byteSource).answer = held.getD (selectionOver environment) := by
  rw [Selector.answer_consult, byteSource_eq_source_decoded]
  rfl

/-- What a selector of a process holds after a run, where `pick` says which selector is
meant and `asks` marks the steps that need its selection. -/
theorem selector_after (pick : RawSession → Selector) (asks : RawAction → Bool)
    {held : Option Selection}
    (steps : ∀ session, ∀ action ∈ actions, pick (session.act action).state =
      if asks action then
        ((pick session).consult .unknown session.environment.byteSource).state
      else pick session)
    (now : pick session = { kind := .settings, cache := held }) :
    pick (session.after actions) =
      { kind := .settings
        cache := held.or ((firstAsked asks session.environment actions).map selectionOver) } := by
  -- once `held` is there it wins over whatever would be selected later, so it must vary
  induction actions generalizing session held with
  | nil =>
      rw [firstAsked, Option.map_none, Option.or_none]
      exact now
  | cons action rest ih =>
      have step := steps session action List.mem_cons_self
      have later := fun session action among => steps session action (List.mem_cons_of_mem _ among)
      rw [firstAsked]
      by_cases asked : asks action = true
      · rw [if_pos asked, now, Selector.state_consult, answer_consult_settings] at step
        rw [if_pos asked, Option.map_some, Option.or_some]
        exact ih later step
      · rw [if_neg asked] at step
        rw [if_neg asked, ← environment_act]
        exact ih later (step.trans now)

theorem shared_after_start (environment : Environment Bytes) (actions : List RawAction) :
    ((start environment).after actions).shared =
      { kind := .settings
        cache := (firstAsked RawAction.queriesShared environment actions).map selectionOver } := by
  have fresh : (start environment).shared = freshSelector := rfl
  exact selector_after RawSession.shared RawAction.queriesShared
    (fun session action _ => shared_act session action) fresh

theorem own_after_of_renewed {environment : Environment Bytes} {past future : List RawAction}
    (renewed : past = [] ∨ past.getLast? = some .renew) (stays : .renew ∉ future) :
    ((start environment).after (past ++ future)).own =
      { kind := .settings
        cache := (firstAsked RawAction.queriesOwn (past.foldl RawAction.change environment)
          future).map selectionOver } := by
  have now : ((start environment).after past).environment = past.foldl RawAction.change environment :=
    environment_after (start environment) past
  have fresh : ((start environment).after past).own = freshSelector := by
    rcases renewed with rfl | last
    · rfl
    · obtain ⟨earlier, rfl⟩ := List.getLast?_eq_some_iff.mp last
      rw [after, List.foldl_append]
      rfl
  rw [after, List.foldl_append, ← now]
  exact selector_after RawSession.own RawAction.queriesOwn
    (fun session action among => own_act session fun renews => stays (renews ▸ among)) fresh

/-- A question to the shared selector is answered from the selection of the first one. -/
theorem exists_answers_askShared {environment : Environment Bytes} {number : Nat}
    {inquiry : Inquiry} (there : actions[number]? = some (.askShared inquiry))
    (needs : inquiry.needsSelection = true) :
    ∃ asked source, firstAsked RawAction.queriesShared environment actions = some asked ∧
      ((start environment).answers actions)[number]? =
        some (.answer (({ kind := .settings, cache := some (selectionOver asked) } : Selector).answer
          .unknown source inquiry).answer) := by
  let past := actions.take number
  let before := (start environment).after past
  let asked := (firstAsked RawAction.queriesShared environment past).getD before.environment
  have split : actions = past ++ .askShared inquiry :: actions.drop (number + 1) := by
    obtain ⟨within, same⟩ := List.getElem?_eq_some_iff.mp there
    rw [← same, List.getElem_cons_drop, List.take_append_drop]
  have now : before.environment = past.foldl RawAction.change environment :=
    environment_after (start environment) past
  have asks : (RawAction.askShared inquiry).queriesShared = true := needs
  have shared := shared_after_start environment past
  have kind : before.shared.kind = .settings := congrArg Selector.kind shared
  have consulted : (before.shared.consult .unknown before.environment.byteSource).answer =
      selectionOver asked := by
    rw [shared, answer_consult_settings, Option.getD_map]
  have answered := before.shared.answer_of_needsSelection .unknown
    before.environment.byteSource needs
  rw [consulted, kind] at answered
  refine ⟨asked, before.environment.byteSource, ?_, ?_⟩
  · rw [split, firstAsked_append, ← now, firstAsked, if_pos asks, Option.or_some]
  · rw [getElem?_answers, there, Option.map_some]
    exact congrArg (fun answer => some (RawAnswer.answer answer)) answered

/-- What is said of the runs of a process whose variables start as `environment`. -/
structure PlaysOutInText (environment : Environment Bytes) (actions : List RawAction) : Prop where
  /-- The answers are those of a session of texts, in which values are decoded as they are
  stored, one selector is shared, and the other is replaced by a fresh one. -/
  answered : ((start environment).answers actions).map RawAnswer.named =
    ((Session.startRaw environment.decoded).answersRaw actions).map RawAnswer.named
  /-- The shared selector holds what was selected at its own first question, and nothing
  else fills or changes it. -/
  shared : ((start environment).after actions).shared.cache =
    (firstAsked RawAction.queriesShared environment actions).map selectionOver
  /-- Whatever the shared selector is asked for comes from that one selection. -/
  agreed : ∀ (number : Nat) (inquiry : Inquiry),
    actions[number]? = some (.askShared inquiry) → inquiry.needsSelection = true →
    ∃ asked, firstAsked RawAction.queriesShared environment actions = some asked ∧
      (inquiry = .get → ((start environment).answers actions)[number]? =
        some (.answer (.text (selectionOver asked).choice.name))) ∧
      (inquiry = .selection → ((start environment).answers actions)[number]? =
        some (.answer (.selection (selectionOver asked))))
  /-- The other selector holds what was selected at its own first question since it was
  last replaced. -/
  own : ∀ past future : List RawAction, actions = past ++ future →
    (past = [] ∨ past.getLast? = some .renew) → .renew ∉ future →
    ((start environment).after actions).own.cache =
      (firstAsked RawAction.queriesOwn (past.foldl RawAction.change environment) future).map
        selectionOver

/-- A process shows what selectors over decoded values show, and its two selectors keep
out of each other's way. -/
theorem plays_out_in_text (environment : Environment Bytes) (actions : List RawAction) :
    PlaysOutInText environment actions := by
  constructor
  case answered => exact (mirrors_start environment).answers actions
  case shared => rw [shared_after_start]
  case agreed =>
    intro number inquiry there needs
    obtain ⟨asked, source, first, answered⟩ := exists_answers_askShared there needs
    refine ⟨asked, first, ?_, ?_⟩
    · rintro rfl
      exact answered
    · rintro rfl
      exact answered
  case own =>
    rintro past future rfl renewed stays
    rw [own_after_of_renewed renewed stays]

/-- A name with an equals sign lets a process see the rest of a value, and finds nothing in
a session of texts. -/
theorem answers_ne_at_equals_sign :
    (start (.ofList [("CHPL_A", [0x31, 0x3D, 0x78])])).answers [.lookUpAll ["CHPL_A=1"]] ≠
      (Session.startRaw
        (Environment.ofList [("CHPL_A", ([0x31, 0x3D, 0x78] : Bytes))]).decoded).answersRaw
          [.lookUpAll ["CHPL_A=1"]] := by
  intro same
  have found : [Variable.ofAnswer "CHPL_A=1" (some (Utf8.decodeLossy [0x78]))] =
      [Variable.ofAnswer "CHPL_A=1" none] :=
    RawAnswer.found.inj (List.cons.inj same).1
  have value := congrArg Variable.value (List.cons.inj found).1
  cases value

end RawSession

end Tasking
