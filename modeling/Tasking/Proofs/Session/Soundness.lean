/-
# No run makes an unsound selection

Wherever a selection can be met with, it is sound: in a cache, in an answer, in the cell
that threads share, and with a thread that has returned. The invariant is about one
selector: what it holds is sound for its probe. A fresh selector holds nothing, and giving a
selection adds a sound one or leaves the old one there, so every run keeps it.

Sessions and processes make a selection in one step. Threads make it step by step, over any
probe and while the variables change, and what they publish is sound for the same reason.
-/

import Tasking.Proofs.Probe.Soundness
import Tasking.Proofs.Race.Publication
import Tasking.Proofs.RawSession.Caches
import Tasking.Proofs.Session.Freezing

namespace Tasking

/-- Every selection that the answer gives or names is one that `Holds`. -/
def Answer.IsDrawnFrom (Holds : Selection → Prop) : Answer → Prop
  | .selection given => Holds given
  | .text name => ∃ selection, Holds selection ∧ name = selection.choice.name
  | .texts names => ∀ name ∈ names, ∃ selection, Holds selection ∧ name = selection.choice.name
  | .nothing | .textIfAny _ | .flag _ | .index _ | .facts _ => True

theorem Answer.IsDrawnFrom.mono {Holds Then : Selection → Prop} {answer : Answer}
    (drawn : answer.IsDrawnFrom Holds) (weaker : ∀ selection, Holds selection → Then selection) :
    answer.IsDrawnFrom Then := by
  cases answer with
  | selection given => exact weaker given drawn
  | text name =>
      obtain ⟨selection, held, same⟩ := drawn
      exact ⟨selection, weaker selection held, same⟩
  | texts names =>
      intro name among
      obtain ⟨selection, held, same⟩ := drawn name among
      exact ⟨selection, weaker selection held, same⟩
  | nothing | textIfAny | flag | index | facts => exact drawn

namespace Selector

/-- What the selector holds, if anything, is sound for its probe. -/
def HoldsSound (selector : Selector) : Prop :=
  ∀ selection, selector.cache = some selection → selection.IsSoundFor selector.kind

theorem holdsSound_of_kind (kind : ProbeKind) : ({ kind := kind } : Selector).HoldsSound := by
  intro selection made
  cases made

variable {selector : Selector}

theorem HoldsSound.answer_consult (holds : selector.HoldsSound) (facts : Facts) (source : Source) :
    (selector.consult facts source).answer.IsSoundFor selector.kind := by
  cases made : selector.cache with
  | some selection =>
      rw [consult_of_cached made]
      exact holds selection made
  | none =>
      rw [consult, made]
      exact (selector.kind.ensures_isSoundFor facts).value source

theorem HoldsSound.state_consult (holds : selector.HoldsSound) (facts : Facts) (source : Source) :
    (selector.consult facts source).state.HoldsSound := by
  rw [Selector.state_consult]
  intro selection made
  cases made
  exact holds.answer_consult facts source

theorem HoldsSound.answer (holds : selector.HoldsSound) (facts : Facts) (source : Source)
    (inquiry : Inquiry) :
    (selector.answer facts source inquiry).answer.IsDrawnFrom
      (Selection.IsSoundFor selector.kind) := by
  have sound := holds.answer_consult facts source
  cases inquiry with
  | get => exact ⟨_, sound, rfl⟩
  | selection => exact sound
  | concurrentGet threads =>
      rw [answer_concurrentGet]
      intro name among
      exact ⟨_, sound, List.eq_of_mem_replicate among⟩
  | isCached | gatherFacts | overrideText => exact trivial

end Selector

namespace Session

/-- What holds of a session that takes these actions. -/
structure TellsSoundly (environment : Environment String) (facts : Facts) (kind : ProbeKind)
    (actions : List Action) : Prop where
  cached : ∀ selector ∈ ((start environment facts kind).after actions).selectors,
    ∀ selection, selector.cache = some selection → selection.IsSoundFor selector.kind
  answered : ∀ (past : List Action) (action : Action) (future : List Action),
    actions = past ++ action :: future →
    ∃ reply, ((start environment facts kind).replies actions)[past.length]? = some reply ∧
      reply.answer.IsDrawnFrom Selection.IsSound ∧
      ∀ (number : Nat) (inquiry : Inquiry) (selector : Selector),
        action = .ask number inquiry →
        ((start environment facts kind).after past).selectors[number]? = some selector →
        reply.answer.IsDrawnFrom (Selection.IsSoundFor selector.kind)

variable {session : Session}

theorem holdsSound_after_start (environment : Environment String) (facts : Facts)
    (kind : ProbeKind) (actions : List Action) :
    ∀ selector ∈ ((start environment facts kind).after actions).selectors,
      selector.HoldsSound := by
  apply forall_mem_selectors_after
  · intro selector among
    cases List.mem_singleton.mp among
    exact Selector.holdsSound_of_kind kind
  · intro kind _
    exact Selector.holdsSound_of_kind kind
  · intro selector facts source holds
    exact holds.state_consult facts source

theorem isDrawnFrom_answer_ask {number : Nat} {selector : Selector}
    (holds : ∀ selector ∈ session.selectors, selector.HoldsSound)
    (there : session.selectors[number]? = some selector) (inquiry : Inquiry) :
    (session.act (.ask number inquiry)).answer.IsDrawnFrom
      (Selection.IsSoundFor selector.kind) := by
  rw [(act_ask there inquiry).1]
  exact (holds selector (List.mem_of_getElem? there)).answer _ _ inquiry

theorem isDrawnFrom_answer_act (holds : ∀ selector ∈ session.selectors, selector.HoldsSound)
    (action : Action) : (session.act action).answer.IsDrawnFrom Selection.IsSound := by
  cases action with
  | set | unset | setFacts | new => exact trivial
  | ask number inquiry =>
      cases there : session.selectors[number]? with
      | none =>
          rw [act_ask_of_none there]
          exact trivial
      | some selector =>
          apply (isDrawnFrom_answer_ask holds there inquiry).mono
          intro selection sound
          exact sound.sound

theorem tellsSoundly (environment : Environment String) (facts : Facts) (kind : ProbeKind)
    (actions : List Action) : TellsSoundly environment facts kind actions := by
  have holds := holdsSound_after_start environment facts kind
  refine ⟨holds actions, ?_⟩
  intro past action future split
  rw [split]
  refine ⟨_, getElem?_replies _ past action future, isDrawnFrom_answer_act (holds past) action, ?_⟩
  intro number inquiry selector asks there
  rw [asks]
  exact isDrawnFrom_answer_ask (holds past) there inquiry

end Session

namespace RawSession

/-- What holds of a process that takes these steps. -/
structure TellsSoundly (environment : Environment Bytes) (actions : List RawAction) : Prop where
  shared : ∀ selection, ((start environment).after actions).shared.cache = some selection →
    selection.IsSoundFor .settings
  own : ∀ selection, ((start environment).after actions).own.cache = some selection →
    selection.IsSoundFor .settings
  answered : ∀ answer, .answer answer ∈ (start environment).answers actions →
    answer.IsDrawnFrom (Selection.IsSoundFor .settings)

/-- The selector has the probe over settings, and what it holds is sound. -/
def HoldsSound (selector : Selector) : Prop :=
  selector.kind = .settings ∧ selector.HoldsSound

theorem holdsSound_after_start (environment : Environment Bytes) (actions : List RawAction) :
    HoldsSound ((start environment).after actions).shared ∧
      HoldsSound ((start environment).after actions).own := by
  have fresh : HoldsSound freshSelector := ⟨rfl, Selector.holdsSound_of_kind .settings⟩
  apply selectors_after ⟨fresh, fresh⟩ fresh
  intro selector source holds
  refine ⟨?_, holds.2.state_consult .unknown source⟩
  rw [Selector.state_consult]
  exact holds.1

theorem HoldsSound.answer {selector : Selector} (holds : HoldsSound selector) (source : Source)
    (inquiry : Inquiry) :
    (selector.answer .unknown source inquiry).answer.IsDrawnFrom
      (Selection.IsSoundFor .settings) := by
  rw [← holds.1]
  exact holds.2.answer .unknown source inquiry

theorem tellsSoundly (environment : Environment Bytes) (actions : List RawAction) :
    TellsSoundly environment actions := by
  have soundFor {selector : Selector} (holds : HoldsSound selector) :
      ∀ selection, selector.cache = some selection → selection.IsSoundFor .settings := by
    rw [← holds.1]
    exact holds.2
  obtain ⟨shared, own⟩ := holdsSound_after_start environment actions
  refine ⟨soundFor shared, soundFor own, ?_⟩
  intro answer among
  obtain ⟨number, there⟩ := List.mem_iff_getElem?.mp among
  rw [getElem?_answers] at there
  obtain ⟨action, -, answered⟩ := Option.map_eq_some_iff.mp there
  obtain ⟨shared, own⟩ := holdsSound_after_start environment (actions.take number)
  cases action with
  | askShared inquiry =>
      cases answered
      exact shared.answer _ inquiry
  | askOwn inquiry =>
      cases answered
      exact own.answer _ inquiry
  | renew | set | unset =>
      cases answered
      exact trivial
  | survey | lookUpAll => cases answered

end RawSession

namespace Race

/-- What holds of threads that ask at once for a selection over the probe. -/
structure PublishesSoundly (probe : Probe) (environment : Environment String) (threads : Nat)
    (moves : List Move) : Prop where
  published : ∀ selection,
    ((State.start environment threads).after probe.select moves).cell = .filled selection →
    selection.IsSound ∧ (probe = .ofSettings → selection.IsOfSettings)
  returned : ∀ selection, .returned selection ∈
    ((State.start environment threads).after probe.select moves).threads →
    selection.IsSound ∧ (probe = .ofSettings → selection.IsOfSettings)

theorem publishesSoundly (probe : Probe) (environment : Environment String) (threads : Nat)
    (moves : List Move) : PublishesSoundly probe environment threads moves := by
  have phase : Phase (fun _ _ => True) probe.select
      ((State.start environment threads).after probe.select moves) :=
    (phase_start environment threads).after_of_any moves
  have published (selection : Selection)
      (filled : ((State.start environment threads).after probe.select moves).cell =
        .filled selection) :
      selection.IsSound ∧ (probe = .ofSettings → selection.IsOfSettings) := by
    have unfolds := phase.unfolds_of_filled filled
    have finds := unfolds.ensures (Probe.ensures_select probe.targetFacts.ensures_true)
    refine ⟨finds.1, ?_⟩
    intro same
    subst same
    have findsThere := unfolds.ensures (Probe.ensures_select Probe.ensures_targetFacts_ofSettings)
    exact findsThere.2
  refine ⟨published, ?_⟩
  intro selection among
  obtain ⟨number, there⟩ := List.mem_iff_getElem?.mp among
  exact published selection (phase.filled_of_returned there)

end Race

/-- Every selection that is kept or given anywhere, after whatever has happened, is sound: in
sessions, in processes, and with threads that ask any probe while the variables change. -/
theorem every_selection_is_sound :
    (∀ environment facts kind actions, Session.TellsSoundly environment facts kind actions) ∧
      (∀ environment actions, RawSession.TellsSoundly environment actions) ∧
      ∀ probe environment threads moves,
        Race.PublishesSoundly probe environment threads moves :=
  ⟨Session.tellsSoundly, RawSession.tellsSoundly, Race.publishesSoundly⟩

end Tasking
