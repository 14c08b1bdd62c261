/-
# What a selection reports

Gathering facts is done in silence, whichever probe is asked. A selection reports one
event, when it is known how it comes out, and the event says how: with the user's own
text where that decided, and with the rule and all the facts where the table did. A
selection that is given again is reported as that and as nothing else.

`TellsOf` and `TellsAgain` say what the two kinds of event have to look like to someone
who reads a log, without mention of what an event is here.
-/

import Tasking.Proofs.Probe.Answers
import Tasking.Proofs.Probe.Lookups

namespace Tasking

/-- The events that a trail tells of. -/
def eventsOf (trail : List Observation) : List Event :=
  trail.filterMap Observation.event?

theorem eventsOf_append (first second : List Observation) :
    eventsOf (first ++ second) = eventsOf first ++ eventsOf second :=
  List.filterMap_append

theorem eventsOf_unreported (trail : List Observation) :
    eventsOf (Selector.unreported trail) = [] := by
  induction trail with
  | nil => rfl
  | cons observation rest ih =>
      cases observation with
      | lookedUp | asked | reported => exact ih

namespace Event

/-- The event says how a selection came out. -/
structure TellsOf (event : Event) (selection : Selection) : Prop where
  severity : event.severity = .debug
  overridden : ∀ text, selection.choice = .override text →
    event.message = "CHPL_TASKS taken from environment" ∧ event.fields = [("tasks", .text text)]
  decided : ∀ backend, selection.choice = .fromTable backend →
    event.message = "CHPL_TASKS selected" ∧
      ∃ facts, selection.facts = some facts ∧
        event.fields =
          [("tasks", .text backend.name), ("rule", .text selection.rule.reason),
            ("arch", .text facts.arch), ("platform", .text facts.platform),
            ("compiler", .text facts.compiler), ("module", .flag facts.usingVendorModule)]

/-- The event says that an identifier was given again. -/
structure TellsAgain (event : Event) (identifier : String) : Prop where
  severity : event.severity = .trace
  message : event.message = "CHPL_TASKS cache hit"
  fields : event.fields = [("tasks", .text identifier)]

theorem tellsOf_overrideTaken (text : String) :
    (overrideTaken text).TellsOf (.ofOverride text) := by
  refine ⟨rfl, ?_, ?_⟩
  · intro other same
    cases same
    exact ⟨rfl, rfl⟩
  · intro backend same
    cases same

theorem tellsOf_decided (facts : Facts) : (decided facts).TellsOf (.ofFacts facts) := by
  refine ⟨rfl, ?_, ?_⟩
  · intro text same
    cases same
  · intro backend same
    cases same
    exact ⟨rfl, facts, rfl, rfl⟩

theorem tellsAgain_cacheHit (choice : Choice) : (cacheHit choice).TellsAgain choice.name :=
  ⟨rfl, rfl, rfl⟩

end Event

namespace Query

variable {α β : Type}

/-- Whatever the answers are, the query reports nothing. -/
def IsSilent : Query α → Prop
  | .done _ => True
  | .lookUp _ next => ∀ answer, (next answer).IsSilent
  | .ask _ next => next.IsSilent
  | .report _ _ => False

theorem isSilent_setting (asked : Setting) : (setting asked).IsSilent :=
  fun _ => trivial

theorem IsSilent.bind {query : Query α} {following : α → Query β} (silent : query.IsSilent)
    (rest : ∀ value, (following value).IsSilent) : (query >>= following).IsSilent := by
  induction query with
  | done value => exact rest value
  | lookUp setting next ih => exact fun answer => ih answer (silent answer)
  | ask request next ih => exact ih silent
  | report event next ih => exact silent.elim

theorem IsSilent.eventsOf_trail {query : Query α} (silent : query.IsSilent) (source : Source) :
    eventsOf (query.trail source) = [] := by
  induction query with
  | done value => rfl
  | lookUp setting next ih => exact ih (source setting) (silent (source setting))
  | ask request next ih => exact ih silent
  | report event next ih => exact silent.elim

end Query

namespace Probe

open Query

theorem isSilent_platform : (ofSettings.platform .target).IsSilent := by
  apply (isSilent_setting _).bind
  rintro (_ | platform)
  · apply (isSilent_setting _).bind
    rintro (_ | platform)
    · exact (isSilent_setting _).bind fun _ => trivial
    · trivial
  · trivial

theorem isSilent_targetFacts_ofSettings : ofSettings.targetFacts.IsSilent := by
  refine .bind ((isSilent_setting _).bind fun _ => trivial) fun arch => ?_
  refine .bind isSilent_platform fun platform => ?_
  refine .bind ((isSilent_setting _).bind fun _ => trivial) fun compiler => ?_
  refine .bind ((isSilent_setting _).bind fun home => ?_) fun usingVendorModule => trivial
  exact (isSilent_setting _).bind fun _ => trivial

end Probe

theorem ProbeKind.isSilent_targetFacts (kind : ProbeKind) (facts : Facts) :
    (kind.probe facts).targetFacts.IsSilent := by
  cases kind with
  | settings => exact Probe.isSilent_targetFacts_ofSettings
  | given => trivial

/-- Where facts are gathered in silence, a selection reports how it comes out and no more. -/
theorem Probe.eventsOf_trail_select {probe : Probe} (silent : probe.targetFacts.IsSilent)
    (source : Source) :
    eventsOf (probe.select.trail source) =
      match present (source .tasks) with
      | some text => [.overrideTaken text]
      | none => [.decided (probe.targetFacts.value source)] := by
  rw [trail_select]
  cases present (source .tasks) with
  | some text => rfl
  | none =>
      show eventsOf (_ ++ [.reported _]) = _
      rw [eventsOf_append, silent.eventsOf_trail]
      rfl

/-- A selection reports one event, and the event says how the selection came out. -/
theorem ProbeKind.exists_eventsOf_select (kind : ProbeKind) (facts : Facts) (source : Source) :
    ∃ event, eventsOf ((kind.probe facts).select.trail source) = [event] ∧
      event.TellsOf ((kind.probe facts).select.value source) := by
  rw [Probe.eventsOf_trail_select (kind.isSilent_targetFacts facts), Probe.value_select]
  cases present (source .tasks) with
  | some text => exact ⟨.overrideTaken text, rfl, Event.tellsOf_overrideTaken text⟩
  | none => exact ⟨_, rfl, Event.tellsOf_decided _⟩

namespace Selector

/-- Making the selection is reported as what it is. -/
theorem exists_eventsOf_consult {selector : Selector} (unmade : selector.cache = none)
    (facts : Facts) (source : Source) :
    ∃ event, eventsOf (selector.consult facts source).trail = [event] ∧
      event.TellsOf (selector.consult facts source).answer := by
  simp only [consult, unmade]
  exact selector.kind.exists_eventsOf_select facts source

end Selector

end Tasking
