/-
# Probes only ask whether a setting is present

Every question of the probe over settings goes through the lookup that counts the
empty text as no answer, and the other kind of probe looks nothing up. So a selector
gives the same answers, and does the same things for them, over any two sources that
agree on which of eight settings are present and with what text. It is enough if they
agree on those that are looked up over one of them: the next lookup depends on nothing
but the answers to the ones before.
-/

import Tasking.Proofs.Probe.Course
import Tasking.Proofs.Query.Presence

namespace Tasking

namespace Probe

theorem heedsPresence_platform : (ofSettings.platform .target).HeedsPresence := by
  apply Query.heedsPresence_setting_bind
  rintro (_ | platform)
  · apply Query.heedsPresence_setting_bind
    rintro (_ | platform)
    · exact Query.heedsPresence_setting_bind _ fun _ => trivial
    · trivial
  · trivial

theorem heedsPresence_targetFacts_ofSettings : ofSettings.targetFacts.HeedsPresence := by
  refine .bind (Query.heedsPresence_setting_bind _ fun _ => trivial) fun arch => ?_
  refine .bind heedsPresence_platform fun platform => ?_
  refine .bind (Query.heedsPresence_setting_bind _ fun _ => trivial) fun compiler => ?_
  refine .bind (Query.heedsPresence_setting_bind _ fun home => ?_) fun usingVendorModule => trivial
  exact Query.heedsPresence_setting_bind _ fun _ => trivial

theorem heedsPresence_select {probe : Probe} (heeds : probe.targetFacts.HeedsPresence) :
    probe.select.HeedsPresence := by
  apply Query.heedsPresence_setting_bind
  rintro (_ | text)
  · exact heeds.bind fun facts => trivial
  · trivial

end Probe

namespace ProbeKind

theorem heedsPresence_targetFacts (kind : ProbeKind) (facts : Facts) :
    (kind.probe facts).targetFacts.HeedsPresence := by
  cases kind with
  | settings => exact Probe.heedsPresence_targetFacts_ofSettings
  | given => trivial

theorem heedsPresence_select (kind : ProbeKind) (facts : Facts) :
    (kind.probe facts).select.HeedsPresence :=
  Probe.heedsPresence_select (kind.heedsPresence_targetFacts facts)

end ProbeKind

theorem Selector.mem_unreported_of_lookedUp {setting : Setting} {trail : List Observation}
    (seen : .lookedUp setting ∈ trail) : .lookedUp setting ∈ unreported trail :=
  List.mem_filter.mpr ⟨seen, rfl⟩

namespace Selector

variable {first second : Source}

theorem consult_congr (selector : Selector) (facts : Facts)
    (agree : ∀ setting, .lookedUp setting ∈ (selector.consult facts first).trail →
      present (first setting) = present (second setting)) :
    selector.consult facts second = selector.consult facts first := by
  cases made : selector.cache with
  | some selection => rw [consult_of_cached made, consult_of_cached made]
  | none =>
      have heeds := selector.kind.heedsPresence_select facts
      simp only [consult, made] at agree ⊢
      simp only [heeds.value_congr agree, heeds.trail_congr agree]

/-- A selector cannot tell two sources apart that agree on what it looks up. -/
theorem answer_congr_of_trail (selector : Selector) (facts : Facts) (inquiry : Inquiry)
    (agree : ∀ setting, .lookedUp setting ∈ (selector.answer facts first inquiry).trail →
      present (first setting) = present (second setting)) :
    selector.answer facts second inquiry = selector.answer facts first inquiry := by
  cases inquiry with
  | get | selection => simp only [answer, selector.consult_congr facts agree]
  | concurrentGet threads =>
      cases threads with
      | zero => rfl
      | succ others =>
          have consulted := selector.consult_congr facts fun setting seen =>
            agree setting (mem_unreported_of_lookedUp seen)
          simp only [answer, consulted]
  | isCached => rfl
  | gatherFacts =>
      have heeds := selector.kind.heedsPresence_targetFacts facts
      simp only [answer, heeds.value_congr agree, heeds.trail_congr agree]
  | overrideText =>
      have tasks := agree .tasks List.mem_cons_self
      simp only [answer, Probe.overrideText, Query.value_setting, Query.trail_setting, tasks]

/-- Whatever a selector is asked, it looks up no settings but these. -/
theorem mem_of_lookedUp_answer {selector : Selector} {facts : Facts} {source : Source}
    {inquiry : Inquiry} {setting : Setting}
    (seen : .lookedUp setting ∈ (selector.answer facts source inquiry).trail) :
    setting ∈ .tasks :: Probe.factSettings := by
  have consulted (among : .lookedUp setting ∈ (selector.consult facts source).trail) :
      setting ∈ .tasks :: Probe.factSettings := by
    cases made : selector.cache with
    | some selection =>
        rw [consult_of_cached made] at among
        cases List.mem_singleton.mp among
    | none =>
        simp only [consult, made] at among
        exact (selector.kind.looksUpInOrder_select facts).mem_of_lookedUp among
  cases inquiry with
  | get | selection => exact consulted seen
  | concurrentGet threads =>
      cases threads with
      | zero => cases seen
      | succ others => exact consulted (List.mem_filter.mp seen).1
  | isCached => cases seen
  | gatherFacts =>
      exact List.mem_cons_of_mem _
        ((selector.kind.looksUpInOrder_targetFacts facts).mem_of_lookedUp seen)
  | overrideText =>
      cases List.mem_singleton.mp seen
      exact List.mem_cons_self

/-- So it cannot tell two sources apart that agree on the settings that count. -/
theorem answer_congr (selector : Selector) (facts : Facts)
    (same : ∀ setting ∈ .tasks :: Probe.factSettings,
      present (first setting) = present (second setting)) (inquiry : Inquiry) :
    selector.answer facts second inquiry = selector.answer facts first inquiry :=
  selector.answer_congr_of_trail facts inquiry fun setting seen =>
    same setting (mem_of_lookedUp_answer seen)

end Selector

end Tasking
