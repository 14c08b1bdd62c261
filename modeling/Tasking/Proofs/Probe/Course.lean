/-
# The course of a selection

Both kinds of probe answer each question with a handful of lookups, and the
questions are asked in a fixed order. So whatever the settings hold, and however
they change meanwhile, making a selection runs through one fixed list of settings,
skips some of them and comes back to none.
-/

import Tasking.Proofs.Query.Course
import Tasking.Selector

namespace Tasking.Probe

/-- The settings that decide about the facts, in the order in which they are looked up. -/
def factSettings : List Setting :=
  [.arch .target, .platform .target, .platform .host, .anyPlatform, .compiler .target, .home,
    .moduleHome]

theorem nodup_names : ((Setting.tasks :: factSettings).map Setting.name).Nodup := by
  decide

theorem looksUpInOrder_platform :
    (ofSettings.platform .target).LooksUpInOrder
      [.platform .target, .platform .host, .anyPlatform] := by
  apply Query.looksUpInOrder_setting_bind
  rintro (_ | platform)
  · apply Query.looksUpInOrder_setting_bind
    rintro (_ | platform)
    · exact Query.looksUpInOrder_setting_bind _ fun _ => trivial
    · trivial
  · trivial

theorem endsWithin_platform : (ofSettings.platform .target).EndsWithin 3 := by
  apply Query.endsWithin_setting_bind
  rintro (_ | platform)
  · apply Query.endsWithin_setting_bind
    rintro (_ | platform)
    · exact Query.endsWithin_setting_bind _ fun _ => trivial
    · trivial
  · trivial

theorem looksUpInOrder_targetFacts_ofSettings :
    ofSettings.targetFacts.LooksUpInOrder factSettings := by
  change ofSettings.targetFacts.LooksUpInOrder
    ([.arch .target] ++ ([.platform .target, .platform .host, .anyPlatform] ++
      ([.compiler .target] ++ ([.home, .moduleHome] ++ []))))
  refine .bind (Query.looksUpInOrder_setting_bind _ fun _ => trivial) fun arch => ?_
  refine .bind looksUpInOrder_platform fun platform => ?_
  refine .bind (Query.looksUpInOrder_setting_bind _ fun _ => trivial) fun compiler => ?_
  refine .bind (Query.looksUpInOrder_setting_bind _ fun home => ?_) fun usingVendorModule => trivial
  exact Query.looksUpInOrder_setting_bind _ fun _ => trivial

theorem endsWithin_targetFacts_ofSettings : ofSettings.targetFacts.EndsWithin 7 := by
  change ofSettings.targetFacts.EndsWithin (1 + (3 + (1 + (2 + 0))))
  refine .bind (Query.endsWithin_setting_bind _ fun _ => trivial) fun arch => ?_
  refine .bind endsWithin_platform fun platform => ?_
  refine .bind (Query.endsWithin_setting_bind _ fun _ => trivial) fun compiler => ?_
  refine .bind (Query.endsWithin_setting_bind _ fun home => ?_) fun usingVendorModule => trivial
  exact Query.endsWithin_setting_bind _ fun _ => trivial

/-- A probe that knows its answers looks nothing up. -/
theorem looksUpInOrder_targetFacts_ofFacts (facts : Facts) :
    (ofFacts facts).targetFacts.LooksUpInOrder [] :=
  trivial

theorem endsWithin_targetFacts_ofFacts (facts : Facts) :
    (ofFacts facts).targetFacts.EndsWithin 4 :=
  ⟨3, rfl, 2, rfl, 1, rfl, 0, rfl, trivial⟩

theorem looksUpInOrder_select {probe : Probe} {order : List Setting}
    (ordered : probe.targetFacts.LooksUpInOrder order) :
    probe.select.LooksUpInOrder (.tasks :: order) := by
  apply Query.looksUpInOrder_setting_bind
  rintro (_ | text)
  · change Query.LooksUpInOrder (probe.targetFacts >>= _) order
    rw [← List.append_nil order]
    exact ordered.bind fun facts => trivial
  · trivial

theorem endsWithin_select {probe : Probe} {steps : Nat}
    (ends : probe.targetFacts.EndsWithin steps) : probe.select.EndsWithin (steps + 2) := by
  apply Query.endsWithin_setting_bind
  rintro (_ | text)
  · exact ends.bind fun facts => ⟨0, rfl, trivial⟩
  · exact ⟨steps, rfl, trivial⟩

end Tasking.Probe

namespace Tasking.ProbeKind

theorem looksUpInOrder_targetFacts (kind : ProbeKind) (facts : Facts) :
    (kind.probe facts).targetFacts.LooksUpInOrder Probe.factSettings := by
  cases kind with
  | settings => exact Probe.looksUpInOrder_targetFacts_ofSettings
  | given =>
      exact (Probe.looksUpInOrder_targetFacts_ofFacts facts).append_left Probe.factSettings

/-- Whatever probe a selector asks, a selection runs through this one list. -/
theorem looksUpInOrder_select (kind : ProbeKind) (facts : Facts) :
    (kind.probe facts).select.LooksUpInOrder (.tasks :: Probe.factSettings) :=
  Probe.looksUpInOrder_select (kind.looksUpInOrder_targetFacts facts)

theorem endsWithin_select (kind : ProbeKind) (facts : Facts) :
    (kind.probe facts).select.EndsWithin 9 := by
  apply Probe.endsWithin_select
  cases kind with
  | settings => exact Probe.endsWithin_targetFacts_ofSettings
  | given => exact (Probe.endsWithin_targetFacts_ofFacts facts).mono (by decide)

end Tasking.ProbeKind
