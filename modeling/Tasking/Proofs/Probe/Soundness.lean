/-
# Selections that explain themselves

A selection carries its reason, and the reason has to fit. Either the user gave a text, and
then there is nothing else to tell; or the table chose, and then the facts are those that
the table was consulted about, and the table says of them what was chosen. No third kind is
ever made.

This is shown of queries whatever the answers to their lookups are. So it does not matter
what the settings hold, nor whether they change while the selection is being made: the
facts are put together once, and the table sees the same ones that are kept.
-/

import Tasking.Proofs.Decision
import Tasking.Proofs.Query.Course
import Tasking.Selector

namespace Tasking

namespace Selection

/-- The selection is a text that the user gave. -/
def IsUsersOwn (selection : Selection) : Prop :=
  ∃ text, text ≠ "" ∧ selection.choice = .override text ∧ selection.rule = .override ∧
    selection.facts = none

/-- The selection is what the table says of the facts that come with it. -/
def IsFromTable (selection : Selection) : Prop :=
  ∃ backend facts, selection.choice = .fromTable backend ∧ selection.facts = some facts ∧
    facts.decision = ⟨backend, selection.rule⟩ ∧ selection.rule ≠ .override ∧
    (backend, selection.rule) ∈ [(Backend.muxed, Rule.vendorModule), (.fifo, .withoutQthreads),
      (.qthreads, .otherwise)]

/-- The selection is of one of the two kinds, and shows of which in every part. -/
structure IsSound (selection : Selection) : Prop where
  one_kind : selection.IsUsersOwn ∧ ¬ selection.IsFromTable ∨
    ¬ selection.IsUsersOwn ∧ selection.IsFromTable
  isOverride_iff_rule : selection.choice.isOverride = true ↔ selection.rule = .override
  isOverride_iff_facts : selection.choice.isOverride = true ↔ selection.facts = none
  name_ne_empty : selection.choice.name ≠ ""

/-- The facts, if there are any, can have been found in settings. -/
def IsOfSettings (selection : Selection) : Prop :=
  ∀ facts, selection.facts = some facts → facts.platform ≠ "" ∧ facts.arch ≠ "native"

/-- What is true of the selections that a selector with such a probe makes. -/
structure IsSoundFor (kind : ProbeKind) (selection : Selection) : Prop where
  sound : selection.IsSound
  of_settings : kind = .settings → selection.IsOfSettings

theorem isSound_ofOverride {text : String} (something : text ≠ "") :
    (ofOverride text).IsSound := by
  have own : (ofOverride text).IsUsersOwn := ⟨text, something, rfl, rfl, rfl⟩
  have notTable : ¬ (ofOverride text).IsFromTable := by
    intro fromTable
    obtain ⟨backend, facts, chosen, -⟩ := fromTable
    cases chosen
  exact ⟨Or.inl ⟨own, notTable⟩, iff_of_true rfl rfl, iff_of_true rfl rfl, something⟩

theorem isFromTable_ofFacts (facts : Facts) : (ofFacts facts).IsFromTable := by
  have listed : (facts.decision.backend, facts.decision.rule) ∈
      [(Backend.muxed, Rule.vendorModule), (.fifo, .withoutQthreads), (.qthreads, .otherwise)] := by
    rcases facts.decision_cases with ⟨-, said⟩ | ⟨-, -, said⟩ | ⟨-, -, said⟩
    · simp [said]
    · simp [said]
    · simp [said]
  exact ⟨facts.decision.backend, facts, rfl, rfl, rfl, facts.decision_rule_ne_override, listed⟩

theorem isSound_ofFacts (facts : Facts) : (ofFacts facts).IsSound := by
  have notOwn : ¬ (ofFacts facts).IsUsersOwn := by
    intro own
    obtain ⟨text, -, chosen, -⟩ := own
    cases chosen
  refine ⟨Or.inr ⟨notOwn, isFromTable_ofFacts facts⟩, ?_, ?_, ?_⟩
  · exact iff_of_false Bool.false_ne_true facts.decision_rule_ne_override
  · exact iff_of_false Bool.false_ne_true (Option.some_ne_none facts)
  · show facts.decision.backend.name ≠ ""
    cases facts.decision.backend with
    | fifo => simp [Backend.name]
    | qthreads => simp [Backend.name]
    | muxed => simp [Backend.name]

end Selection

namespace Probe

/-- Whatever the answers are, the selection is sound, and the facts that come with it are some
that the probe can find. -/
theorem ensures_select {probe : Probe} {Holds : Facts → Prop}
    (finds : probe.targetFacts.Ensures Holds) :
    probe.select.Ensures fun selection =>
      selection.IsSound ∧ ∀ facts, selection.facts = some facts → Holds facts := by
  apply Query.ensures_setting_bind
  · apply finds.bind
    intro facts held
    refine ⟨Selection.isSound_ofFacts facts, ?_⟩
    intro found same
    cases same
    exact held
  · intro text something
    refine ⟨Selection.isSound_ofOverride something, ?_⟩
    intro facts same
    cases same

theorem leastCommonArch_ne_native (arch : String) : leastCommonArch arch ≠ "native" := by
  rw [leastCommonArch]
  by_cases native : arch = "native"
  · rw [if_pos native]
    simp
  · rw [if_neg native]
    exact native

theorem ensures_hostPlatform : hostPlatform.Ensures (· ≠ "") := by
  apply Query.ensures_setting_bind
  · apply Query.ensures_setting_bind
    · show builtInPlatform ≠ ""
      simp [builtInPlatform]
    · intro platform something
      exact something
  · intro platform something
    exact something

theorem ensures_targetPlatform : targetPlatform.Ensures (· ≠ "") := by
  apply Query.ensures_setting_bind
  · exact ensures_hostPlatform
  · intro platform something
    exact something

/-- Settings always yield a platform, and never an architecture that only stands for the
machine at hand. -/
theorem ensures_targetFacts_ofSettings :
    ofSettings.targetFacts.Ensures fun facts => facts.platform ≠ "" ∧ facts.arch ≠ "native" := by
  have arch : (ofSettings.arch .target true).Ensures (· ≠ "native") := by
    intro answer
    exact leastCommonArch_ne_native _
  apply arch.bind
  intro arch notNative
  apply ensures_targetPlatform.bind
  intro platform something
  apply (ofSettings.compiler .target).ensures_true.bind
  intro compiler _
  apply ofSettings.vendorModule.ensures_true.bind
  intro usingVendorModule _
  exact ⟨something, notNative⟩

end Probe

/-- Whatever the answers are, a selector makes a selection that is sound for its probe. -/
theorem ProbeKind.ensures_isSoundFor (kind : ProbeKind) (facts : Facts) :
    (kind.probe facts).select.Ensures (Selection.IsSoundFor kind) := by
  cases kind with
  | given =>
      apply (Probe.ensures_select (Query.ensures_true _)).mono
      intro selection found
      exact ⟨found.1, fun settings => nomatch settings⟩
  | settings =>
      apply (Probe.ensures_select Probe.ensures_targetFacts_ofSettings).mono
      intro selection found
      exact ⟨found.1, fun _ => found.2⟩

end Tasking
