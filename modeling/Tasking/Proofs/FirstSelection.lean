/-
# The first selection, in terms of an environment

A fresh selector answers its first question from eight variables. Here that
answer is specified without queries, probes or lookups: by the variables' names,
by what each of them contributes to the facts, and by the row of the table that
the facts fall into. A variable counts only if it holds a text that is not empty.
-/

import Tasking.Proofs.Decision
import Tasking.Proofs.Probe.VendorModule
import Tasking.Selector

namespace Tasking

/-- The facts that the variables of an environment amount to. -/
structure Environment.Describes (environment : Environment String) (facts : Facts) : Prop where
  arch_of_native :
    present (environment.get? "CHPL_TARGET_ARCH") = some "native" → facts.arch = "none"
  arch_of_ne_native :
    present (environment.get? "CHPL_TARGET_ARCH") ≠ some "native" →
      facts.arch = (present (environment.get? "CHPL_TARGET_ARCH")).getD ""
  platform :
    facts.platform =
      (["CHPL_TARGET_PLATFORM", "CHPL_HOST_PLATFORM", "CHPL_PLATFORM"].findSome?
        fun name => present (environment.get? name)).getD "linux64"
  compiler : facts.compiler = (present (environment.get? "CHPL_TARGET_COMPILER")).getD ""
  vendorModule :
    facts.usingVendorModule = true ↔
      ∃ home moduleHome, (environment.get? "CHPL_HOME" = some home ∧ home ≠ "") ∧
        (environment.get? "CHPL_MODULE_HOME" = some moduleHome ∧ moduleHome ≠ "") ∧
        Path.normalForm home = Path.normalForm moduleHome

namespace Facts

/-- The vendor's platform, with the toolchain from the vendor's module. -/
def OnVendorPlatform (facts : Facts) : Prop :=
  "cray-x".toList <+: facts.platform.toList ∧ facts.usingVendorModule = true

/-- One of the things about a target that rule `qthreads` out. -/
def RulesQthreadsOut (facts : Facts) : Prop :=
  facts.arch = "knc" ∨
    ("cygwin".toList <+: facts.platform.toList ∨ "netbsd".toList <+: facts.platform.toList) ∨
    facts.compiler = "cray-prgenv-cray"

/-- A choice with its rule is the one that the facts call for. -/
structure CallFor (facts : Facts) (choice : Choice) (rule : Rule) : Prop where
  muxed : choice = .fromTable .muxed ∧ rule = .vendorModule ↔ facts.OnVendorPlatform
  fifo : choice = .fromTable .fifo ∧ rule = .withoutQthreads ↔
    ¬ facts.OnVendorPlatform ∧ facts.RulesQthreadsOut
  qthreads : choice = .fromTable .qthreads ∧ rule = .otherwise ↔
    ¬ facts.OnVendorPlatform ∧ ¬ facts.RulesQthreadsOut

end Facts

/-- What the first selection over an environment has to be. -/
structure Environment.Selects (environment : Environment String) (selection : Selection) :
    Prop where
  overridden : ∀ text, environment.get? "CHPL_TASKS" = some text → text ≠ "" →
    selection = { choice := .override text, rule := .override, facts := none }
  decided :
    (environment.get? "CHPL_TASKS" = none ∨ environment.get? "CHPL_TASKS" = some "") →
      ∃ facts, selection.facts = some facts ∧ environment.Describes facts ∧
        facts.CallFor selection.choice selection.rule

theorem describes_targetFacts (environment : Environment String) :
    environment.Describes (Probe.ofSettings.targetFacts.value environment.source) := by
  rw [Probe.value_targetFacts, Probe.value_arch, Probe.value_compiler, if_pos rfl]
  refine ⟨?_, ?_, ?_, rfl, ?_⟩
  · intro native
    change leastCommonArch ((present (environment.get? "CHPL_TARGET_ARCH")).getD "") = "none"
    rw [native]
    rfl
  · intro other
    change leastCommonArch ((present (environment.get? "CHPL_TARGET_ARCH")).getD "") = _
    cases given : present (environment.get? "CHPL_TARGET_ARCH") with
    | none => rfl
    | some arch =>
        have notNative : arch ≠ "native" := fun same => other (same ▸ given)
        exact if_neg notNative
  · exact Probe.value_platform_target environment.source
  · change Probe.ofSettings.vendorModule.value environment.source = true ↔ _
    rw [vendorModule_iff_sameDirectory]
    simp only [Path.sameDirectory_iff]
    rfl

theorem Facts.callFor_decision (facts : Facts) :
    facts.CallFor (.fromTable facts.decision.backend) facts.decision.rule := by
  have said (backend : Backend) (rule : Rule) :
      Choice.fromTable facts.decision.backend = .fromTable backend ∧ facts.decision.rule = rule ↔
        facts.decision = ⟨backend, rule⟩ := by
    rw [Choice.fromTable.injEq, Decision.mk.injEq]
  refine ⟨?_, ?_, ?_⟩
  · rw [said, decision_eq_muxed_iff, hasVendorRuntime_iff]
    rfl
  · rw [said, decision_eq_fifo_iff, hasVendorRuntime_iff, lacksQthreads_iff]
    rfl
  · rw [said, decision_eq_qthreads_iff, hasVendorRuntime_iff, lacksQthreads_iff]
    rfl

theorem selects_value_select (environment : Environment String) :
    environment.Selects (Probe.ofSettings.select.value environment.source) := by
  refine ⟨?_, ?_⟩
  · intro text found filled
    have given : present (environment.source .tasks) = some text :=
      present_eq_some_iff.mpr ⟨found, filled⟩
    rw [Probe.value_select, given]
    rfl
  · intro missing
    have absent : present (environment.source .tasks) = none := present_eq_none_iff.mpr missing
    rw [Probe.value_select, absent]
    exact ⟨_, rfl, describes_targetFacts environment, Facts.callFor_decision _⟩

/-- A fresh selector's first selection is the one that the environment calls for,
and its identifier is the same whether it is the first thing asked for or asked
for afterwards, when the variables may have changed. -/
theorem first_selection (environment : Environment String) (given : Facts) :
    ∃ selection, environment.Selects selection ∧
      (({ kind := .settings } : Selector).answer given environment.source .selection).answer =
        .selection selection ∧
      (({ kind := .settings } : Selector).answer given environment.source .get).answer =
        .text selection.choice.name ∧
      ∀ later : Source,
        ((({ kind := .settings } : Selector).answer given environment.source .selection).state.answer
          given later .get).answer = .text selection.choice.name := by
  refine ⟨Probe.ofSettings.select.value environment.source, selects_value_select environment,
    rfl, rfl, ?_⟩
  intro later
  rfl

end Tasking
