/-
# The precedence of the rows

The rows of the table are tried in a fixed order, so a change to a target can only drop it
into a later row if it makes a condition false. Here are four changes that never do: a
longer name for the platform, the vendor's module, and the architecture or the compiler
without `qthreads`.

A longer name can both leave a family and enter one, as when `cray-` becomes `cray-xc`. It
cannot leave a family of the table, for those are told by the beginning of the name.
-/

import Tasking.Proofs.Decision

namespace Tasking

/-- How far a rule goes before the others. The last row of the table stands lowest, and the
user's own setting goes before the whole table. -/
def Rule.precedence : Rule → Nat
  | .otherwise => 0
  | .withoutQthreads => 1
  | .vendorModule => 2
  | .override => 3

namespace Facts

/-- A change to a target that makes no condition of the table false. -/
inductive Change where
  | extendPlatform (suffix : String)
  | loadVendorModule
  | replaceArch
  | replaceCompiler
  deriving DecidableEq, Repr

def change (facts : Facts) : Change → Facts
  | .extendPlatform suffix => { facts with platform := facts.platform ++ suffix }
  | .loadVendorModule => { facts with usingVendorModule := true }
  | .replaceArch => { facts with arch := "knc" }
  | .replaceCompiler => { facts with compiler := "cray-prgenv-cray" }

def changeAll (facts : Facts) (changes : List Change) : Facts :=
  changes.foldl change facts

variable {facts : Facts}

/-- A name that goes on begins as it began. -/
theorem prefix_append_of_prefix {family : List Char} {platform : String}
    (within : family <+: platform.toList) (suffix : String) :
    family <+: (platform ++ suffix).toList := by
  rw [String.toList_append]
  exact within.trans (List.prefix_append platform.toList suffix.toList)

theorem inFamily_change {family : String} (within : facts.inFamily family = true)
    (change : Change) : (facts.change change).inFamily family = true := by
  cases change with
  | extendPlatform suffix =>
      rw [inFamily_iff] at within ⊢
      exact prefix_append_of_prefix within suffix
  | loadVendorModule | replaceArch | replaceCompiler => exact within

theorem hasVendorRuntime_change (held : facts.hasVendorRuntime = true) (change : Change) :
    (facts.change change).hasVendorRuntime = true := by
  obtain ⟨within, loaded⟩ := Bool.and_eq_true_iff.mp held
  refine Bool.and_eq_true_iff.mpr ⟨inFamily_change within change, ?_⟩
  cases change with
  | loadVendorModule => rfl
  | extendPlatform | replaceArch | replaceCompiler => exact loaded

theorem lacksQthreads_change (held : facts.lacksQthreads = true) (change : Change) :
    (facts.change change).lacksQthreads = true := by
  rw [lacksQthreads, Bool.or_eq_true, Bool.or_eq_true, List.any_eq_true] at held ⊢
  rcases held with (arch | ⟨family, listed, within⟩) | compiler
  · refine Or.inl (Or.inl ?_)
    cases change with
    | replaceArch => rfl
    | extendPlatform | loadVendorModule | replaceCompiler => exact arch
  · exact Or.inl (Or.inr ⟨family, listed, inFamily_change within change⟩)
  · refine Or.inr ?_
    cases change with
    | replaceCompiler => rfl
    | extendPlatform | loadVendorModule | replaceArch => exact compiler

/-- Facts that meet whatever conditions others meet are in no lower row. -/
theorem precedence_decision_le {first second : Facts}
    (vendor : first.hasVendorRuntime = true → second.hasVendorRuntime = true)
    (lacks : first.lacksQthreads = true → second.lacksQthreads = true) :
    first.decision.rule.precedence ≤ second.decision.rule.precedence := by
  rcases first.decision_cases with ⟨held, said⟩ | ⟨-, held, said⟩ | ⟨-, -, said⟩
  · have same : first.decision = second.decision :=
      said.trans (decision_eq_muxed_iff.mpr (vendor held)).symm
    exact Nat.le_of_eq (congrArg (fun decision => decision.rule.precedence) same)
  · rcases second.decision_cases with ⟨-, said'⟩ | ⟨-, -, said'⟩ | ⟨-, notHeld, -⟩
    · rw [said, said']
      decide
    · have same : first.decision = second.decision := said.trans said'.symm
      exact Nat.le_of_eq (congrArg (fun decision => decision.rule.precedence) same)
    · exact absurd (lacks held) notHeld
  · rw [said]
    exact Nat.zero_le _

theorem precedence_decision_le_change (facts : Facts) (change : Change) :
    facts.decision.rule.precedence ≤ (facts.change change).decision.rule.precedence :=
  precedence_decision_le (fun held => hasVendorRuntime_change held change)
    fun held => lacksQthreads_change held change

theorem precedence_decision_le_changeAll (facts : Facts) (changes : List Change) :
    facts.decision.rule.precedence ≤ (facts.changeAll changes).decision.rule.precedence := by
  induction changes generalizing facts with
  | nil => exact Nat.le_refl _
  | cons change rest ih =>
      exact Nat.le_trans (facts.precedence_decision_le_change change) (ih (facts.change change))

theorem hasVendorRuntime_of_rule (first : facts.decision.rule = .vendorModule) :
    facts.hasVendorRuntime = true := by
  rcases facts.decision_cases with ⟨held, -⟩ | ⟨-, -, said⟩ | ⟨-, -, said⟩
  · exact held
  · rw [said] at first
    cases first
  · rw [said] at first
    cases first

/-- Without the vendor's row, the table has two rows. -/
theorem decision_of_not_hasVendorRuntime (notVendor : ¬ facts.hasVendorRuntime = true) :
    facts.decision =
      if facts.lacksQthreads then ⟨.fifo, .withoutQthreads⟩ else ⟨.qthreads, .otherwise⟩ :=
  if_neg notVendor

/-- What follows from the order of the rows for one target. -/
structure HeedsPrecedence (facts : Facts) : Prop where
  /-- No changes of the four kinds, in whatever number and order, bring the target into a
  lower row. -/
  goesUp : ∀ changes, facts.decision.rule.precedence ≤
    (facts.changeAll changes).decision.rule.precedence
  /-- In the highest row the architecture, the compiler and all that follows the family's name
  do not matter. -/
  settled : facts.decision.rule = .vendorModule → ∀ arch compiler suffix : String,
    { facts with arch, compiler, platform := facts.platform ++ suffix }.decision =
        facts.decision ∧
      { facts with arch, compiler, platform := "cray-x" ++ suffix }.decision = facts.decision
  /-- Without the vendor's module there is no use for what comes with it. -/
  unloaded : facts.usingVendorModule = false → facts.decision.backend ≠ .muxed
  /-- Outside the vendor's family the module makes no difference. -/
  elsewhere : ¬ "cray-x".toList <+: facts.platform.toList → ∀ loaded : Bool,
    { facts with usingVendorModule := loaded }.decision = facts.decision

/-- The table heeds the precedence of its rows. -/
theorem heeds_precedence (facts : Facts) : facts.HeedsPrecedence := by
  constructor
  case goesUp => exact facts.precedence_decision_le_changeAll
  case settled =>
    intro first arch compiler suffix
    have vendor := hasVendorRuntime_of_rule first
    obtain ⟨within, loaded⟩ := hasVendorRuntime_iff.mp vendor
    rw [decision_eq_muxed_iff.mpr vendor]
    refine ⟨decision_of_vendorFamily ?_ loaded, decision_of_vendorFamily ?_ loaded⟩
    · exact prefix_append_of_prefix within suffix
    · exact prefix_append_of_prefix (List.prefix_refl _) suffix
  case unloaded =>
    intro unloaded muxed
    have notVendor : ¬ facts.hasVendorRuntime = true := by
      intro vendor
      have loaded := (hasVendorRuntime_iff.mp vendor).2
      exact Bool.false_ne_true (unloaded.symm.trans loaded)
    rw [decision_of_not_hasVendorRuntime notVendor] at muxed
    split at muxed
    · cases muxed
    · cases muxed
  case elsewhere =>
    intro outside loaded
    have notVendor (loaded : Bool) :
        ¬ { facts with usingVendorModule := loaded }.hasVendorRuntime = true := by
      intro vendor
      exact outside (hasVendorRuntime_iff.mp vendor).1
    rw [decision_of_not_hasVendorRuntime (notVendor loaded),
      decision_of_not_hasVendorRuntime (notVendor facts.usingVendorModule)]
    rfl

/-- A longer name brings a target from the second row into the first, and what put it into the
second no longer matters there. -/
theorem heeds_precedence_behind_longer_name :
    ∃ facts : Facts, facts.decision = ⟨.fifo, .withoutQthreads⟩ ∧
      (facts.change (.extendPlatform "xc")).decision.rule = .vendorModule ∧
      { facts with arch := "none", compiler := "", platform := "cray-x" ++ "e" }.decision =
        (facts.change (.extendPlatform "xc")).decision := by
  have first : ({ arch := "knc", platform := "cray-xc", usingVendorModule := true } :
      Facts).decision.rule = .vendorModule := by decide
  exact ⟨{ arch := "knc", platform := "cray-", usingVendorModule := true }, by decide, first,
    ((heeds_precedence _).settled first "none" "" "e").2⟩

end Facts

end Tasking
