/-
# Which row of the decision table applies

The rows overlap, so the conditions of a row are not the whole story about it: a
row is taken only where no earlier row is. For each of the three results the
table can have, this module says exactly which facts have it.
-/

import Tasking.Decision

namespace Tasking.Facts

theorem hasVendorRuntime_iff {facts : Facts} :
    facts.hasVendorRuntime = true ↔
      "cray-x".toList <+: facts.platform.toList ∧ facts.usingVendorModule = true := by
  rw [hasVendorRuntime, Bool.and_eq_true, inFamily_iff]
  rfl

theorem lacksQthreads_iff {facts : Facts} :
    facts.lacksQthreads = true ↔
      facts.arch = "knc" ∨
        ("cygwin".toList <+: facts.platform.toList ∨ "netbsd".toList <+: facts.platform.toList) ∨
        facts.compiler = "cray-prgenv-cray" := by
  have families : familiesWithoutQthreads.any facts.inFamily = true ↔
      "cygwin".toList <+: facts.platform.toList ∨ "netbsd".toList <+: facts.platform.toList := by
    rw [familiesWithoutQthreads, List.any_cons, List.any_cons, List.any_nil, Bool.or_false,
      Bool.or_eq_true, inFamily_iff, inFamily_iff]
  rw [lacksQthreads, Bool.or_eq_true, Bool.or_eq_true, families, beq_iff_eq, beq_iff_eq, or_assoc]
  rfl

/-- Everything that the table can say, each result with its exact condition. -/
theorem decision_cases (facts : Facts) :
    facts.hasVendorRuntime = true ∧ facts.decision = ⟨.muxed, .vendorModule⟩ ∨
      ¬ facts.hasVendorRuntime = true ∧ facts.lacksQthreads = true ∧
        facts.decision = ⟨.fifo, .withoutQthreads⟩ ∨
      ¬ facts.hasVendorRuntime = true ∧ ¬ facts.lacksQthreads = true ∧
        facts.decision = ⟨.qthreads, .otherwise⟩ := by
  unfold decision
  by_cases vendor : facts.hasVendorRuntime = true
  · exact Or.inl ⟨vendor, if_pos vendor⟩
  · rw [if_neg vendor]
    by_cases lacks : facts.lacksQthreads = true
    · exact Or.inr (Or.inl ⟨vendor, lacks, if_pos lacks⟩)
    · exact Or.inr (Or.inr ⟨vendor, lacks, if_neg lacks⟩)

theorem decision_eq_muxed_iff {facts : Facts} :
    facts.decision = ⟨.muxed, .vendorModule⟩ ↔ facts.hasVendorRuntime = true := by
  rcases facts.decision_cases with ⟨vendor, said⟩ | ⟨vendor, -, said⟩ | ⟨vendor, -, said⟩
  · exact iff_of_true said vendor
  · rw [said]
    exact iff_of_false (by decide) vendor
  · rw [said]
    exact iff_of_false (by decide) vendor

theorem decision_of_vendorFamily {facts : Facts}
    (within : "cray-x".toList <+: facts.platform.toList)
    (usingModule : facts.usingVendorModule = true) :
    facts.decision = ⟨.muxed, .vendorModule⟩ := by
  rw [decision_eq_muxed_iff, hasVendorRuntime_iff]
  exact ⟨within, usingModule⟩

theorem decision_eq_fifo_iff {facts : Facts} :
    facts.decision = ⟨.fifo, .withoutQthreads⟩ ↔
      ¬ facts.hasVendorRuntime = true ∧ facts.lacksQthreads = true := by
  rcases facts.decision_cases with ⟨vendor, said⟩ | ⟨vendor, lacks, said⟩ | ⟨-, lacks, said⟩
  · rw [said]
    exact iff_of_false (by decide) (fun held => held.1 vendor)
  · exact iff_of_true said ⟨vendor, lacks⟩
  · rw [said]
    exact iff_of_false (by decide) (fun held => lacks held.2)

theorem decision_eq_qthreads_iff {facts : Facts} :
    facts.decision = ⟨.qthreads, .otherwise⟩ ↔
      ¬ facts.hasVendorRuntime = true ∧ ¬ facts.lacksQthreads = true := by
  rcases facts.decision_cases with ⟨vendor, said⟩ | ⟨-, lacks, said⟩ | ⟨vendor, lacks, said⟩
  · rw [said]
    exact iff_of_false (by decide) (fun held => held.1 vendor)
  · rw [said]
    exact iff_of_false (by decide) (fun held => held.2 lacks)
  · exact iff_of_true said ⟨vendor, lacks⟩

/-- The row that chooses a backend. There is one for each. -/
def rowOf : Backend → Rule
  | .muxed => .vendorModule
  | .fifo => .withoutQthreads
  | .qthreads => .otherwise

theorem decision_eq_rowOf (facts : Facts) :
    facts.decision = ⟨facts.decision.backend, rowOf facts.decision.backend⟩ := by
  rcases facts.decision_cases with ⟨-, said⟩ | ⟨-, -, said⟩ | ⟨-, -, said⟩
  · rw [said, rowOf]
  · rw [said, rowOf]
  · rw [said, rowOf]

/-- So whoever knows the backend knows the row. -/
theorem decision_eq_of_backend_eq {first second : Facts}
    (same : first.decision.backend = second.decision.backend) :
    first.decision = second.decision := by
  calc first.decision = ⟨first.decision.backend, rowOf first.decision.backend⟩ :=
        first.decision_eq_rowOf
    _ = ⟨second.decision.backend, rowOf second.decision.backend⟩ := by rw [same]
    _ = second.decision := second.decision_eq_rowOf.symm

end Tasking.Facts
