/-
# The vendor's module is recognised by where its directory lies

Nothing is looked up on a disk, so "one directory" can only mean: the same directory from
every working directory.
-/

import Tasking.Proofs.Path.Separation
import Tasking.Proofs.Probe.Answers

namespace Tasking

theorem vendorModule_iff_sameDirectory (source : Source) :
    Probe.ofSettings.vendorModule.value source = true ↔
      ∃ home moduleHome, (source .home = some home ∧ home ≠ "") ∧
        (source .moduleHome = some moduleHome ∧ moduleHome ≠ "") ∧
        Path.sameDirectory home moduleHome = true := by
  rw [Probe.value_vendorModule, givenSameDirectory_iff]
  simp only [present_eq_some_iff]

/-- The vendor's module is recognised exactly if both directories are given and following either
leads to the same place from everywhere. Different normal forms are told apart even by a working
directory with ordinary names only. -/
theorem vendorModule_iff_resolve_eq (lookUp : String → Option String) :
    (Probe.ofSettings.vendorModule.value (fun setting => lookUp setting.name) = true ↔
      ∃ home moduleHome, (lookUp "CHPL_HOME" = some home ∧ home ≠ "") ∧
        (lookUp "CHPL_MODULE_HOME" = some moduleHome ∧ moduleHome ≠ "") ∧
        ∀ start, Path.resolve start home = Path.resolve start moduleHome) ∧
    ∀ first second,
      (Path.normalForm first = Path.normalForm second ↔
        ∀ start, Path.resolve start first = Path.resolve start second) ∧
      (Path.normalForm first ≠ Path.normalForm second ↔
        ∃ start : Path.Location, (∀ name ∈ start, Path.IsOrdinaryName name) ∧
          Path.resolve start first ≠ Path.resolve start second) := by
  refine ⟨?_, fun first second => ⟨?_, ?_, ?_⟩⟩
  · rw [vendorModule_iff_sameDirectory]
    simp only [Path.sameDirectory_iff_resolve_eq]
    rfl
  · rw [← Path.sameDirectory_iff]
    exact Path.sameDirectory_iff_resolve_eq
  · exact Path.exists_resolve_ne
  · rintro ⟨start, -, apart⟩ same
    exact apart (Path.resolve_eq_of_normalForm_eq same start)

end Tasking
