/-
# What the probe over settings answers

Every question to the probe is a small computation over lookups. This module
says in closed form what each of them finds out over one source, so that later
arguments speak of settings and not of the order in which they are looked up.
-/

import Tasking.Probe

namespace Tasking

theorem givenSameDirectory_iff {first second : Option String} :
    givenSameDirectory first second = true ↔
      ∃ home moduleHome, first = some home ∧ second = some moduleHome ∧
        Path.sameDirectory home moduleHome = true := by
  cases first with
  | none =>
      refine iff_of_false Bool.false_ne_true ?_
      rintro ⟨home, moduleHome, given, -⟩
      cases given
  | some home =>
      cases second with
      | none =>
          refine iff_of_false Bool.false_ne_true ?_
          rintro ⟨home, moduleHome, -, given, -⟩
          cases given
      | some moduleHome =>
          constructor
          · intro same
            exact ⟨home, moduleHome, rfl, rfl, same⟩
          · rintro ⟨home', moduleHome', given, given', same⟩
            cases given
            cases given'
            exact same

namespace Probe

variable (source : Source)

theorem value_arch (side : Side) (lcd : Bool) :
    (ofSettings.arch side lcd).value source =
      if lcd then leastCommonArch ((present (source (.arch side))).getD "")
      else (present (source (.arch side))).getD "" := rfl

theorem value_compiler (side : Side) :
    (ofSettings.compiler side).value source = (present (source (.compiler side))).getD "" := rfl

theorem value_vendorModule :
    ofSettings.vendorModule.value source =
      givenSameDirectory (present (source .home)) (present (source .moduleHome)) := rfl

/-- The platform of the host is the first of two settings that is present. -/
theorem value_platform_host :
    (ofSettings.platform .host).value source =
      (([.platform .host, .anyPlatform] : List Setting).findSome?
        fun setting => present (source setting)).getD builtInPlatform := by
  change hostPlatform.value source = _
  rw [hostPlatform, Query.value_bind, Query.value_setting, List.findSome?_cons]
  cases present (source (.platform .host)) with
  | some platform => rfl
  | none =>
      rw [List.findSome?_cons]
      cases given : present (source .anyPlatform) with
      | some platform => simp [given]
      | none => simp [given]

/-- The platform of the target is the first of three settings that is present. -/
theorem value_platform_target :
    (ofSettings.platform .target).value source =
      (([.platform .target, .platform .host, .anyPlatform] : List Setting).findSome?
        fun setting => present (source setting)).getD builtInPlatform := by
  change targetPlatform.value source = _
  rw [targetPlatform, Query.value_bind, Query.value_setting, List.findSome?_cons]
  cases present (source (.platform .target)) with
  | some platform => rfl
  | none => exact value_platform_host source

theorem value_targetFacts (probe : Probe) :
    probe.targetFacts.value source =
      { arch := (probe.arch .target true).value source
        platform := (probe.platform .target).value source
        compiler := (probe.compiler .target).value source
        usingVendorModule := probe.vendorModule.value source } := by
  simp only [targetFacts, Query.value_bind, Query.pure_eq_done, Query.value_done]

/-- Without the user's own setting, a selection is what the table says about the facts,
and with it the facts are not asked for. -/
theorem value_select (probe : Probe) :
    probe.select.value source =
      match present (source .tasks) with
      | some text => .ofOverride text
      | none => .ofFacts (probe.targetFacts.value source) := by
  cases given : present (source .tasks) with
  | some text => exact value_select_of_present given
  | none => exact value_select_of_absent given

end Probe

end Tasking
