/-
# Damaged variables

Nothing makes a variable of a process hold well-formed text. What is damaged is replaced
where it stands, and everything well formed around it is read as it is. In particular, a
variable with any bytes in it never becomes the empty text, which would count as absent,
and the family that a platform begins with is known whatever follows.
-/

import Tasking.Proofs.FirstSelection
import Tasking.Proofs.Text.Decoding
import Tasking.RawSession

namespace Tasking

open Utf8 (encode decodeLossy)

/-- Decoding keeps apart what counts as present and what does not. -/
theorem present_map_decodeLossy (value : Option Bytes) :
    present (value.map decodeLossy) =
      (value.filter fun bytes => bytes ≠ []).map decodeLossy := by
  cases value with
  | none => rfl
  | some bytes =>
      by_cases empty : bytes = []
      · rw [empty, Option.map_some, Utf8.decodeLossy_nil]
        rfl
      · rw [Option.map_some, present_some (mt Utf8.decodeLossy_eq_empty_iff.mp empty),
          Option.filter_some, if_pos (decide_eq_true empty), Option.map_some]

namespace Facts

variable {facts : Facts}

/-- The name of a platform has one beginning of each length. -/
theorem not_prefix_of_length_eq {first : String} (second : String)
    (within : first.toList <+: facts.platform.toList)
    (long : first.toList.length = second.toList.length) (apart : first ≠ second) :
    ¬ second.toList <+: facts.platform.toList := by
  intro other
  have nested := List.prefix_of_prefix_length_le within other (Nat.le_of_eq long)
  exact apart (String.toList_injective (nested.eq_of_length long))

/-- The vendor's family is none of those without `qthreads`, so these need no look at the
vendor's module. -/
theorem decision_of_familyWithoutQthreads {family : String}
    (lacking : family = "cygwin" ∨ family = "netbsd")
    (within : family.toList <+: facts.platform.toList) :
    facts.decision = ⟨.fifo, .withoutQthreads⟩ := by
  have notVendor : ¬ "cray-x".toList <+: facts.platform.toList := by
    rcases lacking with rfl | rfl
    · exact not_prefix_of_length_eq "cray-x" within (by simp) (by decide)
    · exact not_prefix_of_length_eq "cray-x" within (by simp) (by decide)
  have either : "cygwin".toList <+: facts.platform.toList ∨
      "netbsd".toList <+: facts.platform.toList := by
    rcases lacking with rfl | rfl
    · exact Or.inl within
    · exact Or.inr within
  rw [decision_eq_fifo_iff, hasVendorRuntime_iff, lacksQthreads_iff]
  exact ⟨fun vendor => notVendor vendor.1, Or.inr (Or.inl either)⟩

end Facts

namespace Environment

variable {environment : Environment Bytes}

/-- A name without an equals sign finds the decoded bytes, and counts as present exactly
if there are any. -/
theorem reachAll_eq {names : List String} (plain : ∀ name ∈ names, '=' ∉ name.toList) :
    environment.reachAll names = names.map fun name =>
      { name
        value := (environment.get? name).map decodeLossy
        presentValue :=
          ((environment.get? name).filter fun bytes => bytes ≠ []).map decodeLossy } := by
  apply List.map_congr_left
  intro name among
  rw [environment.reach?_of_not_mem (plain name among), Variable.ofAnswer,
    present_map_decodeLossy]

theorem present_byteSource (environment : Environment Bytes) (setting : Setting) :
    present (environment.byteSource setting) =
      ((environment.get? setting.name).filter fun bytes => bytes ≠ []).map decodeLossy :=
  present_map_decodeLossy _

theorem present_byteSource_of_ne_nil {setting : Setting} {bytes : Bytes}
    (given : environment.get? setting.name = some bytes) (filled : bytes ≠ []) :
    present (environment.byteSource setting) = some (decodeLossy bytes) := by
  rw [present_byteSource, given, Option.filter_some, if_pos (decide_eq_true filled),
    Option.map_some]

theorem present_byteSource_of_missing {setting : Setting}
    (missing : environment.get? setting.name = none ∨ environment.get? setting.name = some []) :
    present (environment.byteSource setting) = none := by
  rw [present_byteSource]
  rcases missing with missing | missing
  · rw [missing]
    rfl
  · rw [missing]
    rfl

/-- The family in front of a platform is read as it is, whatever bytes follow. -/
theorem platform_targetFacts_of_family {family : String} {behind : Bytes} (filled : family ≠ "")
    (given : environment.get? "CHPL_TARGET_PLATFORM" = some (encode family ++ behind)) :
    (Probe.ofSettings.targetFacts.value environment.byteSource).platform =
      family ++ decodeLossy behind := by
  have bytes : encode family ++ behind ≠ [] := by
    intro nothing
    have empty := Utf8.decodeLossy_encode_append family behind
    rw [nothing, Utf8.decodeLossy_nil] at empty
    exact filled (String.append_eq_empty_iff.mp empty.symm).1
  have read : present (environment.byteSource (.platform .target)) =
      some (family ++ decodeLossy behind) := by
    rw [present_byteSource_of_ne_nil given bytes, Utf8.decodeLossy_encode_append]
  rw [Probe.value_targetFacts, Probe.value_platform_target, List.findSome?_cons, read]
  rfl

end Environment

namespace RawSession

variable {environment : Environment Bytes} (given : Facts)

theorem answer_selection_of_override {bytes : Bytes}
    (tasks : environment.get? "CHPL_TASKS" = some bytes) (filled : bytes ≠ []) :
    (freshSelector.answer given environment.byteSource .selection).answer =
      .selection (.ofOverride (decodeLossy bytes)) := by
  show Answer.selection (Probe.ofSettings.select.value environment.byteSource) = _
  have text : present (environment.byteSource .tasks) = some (decodeLossy bytes) :=
    Environment.present_byteSource_of_ne_nil tasks filled
  rw [Probe.value_select, text]

/-- Without the user's own setting, the facts that decide have the family in front of their
platform. -/
theorem exists_answer_selection_of_family {family : String} {behind : Bytes}
    (filled : family ≠ "")
    (missing : environment.get? "CHPL_TASKS" = none ∨ environment.get? "CHPL_TASKS" = some [])
    (platform : environment.get? "CHPL_TARGET_PLATFORM" = some (encode family ++ behind)) :
    ∃ facts : Facts, facts.platform = family ++ decodeLossy behind ∧
      family.toList <+: facts.platform.toList ∧
      facts.usingVendorModule = Probe.ofSettings.vendorModule.value environment.byteSource ∧
      (freshSelector.answer given environment.byteSource .selection).answer =
        .selection (.ofFacts facts) := by
  have nothing : present (environment.byteSource .tasks) = none :=
    Environment.present_byteSource_of_missing missing
  have read := Environment.platform_targetFacts_of_family filled platform
  refine ⟨Probe.ofSettings.targetFacts.value environment.byteSource, read, ?_, ?_, ?_⟩
  · rw [read, String.toList_append]
    exact List.prefix_append family.toList (decodeLossy behind).toList
  · rw [Probe.value_targetFacts]
  · show Answer.selection (Probe.ofSettings.select.value environment.byteSource) = _
    rw [Probe.value_select, nothing]

/-- A family without `qthreads` gets `fifo`, whatever bytes follow its name. -/
theorem exists_answer_selection_fifo {family : String} {behind : Bytes}
    (lacking : family = "cygwin" ∨ family = "netbsd")
    (missing : environment.get? "CHPL_TASKS" = none ∨ environment.get? "CHPL_TASKS" = some [])
    (platform : environment.get? "CHPL_TARGET_PLATFORM" = some (encode family ++ behind)) :
    ∃ facts : Facts, facts.platform = family ++ decodeLossy behind ∧
      (freshSelector.answer given environment.byteSource .selection).answer =
        .selection ⟨.fromTable .fifo, .withoutQthreads, some facts⟩ := by
  have filled : family ≠ "" := by
    rcases lacking with rfl | rfl
    · decide
    · decide
  obtain ⟨facts, read, within, -, selected⟩ :=
    exists_answer_selection_of_family given filled missing platform
  refine ⟨facts, read, ?_⟩
  rw [selected, Selection.ofFacts, Facts.decision_of_familyWithoutQthreads lacking within]

/-- The vendor's family gets `muxed` along with the vendor's module, whatever bytes follow its
name. -/
theorem exists_answer_selection_muxed {behind : Bytes}
    (vendorModule : Probe.ofSettings.vendorModule.value environment.byteSource = true)
    (missing : environment.get? "CHPL_TASKS" = none ∨ environment.get? "CHPL_TASKS" = some [])
    (platform : environment.get? "CHPL_TARGET_PLATFORM" = some (encode "cray-x" ++ behind)) :
    ∃ facts : Facts, facts.platform = "cray-x" ++ decodeLossy behind ∧
      (freshSelector.answer given environment.byteSource .selection).answer =
        .selection ⟨.fromTable .muxed, .vendorModule, some facts⟩ := by
  obtain ⟨facts, read, within, usingModule, selected⟩ :=
    exists_answer_selection_of_family given (by decide) missing platform
  rw [vendorModule] at usingModule
  refine ⟨facts, read, ?_⟩
  rw [selected, Selection.ofFacts, Facts.decision_of_vendorFamily within usingModule]

/-- Bytes that are no text stay where they are in what is read, and whatever else is there
is read as it is. So a variable is present exactly if it holds any bytes, the user's own
setting is taken as it is read, and the family that a platform begins with decides, whatever
follows it. -/
theorem damage_stays_local :
    (∀ (before behind : Bytes) (text : String), text ≠ "" →
      decodeLossy (before ++ encode text ++ behind) =
        decodeLossy before ++ text ++ decodeLossy behind) ∧
    (∀ text, decodeLossy (encode text) = text) ∧
    (∀ bytes, decodeLossy bytes = "" ↔ bytes = []) ∧
    ∀ environment : Environment Bytes,
      (∀ names : List String, (∀ name ∈ names, '=' ∉ name.toList) →
        environment.reachAll names = names.map fun name =>
          { name
            value := (environment.get? name).map decodeLossy
            presentValue :=
              ((environment.get? name).filter fun bytes => bytes ≠ []).map decodeLossy }) ∧
      (∀ bytes, environment.get? "CHPL_TASKS" = some bytes → bytes ≠ [] → ∀ given,
        (freshSelector.answer given environment.byteSource .overrideText).answer =
            .textIfAny (some (decodeLossy bytes)) ∧
          (freshSelector.answer given environment.byteSource .selection).answer =
            .selection ⟨.override (decodeLossy bytes), .override, none⟩) ∧
      ((environment.get? "CHPL_TASKS" = none ∨ environment.get? "CHPL_TASKS" = some []) →
        ∀ (family : String) (behind : Bytes),
          environment.get? "CHPL_TARGET_PLATFORM" = some (encode family ++ behind) → ∀ given,
            (family = "cygwin" ∨ family = "netbsd" →
              ∃ facts, facts.platform = family ++ decodeLossy behind ∧
                (freshSelector.answer given environment.byteSource .selection).answer =
                  .selection ⟨.fromTable .fifo, .withoutQthreads, some facts⟩) ∧
            (family = "cray-x" →
              Probe.ofSettings.vendorModule.value environment.byteSource = true →
                ∃ facts, facts.platform = family ++ decodeLossy behind ∧
                  (freshSelector.answer given environment.byteSource .selection).answer =
                    .selection ⟨.fromTable .muxed, .vendorModule, some facts⟩)) := by
  refine ⟨?_, Utf8.decodeLossy_encode, fun _ => Utf8.decodeLossy_eq_empty_iff, ?_⟩
  · intro before behind text filled
    exact Utf8.decodeLossy_append_encode before behind filled
  · intro environment
    refine ⟨?_, ?_, ?_⟩
    · intro names plain
      exact Environment.reachAll_eq plain
    · intro bytes tasks filled given
      have text : present (environment.byteSource .tasks) = some (decodeLossy bytes) :=
        Environment.present_byteSource_of_ne_nil tasks filled
      exact ⟨congrArg Answer.textIfAny text, answer_selection_of_override given tasks filled⟩
    · intro missing family behind platform given
      constructor
      · intro lacking
        exact exists_answer_selection_fifo given lacking missing platform
      · rintro rfl vendorModule
        exact exists_answer_selection_muxed given vendorModule missing platform

/-- A truncated character before a text and a stray byte behind it; and variables that hold
nothing but a stray byte, or have one behind the name of a family. -/
theorem damage_stays_local_between_faults :
    ("é" ≠ "" ∧
      decodeLossy ([0xE2, 0x82] ++ encode "é" ++ [0xFF]) =
        decodeLossy [0xE2, 0x82] ++ "é" ++ decodeLossy [0xFF]) ∧
    (∃ environment : Environment Bytes, environment.get? "CHPL_TASKS" = some [0xFF] ∧
      '=' ∉ "CHPL_TASKS".toList ∧
      environment.reachAll ["CHPL_TASKS"] =
        [⟨"CHPL_TASKS", some (decodeLossy [0xFF]), some (decodeLossy [0xFF])⟩] ∧
      (freshSelector.answer .unknown environment.byteSource .selection).answer =
        .selection ⟨.override (decodeLossy [0xFF]), .override, none⟩) ∧
    (∃ environment : Environment Bytes, environment.get? "CHPL_TASKS" = none ∧
      environment.get? "CHPL_TARGET_PLATFORM" = some (encode "cygwin" ++ [0xFF]) ∧
      ∃ facts : Facts, facts.platform = "cygwin" ++ decodeLossy [0xFF] ∧
        (freshSelector.answer .unknown environment.byteSource .selection).answer =
          .selection ⟨.fromTable .fifo, .withoutQthreads, some facts⟩) ∧
    ∃ environment : Environment Bytes, environment.get? "CHPL_TASKS" = none ∧
      environment.get? "CHPL_TARGET_PLATFORM" = some (encode "cray-x" ++ [0xFF]) ∧
      Probe.ofSettings.vendorModule.value environment.byteSource = true ∧
      ∃ facts : Facts, facts.platform = "cray-x" ++ decodeLossy [0xFF] ∧
        (freshSelector.answer .unknown environment.byteSource .selection).answer =
          .selection ⟨.fromTable .muxed, .vendorModule, some facts⟩ := by
  obtain ⟨between, decoded, -, found⟩ := damage_stays_local
  have filled : "é" ≠ "" := by decide
  refine ⟨⟨filled, between _ _ _ filled⟩, ?_, ?_, ?_⟩
  · have tasks : (Environment.empty.insert "CHPL_TASKS" ([0xFF] : Bytes)).get? "CHPL_TASKS" =
        some [0xFF] := by
      simp [Environment.get?_insert]
    have plain : '=' ∉ "CHPL_TASKS".toList := by decide
    obtain ⟨reached, overridden, -⟩ := found (Environment.empty.insert "CHPL_TASKS" [0xFF])
    have shown := reached _ (List.forall_mem_singleton.mpr plain)
    rw [List.map_singleton, tasks] at shown
    exact ⟨_, tasks, plain, shown, (overridden _ tasks (List.cons_ne_nil _ _) _).2⟩
  · obtain ⟨-, -, decides⟩ := found
      (Environment.empty.insert "CHPL_TARGET_PLATFORM" (encode "cygwin" ++ [0xFF]))
    have tasks : (Environment.empty.insert "CHPL_TARGET_PLATFORM"
        (encode "cygwin" ++ [0xFF])).get? "CHPL_TASKS" = none := by
      simp [Environment.get?_insert]
    have platform : (Environment.empty.insert "CHPL_TARGET_PLATFORM"
        (encode "cygwin" ++ [0xFF])).get? "CHPL_TARGET_PLATFORM" =
          some (encode "cygwin" ++ [0xFF]) := by
      simp [Environment.get?_insert]
    exact ⟨_, tasks, platform, (decides (Or.inl tasks) _ _ platform _).1 (Or.inl rfl)⟩
  · have vendor : ∃ environment : Environment Bytes, environment.get? "CHPL_TASKS" = none ∧
        environment.get? "CHPL_TARGET_PLATFORM" = some (encode "cray-x" ++ [0xFF]) ∧
        environment.get? "CHPL_HOME" = some (encode "/opt") ∧
        environment.get? "CHPL_MODULE_HOME" = some (encode "/opt/") :=
      ⟨((Environment.empty.insert "CHPL_TARGET_PLATFORM" (encode "cray-x" ++ [0xFF])).insert
        "CHPL_HOME" (encode "/opt")).insert "CHPL_MODULE_HOME" (encode "/opt/"), by
          simp [Environment.get?_insert]⟩
    obtain ⟨environment, tasks, platform, home, moduleHome⟩ := vendor
    have vendorModule : Probe.ofSettings.vendorModule.value environment.byteSource = true := by
      show givenSameDirectory (present ((environment.get? "CHPL_HOME").map decodeLossy))
        (present ((environment.get? "CHPL_MODULE_HOME").map decodeLossy)) = true
      rw [home, moduleHome, Option.map_some, Option.map_some, decoded, decoded]
      decide
    obtain ⟨-, -, decides⟩ := found environment
    exact ⟨environment, tasks, platform, vendorModule,
      (decides (Or.inl tasks) _ _ platform _).2 rfl vendorModule⟩

end RawSession

end Tasking
