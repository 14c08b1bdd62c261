/-
# The two sides of a cross build

What is found out about one side of a cross build comes from the settings of that side, and
for the platform also from the setting for either side. There is one way from one side to
the other, and it goes in one direction: a target without a platform of its own has the
platform of its host. Everything else that is set for one side leaves the answers about the
other as they are.

The settings that count are listed here for each side. Whatever agrees on the listed ones
gives the same answers, and what is said of named variables follows by looking at which of
them the lists leave out.
-/

import Tasking.Proofs.Probe.Presence
import Tasking.Proofs.Probe.Soundness
import Tasking.Proofs.Probe.VendorModule
import Tasking.Proofs.Text.Decoding
import Tasking.RawSession

namespace Tasking

namespace Probe

def settingsOf : Side → List Setting
  | .host => [.arch .host, .compiler .host, .platform .host, .anyPlatform]
  | .target => [.arch .target, .compiler .target, .platform .target, .platform .host, .anyPlatform]

structure AnswersAlike (side : Side) (first second : Source) : Prop where
  arch : ∀ lcd, (ofSettings.arch side lcd).value first = (ofSettings.arch side lcd).value second
  platform : (ofSettings.platform side).value first = (ofSettings.platform side).value second
  compiler : (ofSettings.compiler side).value first = (ofSettings.compiler side).value second

variable {first second : Source} {side : Side}

/-- The settings listed for a side are all that its answers can tell apart. -/
theorem answersAlike_of_settingsOf
    (same : ∀ setting ∈ settingsOf side, present (first setting) = present (second setting)) :
    AnswersAlike side first second := by
  have arch : present (first (.arch side)) = present (second (.arch side)) := by
    cases side <;> exact same _ (by decide)
  have compiler : present (first (.compiler side)) = present (second (.compiler side)) := by
    cases side <;> exact same _ (by decide)
  constructor
  case arch =>
    intro lcd
    rw [value_arch, value_arch, arch]
  case platform =>
    cases side with
    | host =>
        rw [value_platform_host, value_platform_host]
        simp only [List.findSome?_cons, List.findSome?_nil, same (.platform .host) (by decide),
          same .anyPlatform (by decide)]
    | target =>
        rw [value_platform_target, value_platform_target]
        simp only [List.findSome?_cons, List.findSome?_nil, same (.platform .target) (by decide),
          same (.platform .host) (by decide), same .anyPlatform (by decide)]
  case compiler => rw [value_compiler, value_compiler, compiler]

theorem value_targetFacts_congr
    (same : ∀ setting ∈ factSettings, present (first setting) = present (second setting)) :
    ofSettings.targetFacts.value first = ofSettings.targetFacts.value second := by
  have heeds := heedsPresence_targetFacts_ofSettings
  refine (heeds.value_congr fun setting seen => same setting ?_).symm
  exact looksUpInOrder_targetFacts_ofSettings.mem_of_lookedUp seen

/-- Its own platform is all that a target with one needs to have. -/
theorem value_platform_target_of_present {source : Source} {platform : String}
    (given : present (source (.platform .target)) = some platform) :
    (ofSettings.platform .target).value source = platform := by
  rw [value_platform_target, List.findSome?_cons, given]
  rfl

/-- A target without a platform of its own has the platform of its host. -/
theorem value_platform_target_of_absent {source : Source}
    (absent : present (source (.platform .target)) = none) :
    (ofSettings.platform .target).value source = (ofSettings.platform .host).value source := by
  rw [value_platform_target, value_platform_host, List.findSome?_cons, absent]

theorem value_platform_ne_empty (side : Side) (source : Source) :
    (ofSettings.platform side).value source ≠ "" := by
  cases side with
  | host => exact ensures_hostPlatform.value source
  | target => exact ensures_targetPlatform.value source

/-- The least common form replaces one name by another. -/
theorem value_arch_lcd (side : Side) (source : Source) :
    (ofSettings.arch side true).value source =
      if (ofSettings.arch side false).value source = "native" then "none"
      else (ofSettings.arch side false).value source := rfl

end Probe

/-- Settings as they are found under the names of their variables, whoever keeps these. Texts
are found as they are, and the bytes of a process are decoded at each lookup. -/
def Source.ofVariables (find : String → Option String) : Source :=
  fun setting => find setting.name

/-- Of every variable but these the same is found, with the empty text counted as nothing. -/
def AgreeBut (names : List String) (first second : String → Option String) : Prop :=
  ∀ name ∉ names, present (first name) = present (second name)

theorem AgreeBut.of_names {names : List String} {first second : String → Option String}
    (agree : AgreeBut names first second) {settings : List Setting}
    (others : ∀ setting ∈ settings, setting.name ∉ names) :
    ∀ setting ∈ settings,
      present (Source.ofVariables first setting) = present (Source.ofVariables second setting) :=
  fun setting among => agree setting.name (others setting among)

structure KeepsSidesApart (first second : String → Option String) : Prop where
  /-- What is set for the target alone makes no difference to the host. -/
  host :
    AgreeBut ["CHPL_TARGET_ARCH", "CHPL_TARGET_PLATFORM", "CHPL_TARGET_COMPILER"] first second →
      Probe.AnswersAlike .host (.ofVariables first) (.ofVariables second)
  /-- The host's architecture and compiler make no difference to the target. -/
  target : AgreeBut ["CHPL_HOST_ARCH", "CHPL_HOST_COMPILER"] first second →
    Probe.AnswersAlike .target (.ofVariables first) (.ofVariables second) ∧
      Probe.ofSettings.targetFacts.value (.ofVariables first) =
        Probe.ofSettings.targetFacts.value (.ofVariables second)
  /-- To a target with a platform of its own nothing else makes a difference. -/
  ownPlatform : ∀ platform, platform ≠ "" → first "CHPL_TARGET_PLATFORM" = some platform →
    second "CHPL_TARGET_PLATFORM" = some platform →
      (Probe.ofSettings.platform .target).value (.ofVariables first) =
        (Probe.ofSettings.platform .target).value (.ofVariables second)

structure AnswersInFull (find : String → Option String) : Prop where
  /-- There always is a platform. -/
  platform : ∀ side, (Probe.ofSettings.platform side).value (.ofVariables find) ≠ ""
  /-- A target without a platform of its own has that of the host. -/
  fromHost : find "CHPL_TARGET_PLATFORM" = none ∨ find "CHPL_TARGET_PLATFORM" = some "" →
    (Probe.ofSettings.platform .target).value (.ofVariables find) =
      (Probe.ofSettings.platform .host).value (.ofVariables find)
  /-- The least common form of an architecture is another one for one name only. -/
  leastCommon : ∀ side,
    ((Probe.ofSettings.arch side false).value (.ofVariables find) = "native" →
      (Probe.ofSettings.arch side true).value (.ofVariables find) = "none") ∧
    ((Probe.ofSettings.arch side false).value (.ofVariables find) ≠ "native" →
      (Probe.ofSettings.arch side true).value (.ofVariables find) =
        (Probe.ofSettings.arch side false).value (.ofVariables find))

theorem keepsSidesApart (first second : String → Option String) :
    KeepsSidesApart first second := by
  constructor
  case host =>
    intro agree
    apply Probe.answersAlike_of_settingsOf
    exact agree.of_names (by decide)
  case target =>
    intro agree
    constructor
    · apply Probe.answersAlike_of_settingsOf
      exact agree.of_names (by decide)
    · apply Probe.value_targetFacts_congr
      exact agree.of_names (by decide)
  case ownPlatform =>
    intro platform filled given given'
    have own {find : String → Option String}
        (given : find "CHPL_TARGET_PLATFORM" = some platform) :
        (Probe.ofSettings.platform .target).value (.ofVariables find) = platform :=
      Probe.value_platform_target_of_present (present_eq_some_iff.mpr ⟨given, filled⟩)
    rw [own given, own given']

theorem answersInFull (find : String → Option String) : AnswersInFull find := by
  constructor
  case platform =>
    intro side
    exact Probe.value_platform_ne_empty side (.ofVariables find)
  case fromHost =>
    intro missing
    apply Probe.value_platform_target_of_absent
    exact present_eq_none_iff.mpr missing
  case leastCommon =>
    intro side
    rw [Probe.value_arch_lcd]
    exact ⟨fun native => if_pos native, fun other => if_neg other⟩

/-- The two sides of a cross build are answered for separately, but for the platform that a
target takes over from its host. -/
theorem sides_are_apart (first second : String → Option String) :
    KeepsSidesApart first second ∧ AnswersInFull first :=
  ⟨keepsSidesApart first second, answersInFull first⟩

/-- A host's platform stays what it is when its target gets one, and is no longer the
target's. The first environment is a table of texts, the second is that of a process. -/
theorem sides_are_apart_once_target_has_platform :
    ∃ (first : Environment String) (second : Environment Bytes),
      AgreeBut ["CHPL_TARGET_ARCH", "CHPL_TARGET_PLATFORM", "CHPL_TARGET_COMPILER"] first.get?
        second.decoded.get? ∧
      Probe.AnswersAlike .host (.ofVariables first.get?) (.ofVariables second.decoded.get?) ∧
      first.get? "CHPL_TARGET_PLATFORM" = none ∧
      (Probe.ofSettings.platform .target).value first.source =
        (Probe.ofSettings.platform .host).value first.source ∧
      (Probe.ofSettings.platform .target).value second.byteSource ≠
        (Probe.ofSettings.platform .host).value second.byteSource := by
  let first := Environment.empty.insert "CHPL_HOST_PLATFORM" "darwin"
  let second := (Environment.empty.insert "CHPL_HOST_PLATFORM" (Utf8.encode "darwin")).insert
    "CHPL_TARGET_PLATFORM" (Utf8.encode "cray-xc")
  have agree : AgreeBut ["CHPL_TARGET_ARCH", "CHPL_TARGET_PLATFORM", "CHPL_TARGET_COMPILER"]
      first.get? second.decoded.get? := by
    intro name apart
    have other : name ≠ "CHPL_TARGET_PLATFORM" := by
      rintro rfl
      exact apart (by decide)
    rw [Environment.decoded, Environment.get?_map, Environment.get?_insert,
      Environment.get?_insert, Environment.get?_insert, if_neg other]
    split
    · rw [Option.map_some, Utf8.decodeLossy_encode]
    · rfl
  obtain ⟨apart, inFull⟩ := sides_are_apart first.get? second.decoded.get?
  have missing : first.get? "CHPL_TARGET_PLATFORM" = none := by decide
  refine ⟨first, second, agree, apart.host agree, missing, inFull.fromHost (.inl missing), ?_⟩
  decide +kernel

end Tasking
