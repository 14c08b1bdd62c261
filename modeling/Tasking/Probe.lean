/-
# Probes

A probe answers questions about the two machines of a cross build. One kind answers from
settings, the other knows its answers beforehand. A probe never fails: what it cannot find
out is the empty text, except for the platform.
-/

import Tasking.Path.Basic
import Tasking.Query

namespace Tasking

/-- The platform that is assumed where no setting names one: that of a Linux host with 64 bits,
which this library is built for. Other hosts have names of their own. -/
def builtInPlatform : String := "linux64"

structure Probe where
  /-- With the flag set, the least common form. -/
  arch : Side → Bool → Query String
  platform : Side → Query String
  compiler : Side → Query String
  vendorModule : Query Bool

/-- What only the machine at hand can run counts as nothing in particular. -/
def leastCommonArch (arch : String) : String :=
  if arch = "native" then "none" else arch

def givenSameDirectory : Option String → Option String → Bool
  | some home, some moduleHome => Path.sameDirectory home moduleHome
  | _, _ => false

namespace Probe

/-- Its own setting, then the setting for any side, then the platform built in. -/
def hostPlatform : Query String := do
  match ← Query.setting (.platform .host) with
  | some platform => return platform
  | none => return (← Query.setting .anyPlatform).getD builtInPlatform

def targetPlatform : Query String := do
  match ← Query.setting (.platform .target) with
  | some platform => return platform
  | none => hostPlatform

/-- Both directories of the module question are always looked up, even if the first is absent. -/
def ofSettings : Probe where
  arch side lcd := do
    let arch := (← Query.setting (.arch side)).getD ""
    return if lcd then leastCommonArch arch else arch
  platform
    | .host => hostPlatform
    | .target => targetPlatform
  compiler side := do
    return (← Query.setting (.compiler side)).getD ""
  vendorModule := do
    let home ← Query.setting .home
    let moduleHome ← Query.setting .moduleHome
    return givenSameDirectory home moduleHome

/-- The same facts are given about either side and in either form. -/
def ofFacts (facts : Facts) : Probe where
  arch side lcd := Query.asking (.arch side lcd) facts.arch
  platform side := Query.asking (.platform side) facts.platform
  compiler side := Query.asking (.compiler side) facts.compiler
  vendorModule := Query.asking .vendorModule facts.usingVendorModule

def targetFacts (probe : Probe) : Query Facts := do
  let arch ← probe.arch .target true
  let platform ← probe.platform .target
  let compiler ← probe.compiler .target
  let usingVendorModule ← probe.vendorModule
  return { arch, platform, compiler, usingVendorModule }

/-- The user's own setting is not compared with any name. -/
def overrideText : Query (Option String) :=
  Query.setting .tasks

/-- The user's own setting decides alone if it is present, and otherwise the decision table does. -/
def select (probe : Probe) : Query Selection := do
  match ← overrideText with
  | some text =>
      Query.reporting (.overrideTaken text)
      return .ofOverride text
  | none =>
      let facts ← probe.targetFacts
      Query.reporting (.decided facts)
      return .ofFacts facts

@[simp]
theorem value_targetFacts_ofFacts (facts : Facts) (source : Source) :
    (ofFacts facts).targetFacts.value source = facts := rfl

theorem value_select_of_present {probe : Probe} {source : Source} {text : String}
    (given : present (source .tasks) = some text) :
    probe.select.value source = .ofOverride text := by
  simp [select, overrideText, given]

theorem value_select_of_absent {probe : Probe} {source : Source}
    (absent : present (source .tasks) = none) :
    probe.select.value source = .ofFacts (probe.targetFacts.value source) := by
  simp [select, overrideText, absent]

end Probe

structure Survey where
  arch : Side → Bool → String
  platform : Side → String
  compiler : Side → String
  vendorModule : Bool
  facts : Facts

def Probe.survey (probe : Probe) (source : Source) : Survey where
  arch side lcd := (probe.arch side lcd).value source
  platform side := (probe.platform side).value source
  compiler side := (probe.compiler side).value source
  vendorModule := probe.vendorModule.value source
  facts := probe.targetFacts.value source

end Tasking
