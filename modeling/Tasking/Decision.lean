/-
# The decision table

The first of three rows whose condition holds chooses the backend. A fourth rule,
`override`, is not a row of the table: a selection reports it when the user's own setting
replaced the table.
-/

import Tasking.Backend

namespace Tasking

/-- What is known about a target. A fact that is not known is the empty text. -/
structure Facts where
  arch : String := ""
  platform : String := ""
  compiler : String := ""
  usingVendorModule : Bool := false
  deriving DecidableEq, Repr, Inhabited

namespace Facts

def unknown : Facts := {}

def flagText (flag : Bool) : String :=
  if flag then "true" else "false"

/-- The values are written as they are, without quotation marks. -/
def text (facts : Facts) : String :=
  "arch=" ++ facts.arch ++ " platform=" ++ facts.platform ++ " compiler=" ++ facts.compiler
    ++ " module=" ++ flagText facts.usingVendorModule

end Facts

/-- Why a selection came out as it did. -/
inductive Rule where
  | override
  /-- The toolchain came in through the vendor's module. -/
  | vendorModule
  | withoutQthreads
  | otherwise
  deriving DecidableEq, Repr

namespace Rule

def reason : Rule → String
  | .override => "CHPL_TASKS override"
  | .vendorModule => "cray-x* platform using the Chapel module"
  | .withoutQthreads => "knc, cygwin*, netbsd* or cray-prgenv-cray"
  | .otherwise => "default"

end Rule

/-- The family of the vendor's platforms. -/
def vendorFamily : String := "cray-x"

def archWithoutQthreads : String := "knc"

/-- The families of platforms on which `qthreads` cannot run, by the front of their names. -/
def familiesWithoutQthreads : List String := ["cygwin", "netbsd"]

def compilerWithoutQthreads : String := "cray-prgenv-cray"

structure Decision where
  backend : Backend
  rule : Rule
  deriving DecidableEq, Repr

namespace Facts

def inFamily (facts : Facts) (family : String) : Bool :=
  family.toList.isPrefixOf facts.platform.toList

theorem inFamily_iff {facts : Facts} {family : String} :
    facts.inFamily family = true ↔ family.toList <+: facts.platform.toList := by
  simp [inFamily]

/-- The vendor's platform, with the toolchain from the vendor's module. -/
def hasVendorRuntime (facts : Facts) : Bool :=
  facts.inFamily vendorFamily && facts.usingVendorModule

def lacksQthreads (facts : Facts) : Bool :=
  facts.arch == archWithoutQthreads || familiesWithoutQthreads.any facts.inFamily
    || facts.compiler == compilerWithoutQthreads

def decision (facts : Facts) : Decision :=
  if facts.hasVendorRuntime then
    ⟨.muxed, .vendorModule⟩
  else if facts.lacksQthreads then
    ⟨.fifo, .withoutQthreads⟩
  else
    ⟨.qthreads, .otherwise⟩

/-- The table never reports the rule that stands outside it. -/
theorem decision_rule_ne_override (facts : Facts) : facts.decision.rule ≠ .override := by
  unfold decision
  split
  · simp
  · split <;> simp

end Facts

end Tasking
