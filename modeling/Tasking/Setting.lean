/-
# Settings

The variables that say anything about tasking. One that holds the empty text says no more
than one that is absent.
-/

namespace Tasking

inductive Side where
  /-- The machine that runs the compiler. -/
  | host
  /-- The machine that runs the compiled program. -/
  | target
  deriving DecidableEq, Repr

inductive Setting where
  /-- The user's own choice of backend. -/
  | tasks
  | arch (side : Side)
  | platform (side : Side)
  /-- For either side, when nothing more special is given. -/
  | anyPlatform
  | compiler (side : Side)
  | home
  | moduleHome
  deriving DecidableEq, Repr

namespace Setting

def name : Setting → String
  | .tasks => "CHPL_TASKS"
  | .arch .host => "CHPL_HOST_ARCH"
  | .arch .target => "CHPL_TARGET_ARCH"
  | .platform .host => "CHPL_HOST_PLATFORM"
  | .platform .target => "CHPL_TARGET_PLATFORM"
  | .anyPlatform => "CHPL_PLATFORM"
  | .compiler .host => "CHPL_HOST_COMPILER"
  | .compiler .target => "CHPL_TARGET_COMPILER"
  | .home => "CHPL_HOME"
  | .moduleHome => "CHPL_MODULE_HOME"

end Setting

/-- A raw answer to a lookup, with the empty text counted as no answer. -/
def present (value : Option String) : Option String :=
  value.filter (fun text => text != "")

@[simp]
theorem present_none : present none = none := rfl

theorem present_some {text : String} (filled : text ≠ "") : present (some text) = some text := by
  simp [present, filled]

theorem present_eq_some_iff {value : Option String} {text : String} :
    present value = some text ↔ value = some text ∧ text ≠ "" := by
  simp [present, Option.filter_eq_some_iff]

theorem present_eq_none_iff {value : Option String} :
    present value = none ↔ value = none ∨ value = some "" := by
  cases value with
  | none => simp
  | some text =>
      by_cases filled : text = "" <;> simp [present, filled]

@[simp]
theorem present_present (value : Option String) : present (present value) = present value := by
  cases value with
  | none => rfl
  | some text =>
      by_cases filled : text = "" <;> simp [present, filled]

end Tasking
