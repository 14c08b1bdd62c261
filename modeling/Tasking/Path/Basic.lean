/-
# Directory paths, compared by their text

Two paths name the same directory, as far as their texts can tell, when they have the same
normal form. A normal form is found by walking over the components with a stack. At the
root there is no parent to go to, and where the stack offers no name the parent component
stays, because only the place where a relative path starts can say what it means.
-/

namespace Tasking.Path

inductive Component where
  | root
  | current
  | parent
  | name (text : List Char)
  deriving DecidableEq, Repr

def segments (path : String) : List (List Char) :=
  path.toList.splitOn '/'

def isAbsolute (path : String) : Bool :=
  path.toList.head? == some '/'

/-- An empty segment, which repeated or trailing separators leave, spells no component. -/
def Component.ofSegment? : List Char → Option Component
  | [] => none
  | ['.'] => some .current
  | ['.', '.'] => some .parent
  | text => some (.name text)

theorem Component.ofSegment?_of_ne {segment : List Char} (filled : segment ≠ [])
    (notCurrent : segment ≠ ['.']) (notParent : segment ≠ ['.', '.']) :
    Component.ofSegment? segment = some (.name segment) := by
  fun_cases Component.ofSegment? segment with
  | case1 => exact absurd rfl filled
  | case2 => exact absurd rfl notCurrent
  | case3 => exact absurd rfl notParent
  | case4 => rfl

/-- The components of a path, with the root first if the path starts there. A `current` is kept even
inside a path; `push` passes over it, so no normal form has one. -/
def components (path : String) : List Component :=
  (if isAbsolute path then [.root] else []) ++ (segments path).filterMap Component.ofSegment?

/-- The stack holds the components kept so far, the last one on top. -/
def push (stack : List Component) : Component → List Component
  | .current => stack
  | .parent =>
      match stack with
      | .name _ :: below => below
      | .root :: _ => stack
      | _ => .parent :: stack
  | component => component :: stack

def normalForm (path : String) : List Component :=
  ((components path).foldl push []).reverse

def sameDirectory (first second : String) : Bool :=
  normalForm first == normalForm second

theorem sameDirectory_iff {first second : String} :
    sameDirectory first second = true ↔ normalForm first = normalForm second := by
  simp [sameDirectory]

end Tasking.Path
