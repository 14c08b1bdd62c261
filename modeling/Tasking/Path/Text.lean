/-
# Writing paths

`collapse` arrives at a text by another road than `normalForm`. It works on segments and
never on components, and it keeps exactly two separators at the front, which some systems
give a meaning of their own.
-/

import Tasking.Path.Basic

namespace Tasking.Path

/-- The root is written by what stands around it. -/
def Component.text : Component → List Char
  | .root => []
  | .current => ['.']
  | .parent => ['.', '.']
  | .name text => text

def join (texts : List (List Char)) : List Char :=
  ['/'].intercalate texts

def text : List Component → String
  | [] => "."
  | .root :: below => String.ofList ('/' :: join (below.map Component.text))
  | components => String.ofList (join (components.map Component.text))

def IsOrdinaryName (name : List Char) : Prop :=
  name ≠ [] ∧ '/' ∉ name ∧ name ≠ ['.'] ∧ name ≠ ['.', '.']

def AllNames (components : List Component) : Prop :=
  ∀ component ∈ components, ∃ name, component = .name name ∧ IsOrdinaryName name

/-- The root and then names, or parents and then names. -/
def IsNormal (components : List Component) : Prop :=
  (∃ names, components = .root :: names ∧ AllNames names) ∨
    ∃ parents names, components = List.replicate parents .parent ++ names ∧ AllNames names

/-- None, one, or exactly two if the path has exactly two. -/
def leadingSeparators (path : String) : Nat :=
  match (path.toList.takeWhile (fun letter => letter = '/')).length with
  | 0 => 0
  | 2 => 2
  | _ => 1

def collapseSegment (isRooted : Bool) (stack : List (List Char)) (segment : List Char) :
    List (List Char) :=
  if segment = [] ∨ segment = ['.'] then stack
  else if segment ≠ ['.', '.'] then segment :: stack
  else
    match stack with
    | [] => if isRooted then [] else [segment]
    | top :: below => if top = ['.', '.'] then segment :: stack else below

def collapse (path : String) : String :=
  let leading := leadingSeparators path
  let kept := ((segments path).foldl (collapseSegment (0 < leading)) []).reverse
  let text := List.replicate leading '/' ++ join kept
  if text = [] then "." else String.ofList text

end Tasking.Path
