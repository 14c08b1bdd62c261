/-
# A normal form leads where its path leads

`resolve` follows a path by its segments and knows nothing of a stack, while
`normalForm` works with a stack and knows nothing of directories. The two meet
in `walk`, which follows a list of components. Collapsing a component on the
stack never changes where the stack leads, whatever directory the walk starts
from, so the loop can be carried through without any invariant on the stack.
-/

import Tasking.Path.Basic

namespace Tasking.Path

/-- The names that lead to a directory from the root. -/
abbrev Location := List (List Char)

def Location.follow (location : Location) (segment : List Char) : Location :=
  if segment = [] ∨ segment = ['.'] then location
  else if segment = ['.', '.'] then location.dropLast
  else location ++ [segment]

/-- The directory that a path leads to from `start`, one segment after the other. -/
def resolve (start : Location) (path : String) : Location :=
  (segments path).foldl Location.follow (if isAbsolute path then [] else start)

/-- The directory that one component leads to. -/
def Location.enter (location : Location) : Component → Location
  | .root => []
  | .current => location
  | .parent => location.dropLast
  | .name text => location ++ [text]

/-- The directory that a list of components leads to. -/
def walk (start : Location) (components : List Component) : Location :=
  components.foldl Location.enter start

@[simp]
theorem walk_cons (start : Location) (first : Component) (rest : List Component) :
    walk start (first :: rest) = walk (start.enter first) rest := rfl

theorem walk_append (start : Location) (first second : List Component) :
    walk start (first ++ second) = walk (walk start first) second :=
  List.foldl_append

/-- A segment is followed by entering the component that it spells, if it spells
one at all. -/
theorem Location.follow_eq_enter (location : Location) (segment : List Char) :
    location.follow segment =
      match Component.ofSegment? segment with
      | some component => location.enter component
      | none => location := by
  by_cases stays : segment = [] ∨ segment = ['.']
  · rw [Location.follow, if_pos stays]
    rcases stays with rfl | rfl <;> rfl
  · rw [Location.follow, if_neg stays]
    by_cases climbs : segment = ['.', '.']
    · rw [if_pos climbs, climbs]
      rfl
    · rw [not_or] at stays
      rw [if_neg climbs, Component.ofSegment?_of_ne stays.1 stays.2 climbs]
      rfl

theorem walk_filterMap_ofSegment? (start : Location) (texts : List (List Char)) :
    walk start (texts.filterMap Component.ofSegment?) = texts.foldl Location.follow start := by
  induction texts generalizing start with
  | nil => rfl
  | cons segment rest ih =>
      rw [List.foldl_cons, Location.follow_eq_enter]
      cases spelled : Component.ofSegment? segment with
      | none =>
          rw [List.filterMap_cons_none spelled]
          exact ih start
      | some component =>
          rw [List.filterMap_cons_some spelled, walk_cons]
          exact ih (start.enter component)

theorem walk_components (start : Location) (path : String) :
    walk start (components path) = resolve start path := by
  rw [components, walk_append, walk_filterMap_ofSegment?, resolve]
  by_cases rooted : isAbsolute path = true
  · rw [if_pos rooted, if_pos rooted]
    rfl
  · rw [if_neg rooted, if_neg rooted]
    rfl

/-- Taking a component into account on the stack is entering it at the end of the
walk. -/
theorem walk_reverse_push (start : Location) (stack : List Component) (component : Component) :
    walk start (push stack component).reverse = (walk start stack.reverse).enter component := by
  have onTop (above : Component) :
      walk start (above :: stack).reverse = (walk start stack.reverse).enter above := by
    rw [List.reverse_cons, walk_append]
    rfl
  cases component with
  | root => exact onTop .root
  | current => rfl
  | name text => exact onTop (.name text)
  | parent =>
      cases stack with
      | nil => exact onTop .parent
      | cons top below =>
          cases top with
          | current => exact onTop .parent
          | parent => exact onTop .parent
          | root =>
              -- the root has no parent, and dropping a name from no names says the same
              change walk start (Component.root :: below).reverse = _
              rw [List.reverse_cons, walk_append]
              rfl
          | name text =>
              change walk start below.reverse = _
              rw [List.reverse_cons, walk_append]
              exact List.dropLast_concat.symm

theorem walk_reverse_foldl_push (start : Location) (remaining stack : List Component) :
    walk start (remaining.foldl push stack).reverse =
      walk (walk start stack.reverse) remaining := by
  induction remaining generalizing stack with
  | nil => rfl
  | cons component rest ih =>
      rw [List.foldl_cons, ih, walk_reverse_push, walk_cons]

/-- From every directory, the normal form of a path leads where the path leads. -/
theorem walk_normalForm (start : Location) (path : String) :
    walk start (normalForm path) = resolve start path := by
  rw [normalForm, walk_reverse_foldl_push, ← walk_components]
  rfl

end Tasking.Path
