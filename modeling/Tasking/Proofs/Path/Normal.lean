/-
# The shape of normal forms

A normal form is the root with ordinary names behind it, or parents with
ordinary names behind them. The shape is an invariant of the stack: a parent
component finds a name to take away, or the root, or nothing but parents. The
only fact needed about segments is that a separator is never left inside one.
-/

import Tasking.Path.Text

namespace Tasking.Path

theorem not_mem_of_mem_segments {path : String} {segment : List Char}
    (inside : segment ∈ segments path) : '/' ∉ segment := by
  unfold segments at inside
  generalize path.toList = text at inside
  induction text generalizing segment with
  | nil =>
      rw [List.splitOn_nil, List.mem_singleton] at inside
      rw [inside]
      exact List.not_mem_nil
  | cons letter rest ih =>
      rw [List.splitOn_cons_eq_if_modifyHead] at inside
      by_cases separator : (letter == '/') = true
      · rw [if_pos separator] at inside
        rcases List.mem_cons.mp inside with rfl | later
        · exact List.not_mem_nil
        · exact ih later
      · rw [if_neg separator] at inside
        obtain ⟨first, others, split⟩ :=
          List.exists_cons_of_ne_nil (List.splitOn_ne_nil '/' rest)
        rw [split] at inside ih
        rcases List.mem_cons.mp inside with rfl | later
        · intro found
          rcases List.mem_cons.mp found with rfl | found
          · exact separator (beq_self_eq_true '/')
          · exact ih List.mem_cons_self found
        · exact ih (List.mem_cons_of_mem first later)

/-- Components that a segment can spell. The root is none of them. -/
def Component.IsSpelled : Component → Prop
  | .root => False
  | .name text => IsOrdinaryName text
  | _ => True

theorem Component.isSpelled_of_ofSegment? {segment : List Char} {component : Component}
    (plain : '/' ∉ segment) (spelled : Component.ofSegment? segment = some component) :
    component.IsSpelled := by
  by_cases empty : segment = []
  · rw [empty] at spelled
    cases spelled
  · by_cases current : segment = ['.']
    · rw [current] at spelled
      cases spelled
      trivial
    · by_cases parent : segment = ['.', '.']
      · rw [parent] at spelled
        cases spelled
        trivial
      · rw [Component.ofSegment?_of_ne empty current parent] at spelled
        cases spelled
        exact ⟨empty, plain, current, parent⟩

theorem allNames_concat {names : List Component} {last : Component} :
    AllNames (names ++ [last]) ↔
      AllNames names ∧ ∃ text, last = .name text ∧ IsOrdinaryName text :=
  List.forall_mem_append.trans (and_congr_right fun _ => List.forall_mem_singleton)

theorem IsNormal.concat_name {components : List Component} {text : List Char}
    (normal : IsNormal components) (ordinary : IsOrdinaryName text) :
    IsNormal (components ++ [.name text]) := by
  rcases normal with ⟨names, rfl, allNames⟩ | ⟨parents, names, rfl, allNames⟩
  · exact Or.inl ⟨names ++ [.name text], rfl,
      allNames_concat.mpr ⟨allNames, text, rfl, ordinary⟩⟩
  · exact Or.inr ⟨parents, names ++ [.name text], List.append_assoc _ _ _,
      allNames_concat.mpr ⟨allNames, text, rfl, ordinary⟩⟩

theorem push_replicate_parent (parents : Nat) :
    push (List.replicate parents .parent) .parent = List.replicate (parents + 1) .parent := by
  cases parents with
  | zero => rfl
  | succ fewer => rfl

/-- A parent component on a stack of parents stays, and on a name it takes the
name away. -/
theorem isNormal_push_parent {stack : List Component} (normal : IsNormal stack.reverse) :
    IsNormal (push stack .parent).reverse := by
  rcases normal with ⟨names, kept, allNames⟩ | ⟨parents, names, kept, allNames⟩
  · rcases names.eq_nil_or_concat with rfl | ⟨front, last, rfl⟩
    · rw [List.reverse_eq_iff] at kept
      rw [kept]
      exact Or.inl ⟨[], rfl, allNames⟩
    · rw [List.concat_eq_append] at kept allNames
      obtain ⟨frontNames, text, rfl, -⟩ := allNames_concat.mp allNames
      have onTop : stack = .name text :: (.root :: front).reverse := by
        rw [List.reverse_eq_iff.mp kept, ← List.cons_append, List.reverse_concat]
      rw [onTop]
      exact Or.inl ⟨front, List.reverse_reverse _, frontNames⟩
  · rcases names.eq_nil_or_concat with rfl | ⟨front, last, rfl⟩
    · have onlyParents : stack = List.replicate parents .parent := by
        rw [List.reverse_eq_iff.mp kept, List.append_nil, List.reverse_replicate]
      rw [onlyParents, push_replicate_parent, List.reverse_replicate]
      exact Or.inr ⟨parents + 1, [], (List.append_nil _).symm, allNames⟩
    · rw [List.concat_eq_append] at kept allNames
      obtain ⟨frontNames, text, rfl, -⟩ := allNames_concat.mp allNames
      have onTop :
          stack = .name text :: (List.replicate parents Component.parent ++ front).reverse := by
        rw [List.reverse_eq_iff.mp kept, ← List.append_assoc, List.reverse_concat]
      rw [onTop]
      exact Or.inr ⟨parents, front, List.reverse_reverse _, frontNames⟩

theorem isNormal_push {stack : List Component} {component : Component}
    (normal : IsNormal stack.reverse) (spelled : component.IsSpelled) :
    IsNormal (push stack component).reverse := by
  cases component with
  | root => exact spelled.elim
  | current => exact normal
  | parent => exact isNormal_push_parent normal
  | name text =>
      change IsNormal (.name text :: stack).reverse
      rw [List.reverse_cons]
      exact normal.concat_name spelled

theorem isNormal_foldl_push {remaining stack : List Component} (normal : IsNormal stack.reverse)
    (spelled : ∀ component ∈ remaining, component.IsSpelled) :
    IsNormal (remaining.foldl push stack).reverse := by
  induction remaining generalizing stack with
  | nil => exact normal
  | cons component rest ih =>
      rw [List.foldl_cons]
      rw [List.forall_mem_cons] at spelled
      exact ih (isNormal_push normal spelled.1) spelled.2

/-- Nothing can be taken away from a normal form any more. -/
theorem isNormal_normalForm (path : String) : IsNormal (normalForm path) := by
  have spelled : ∀ component ∈ (segments path).filterMap Component.ofSegment?,
      component.IsSpelled := by
    intro component inside
    obtain ⟨segment, among, spelling⟩ := List.mem_filterMap.mp inside
    exact Component.isSpelled_of_ofSegment? (not_mem_of_mem_segments among) spelling
  have noNames : AllNames [] := fun _ inside => absurd inside List.not_mem_nil
  rw [normalForm, components, List.foldl_append]
  apply isNormal_foldl_push _ spelled
  by_cases rooted : isAbsolute path = true
  · rw [if_pos rooted]
    exact Or.inl ⟨[], rfl, noNames⟩
  · rw [if_neg rooted]
    exact Or.inr ⟨0, [], rfl, noNames⟩

end Tasking.Path
