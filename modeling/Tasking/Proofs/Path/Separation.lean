/-
# Different normal forms lead to different directories

Two paths are told apart by following them from one well-chosen directory. It is
so deep that neither path climbs out of it, and all of its names are the same
name, which occurs in neither path. Where a path leads from there spells its
normal form: the copies of the fresh name that are left count the parents, what
stands behind them are the names, and a path from the root leaves no copy at all.
-/

import Tasking.Proofs.Path.Normal
import Tasking.Proofs.Path.Walk

namespace Tasking.Path

theorem map_name_map_text {names : List Component} (allNames : AllNames names) :
    (names.map Component.text).map Component.name = names := by
  induction names with
  | nil => rfl
  | cons first rest ih =>
      obtain ⟨⟨text, rfl, -⟩, restNames⟩ := List.forall_mem_cons.mp allNames
      rw [List.map_cons, List.map_cons, ih restNames]
      rfl

theorem walk_of_allNames (start : Location) {names : List Component}
    (allNames : AllNames names) : walk start names = start ++ names.map Component.text := by
  induction names generalizing start with
  | nil => exact (List.append_nil start).symm
  | cons first rest ih =>
      obtain ⟨⟨text, rfl, -⟩, restNames⟩ := List.forall_mem_cons.mp allNames
      rw [walk_cons, ih _ restNames, List.map_cons]
      exact List.append_cons start text _ ▸ rfl

theorem walk_replicate_parent (name : List Char) (depth parents : Nat) :
    walk (List.replicate depth name) (List.replicate parents .parent) =
      List.replicate (depth - parents) name := by
  induction parents generalizing depth with
  | zero => rfl
  | succ fewer ih =>
      rw [List.replicate_succ, walk_cons, Location.enter, List.dropLast_replicate, ih,
        Nat.sub_sub, Nat.add_comm 1 fewer]

/-- What a normal form begins with, told from how many names it leaves of a
directory that is `depth` names deep. -/
def beginning (depth : Nat) : Nat → List Component
  | 0 => [.root]
  | left + 1 => List.replicate (depth - (left + 1)) .parent

/-- A normal form can be read off from where it leads from a deep directory. -/
theorem IsNormal.walk_replicate {components : List Component} (normal : IsNormal components)
    (name : List Char) {depth : Nat} (deep : components.length < depth) :
    ∃ left names, AllNames names ∧ components = beginning depth left ++ names ∧
      walk (List.replicate depth name) components =
        List.replicate left name ++ names.map Component.text := by
  rcases normal with ⟨names, rfl, allNames⟩ | ⟨parents, names, rfl, allNames⟩
  · exact ⟨0, names, allNames, rfl, walk_of_allNames [] allNames⟩
  · rw [List.length_append, List.length_replicate] at deep
    obtain ⟨left, rfl⟩ : ∃ left, depth = parents + (left + 1) :=
      ⟨depth - parents - 1, by omega⟩
    refine ⟨left + 1, names, allNames, ?_, ?_⟩
    · rw [beginning, Nat.add_sub_cancel]
    · rw [walk_append, walk_replicate_parent, walk_of_allNames _ allNames,
        Nat.add_sub_cancel_left]

theorem replicate_append_inj {name : List Char} {leftFirst leftSecond : Nat}
    {first second : List (List Char)} (freshFirst : name ∉ first) (freshSecond : name ∉ second)
    (same : List.replicate leftFirst name ++ first = List.replicate leftSecond name ++ second) :
    leftFirst = leftSecond ∧ first = second := by
  have counted := congrArg (List.count name) same
  rw [List.count_append, List.count_append, List.count_replicate_self,
    List.count_replicate_self, List.count_eq_zero_of_not_mem freshFirst,
    List.count_eq_zero_of_not_mem freshSecond] at counted
  obtain rfl : leftFirst = leftSecond := counted
  exact ⟨rfl, List.append_cancel_left same⟩

/-- From a deep directory of fresh names, only equal normal forms lead to one
directory. -/
theorem IsNormal.eq_of_walk_eq {first second : List Component} (firstNormal : IsNormal first)
    (secondNormal : IsNormal second) {name : List Char} {depth : Nat}
    (freshFirst : name ∉ first.map Component.text)
    (freshSecond : name ∉ second.map Component.text)
    (deepFirst : first.length < depth) (deepSecond : second.length < depth)
    (same : walk (List.replicate depth name) first = walk (List.replicate depth name) second) :
    first = second := by
  obtain ⟨left, names, allNames, rfl, leads⟩ := firstNormal.walk_replicate name deepFirst
  obtain ⟨left', names', allNames', rfl, leads'⟩ := secondNormal.walk_replicate name deepSecond
  rw [List.map_append] at freshFirst freshSecond
  rw [leads, leads'] at same
  obtain ⟨rfl, sameTexts⟩ := replicate_append_inj
    (fun inside => freshFirst (List.mem_append_right _ inside))
    (fun inside => freshSecond (List.mem_append_right _ inside)) same
  have sameNames : names = names' := by
    rw [← map_name_map_text allNames, sameTexts, map_name_map_text allNames']
  rw [sameNames]

/-- Of the names that could occur in a path there is always one more. -/
theorem exists_isOrdinaryName_not_mem (texts : List (List Char)) :
    ∃ name, IsOrdinaryName name ∧ name ∉ texts := by
  let name := List.replicate (texts.flatten.length + 3) 'x'
  have length_name : name.length = texts.flatten.length + 3 := List.length_replicate
  refine ⟨name, ⟨?_, ?_, ?_, ?_⟩, ?_⟩
  · intro same
    rw [same] at length_name
    exact absurd length_name (Nat.succ_ne_zero _).symm
  · intro inside
    exact absurd (List.eq_of_mem_replicate inside) (by decide)
  · intro same
    rw [same] at length_name
    exact absurd length_name (by rw [List.length_singleton]; omega)
  · intro same
    rw [same] at length_name
    exact absurd length_name (by rw [List.length_cons, List.length_singleton]; omega)
  · intro inside
    have short := (List.sublist_flatten_of_mem inside).length_le
    omega

/-- Paths with different normal forms are told apart by some directory, and all
names that lead to it are ordinary. -/
theorem exists_resolve_ne {first second : String}
    (different : normalForm first ≠ normalForm second) :
    ∃ start : Location, (∀ name ∈ start, IsOrdinaryName name) ∧
      resolve start first ≠ resolve start second := by
  let both := normalForm first ++ normalForm second
  obtain ⟨name, ordinary, fresh⟩ := exists_isOrdinaryName_not_mem (both.map Component.text)
  rw [List.map_append] at fresh
  refine ⟨List.replicate (both.length + 1) name, ?_, ?_⟩
  · intro other inside
    rw [List.eq_of_mem_replicate inside]
    exact ordinary
  · intro same
    rw [← walk_normalForm, ← walk_normalForm] at same
    have long : both.length = (normalForm first).length + (normalForm second).length :=
      List.length_append
    exact different ((isNormal_normalForm first).eq_of_walk_eq (isNormal_normalForm second)
      (fun inside => fresh (List.mem_append_left _ inside))
      (fun inside => fresh (List.mem_append_right _ inside)) (by omega) (by omega) same)

theorem resolve_eq_of_normalForm_eq {first second : String}
    (same : normalForm first = normalForm second) (start : Location) :
    resolve start first = resolve start second := by
  rw [← walk_normalForm, same, walk_normalForm]

/-- The texts of two paths lead to one directory exactly if following them does, from
wherever one starts. -/
theorem sameDirectory_iff_resolve_eq {first second : String} :
    sameDirectory first second = true ↔
      ∀ start, resolve start first = resolve start second := by
  rw [sameDirectory_iff]
  constructor
  · exact resolve_eq_of_normalForm_eq
  · intro together
    by_cases same : normalForm first = normalForm second
    · exact same
    · obtain ⟨start, -, apart⟩ := exists_resolve_ne same
      exact absurd (together start) apart

end Tasking.Path
