/-
# Normal forms are read back as they were written

Writing puts one separator between the texts of two components. Reading undoes it
in two steps. The segments of the text are the texts that were written, and each
of them spells the component that it came from, because an ordinary name is never
taken for anything else. Pushing these components one by one then takes nothing
away, because behind the root stand only names, and a parent stands only behind
parents.

So every list of the right shape is a normal form, namely that of its own text.
-/

import Tasking.Proofs.Path.Normal

namespace Tasking.Path

theorem Component.text_of_isSpelled {component : Component} (spelled : component.IsSpelled) :
    component.text ≠ [] ∧ '/' ∉ component.text := by
  cases component with
  | root => exact spelled.elim
  | current => exact ⟨List.cons_ne_nil _ _, by decide⟩
  | parent => exact ⟨List.cons_ne_nil _ _, by decide⟩
  | name text => exact ⟨spelled.1, spelled.2.1⟩

/-- The text of a component spells that component. -/
theorem Component.ofSegment?_text {component : Component} (spelled : component.IsSpelled) :
    Component.ofSegment? component.text = some component := by
  cases component with
  | root => exact spelled.elim
  | current | parent => rfl
  | name text => exact Component.ofSegment?_of_ne spelled.1 spelled.2.2.1 spelled.2.2.2

theorem AllNames.isSpelled {names : List Component} (allNames : AllNames names) :
    ∀ component ∈ names, component.IsSpelled := by
  intro component inside
  obtain ⟨text, rfl, ordinary⟩ := allNames component inside
  exact ordinary

variable {written : List Component}

theorem filterMap_ofSegment?_map_text (spelled : ∀ component ∈ written, component.IsSpelled) :
    (written.map Component.text).filterMap Component.ofSegment? = written := by
  induction written with
  | nil => rfl
  | cons first rest ih =>
      rw [List.forall_mem_cons] at spelled
      rw [List.map_cons, List.filterMap_cons_some (Component.ofSegment?_text spelled.1),
        ih spelled.2]

/-- Splitting at the separators undoes joining. Where nothing was joined there is one
empty segment, which spells nothing. -/
theorem filterMap_ofSegment?_splitOn_join
    (spelled : ∀ component ∈ written, component.IsSpelled) :
    ((join (written.map Component.text)).splitOn '/').filterMap Component.ofSegment? =
      written := by
  by_cases empty : written = []
  · rw [empty]
    rfl
  · have plain : ∀ text ∈ written.map Component.text, '/' ∉ text := by
      intro text inside
      obtain ⟨component, among, rfl⟩ := List.mem_map.mp inside
      exact (Component.text_of_isSpelled (spelled component among)).2
    have filled : written.map Component.text ≠ [] := fun none => empty (List.map_eq_nil_iff.mp none)
    rw [join, List.splitOn_intercalate '/' plain filled]
    exact filterMap_ofSegment?_map_text spelled

theorem prefix_join (first : List Char) (others : List (List Char)) :
    first <+: join (first :: others) := by
  cases others with
  | nil => exact ⟨[], rfl⟩
  | cons second rest => exact ⟨'/' :: join (second :: rest), rfl⟩

theorem head?_join (first : List Char) (others : List (List Char)) (filled : first ≠ []) :
    (join (first :: others)).head? = first.head? := by
  obtain ⟨behind, joined⟩ := prefix_join first others
  obtain ⟨letter, more, rfl⟩ := List.exists_cons_of_ne_nil filled
  rw [← joined]
  rfl

/-- Without the root, nothing that is written begins with a separator. -/
theorem head?_join_map_text (spelled : ∀ component ∈ written, component.IsSpelled) :
    (join (written.map Component.text)).head? ≠ some '/' := by
  cases written with
  | nil => exact nofun
  | cons first rest =>
      obtain ⟨filled, plain⟩ :=
        Component.text_of_isSpelled (spelled first List.mem_cons_self)
      rw [List.map_cons, head?_join _ _ filled]
      intro separated
      exact plain (List.mem_of_head? separated)

theorem text_of_spelled (spelled : ∀ component ∈ written, component.IsSpelled)
    (filled : written ≠ []) :
    text written = String.ofList (join (written.map Component.text)) := by
  cases written with
  | nil => exact absurd rfl filled
  | cons first rest =>
      cases first with
      | root => exact (spelled .root List.mem_cons_self).elim
      | current | parent | name => rfl

theorem components_text_root (spelled : ∀ component ∈ written, component.IsSpelled) :
    components (text (.root :: written)) = .root :: written := by
  have letters : (text (.root :: written)).toList = '/' :: join (written.map Component.text) :=
    String.toList_ofList
  have rooted : isAbsolute (text (.root :: written)) = true := by
    rw [isAbsolute, letters]
    rfl
  rw [components, if_pos rooted, segments, letters, List.splitOn_cons_eq_if_modifyHead,
    if_pos (beq_self_eq_true '/')]
  exact congrArg (.root :: ·) (filterMap_ofSegment?_splitOn_join spelled)

theorem components_text_of_spelled (spelled : ∀ component ∈ written, component.IsSpelled)
    (filled : written ≠ []) : components (text written) = written := by
  have letters : (text written).toList = join (written.map Component.text) := by
    rw [text_of_spelled spelled filled, String.toList_ofList]
  have relative : ¬ isAbsolute (text written) = true := by
    rw [isAbsolute, letters, beq_iff_eq]
    exact head?_join_map_text spelled
  rw [components, if_neg relative, segments, letters]
  exact filterMap_ofSegment?_splitOn_join spelled

theorem foldl_push_of_allNames {names : List Component} (allNames : AllNames names)
    (stack : List Component) : names.foldl push stack = names.reverse ++ stack := by
  induction names generalizing stack with
  | nil => rfl
  | cons first rest ih =>
      obtain ⟨⟨text, rfl, -⟩, restNames⟩ := List.forall_mem_cons.mp allNames
      rw [List.foldl_cons, ih restNames, List.reverse_cons, List.append_assoc]
      rfl

theorem foldl_push_replicate_parent (parents : Nat) :
    (List.replicate parents Component.parent).foldl push [] = List.replicate parents .parent := by
  induction parents with
  | zero => rfl
  | succ fewer ih =>
      rw [List.replicate_succ', List.foldl_append, ih, ← List.replicate_succ']
      exact push_replicate_parent fewer

/-- Pushing the components of a normal form takes none of them away. -/
theorem IsNormal.foldl_push {normal : List Component} (isNormal : IsNormal normal) :
    normal.foldl push [] = normal.reverse := by
  rcases isNormal with ⟨names, rfl, allNames⟩ | ⟨parents, names, rfl, allNames⟩
  · rw [List.foldl_cons, foldl_push_of_allNames allNames, List.reverse_cons]
    rfl
  · rw [List.foldl_append, foldl_push_replicate_parent, foldl_push_of_allNames allNames,
      List.reverse_append, List.reverse_replicate]

theorem IsNormal.not_mem_current {normal : List Component} (isNormal : IsNormal normal) :
    .current ∉ normal := by
  have unnamed {names : List Component} (allNames : AllNames names) : .current ∉ names := by
    intro inside
    obtain ⟨text, same, -⟩ := allNames _ inside
    cases same
  rcases isNormal with ⟨names, rfl, allNames⟩ | ⟨parents, names, rfl, allNames⟩
  · intro inside
    cases inside with
    | tail _ later => exact unnamed allNames later
  · intro inside
    rcases List.mem_append.mp inside with among | among
    · cases List.eq_of_mem_replicate among
    · exact unnamed allNames among

/-- A normal form is the normal form of its own text. -/
theorem IsNormal.normalForm_text {normal : List Component} (isNormal : IsNormal normal) :
    normalForm (text normal) = normal := by
  by_cases empty : normal = []
  · rw [empty]
    decide
  · have reread : components (text normal) = normal := by
      rcases isNormal with ⟨names, rfl, allNames⟩ | ⟨parents, names, rfl, allNames⟩
      · exact components_text_root allNames.isSpelled
      · apply components_text_of_spelled _ empty
        intro component inside
        rcases List.mem_append.mp inside with among | among
        · rw [List.eq_of_mem_replicate among]
          trivial
        · exact allNames.isSpelled component among
    rw [normalForm, reread, isNormal.foldl_push, List.reverse_reverse]

theorem normalForm_text_normalForm (path : String) :
    normalForm (text (normalForm path)) = normalForm path :=
  (isNormal_normalForm path).normalForm_text

/-- The normal forms are the lists of the right shape and no others. -/
theorem exists_normalForm_eq_iff {normal : List Component} :
    (∃ path, normalForm path = normal) ↔ IsNormal normal := by
  constructor
  · intro ⟨path, same⟩
    rw [← same]
    exact isNormal_normalForm path
  · intro isNormal
    exact ⟨text normal, isNormal.normalForm_text⟩

end Tasking.Path
