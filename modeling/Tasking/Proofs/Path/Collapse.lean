/-
# Two ways to shorten a path

`normalForm` works on components and has the root on its stack. `collapse` works on
the segments as they stand and knows of the root only by counting separators. Each
keeps a stack, and at every segment the stack of `collapse` holds the texts of what
stands on the root in the other one. `Tallies` says this, and one segment at a time
it is kept.

The texts that come out are the same. Only where a path begins with exactly two
separators does `collapse` keep both of them.
-/

import Tasking.Proofs.Path.RoundTrip

namespace Tasking.Path

/-- The path begins with two separators, and with no third one. -/
def HasDoubleFront (path : String) : Prop :=
  ['/', '/'] <+: path.toList ∧ ¬ ['/', '/', '/'] <+: path.toList

instance (path : String) : Decidable (HasDoubleFront path) :=
  inferInstanceAs (Decidable (_ ∧ _))

/-- The path with one separator at its front where it has exactly two. -/
def singleFront (path : String) : String :=
  if HasDoubleFront path then String.ofList path.toList.tail else path

/-- What the components of a path are stacked upon. -/
def ground (isRooted : Bool) : List Component :=
  if isRooted then [.root] else []

/-- The texts that were kept are those of the components on top of the ground. -/
def Tallies (isRooted : Bool) (stack : List Component) (kept : List (List Char)) : Prop :=
  ∃ above, (∀ component ∈ above, component.IsSpelled ∧ component ≠ .current) ∧
    stack = above ++ ground isRooted ∧ kept = above.map Component.text

section Stacks

variable {isRooted : Bool} {stack : List Component} {kept : List (List Char)}

theorem collapseSegment_of_stays {segment : List Char} (stays : segment = [] ∨ segment = ['.']) :
    collapseSegment isRooted kept segment = kept := by
  unfold collapseSegment
  exact if_pos stays

theorem collapseSegment_of_ne {segment : List Char} (moves : ¬ (segment = [] ∨ segment = ['.']))
    (enters : segment ≠ ['.', '.']) :
    collapseSegment isRooted kept segment = segment :: kept := by
  unfold collapseSegment
  rw [if_neg moves, if_pos enters]

theorem tallies_ground : Tallies isRooted (ground isRooted) [] :=
  ⟨[], fun _ inside => absurd inside List.not_mem_nil, rfl, rfl⟩

theorem Tallies.push_name (tallies : Tallies isRooted stack kept) {name : List Char}
    (ordinary : IsOrdinaryName name) :
    Tallies isRooted (push stack (.name name)) (name :: kept) := by
  obtain ⟨above, sound, rfl, rfl⟩ := tallies
  exact ⟨.name name :: above,
    List.forall_mem_cons.mpr ⟨⟨ordinary, Component.noConfusion⟩, sound⟩, rfl, rfl⟩

/-- On both stacks a parent takes a name away, stays upon another parent, and is lost
at the root. -/
theorem Tallies.push_parent (tallies : Tallies isRooted stack kept) :
    Tallies isRooted (push stack .parent) (collapseSegment isRooted kept ['.', '.']) := by
  obtain ⟨above, sound, rfl, rfl⟩ := tallies
  cases above with
  | nil =>
      cases isRooted with
      | true => exact tallies_ground
      | false =>
          exact ⟨[.parent], List.forall_mem_singleton.mpr ⟨trivial, Component.noConfusion⟩,
            rfl, rfl⟩
  | cons top below =>
      obtain ⟨soundTop, soundBelow⟩ := List.forall_mem_cons.mp sound
      cases top with
      | root => exact soundTop.1.elim
      | current => exact absurd rfl soundTop.2
      | parent =>
          exact ⟨.parent :: .parent :: below,
            List.forall_mem_cons.mpr ⟨⟨trivial, Component.noConfusion⟩, sound⟩, rfl, rfl⟩
      | name text =>
          have ordinary : IsOrdinaryName text := soundTop.1
          refine ⟨below, soundBelow, rfl, ?_⟩
          show (if text = ['.', '.'] then _ else below.map Component.text) = _
          rw [if_neg ordinary.2.2.2]

/-- One segment does the same to both stacks. -/
theorem Tallies.segment (tallies : Tallies isRooted stack kept) {segment : List Char}
    (plain : '/' ∉ segment) :
    Tallies isRooted
      (match Component.ofSegment? segment with
        | some component => push stack component
        | none => stack)
      (collapseSegment isRooted kept segment) := by
  by_cases stays : segment = [] ∨ segment = ['.']
  · rw [collapseSegment_of_stays stays]
    rcases stays with rfl | rfl
    · exact tallies
    · exact tallies
  · by_cases climbs : segment = ['.', '.']
    · rw [climbs]
      exact tallies.push_parent
    · rw [collapseSegment_of_ne stays climbs]
      rw [not_or] at stays
      rw [Component.ofSegment?_of_ne stays.1 stays.2 climbs]
      exact tallies.push_name ⟨stays.1, plain, stays.2, climbs⟩

theorem Tallies.segments (tallies : Tallies isRooted stack kept) {texts : List (List Char)}
    (plain : ∀ segment ∈ texts, '/' ∉ segment) :
    Tallies isRooted ((texts.filterMap Component.ofSegment?).foldl push stack)
      (texts.foldl (collapseSegment isRooted) kept) := by
  induction texts generalizing stack kept with
  | nil => exact tallies
  | cons segment rest ih =>
      rw [List.forall_mem_cons] at plain
      have next := tallies.segment plain.1
      rw [List.foldl_cons]
      cases spelled : Component.ofSegment? segment with
      | none =>
          rw [spelled] at next
          rw [List.filterMap_cons_none spelled]
          exact ih next plain.2
      | some component =>
          rw [spelled] at next
          rw [List.filterMap_cons_some spelled, List.foldl_cons]
          exact ih next plain.2

end Stacks

variable {path : String}

theorem HasDoubleFront.leadingSeparators_eq (double : HasDoubleFront path) :
    leadingSeparators path = 2 := by
  obtain ⟨⟨behind, front⟩, noThird⟩ := double
  rw [← front] at noThird
  have stops : behind.takeWhile (fun letter => letter = '/') = [] := by
    cases behind with
    | nil => rfl
    | cons letter rest =>
        have other : ¬ letter = '/' := by
          intro same
          exact noThird ⟨rest, by rw [same]; rfl⟩
        exact List.takeWhile_cons_of_neg (by simpa using other)
  rw [leadingSeparators, ← front]
  simp [stops]

theorem leadingSeparators_of_not_isAbsolute (relative : ¬ isAbsolute path = true) :
    leadingSeparators path = 0 := by
  rw [isAbsolute, beq_iff_eq] at relative
  rw [leadingSeparators]
  cases letters : path.toList with
  | nil => rfl
  | cons letter rest =>
      rw [letters] at relative
      have other : ¬ letter = '/' := fun same => relative (congrArg some same)
      simp [other]

theorem leadingSeparators_of_isAbsolute (rooted : isAbsolute path = true)
    (single : ¬ HasDoubleFront path) : leadingSeparators path = 1 := by
  rw [isAbsolute, beq_iff_eq] at rooted
  obtain ⟨behind, letters⟩ := List.head?_eq_some_iff.mp rooted
  rw [HasDoubleFront, letters] at single
  rw [leadingSeparators, letters]
  cases behind with
  | nil => rfl
  | cons second rest =>
      by_cases again : second = '/'
      · cases rest with
        | nil => exact absurd (by rw [again]; decide) single
        | cons third rest =>
            by_cases more : third = '/'
            · simp [again, more]
            · exact absurd ⟨⟨third :: rest, by rw [again]; rfl⟩, by simp [Ne.symm more]⟩ single
      · simp [again]

theorem leadingSeparators_pos :
    decide (0 < leadingSeparators path) = isAbsolute path := by
  by_cases rooted : isAbsolute path = true
  · by_cases double : HasDoubleFront path
    · rw [double.leadingSeparators_eq, rooted]
      rfl
    · rw [leadingSeparators_of_isAbsolute rooted double, rooted]
      rfl
  · rw [leadingSeparators_of_not_isAbsolute rooted, eq_false_of_ne_true rooted]
    rfl

theorem HasDoubleFront.isAbsolute (double : HasDoubleFront path) :
    Path.isAbsolute path = true := by
  rw [← leadingSeparators_pos, double.leadingSeparators_eq]
  rfl

/-- Both ways keep the same components, and differ only in what stands in front. -/
theorem exists_kept (path : String) :
    ∃ kept, (∀ component ∈ kept, component.IsSpelled) ∧
      normalForm path = ground (isAbsolute path) ++ kept ∧
      collapse path =
        let text := List.replicate (leadingSeparators path) '/' ++ join (kept.map Component.text)
        if text = [] then "." else String.ofList text := by
  have tallies : Tallies (isAbsolute path) (ground (isAbsolute path)) [] := tallies_ground
  obtain ⟨above, sound, stacked, keptTexts⟩ :=
    tallies.segments fun segment (inside : segment ∈ segments path) =>
      not_mem_of_mem_segments inside
  refine ⟨above.reverse, ?_, ?_, ?_⟩
  · intro component inside
    exact (sound component (List.mem_reverse.mp inside)).1
  · have grounded : (if isAbsolute path then [.root] else []).foldl push [] =
        ground (isAbsolute path) := by
      cases isAbsolute path with
      | true => rfl
      | false => rfl
    have flat : (ground (isAbsolute path)).reverse = ground (isAbsolute path) := by
      cases isAbsolute path with
      | true => rfl
      | false => rfl
    rw [normalForm, components, List.foldl_append, grounded, stacked, List.reverse_append, flat]
  · rw [collapse, leadingSeparators_pos, keptTexts, ← List.map_reverse]

theorem join_map_text_eq_nil_iff {written : List Component}
    (spelled : ∀ component ∈ written, component.IsSpelled) :
    join (written.map Component.text) = [] ↔ written = [] := by
  cases written with
  | nil => exact iff_of_true rfl rfl
  | cons first rest =>
      refine iff_of_false ?_ (List.cons_ne_nil first rest)
      intro nothing
      obtain ⟨filled, -⟩ := Component.text_of_isSpelled (spelled first List.mem_cons_self)
      have front := prefix_join first.text (rest.map Component.text)
      rw [← List.map_cons, nothing, List.prefix_nil] at front
      exact filled front

theorem collapse_of_not_hasDoubleFront (single : ¬ HasDoubleFront path) :
    collapse path = text (normalForm path) := by
  obtain ⟨kept, spelled, normal, collapsed⟩ := exists_kept path
  by_cases rooted : isAbsolute path = true
  · rw [collapsed, normal, rooted, leadingSeparators_of_isAbsolute rooted single]
    exact if_neg (List.cons_ne_nil _ _)
  · rw [collapsed, normal, eq_false_of_ne_true rooted,
      leadingSeparators_of_not_isAbsolute rooted]
    show (if join (kept.map Component.text) = [] then "." else _) = text kept
    by_cases empty : kept = []
    · rw [empty]
      rfl
    · rw [if_neg (mt (join_map_text_eq_nil_iff spelled).mp empty), text_of_spelled spelled empty]
      rfl

theorem collapse_of_hasDoubleFront (double : HasDoubleFront path) :
    collapse path = "/" ++ text (normalForm path) := by
  obtain ⟨kept, -, normal, collapsed⟩ := exists_kept path
  rw [collapsed, normal, double.isAbsolute, double.leadingSeparators_eq]
  show (if '/' :: '/' :: join (kept.map Component.text) = [] then "." else _) = _
  rw [if_neg (List.cons_ne_nil _ _)]
  apply String.toList_injective
  rw [String.toList_append]
  simp [ground, text]

/-- The text of a normal form has a separator at its front if the path has one, and never
a second one. -/
theorem exists_toList_text (path : String) :
    ∃ behind : List Char, behind.head? ≠ some '/' ∧
      (text (normalForm path)).toList = if isAbsolute path then '/' :: behind else behind := by
  obtain ⟨kept, spelled, normal, -⟩ := exists_kept path
  rw [normal]
  cases isAbsolute path with
  | true =>
      exact ⟨join (kept.map Component.text), head?_join_map_text spelled, String.toList_ofList⟩
  | false =>
      by_cases empty : kept = []
      · exact ⟨['.'], by decide, by rw [empty]; rfl⟩
      · refine ⟨join (kept.map Component.text), head?_join_map_text spelled, ?_⟩
        show (text kept).toList = join (kept.map Component.text)
        rw [text_of_spelled spelled empty, String.toList_ofList]

theorem not_hasDoubleFront_text (path : String) : ¬ HasDoubleFront (text (normalForm path)) := by
  intro ⟨⟨rest, front⟩, _⟩
  obtain ⟨behind, noSeparator, letters⟩ := exists_toList_text path
  rw [letters] at front
  cases rooted : isAbsolute path with
  | true =>
      rw [rooted] at front
      rw [← List.tail_eq_of_cons_eq front] at noSeparator
      exact noSeparator rfl
  | false =>
      rw [rooted] at front
      change _ = behind at front
      rw [← front] at noSeparator
      exact noSeparator rfl

theorem hasDoubleFront_append_text (rooted : isAbsolute path = true) :
    HasDoubleFront ("/" ++ text (normalForm path)) := by
  obtain ⟨behind, noSeparator, letters⟩ := exists_toList_text path
  rw [rooted] at letters
  have twice : ("/" ++ text (normalForm path)).toList = '/' :: '/' :: behind := by
    rw [String.toList_append, letters]
    rfl
  rw [HasDoubleFront, twice]
  refine ⟨⟨behind, rfl⟩, ?_⟩
  intro ⟨rest, front⟩
  have third : behind = '/' :: rest := by simpa using front.symm
  exact noSeparator (congrArg List.head? third)

/-- With a double front made single, both ways give the same text. -/
theorem singleFront_collapse (path : String) :
    singleFront (collapse path) = text (normalForm path) := by
  by_cases double : HasDoubleFront path
  · rw [collapse_of_hasDoubleFront double, singleFront,
      if_pos (hasDoubleFront_append_text double.isAbsolute), String.toList_append]
    exact String.ofList_toList
  · rw [collapse_of_not_hasDoubleFront double, singleFront,
      if_neg (not_hasDoubleFront_text path)]

theorem text_normalForm_inj {first second : String} :
    text (normalForm first) = text (normalForm second) ↔ normalForm first = normalForm second := by
  constructor
  · intro same
    rw [← normalForm_text_normalForm first, same, normalForm_text_normalForm]
  · intro same
    rw [same]

/-- The text of a normal form is the collapsed path, but for a second separator at the
front, and paths are in one directory exactly if they collapse to one text, but for
that separator. -/
theorem collapse_tells_directories :
    (∀ path, ¬ HasDoubleFront path → text (normalForm path) = collapse path) ∧
    (∀ path, HasDoubleFront path → collapse path = "/" ++ text (normalForm path)) ∧
    ∀ first second, sameDirectory first second = true ↔
      singleFront (collapse first) = singleFront (collapse second) := by
  refine ⟨?_, ?_, ?_⟩
  · intro path single
    exact (collapse_of_not_hasDoubleFront single).symm
  · intro path double
    exact collapse_of_hasDoubleFront double
  · intro first second
    rw [singleFront_collapse, singleFront_collapse, sameDirectory_iff]
    exact text_normalForm_inj.symm

/-- Two separators at the front are both kept by one way and not by the other, and of three
both keep one. -/
theorem collapse_tells_directories_behind_separators :
    HasDoubleFront "//opt/../usr" ∧
      collapse "//opt/../usr" = "/" ++ text (normalForm "//opt/../usr") ∧
      ¬ HasDoubleFront "///usr" ∧ text (normalForm "///usr") = collapse "///usr" := by
  have double : HasDoubleFront "//opt/../usr" := by decide
  have single : ¬ HasDoubleFront "///usr" := by decide
  obtain ⟨ofSingle, ofDouble, -⟩ := collapse_tells_directories
  exact ⟨double, ofDouble _ double, single, ofSingle _ single⟩

end Tasking.Path
