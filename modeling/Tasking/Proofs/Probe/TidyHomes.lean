/-
# Directories may be given by their normal forms

Of the two directories that tell whether the toolchain is the vendor's, only the
normal forms count. Writing either of them anew by the text of its normal form is
therefore not noticed: the text is never empty, and reading it gives the same
normal form. A directory that is not given stays so.
-/

import Tasking.Proofs.Path.RoundTrip
import Tasking.Proofs.Probe.Answers
import Tasking.Selector

namespace Tasking

theorem Path.text_normalForm_ne_empty (path : String) : text (normalForm path) ≠ "" := by
  intro empty
  have reread := normalForm_text_normalForm path
  rw [empty] at reread
  rw [← reread] at empty
  exact absurd empty (by decide)

theorem givenSameDirectory_congr {first second first' second' : Option String}
    (sameFirst : first.map Path.normalForm = first'.map Path.normalForm)
    (sameSecond : second.map Path.normalForm = second'.map Path.normalForm) :
    givenSameDirectory first second = givenSameDirectory first' second' := by
  cases first with
  | none => rw [Option.map_eq_none_iff.mp sameFirst.symm]; rfl
  | some home =>
      obtain ⟨home', rfl, sameHome⟩ := Option.map_eq_some_iff.mp sameFirst.symm
      cases second with
      | none => rw [Option.map_eq_none_iff.mp sameSecond.symm]; rfl
      | some moduleHome =>
          obtain ⟨moduleHome', rfl, sameModuleHome⟩ := Option.map_eq_some_iff.mp sameSecond.symm
          show Path.sameDirectory home moduleHome = Path.sameDirectory home' moduleHome'
          rw [Path.sameDirectory, Path.sameDirectory, sameHome, sameModuleHome]

/-- The names of the variables that hold the directory of the toolchain and that of the
vendor's module. -/
def homeNames : List String := ["CHPL_HOME", "CHPL_MODULE_HOME"]

namespace Environment

/-- Writes the directory that a variable holds by its normal form, if it holds one. -/
def tidy (environment : Environment String) (name : String) : Environment String :=
  match present (environment.get? name) with
  | some path => environment.insert name (Path.text (Path.normalForm path))
  | none => environment

theorem get?_tidy_of_ne (environment : Environment String) {name other : String}
    (apart : other ≠ name) : (environment.tidy name).get? other = environment.get? other := by
  unfold tidy
  split
  · rw [get?_insert, if_neg apart]
  · rfl

/-- What a tidied variable holds has the same normal form as before. -/
theorem normalForm_get?_tidy (environment : Environment String) (name : String) :
    (present ((environment.tidy name).get? name)).map Path.normalForm =
      (present (environment.get? name)).map Path.normalForm := by
  unfold tidy
  split
  case h_1 path given =>
      rw [get?_insert, if_pos rfl, present_some (Path.text_normalForm_ne_empty path), given]
      exact congrArg some (Path.normalForm_text_normalForm path)
  case h_2 absent => rfl

/-- The environments differ at most in how the two directories are written. -/
structure SameUpToHomes (first second : Environment String) : Prop where
  home : ∀ name, (present (first.get? name)).map Path.normalForm =
    (present (second.get? name)).map Path.normalForm
  other : ∀ name ∉ homeNames, first.get? name = second.get? name

variable {first second : Environment String}

theorem SameUpToHomes.tidy (same : SameUpToHomes first second) {name : String}
    (among : name ∈ homeNames) : SameUpToHomes (first.tidy name) second where
  home other := by
    by_cases written : other = name
    · rw [written, normalForm_get?_tidy]
      exact same.home name
    · rw [first.get?_tidy_of_ne written]
      exact same.home other
  other kept outside := by
    have apart : kept ≠ name := fun written => outside (written ▸ among)
    rw [first.get?_tidy_of_ne apart]
    exact same.other kept outside

theorem SameUpToHomes.foldl_tidy (same : SameUpToHomes first second) {names : List String}
    (among : names ⊆ homeNames) : SameUpToHomes (names.foldl Environment.tidy first) second := by
  induction names generalizing first with
  | nil => exact same
  | cons name rest ih =>
      rw [List.cons_subset] at among
      exact ih (same.tidy among.1) among.2

theorem SameUpToHomes.source_eq (same : SameUpToHomes first second) (setting : Setting)
    (apart : setting.name ∉ homeNames) : first.source setting = second.source setting :=
  same.other setting.name apart

theorem SameUpToHomes.value_vendorModule (same : SameUpToHomes first second) :
    Probe.ofSettings.vendorModule.value first.source =
      Probe.ofSettings.vendorModule.value second.source := by
  rw [Probe.value_vendorModule, Probe.value_vendorModule]
  exact givenSameDirectory_congr (same.home "CHPL_HOME") (same.home "CHPL_MODULE_HOME")

theorem SameUpToHomes.value_targetFacts (same : SameUpToHomes first second) :
    Probe.ofSettings.targetFacts.value first.source =
      Probe.ofSettings.targetFacts.value second.source := by
  have arch := same.source_eq (.arch .target) (by decide)
  have compiler := same.source_eq (.compiler .target) (by decide)
  have platform : (Probe.ofSettings.platform .target).value first.source =
      (Probe.ofSettings.platform .target).value second.source := by
    rw [Probe.value_platform_target, Probe.value_platform_target]
    simp only [List.findSome?_cons, List.findSome?_nil,
      same.source_eq (.platform .target) (by decide),
      same.source_eq (.platform .host) (by decide),
      same.source_eq .anyPlatform (by decide)]
  rw [Probe.value_targetFacts, Probe.value_targetFacts, Probe.value_arch, Probe.value_arch,
    Probe.value_compiler, Probe.value_compiler, arch, compiler, platform,
    same.value_vendorModule]

/-- A fresh selector over settings cannot tell the two environments apart. -/
theorem SameUpToHomes.answer_eq (same : SameUpToHomes first second) (facts : Facts)
    (inquiry : Inquiry) :
    (({ kind := .settings } : Selector).answer facts first.source inquiry).answer =
      (({ kind := .settings } : Selector).answer facts second.source inquiry).answer := by
  have tasks := same.source_eq .tasks (by decide)
  have selected : Probe.ofSettings.select.value first.source =
      Probe.ofSettings.select.value second.source := by
    rw [Probe.value_select, Probe.value_select, tasks, same.value_targetFacts]
  cases inquiry with
  | get => exact congrArg (fun selection => Answer.text selection.choice.name) selected
  | selection => exact congrArg Answer.selection selected
  | concurrentGet threads =>
      cases threads with
      | zero => rfl
      | succ others =>
          exact congrArg
            (fun selection : Selection =>
              Answer.texts (List.replicate (others + 1) selection.choice.name)) selected
  | isCached => rfl
  | gatherFacts => exact congrArg Answer.facts same.value_targetFacts
  | overrideText => exact congrArg (fun answer => Answer.textIfAny (present answer)) tasks

end Environment

/-- Writing a normal form and reading it are inverse to each other, and the shape says
which lists are normal forms. So whichever of the two directories are given by their
normal forms, all that is found out about the target stays the same. -/
theorem normal_forms_survive_writing :
    (∀ path, Path.IsNormal (Path.normalForm path) ∧ .current ∉ Path.normalForm path) ∧
    (∀ components, Path.IsNormal components →
      Path.normalForm (Path.text components) = components) ∧
    (∀ path, Path.normalForm (Path.text (Path.normalForm path)) = Path.normalForm path) ∧
    (∀ components, (∃ path, Path.normalForm path = components) ↔ Path.IsNormal components) ∧
    ∀ (environment : Environment String) (names : List String),
      names ⊆ ["CHPL_HOME", "CHPL_MODULE_HOME"] →
        Probe.ofSettings.vendorModule.value (names.foldl .tidy environment).source =
            Probe.ofSettings.vendorModule.value environment.source ∧
          Probe.ofSettings.targetFacts.value (names.foldl .tidy environment).source =
            Probe.ofSettings.targetFacts.value environment.source ∧
          ∀ facts inquiry,
            (({ kind := .settings } : Selector).answer facts
                (names.foldl .tidy environment).source inquiry).answer =
              (({ kind := .settings } : Selector).answer facts environment.source
                inquiry).answer := by
  refine ⟨?_, ?_, Path.normalForm_text_normalForm, ?_, ?_⟩
  · intro path
    have isNormal := Path.isNormal_normalForm path
    exact ⟨isNormal, isNormal.not_mem_current⟩
  · intro components isNormal
    exact isNormal.normalForm_text
  · intro components
    exact Path.exists_normalForm_eq_iff
  · intro environment names among
    have unchanged : environment.SameUpToHomes environment := ⟨fun _ => rfl, fun _ _ => rfl⟩
    have same := unchanged.foldl_tidy among
    exact ⟨same.value_vendorModule, same.value_targetFacts, same.answer_eq⟩

/-- A parent that nothing can take away is read as it was written, and a module directory
may be given by way of its neighbour. -/
theorem normal_forms_survive_writing_above_start :
    Path.IsNormal [.parent, .name ['a']] ∧
      Path.normalForm (Path.text [.parent, .name ['a']]) = [.parent, .name ['a']] ∧
      ["CHPL_MODULE_HOME"] ⊆ ["CHPL_HOME", "CHPL_MODULE_HOME"] ∧
      ∃ environment : Environment String, environment.get? "CHPL_HOME" = some "/opt" ∧
        environment.get? "CHPL_MODULE_HOME" = some "/opt/x/.." ∧
        Probe.ofSettings.vendorModule.value
            (["CHPL_MODULE_HOME"].foldl .tidy environment).source =
          Probe.ofSettings.vendorModule.value environment.source := by
  have ordinary : Path.IsOrdinaryName ['a'] := ⟨by decide, by decide, by decide, by decide⟩
  have isNormal : Path.IsNormal [.parent, .name ['a']] :=
    Or.inr ⟨1, [.name ['a']], rfl, List.forall_mem_singleton.mpr ⟨['a'], rfl, ordinary⟩⟩
  have among : ["CHPL_MODULE_HOME"] ⊆ ["CHPL_HOME", "CHPL_MODULE_HOME"] := by decide
  obtain ⟨-, survives, -, -, same⟩ := normal_forms_survive_writing
  exact ⟨isNormal, survives _ isNormal, among,
    .ofList [("CHPL_HOME", "/opt"), ("CHPL_MODULE_HOME", "/opt/x/..")], rfl, rfl,
    (same _ _ among).1⟩

end Tasking
