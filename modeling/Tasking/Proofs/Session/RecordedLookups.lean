/-
# Recorded lookups are all that matters

Which variables are looked up depends on what the variables hold: an override stops the
search at once, and the chain of platforms ends at the first that is there. All the same,
the lookups that were made tell the whole story.
-/

import Tasking.Proofs.Session.Lookups
import Tasking.Proofs.Session.View

namespace Tasking

theorem Effort.name_mem_lookups {setting : Setting} {trail : List Observation}
    (seen : .lookedUp setting ∈ trail) : setting.name ∈ (ofTrail trail).lookups :=
  List.mem_map_of_mem (List.mem_filterMap.mpr ⟨_, seen, rfl⟩)

namespace Selector

def lookups (selector : Selector) (facts : Facts) (environment : Environment String)
    (inquiry : Inquiry) : List String :=
  (Effort.ofTrail (selector.answer facts environment.source inquiry).trail).lookups

/-- Agreement on the recorded lookups is enough for everything that comes of a question: its
answer, the lookups and events in their order, and the selection that is kept. -/
theorem recorded_lookups_suffice (selector : Selector) (facts : Facts) (inquiry : Inquiry)
    {first second : Environment String}
    (agree : ∀ name ∈ selector.lookups facts first inquiry,
      present (first.get? name) = present (second.get? name)) :
    selector.answer facts second.source inquiry = selector.answer facts first.source inquiry ∧
      ∀ name ∉ selector.lookups facts first inquiry, ∀ value : Option String,
        selector.answer facts (second.write name value).source inquiry =
          selector.answer facts first.source inquiry := by
  have alike {other : Environment String}
      (agree : ∀ name ∈ selector.lookups facts first inquiry,
        present (first.get? name) = present (other.get? name)) :
      selector.answer facts other.source inquiry = selector.answer facts first.source inquiry :=
    selector.answer_congr_of_trail facts inquiry fun setting seen =>
      agree setting.name (Effort.name_mem_lookups seen)
  refine ⟨alike agree, ?_⟩
  intro name unseen value
  apply alike
  intro other seen
  have apart : other ≠ name := fun same => unseen (same ▸ seen)
  rw [Environment.get?_write, if_neg apart]
  exact agree other seen

/-- Where the target has a platform of its own, that of the host is not looked up, and an empty
architecture is none. -/
theorem recorded_lookups_suffice_behind_platform :
    (∀ name ∈ ({ kind := .settings } : Selector).lookups .unknown
        (.ofList [("CHPL_TARGET_PLATFORM", "cygwin64"), ("CHPL_TARGET_ARCH", "")]) .selection,
      present ((Environment.ofList [("CHPL_TARGET_PLATFORM", "cygwin64"),
          ("CHPL_TARGET_ARCH", "")]).get? name) =
        present ((Environment.ofList [("CHPL_TARGET_PLATFORM", "cygwin64"),
          ("CHPL_HOST_PLATFORM", "cray-xc"), ("CHPL_PLATFORM", "darwin")]).get? name)) ∧
    ({ kind := .settings } : Selector).answer .unknown
        (Environment.ofList [("CHPL_TARGET_PLATFORM", "cygwin64"),
          ("CHPL_HOST_PLATFORM", "cray-xc"), ("CHPL_PLATFORM", "darwin")]).source .selection =
      ({ kind := .settings } : Selector).answer .unknown
        (Environment.ofList [("CHPL_TARGET_PLATFORM", "cygwin64"),
          ("CHPL_TARGET_ARCH", "")]).source .selection := by
  have agree : ∀ name ∈ ({ kind := .settings } : Selector).lookups .unknown
      (.ofList [("CHPL_TARGET_PLATFORM", "cygwin64"), ("CHPL_TARGET_ARCH", "")]) .selection,
      present ((Environment.ofList [("CHPL_TARGET_PLATFORM", "cygwin64"),
          ("CHPL_TARGET_ARCH", "")]).get? name) =
        present ((Environment.ofList [("CHPL_TARGET_PLATFORM", "cygwin64"),
          ("CHPL_HOST_PLATFORM", "cray-xc"), ("CHPL_PLATFORM", "darwin")]).get? name) := by
    decide
  exact ⟨agree, (recorded_lookups_suffice _ .unknown .selection agree).1⟩

end Selector

end Tasking
