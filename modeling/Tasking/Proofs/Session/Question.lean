/-
# One question to one selector

Questions to a selector fall into two kinds. Some need the selection: they make
it if it has not been made, and are answered from it. The others are answered
from the settings of the moment and leave the selector alone. What a session
does with its selectors needs no more than these two facts about a question.
-/

import Tasking.Proofs.Probe.Answers
import Tasking.Selector

namespace Tasking

/-- Whether the question is answered from the selection. With no thread to ask,
nothing is asked. -/
def Inquiry.needsSelection : Inquiry → Bool
  | .get | .selection => true
  | .concurrentGet threads => threads != 0
  | .isCached | .gatherFacts | .overrideText => false

namespace Selector

/-- The selection that a selector makes if it is asked for the first time. -/
def freshSelection (kind : ProbeKind) (facts : Facts) (source : Source) : Selection :=
  (({ kind := kind } : Selector).consult facts source).answer

variable (selector : Selector) (facts : Facts) (source : Source)

theorem answer_consult :
    (selector.consult facts source).answer =
      selector.cache.getD (freshSelection selector.kind facts source) := by
  cases made : selector.cache with
  | none =>
      rw [consult, made]
      rfl
  | some selection =>
      rw [consult_of_cached made]
      rfl

theorem state_consult :
    (selector.consult facts source).state =
      { selector with cache := some (selector.consult facts source).answer } := by
  cases made : selector.cache with
  | none => simp only [consult, made]
  | some selection =>
      rw [consult_of_cached made, ← made]

/-- A question that needs the selection leaves the selector with it. -/
theorem state_answer_of_needsSelection {inquiry : Inquiry}
    (needs : inquiry.needsSelection = true) :
    (selector.answer facts source inquiry).state = (selector.consult facts source).state := by
  cases inquiry with
  | get | selection => rfl
  | concurrentGet threads =>
      cases threads with
      | zero => exact absurd needs Bool.false_ne_true
      | succ others => rfl
  | isCached | gatherFacts | overrideText => exact absurd needs Bool.false_ne_true

/-- Any other question leaves the selector as it was. -/
theorem state_answer_of_not_needsSelection {inquiry : Inquiry}
    (other : ¬ inquiry.needsSelection = true) :
    (selector.answer facts source inquiry).state = selector := by
  cases inquiry with
  | get | selection => exact absurd rfl other
  | concurrentGet threads =>
      cases threads with
      | zero => rfl
      | succ others => exact absurd rfl other
  | isCached | gatherFacts | overrideText => rfl

theorem state_answer (inquiry : Inquiry) :
    (selector.answer facts source inquiry).state =
      if inquiry.needsSelection then (selector.consult facts source).state else selector := by
  by_cases needs : inquiry.needsSelection = true
  · rw [if_pos needs, state_answer_of_needsSelection _ _ _ needs]
  · rw [if_neg needs, state_answer_of_not_needsSelection _ _ _ needs]

/-- A question that needs the selection is answered as if it had been made before. -/
theorem answer_of_needsSelection {inquiry : Inquiry} (needs : inquiry.needsSelection = true) :
    (selector.answer facts source inquiry).answer =
      (({ selector with cache := some (selector.consult facts source).answer } : Selector).answer
        facts source inquiry).answer := by
  cases inquiry with
  | get | selection => rfl
  | concurrentGet threads =>
      cases threads with
      | zero => rfl
      | succ others => rfl
  | isCached | gatherFacts | overrideText => exact absurd needs Bool.false_ne_true

theorem answer_concurrentGet (threads : Nat) :
    (selector.answer facts source (.concurrentGet threads)).answer =
      .texts (List.replicate threads (selector.consult facts source).answer.choice.name) := by
  cases threads with
  | zero => rfl
  | succ others => rfl

end Selector

end Tasking
