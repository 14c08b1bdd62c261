/-
# Queries that only ask whether a setting is present

A lookup gives a raw answer, in which an empty text is not the same as nothing. A
query that counts both as absence at every one of its lookups cannot tell them apart,
and two sources that agree on what is present lead it the same way. It is enough that
they agree on the settings that the query comes across.

The property is built up along `>>=` from `setting`, which is the lookup that counts
the empty text as no answer.
-/

import Tasking.Proofs.Query.Course

namespace Tasking.Query

variable {α β : Type}

/-- The query goes on in the same way after an empty answer as after none. -/
def HeedsPresence : Query α → Prop
  | .done _ => True
  | .lookUp _ next =>
      ∀ answer, next answer = next (present answer) ∧ (next answer).HeedsPresence
  | .ask _ next => next.HeedsPresence
  | .report _ next => next.HeedsPresence

theorem HeedsPresence.bind {query : Query α} {following : α → Query β}
    (heeds : query.HeedsPresence) (rest : ∀ value, (following value).HeedsPresence) :
    (query >>= following).HeedsPresence := by
  induction query with
  | done value => exact rest value
  | lookUp setting next ih =>
      intro answer
      obtain ⟨same, inner⟩ := heeds answer
      exact ⟨congrArg (· >>= following) same, ih answer inner⟩
  | ask request next ih => exact ih heeds
  | report event next ih => exact ih heeds

theorem heedsPresence_setting_bind (asked : Setting) {following : Option String → Query β}
    (rest : ∀ value, (following value).HeedsPresence) :
    (setting asked >>= following).HeedsPresence := by
  intro answer
  refine ⟨?_, rest (present answer)⟩
  change following (present answer) = following (present (present answer))
  rw [present_present]

/-- A source in which every empty answer is withdrawn leads the query to the same value. -/
theorem HeedsPresence.value_present {query : Query α} (heeds : query.HeedsPresence)
    (source : Source) :
    query.value (fun setting => present (source setting)) = query.value source := by
  induction query with
  | done value => rfl
  | lookUp setting next ih =>
      -- how to go on is known for the answer as given, what follows for the one that counts
      obtain ⟨same, -⟩ := heeds (source setting)
      obtain ⟨-, inner⟩ := heeds (present (source setting))
      rw [value, value, same]
      exact ih (present (source setting)) inner
  | ask request next ih => exact ih heeds
  | report event next ih => exact ih heeds

/-- And on the way the query does the same. -/
theorem HeedsPresence.trail_present {query : Query α} (heeds : query.HeedsPresence)
    (source : Source) :
    query.trail (fun setting => present (source setting)) = query.trail source := by
  induction query with
  | done value => rfl
  | lookUp setting next ih =>
      obtain ⟨same, -⟩ := heeds (source setting)
      obtain ⟨-, inner⟩ := heeds (present (source setting))
      rw [trail, trail, same, ih (present (source setting)) inner]
  | ask request next ih => rw [trail, trail, ih heeds]
  | report event next ih => rw [trail, trail, ih heeds]

variable {query : Query α} {first second : Source}

theorem HeedsPresence.trail_congr (heeds : query.HeedsPresence)
    (agree : ∀ setting, .lookedUp setting ∈ query.trail first →
      present (first setting) = present (second setting)) :
    query.trail second = query.trail first := by
  rw [← heeds.trail_present first, ← heeds.trail_present second]
  apply Query.trail_congr
  rw [heeds.trail_present first]
  exact agree

theorem HeedsPresence.value_congr (heeds : query.HeedsPresence)
    (agree : ∀ setting, .lookedUp setting ∈ query.trail first →
      present (first setting) = present (second setting)) :
    query.value second = query.value first := by
  rw [← heeds.value_present first, ← heeds.value_present second]
  apply Query.value_congr
  rw [heeds.trail_present first]
  exact agree

end Tasking.Query
