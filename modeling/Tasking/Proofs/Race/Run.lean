/-
# Whole runs of threads that ask at once

The phases are carried along a run, and with them what the steps of a run can never
undo: who has been let in, what has been published, and the answers given. A run is
any list of moves, so the variables may change between any two steps.
-/

import Tasking.Proofs.Race.Phase

namespace Tasking.Race

variable {allowed : Setting → Option String → Prop} {query : Query Selection}
  {state later : State}

theorem after_append (query : Query Selection) (state : State) (first second : List Move) :
    state.after query (first ++ second) = (state.after query first).after query second :=
  List.foldl_append

/-- Whatever every step keeps, every run keeps. -/
theorem after_of_step {Kept : State → Prop}
    (keeps : ∀ {state later : State}, Kept state → Step query state later → Kept later)
    (kept : Kept state) (moves : List Move) : Kept (state.after query moves) := by
  induction moves generalizing state with
  | nil => exact kept
  | cons move rest ih => exact ih (keeps kept (step_move query state move))

theorem Phase.after {moves : List Move} (phase : Phase allowed query state)
    (admitted : ∀ earlier, earlier <+: moves →
      ∀ setting, allowed setting ((state.after query earlier).environment.source setting)) :
    Phase allowed query (state.after query moves) := by
  induction moves generalizing state with
  | nil => exact phase
  | cons move rest ih =>
      apply ih (phase.step (admitted [] List.nil_prefix) (step_move query state move))
      intro earlier within
      exact admitted (move :: earlier) (List.cons_prefix_cons.mpr ⟨rfl, within⟩)

/-- Where every answer is admitted, every run stays within the phases. -/
theorem Phase.after_of_any (phase : Phase (fun _ _ => True) query state) (moves : List Move) :
    Phase (fun _ _ => True) query (state.after query moves) :=
  phase.after fun _ _ _ => trivial

/-- The cell is taken, and only threads with these numbers can be inside. -/
def State.OnlyInside (inside : Nat → Prop) (state : State) : Prop :=
  state.cell ≠ .empty ∧
    ∀ number rest, state.threads[number]? = some (.selecting rest) → inside number

/-- Nobody else is let in once the cell is taken. -/
theorem State.OnlyInside.step {inside : Nat → Prop} (only : state.OnlyInside inside)
    (step : Step query state later) : later.OnlyInside inside := by
  obtain ⟨taken, among⟩ := only
  have placed {number : Nat} {new : Thread}
      (fits : ∀ rest, new = .selecting rest → inside number) :
      ∀ other rest, (state.threads.set number new)[other]? = some (.selecting rest) →
        inside other := by
    intro other rest found
    rcases getElem?_set_cases found with ⟨rfl, selects⟩ | ⟨-, before⟩
    · exact fits rest selects.symm
    · exact among other rest before
  have outside {new : Thread} (never : ∀ rest, new ≠ .selecting rest) {number : Nat} :
      ∀ rest, new = .selecting rest → inside number :=
    fun rest same => absurd same (never rest)
  cases step with
  | idle environment => exact ⟨taken, among⟩
  | miss there unfilled => exact ⟨taken, placed (outside fun _ => Thread.noConfusion)⟩
  | take there waits filled => exact ⟨taken, placed (outside fun _ => Thread.noConfusion)⟩
  | enter there empty => exact absurd empty taken
  | publish there =>
      exact ⟨Cell.noConfusion, placed (outside fun _ => Thread.noConfusion)⟩
  | lookUp there => exact ⟨taken, placed fun _ _ => among _ _ there⟩
  | ask there => exact ⟨taken, placed fun _ _ => among _ _ there⟩
  | report there => exact ⟨taken, placed fun _ _ => among _ _ there⟩

/-- The thread that is inside is the only one that ever will be. -/
theorem Phase.onlyInside {owner : Nat} {rest : Query Selection}
    (phase : Phase allowed query state)
    (there : state.threads[owner]? = some (.selecting rest)) :
    state.OnlyInside fun number => number = owner := by
  obtain ⟨busy, -, -, outside⟩ := phase.of_inside there
  refine ⟨busy ▸ Cell.noConfusion, ?_⟩
  intro number other found
  by_cases own : number = owner
  · exact own
  · exact (outside number _ own found).elim

/-- What has been published stays, for nobody is inside who could publish again. -/
theorem Phase.filled_step {selection : Selection} (phase : Phase allowed query state)
    (filled : state.cell = .filled selection) (step : Step query state later) :
    later.cell = .filled selection := by
  have nobody {number : Nat} {rest : Query Selection} :
      state.threads[number]? ≠ some (.selecting rest) := by
    intro there
    cases (phase.of_inside there).1.symm.trans filled
  cases step with
  | idle | miss | take => exact filled
  | enter there empty => cases empty.symm.trans filled
  | publish there => exact absurd there nobody
  | lookUp there => exact absurd there nobody
  | ask there => exact absurd there nobody
  | report there => exact absurd there nobody

theorem Phase.filled_after {selection : Selection}
    (phase : Phase (fun _ _ => True) query state) (filled : state.cell = .filled selection)
    (moves : List Move) : (state.after query moves).cell = .filled selection := by
  have keeps {state later : State}
      (kept : Phase (fun _ _ => True) query state ∧ state.cell = .filled selection)
      (step : Step query state later) :
      Phase (fun _ _ => True) query later ∧ later.cell = .filled selection :=
    ⟨kept.1.step (fun _ => trivial) step, kept.1.filled_step kept.2 step⟩
  exact (after_of_step keeps ⟨phase, filled⟩ moves).2

theorem Phase.begun_le_one (phase : Phase allowed query state) : state.begun ≤ 1 := by
  cases phase with
  | untouched empty begun lookups outside => omega
  | selecting owner rest busy begun inside unfolds outside => omega
  | published selection filled begun unfolds settled => omega

/-- Whoever has an answer has what has been published. -/
theorem Phase.filled_of_returned {number : Nat} {selection : Selection}
    (phase : Phase allowed query state)
    (there : state.threads[number]? = some (.returned selection)) :
    state.cell = .filled selection := by
  cases phase with
  | untouched empty begun lookups outside => exact (outside number _ there).elim
  | selecting owner rest busy begun inside unfolds outside =>
      by_cases own : number = owner
      · subst own
        cases there.symm.trans inside
      · exact (outside number _ own there).elim
  | published published filled begun unfolds settled =>
      rcases settled number _ there with outside | answered
      · exact outside.elim
      · cases answered
        exact filled

theorem Phase.unfolds_of_filled {selection : Selection} (phase : Phase allowed query state)
    (filled : state.cell = .filled selection) :
    Query.Unfolds allowed query (.done selection) state.lookups := by
  cases phase with
  | untouched empty begun lookups outside => cases empty.symm.trans filled
  | selecting owner rest busy begun inside unfolds outside => cases busy.symm.trans filled
  | published published holds begun unfolds settled =>
      cases holds.symm.trans filled
      exact unfolds

/-- All lookups of all threads together are made in the order of one query. -/
theorem Phase.lookups_sublist {order : List Setting} (phase : Phase allowed query state)
    (ordered : query.LooksUpInOrder order) : state.lookups.Sublist order := by
  cases phase with
  | untouched empty begun lookups outside =>
      rw [lookups]
      exact List.nil_sublist order
  | selecting owner rest busy begun inside unfolds outside => exact unfolds.sublist ordered
  | published selection filled begun unfolds settled => exact unfolds.sublist ordered

end Tasking.Race
