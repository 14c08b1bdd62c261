/-
# The phases of threads that ask at once

However the threads are interleaved, and whatever happens to the variables between
their steps, the threads together go through three phases. At first nobody has been
let in. Then one thread is inside, and what is left of its query is a stage of the
one query that everybody asks. In the end its selection is published, nobody is
inside, and whoever has an answer has that selection. One step keeps the threads in
a phase or takes them to the next; there is no way back.
-/

import Tasking.Proofs.Query.Course
import Tasking.Proofs.Race.Step

namespace Tasking.Race

/-- How far all threads together have come, where `allowed` says which answers the
variables can have given. -/
inductive Phase (allowed : Setting → Option String → Prop) (query : Query Selection)
    (state : State) : Prop
  | untouched (empty : state.cell = .empty) (begun : state.begun = 0)
      (lookups : state.lookups = [])
      (outside : ∀ (number : Nat) (thread : Thread), state.threads[number]? = some thread →
        thread.IsOutside)
  | selecting (owner : Nat) (rest : Query Selection) (busy : state.cell = .busy)
      (begun : state.begun = 1) (inside : state.threads[owner]? = some (.selecting rest))
      (unfolds : Query.Unfolds allowed query rest state.lookups)
      (outside : ∀ (number : Nat) (thread : Thread), number ≠ owner →
        state.threads[number]? = some thread → thread.IsOutside)
  | published (selection : Selection) (filled : state.cell = .filled selection)
      (begun : state.begun = 1)
      (unfolds : Query.Unfolds allowed query (.done selection) state.lookups)
      (settled : ∀ (number : Nat) (thread : Thread), state.threads[number]? = some thread →
        thread.IsOutside ∨ thread = .returned selection)

variable {allowed : Setting → Option String → Prop} {query : Query Selection}
  {state later : State}

theorem phase_start (environment : Environment String) (threads : Nat) :
    Phase allowed query (State.start environment threads) := by
  refine .untouched rfl rfl rfl ?_
  intro number thread there
  cases List.eq_of_mem_replicate (List.mem_of_getElem? there)
  trivial

/-- If any thread is inside, it is the only one, and its query is a stage of the query. -/
theorem Phase.of_inside {number : Nat} {rest : Query Selection}
    (phase : Phase allowed query state)
    (there : state.threads[number]? = some (.selecting rest)) :
    state.cell = .busy ∧ state.begun = 1 ∧ Query.Unfolds allowed query rest state.lookups ∧
      ∀ (other : Nat) (thread : Thread), other ≠ number →
        state.threads[other]? = some thread → thread.IsOutside := by
  cases phase with
  | untouched empty begun lookups outside => exact (outside number _ there).elim
  | published selection filled begun unfolds settled =>
      rcases settled number _ there with outside | answered
      · exact outside.elim
      · cases answered
  | selecting owner rest' busy begun inside unfolds outside =>
      by_cases own : number = owner
      · subst own
        cases Option.some.inj (there.symm.trans inside)
        exact ⟨busy, begun, unfolds, outside⟩
      · exact (outside number _ own there).elim

/-- The thread that is inside goes on with its query. -/
theorem Phase.go_on {number : Nat} {rest next : Query Selection} {lookups : List Setting}
    (phase : Phase allowed query state)
    (there : state.threads[number]? = some (.selecting rest))
    (unfolds : Query.Unfolds allowed query next lookups) :
    Phase allowed query
      { state with threads := state.threads.set number (.selecting next), lookups } := by
  obtain ⟨busy, begun, -, outside⟩ := phase.of_inside there
  refine .selecting number next busy begun (getElem?_set_of_some there _) unfolds ?_
  intro other thread apart found
  rcases getElem?_set_cases found with ⟨same, -⟩ | ⟨-, before⟩
  · exact absurd same apart
  · exact outside other thread apart before

/-- A thread that finds no selection stays outside, and the phase stays. -/
theorem Phase.miss {number : Nat} (phase : Phase allowed query state)
    (there : state.threads[number]? = some .started)
    (unfilled : ∀ selection, state.cell ≠ .filled selection) :
    Phase allowed query { state with threads := state.threads.set number .missed } := by
  cases phase with
  | untouched empty begun lookups outside =>
      refine .untouched empty begun lookups ?_
      intro other thread found
      rcases getElem?_set_cases found with ⟨-, rfl⟩ | ⟨-, before⟩
      · trivial
      · exact outside other thread before
  | selecting owner rest busy begun inside unfolds outside =>
      have apart : number ≠ owner := by
        rintro rfl
        cases there.symm.trans inside
      refine .selecting owner rest busy begun ((List.getElem?_set_ne apart).trans inside)
        unfolds ?_
      intro other thread notOwner found
      rcases getElem?_set_cases found with ⟨-, rfl⟩ | ⟨-, before⟩
      · trivial
      · exact outside other thread notOwner before
  | published selection filled begun unfolds settled => exact absurd filled (unfilled selection)

/-- Every step keeps the threads in a phase or takes them to the next. -/
theorem Phase.step (phase : Phase allowed query state)
    (admitted : ∀ setting, allowed setting (state.environment.source setting))
    (step : Step query state later) : Phase allowed query later := by
  cases step with
  | idle environment =>
      cases phase with
      | untouched empty begun lookups outside => exact .untouched empty begun lookups outside
      | selecting owner rest busy begun inside unfolds outside =>
          exact .selecting owner rest busy begun inside unfolds outside
      | published selection filled begun unfolds settled =>
          exact .published selection filled begun unfolds settled
  | miss there unfilled => exact phase.miss there unfilled
  | @take number thread selection there outside filled =>
      cases phase with
      | untouched empty begun lookups others => cases empty.symm.trans filled
      | selecting owner rest busy begun inside unfolds others => cases busy.symm.trans filled
      | published published holds begun unfolds settled =>
          cases holds.symm.trans filled
          refine .published selection filled begun unfolds ?_
          intro other thread' found
          rcases getElem?_set_cases found with ⟨-, answered⟩ | ⟨-, before⟩
          · exact Or.inr answered
          · exact settled other thread' before
  | @enter number there empty =>
      cases phase with
      | selecting owner rest busy begun inside unfolds others => cases busy.symm.trans empty
      | published selection filled begun unfolds settled => cases filled.symm.trans empty
      | untouched cell begun lookups outside =>
          refine .selecting number query rfl (congrArg (· + 1) begun)
            (getElem?_set_of_some there _) (lookups ▸ .start) ?_
          intro other thread apart found
          rcases getElem?_set_cases found with ⟨same, -⟩ | ⟨-, before⟩
          · exact absurd same apart
          · exact outside other thread before
  | @publish number selection there =>
      obtain ⟨-, begun, unfolds, outside⟩ := phase.of_inside there
      refine .published selection rfl begun unfolds ?_
      intro other thread found
      rcases getElem?_set_cases found with ⟨-, answered⟩ | ⟨apart, before⟩
      · exact Or.inr answered
      · exact Or.inl (outside other thread apart before)
  | @lookUp number setting next there =>
      obtain ⟨-, -, unfolds, -⟩ := phase.of_inside there
      exact phase.go_on there (unfolds.lookUp (admitted setting))
  | ask there =>
      obtain ⟨-, -, unfolds, -⟩ := phase.of_inside there
      exact phase.go_on there unfolds.ask
  | report there =>
      obtain ⟨-, -, unfolds, -⟩ := phase.of_inside there
      exact phase.go_on there unfolds.report

end Tasking.Race
