/-
# What one move can do to threads that ask at once

A move either changes nothing that the threads share among themselves, or takes one
thread on by one step. `Step` lists all ways in which that can happen, with what was
true before. Whatever is to be kept along a run is kept by these eight cases.
-/

import Tasking.Race

namespace Tasking.Race

/-- The thread has not been let in, and has no answer yet. -/
def Thread.IsOutside : Thread → Prop
  | .started | .missed => True
  | .selecting _ | .returned _ => False

/-- One step of the threads, from `state` to another state. -/
inductive Step (query : Query Selection) (state : State) : State → Prop
  /-- Every thread stays where it is. The variables may change. -/
  | idle (environment : Environment String) : Step query state { state with environment }
  /-- A thread looks at the cell and finds no selection. -/
  | miss {number : Nat} (there : state.threads[number]? = some .started)
      (unfilled : ∀ selection, state.cell ≠ .filled selection) :
      Step query state { state with threads := state.threads.set number .missed }
  /-- A thread finds the selection and takes it. -/
  | take {number : Nat} {thread : Thread} {selection : Selection}
      (there : state.threads[number]? = some thread) (outside : thread.IsOutside)
      (filled : state.cell = .filled selection) :
      Step query state { state with threads := state.threads.set number (.returned selection) }
  /-- A thread is the first to be let in. -/
  | enter {number : Nat} (there : state.threads[number]? = some .missed)
      (empty : state.cell = .empty) :
      Step query state
        { state with
          cell := .busy
          threads := state.threads.set number (.selecting query)
          begun := state.begun + 1 }
  /-- A thread's query is over, and what it found is published. -/
  | publish {number : Nat} {selection : Selection}
      (there : state.threads[number]? = some (.selecting (.done selection))) :
      Step query state
        { state with
          cell := .filled selection
          threads := state.threads.set number (.returned selection) }
  | lookUp {number : Nat} {setting : Setting} {next : Option String → Query Selection}
      (there : state.threads[number]? = some (.selecting (.lookUp setting next))) :
      Step query state
        { state with
          threads :=
            state.threads.set number (.selecting (next (state.environment.source setting)))
          lookups := state.lookups ++ [setting] }
  | ask {number : Nat} {request : Request} {next : Query Selection}
      (there : state.threads[number]? = some (.selecting (.ask request next))) :
      Step query state { state with threads := state.threads.set number (.selecting next) }
  | report {number : Nat} {event : Event} {next : Query Selection}
      (there : state.threads[number]? = some (.selecting (.report event next))) :
      Step query state { state with threads := state.threads.set number (.selecting next) }

/-- Every move is one of the steps. -/
theorem step_move (query : Query Selection) (state : State) (move : Move) :
    Step query state (state.move query move) := by
  cases move with
  | set name value => exact .idle (state.environment.insert name value)
  | unset name => exact .idle (state.environment.erase name)
  | advance number =>
      rw [State.move]
      cases there : state.threads[number]? with
      | none => exact .idle state.environment
      | some thread =>
          cases thread with
          | started =>
              cases cell : state.cell with
              | empty =>
                  simp only [State.advance, cell]
                  exact cell ▸ .miss there fun selection => by simp [cell]
              | busy =>
                  simp only [State.advance, cell]
                  exact cell ▸ .miss there fun selection => by simp [cell]
              | filled selection =>
                  simp only [State.advance, cell]
                  exact cell ▸ .take there trivial cell
          | missed =>
              cases cell : state.cell with
              | empty =>
                  simp only [State.advance, cell]
                  exact .enter there cell
              | busy =>
                  simp only [State.advance, cell]
                  exact .idle state.environment
              | filled selection =>
                  simp only [State.advance, cell]
                  exact cell ▸ .take there trivial cell
          | selecting rest =>
              cases rest with
              | done selection => exact .publish there
              | lookUp setting next => exact .lookUp there
              | ask request next => exact .ask there
              | report event next => exact .report there
          | returned selection => exact .idle state.environment

/-- After one thread has been given a new place, a thread is that one or is where it was. -/
theorem getElem?_set_cases {threads : List Thread} {number other : Nat} {new thread : Thread}
    (found : (threads.set number new)[other]? = some thread) :
    other = number ∧ thread = new ∨ other ≠ number ∧ threads[other]? = some thread := by
  by_cases same : number = other
  · subst same
    rw [List.getElem?_set] at found
    by_cases within : number < threads.length
    · rw [if_pos rfl, if_pos within] at found
      exact Or.inl ⟨rfl, (Option.some.inj found).symm⟩
    · rw [if_pos rfl, if_neg within] at found
      cases found
  · rw [List.getElem?_set_ne same] at found
    exact Or.inr ⟨fun back => same back.symm, found⟩

theorem getElem?_set_of_some {threads : List Thread} {number : Nat} {thread : Thread}
    (there : threads[number]? = some thread) (new : Thread) :
    (threads.set number new)[number]? = some new :=
  List.getElem?_set_self (List.getElem?_eq_some_iff.mp there).1

end Tasking.Race
