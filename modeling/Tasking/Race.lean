/-
# Threads that ask at once

A thread first looks whether the cell is filled. If it is not, the thread asks to be let
in: the first one in runs the query, one lookup at a time, and publishes what it found;
the others wait. Variables may change between any two steps.
-/

import Tasking.Selector

namespace Tasking.Race

inductive Cell where
  | empty
  | busy
  | filled (selection : Selection)

inductive Thread where
  | started
  | missed
  /-- It was let in, and this is left of the query. -/
  | selecting (rest : Query Selection)
  | returned (selection : Selection)

structure State where
  environment : Environment String
  cell : Cell
  threads : List Thread
  /-- How often the query was begun. -/
  begun : Nat
  lookups : List Setting

inductive Move where
  | advance (thread : Nat)
  | set (name value : String)
  | unset (name : String)

def State.start (environment : Environment String) (threads : Nat) : State where
  environment := environment
  cell := .empty
  threads := List.replicate threads .started
  begun := 0
  lookups := []

/-- A thread that waits for another, or that has its answer, stays where it is. -/
def State.advance (query : Query Selection) (state : State) (number : Nat) : Thread → State
  | .started =>
      match state.cell with
      | .filled selection =>
          { state with threads := state.threads.set number (.returned selection) }
      | _ => { state with threads := state.threads.set number .missed }
  | .missed =>
      match state.cell with
      | .empty =>
          { state with
            cell := .busy
            threads := state.threads.set number (.selecting query)
            begun := state.begun + 1 }
      | .busy => state
      | .filled selection =>
          { state with threads := state.threads.set number (.returned selection) }
  | .selecting (.done selection) =>
      { state with
        cell := .filled selection
        threads := state.threads.set number (.returned selection) }
  | .selecting (.lookUp setting next) =>
      { state with
        threads :=
          state.threads.set number (.selecting (next (state.environment.source setting)))
        lookups := state.lookups ++ [setting] }
  | .selecting (.ask _ next) =>
      { state with threads := state.threads.set number (.selecting next) }
  | .selecting (.report _ next) =>
      { state with threads := state.threads.set number (.selecting next) }
  | .returned _ => state

def State.move (query : Query Selection) (state : State) : Move → State
  | .advance number =>
      match state.threads[number]? with
      | none => state
      | some thread => state.advance query number thread
  | .set name value => { state with environment := state.environment.insert name value }
  | .unset name => { state with environment := state.environment.erase name }

def State.after (query : Query Selection) (state : State) (moves : List Move) : State :=
  moves.foldl (State.move query) state

end Tasking.Race
