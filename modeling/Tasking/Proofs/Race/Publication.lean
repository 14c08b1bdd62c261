/-
# One selection for all threads that ask at once

Asking a selector concurrently is treated elsewhere as one step of a session. This
module justifies that. However the steps of the threads are interleaved, and whatever
is set or removed between them, there is one selection, made once, and everybody gets
it. If the variables stay as they are, it is the selection of a single question, and
the selector is left as a single question would leave it.
-/

import Tasking.Proofs.Probe.Course
import Tasking.Proofs.Race.Fairness
import Tasking.Proofs.Session.Question

namespace Tasking.Race

/-- The identifier that a thread answers with, once it has its selection. -/
def Thread.answer? : Thread → Option String
  | .returned selection => some selection.choice.name
  | _ => none

/-- The answers that the threads have given so far. -/
def State.answers (state : State) : List String :=
  state.threads.filterMap Thread.answer?

/-- The selector that the threads ask, as their steps have left it. -/
def State.selector (state : State) (kind : ProbeKind) : Selector where
  kind := kind
  cache :=
    match state.cell with
    | .filled selection => some selection
    | _ => none

/-- What so many threads that ask a fresh selector have come to after a list of moves. -/
def reached (kind : ProbeKind) (facts : Facts) (environment : Environment String)
    (threads : Nat) (moves : List Move) : State :=
  (State.start environment threads).after (kind.probe facts).select moves

/-- What holds of threads that ask at once, after whatever moves. -/
structure PublishesOnce (kind : ProbeKind) (facts : Facts) (environment : Environment String)
    (threads : Nat) (moves : List Move) : Prop where
  /-- The selection is begun at most once, and always by the same thread. -/
  begun_le_one : (reached kind facts environment threads moves).begun ≤ 1
  one_selects : ∀ earlier : List Move, earlier <+: moves →
    ∀ (first second : Nat) (rest rest' : Query Selection),
    (reached kind facts environment threads earlier).threads[first]? = some (.selecting rest) →
    (reached kind facts environment threads moves).threads[second]? = some (.selecting rest') →
    second = first
  /-- Whoever has returned has returned what is published, and that never changes. -/
  returned_published : ∀ (number : Nat) (selection : Selection),
    (reached kind facts environment threads moves).threads[number]? =
      some (.returned selection) →
    (reached kind facts environment threads moves).cell = .filled selection
  published_stays : ∀ earlier : List Move, earlier <+: moves → ∀ selection : Selection,
    (reached kind facts environment threads earlier).cell = .filled selection →
    (reached kind facts environment threads moves).cell = .filled selection
  /-- All threads together look no variable up twice. -/
  lookups_nodup :
    ((reached kind facts environment threads moves).lookups.map Setting.name).Nodup
  /-- Enough rounds in which every thread takes a step bring every thread its answer. -/
  finishes : ∀ rounds : List (List Move), (∀ round ∈ rounds, IsFairRound threads round) →
    13 ≤ rounds.length → ∀ number < threads,
      (reached kind facts environment threads (moves ++ rounds.flatten)).HasReturned number
  /-- When all threads have returned, their answers are equal. -/
  agree : 0 < threads →
    (∀ number < threads, (reached kind facts environment threads moves).HasReturned number) →
    ∃ selection, (reached kind facts environment threads moves).cell = .filled selection ∧
      (reached kind facts environment threads moves).answers =
        List.replicate threads selection.choice.name
  /-- If no variable changed, all this comes to what a single question would have done. -/
  quiet : (∀ earlier : List Move, earlier <+: moves →
      (reached kind facts environment threads earlier).environment.source =
        environment.source) →
    (∀ selection : Selection,
      (reached kind facts environment threads moves).cell = .filled selection →
      selection = (({ kind } : Selector).consult facts environment.source).answer ∧
      (reached kind facts environment threads moves).lookups =
        (({ kind } : Selector).consult facts environment.source).trail.filterMap
          Observation.setting?) ∧
    (0 < threads →
      (∀ number < threads, (reached kind facts environment threads moves).HasReturned number) →
      Answer.texts (reached kind facts environment threads moves).answers =
        (({ kind } : Selector).answer facts environment.source (.concurrentGet threads)).answer ∧
      (reached kind facts environment threads moves).selector kind =
        (({ kind } : Selector).answer facts environment.source .get).state)

variable {kind : ProbeKind} {facts : Facts} {environment : Environment String}
  {threads : Nat} {moves : List Move}

theorem reached_append (kind : ProbeKind) (facts : Facts) (environment : Environment String)
    (threads : Nat) (earlier later : List Move) :
    reached kind facts environment threads (earlier ++ later) =
      (reached kind facts environment threads earlier).after (kind.probe facts).select later :=
  after_append _ _ earlier later

theorem phase_reached (kind : ProbeKind) (facts : Facts) (environment : Environment String)
    (threads : Nat) (moves : List Move) :
    Phase (fun _ _ => True) (kind.probe facts).select
      (reached kind facts environment threads moves) :=
  (phase_start environment threads).after_of_any moves

theorem length_threads_reached (kind : ProbeKind) (facts : Facts)
    (environment : Environment String) (threads : Nat) (moves : List Move) :
    (reached kind facts environment threads moves).threads.length = threads := by
  rw [reached, length_threads_after]
  exact List.length_replicate

/-- When all threads have returned, there is one selection that all of them have. -/
theorem exists_threads_eq_replicate (some : 0 < threads)
    (returned : ∀ number < threads,
      (reached kind facts environment threads moves).HasReturned number) :
    ∃ selection, (reached kind facts environment threads moves).cell = .filled selection ∧
      (reached kind facts environment threads moves).threads =
        List.replicate threads (.returned selection) := by
  have phase := phase_reached kind facts environment threads moves
  obtain ⟨selection, first⟩ := returned 0 some
  have filled := phase.filled_of_returned first
  refine ⟨selection, filled, List.eq_replicate_iff.mpr ⟨length_threads_reached .., ?_⟩⟩
  intro thread among
  obtain ⟨number, there⟩ := List.mem_iff_getElem?.mp among
  have within : number < threads := by
    rw [← length_threads_reached kind facts environment threads moves]
    exact (List.getElem?_eq_some_iff.mp there).1
  obtain ⟨other, answered⟩ := returned number within
  cases filled.symm.trans (phase.filled_of_returned answered)
  exact Option.some.inj (there.symm.trans answered)

theorem answers_of_threads_eq_replicate {state : State} {selection : Selection}
    (all : state.threads = List.replicate threads (.returned selection)) :
    state.answers = List.replicate threads selection.choice.name := by
  rw [State.answers, all]
  exact List.filterMap_replicate_of_some rfl

/-- If no variable changed, what has been published and what was looked up for it are
those of a single question. -/
theorem filled_of_quiet {selection : Selection}
    (quiet : ∀ earlier : List Move, earlier <+: moves →
      (reached kind facts environment threads earlier).environment.source = environment.source)
    (filled : (reached kind facts environment threads moves).cell = .filled selection) :
    selection = (kind.probe facts).select.value environment.source ∧
      (reached kind facts environment threads moves).lookups =
        ((kind.probe facts).select.trail environment.source).filterMap Observation.setting? := by
  have admitted : ∀ earlier : List Move, earlier <+: moves → ∀ setting : Setting,
      environment.source setting =
        (reached kind facts environment threads earlier).environment.source setting := by
    intro earlier within setting
    rw [quiet earlier within]
  have phase := (phase_start environment threads).after admitted
  obtain ⟨sameValue, sameLookups⟩ := (phase.unfolds_of_filled filled).of_source
  refine ⟨sameValue, ?_⟩
  rw [← sameLookups, Query.trail_done, List.filterMap_nil, List.append_nil]
  rfl

/-- However threads that ask at once take turns, and whatever happens to the variables
meanwhile, one selection is made and published, and everybody gets it. -/
theorem publishes_once (kind : ProbeKind) (facts : Facts) (environment : Environment String)
    (threads : Nat) (moves : List Move) :
    PublishesOnce kind facts environment threads moves := by
  have phase := phase_reached kind facts environment threads moves
  constructor
  case begun_le_one => exact phase.begun_le_one
  case one_selects =>
    rintro earlier ⟨later, rfl⟩ first second rest rest' inside found
    rw [reached_append] at found
    have only := (phase_reached kind facts environment threads earlier).onlyInside inside
    exact (after_of_step (fun only step => only.step step) only later).2 second rest' found
  case returned_published =>
    intro number selection answered
    exact phase.filled_of_returned answered
  case published_stays =>
    rintro earlier ⟨later, rfl⟩ selection filled
    rw [reached_append]
    exact (phase_reached kind facts environment threads earlier).filled_after filled later
  case lookups_nodup =>
    have within := phase.lookups_sublist (kind.looksUpInOrder_select facts)
    exact (within.map Setting.name).nodup Probe.nodup_names
  case finishes =>
    intro rounds fair long number within
    rw [reached_append]
    have same := length_threads_reached kind facts environment threads moves
    rw [← same] at fair within
    exact hasReturned_of_fair (kind.endsWithin_select facts) phase fair long within
  case agree =>
    intro some returned
    obtain ⟨selection, filled, all⟩ := exists_threads_eq_replicate some returned
    exact ⟨selection, filled, answers_of_threads_eq_replicate all⟩
  case quiet =>
    intro quiet
    refine ⟨fun selection filled => filled_of_quiet quiet filled, ?_⟩
    intro some returned
    obtain ⟨selection, filled, all⟩ := exists_threads_eq_replicate some returned
    obtain ⟨rfl, -⟩ := filled_of_quiet quiet filled
    constructor
    · rw [Selector.answer_concurrentGet, answers_of_threads_eq_replicate all]
      rfl
    · rw [State.selector, filled]
      rfl

-- Both threads look before either is let in, and the override comes after its lookup.
example :
    (reached .settings .unknown .empty 2
      ([.advance 0, .advance 1, .advance 0, .advance 0, .set "CHPL_TASKS" "muxed"] ++
        List.replicate 9 (.advance 0) ++ [.advance 1])).answers = ["qthreads", "qthreads"] := by
  decide

end Tasking.Race
