/-
# Every fair schedule comes to an end

A thread that waits does so for the one thread that is inside, and that thread never
waits for anybody. So nothing but the schedule can keep a thread from its answer. If
the schedule is made of rounds, and every thread takes at least one step in each
round, then a fixed number of rounds is enough, whatever else happens in between: one
round until a thread has looked at the cell, one until some thread is let in, one for
each step of the query and for publishing its result, and one for all to take it.
-/

import Tasking.Proofs.Race.Run

namespace Tasking.Race

/-- Every thread takes at least one step during the round. -/
def IsFairRound (threads : Nat) (round : List Move) : Prop :=
  ∀ number < threads, .advance number ∈ round

variable {query : Query Selection} {state later : State}

theorem length_threads_step (step : Step query state later) :
    later.threads.length = state.threads.length := by
  cases step with
  | idle => rfl
  | miss | take | enter | publish | lookUp | ask | report => exact List.length_set

/-- What a step of one thread brings about holds after every run in which the thread
takes a step, whatever the others do before and afterwards. -/
theorem after_of_advance_mem {Kept Reached : State → Prop} {number : Nat} {moves : List Move}
    (keeps : ∀ {state later : State}, Phase (fun _ _ => True) query state → Kept state →
      Step query state later → Kept later)
    (stays : ∀ {state later : State}, Phase (fun _ _ => True) query state → Reached state →
      Step query state later → Reached later)
    (reaches : ∀ {state : State}, Phase (fun _ _ => True) query state →
      number < state.threads.length → Kept state →
      Reached (state.move query (.advance number)))
    (phase : Phase (fun _ _ => True) query state) (within : number < state.threads.length)
    (among : .advance number ∈ moves) (kept : Kept state) :
    Reached (state.after query moves) := by
  induction moves generalizing state with
  | nil => cases among
  | cons move rest ih =>
      have step := step_move query state move
      have next := phase.step (fun _ => trivial) step
      rcases List.mem_cons.mp among with rfl | further
      · have both {state later : State}
            (before : Phase (fun _ _ => True) query state ∧ Reached state)
            (step : Step query state later) :
            Phase (fun _ _ => True) query later ∧ Reached later :=
          ⟨before.1.step (fun _ => trivial) step, stays before.1 before.2 step⟩
        exact (after_of_step both ⟨next, reaches phase within kept⟩ rest).2
      · exact ih next (length_threads_step step ▸ within) further (keeps phase kept step)

/-- The thread has looked at the cell, or does not exist. -/
def State.HasLooked (number : Nat) (state : State) : Prop :=
  state.threads[number]? ≠ some .started

theorem State.HasLooked.step {number : Nat} (looked : state.HasLooked number)
    (step : Step query state later) : later.HasLooked number := by
  have placed {other : Nat} {new : Thread} (further : new ≠ .started) :
      (state.threads.set other new)[number]? ≠ some .started := by
    intro found
    rcases getElem?_set_cases found with ⟨-, same⟩ | ⟨-, before⟩
    · exact further same.symm
    · exact looked before
  cases step with
  | idle => exact looked
  | miss | take | enter | publish | lookUp | ask | report => exact placed Thread.noConfusion

theorem hasLooked_advance (query : Query Selection) (state : State) (number : Nat) :
    (state.move query (.advance number)).HasLooked number := by
  by_cases there : state.threads[number]? = some .started
  · rw [State.move, there]
    cases cell : state.cell with
    | empty | busy | filled =>
        simp only [State.advance, cell, State.HasLooked, getElem?_set_of_some there]
        exact fun same => Thread.noConfusion (Option.some.inj same)
  · exact State.HasLooked.step there (step_move query state (.advance number))

theorem taken_step (taken : state.cell ≠ .empty) (step : Step query state later) :
    later.cell ≠ .empty := by
  cases step with
  | idle | miss | take | lookUp | ask | report => exact taken
  | enter | publish => exact Cell.noConfusion

/-- A thread that has looked at the cell is let in, unless another one was before. -/
theorem taken_advance {number : Nat} (phase : Phase (fun _ _ => True) query state)
    (within : number < state.threads.length) (looked : state.HasLooked number) :
    (state.move query (.advance number)).cell ≠ .empty := by
  by_cases empty : state.cell = .empty
  · obtain ⟨thread, there⟩ : ∃ thread, state.threads[number]? = some thread :=
      ⟨_, List.getElem?_eq_getElem within⟩
    cases phase with
    | selecting owner rest busy begun inside unfolds outside => cases busy.symm.trans empty
    | published selection filled begun unfolds settled => cases filled.symm.trans empty
    | untouched cell begun lookups outside =>
        cases thread with
        | started => exact absurd there looked
        | missed =>
            rw [State.move, there]
            simp only [State.advance, empty]
            exact Cell.noConfusion
        | selecting rest => exact (outside number _ there).elim
        | returned selection => exact (outside number _ there).elim
  · exact taken_step empty (step_move query state (.advance number))

/-- So many steps of the owner, and the selection is published. -/
def State.EndsIn (owner steps : Nat) (state : State) : Prop :=
  (∃ selection, state.cell = .filled selection) ∨
    ∃ rest fewer, steps = fewer + 1 ∧ state.threads[owner]? = some (.selecting rest) ∧
      rest.EndsWithin fewer

/-- Other threads do not hold the owner up. -/
theorem State.EndsIn.step {owner steps : Nat} (phase : Phase (fun _ _ => True) query state)
    (ends : state.EndsIn owner steps) (step : Step query state later) :
    later.EndsIn owner steps := by
  rcases ends with ⟨selection, filled⟩ | ⟨rest, fewer, rfl, inside, ends⟩
  · exact Or.inl ⟨selection, phase.filled_step filled step⟩
  · have taken := (phase.onlyInside inside).1
    have isOwner {number : Nat} {other : Query Selection}
        (there : state.threads[number]? = some (.selecting other)) : number = owner :=
      (phase.onlyInside inside).2 number other there
    have elsewhere {number : Nat} {thread : Thread} (new : Thread)
        (there : state.threads[number]? = some thread) (waits : thread.IsOutside) :
        (state.threads.set number new)[owner]? = some (.selecting rest) := by
      have apart : number ≠ owner := by
        rintro rfl
        cases there.symm.trans inside
        exact waits.elim
      exact (List.getElem?_set_ne apart).trans inside
    cases step with
    | idle => exact Or.inr ⟨rest, fewer, rfl, inside, ends⟩
    | miss there unfilled =>
        exact Or.inr ⟨rest, fewer, rfl, elsewhere _ there trivial, ends⟩
    | take there waits filled =>
        exact Or.inr ⟨rest, fewer, rfl, elsewhere _ there waits, ends⟩
    | enter there empty => exact absurd empty taken
    | @publish number selection there => exact Or.inl ⟨selection, rfl⟩
    | lookUp there =>
        obtain rfl := isOwner there
        cases Option.some.inj (there.symm.trans inside)
        exact Or.inr ⟨_, fewer, rfl, getElem?_set_of_some there _, ends.of_lookUp _⟩
    | ask there =>
        obtain rfl := isOwner there
        cases Option.some.inj (there.symm.trans inside)
        exact Or.inr ⟨_, fewer, rfl, getElem?_set_of_some there _, ends.of_ask⟩
    | report there =>
        obtain rfl := isOwner there
        cases Option.some.inj (there.symm.trans inside)
        exact Or.inr ⟨_, fewer, rfl, getElem?_set_of_some there _, ends.of_report⟩

/-- A step of the owner brings the end nearer. -/
theorem State.EndsIn.advance {owner fewer : Nat} (phase : Phase (fun _ _ => True) query state)
    (ends : state.EndsIn owner (fewer + 1)) :
    (state.move query (.advance owner)).EndsIn owner fewer := by
  rcases ends with ⟨selection, filled⟩ | ⟨rest, steps, same, inside, ends⟩
  · exact Or.inl ⟨selection, phase.filled_step filled (step_move query state _)⟩
  · obtain rfl := Nat.succ.inj same
    rw [State.move, inside]
    cases rest with
    | done selection => exact Or.inl ⟨selection, rfl⟩
    | lookUp setting next =>
        obtain ⟨less, rfl, inner⟩ := ends
        exact Or.inr ⟨_, less, rfl, getElem?_set_of_some inside _, inner _⟩
    | ask request next =>
        obtain ⟨less, rfl, inner⟩ := ends
        exact Or.inr ⟨_, less, rfl, getElem?_set_of_some inside _, inner⟩
    | report event next =>
        obtain ⟨less, rfl, inner⟩ := ends
        exact Or.inr ⟨_, less, rfl, getElem?_set_of_some inside _, inner⟩

/-- The thread has its answer. -/
def State.HasReturned (number : Nat) (state : State) : Prop :=
  ∃ selection, state.threads[number]? = some (.returned selection)

/-- Nothing takes an answer away. -/
theorem State.HasReturned.step {number : Nat} (returned : state.HasReturned number)
    (step : Step query state later) : later.HasReturned number := by
  obtain ⟨selection, answered⟩ := returned
  have elsewhere {other : Nat} {thread : Thread} (new : Thread)
      (there : state.threads[other]? = some thread) (without : thread ≠ .returned selection) :
      ∃ selection, (state.threads.set other new)[number]? = some (.returned selection) := by
    have apart : other ≠ number := by
      rintro rfl
      exact without (Option.some.inj (there.symm.trans answered))
    exact ⟨selection, (List.getElem?_set_ne apart).trans answered⟩
  cases step with
  | idle => exact ⟨selection, answered⟩
  | miss there | enter there | publish there | lookUp there | ask there | report there =>
      exact elsewhere _ there Thread.noConfusion
  | take there waits filled =>
      refine elsewhere _ there ?_
      rintro rfl
      exact waits.elim

theorem hasReturned_advance {number : Nat} {selection : Selection}
    (phase : Phase (fun _ _ => True) query state) (within : number < state.threads.length)
    (filled : state.cell = .filled selection) :
    (state.move query (.advance number)).HasReturned number := by
  obtain ⟨thread, there⟩ : ∃ thread, state.threads[number]? = some thread :=
    ⟨_, List.getElem?_eq_getElem within⟩
  rw [State.move, there]
  cases thread with
  | started =>
      simp only [State.advance, filled]
      exact ⟨selection, getElem?_set_of_some there _⟩
  | missed =>
      simp only [State.advance, filled]
      exact ⟨selection, getElem?_set_of_some there _⟩
  | selecting rest => cases (phase.of_inside there).1.symm.trans filled
  | returned other => exact ⟨other, there⟩

theorem length_threads_after (query : Query Selection) (state : State) (moves : List Move) :
    (state.after query moves).threads.length = state.threads.length :=
  after_of_step (fun same step => (length_threads_step step).trans same) rfl moves

section Rounds

variable {number : Nat} {round : List Move} {rounds : List (List Move)}

theorem hasLooked_of_round (phase : Phase (fun _ _ => True) query state)
    (within : number < state.threads.length) (among : .advance number ∈ round) :
    (state.after query round).HasLooked number :=
  after_of_advance_mem (fun _ _ _ => trivial) (fun _ looked step => looked.step step)
    (fun _ _ _ => hasLooked_advance query _ number) phase within among trivial

theorem taken_of_round (phase : Phase (fun _ _ => True) query state)
    (within : number < state.threads.length) (looked : state.HasLooked number)
    (among : .advance number ∈ round) : (state.after query round).cell ≠ .empty :=
  after_of_advance_mem (fun _ looked step => looked.step step)
    (fun _ taken step => taken_step taken step)
    (fun phase within looked => taken_advance phase within looked) phase within among looked

theorem endsIn_of_round {owner fewer : Nat} (phase : Phase (fun _ _ => True) query state)
    (within : owner < state.threads.length) (ends : state.EndsIn owner (fewer + 1))
    (among : .advance owner ∈ round) : (state.after query round).EndsIn owner fewer :=
  after_of_advance_mem (fun phase ends step => ends.step phase step)
    (fun phase nearer step => nearer.step phase step)
    (fun phase _ ends => ends.advance phase) phase within among ends

theorem hasReturned_of_round {selection : Selection}
    (phase : Phase (fun _ _ => True) query state) (filled : state.cell = .filled selection)
    (within : number < state.threads.length) (among : .advance number ∈ round) :
    (state.after query round).HasReturned number :=
  after_of_advance_mem (fun phase filled step => phase.filled_step filled step)
    (fun _ returned step => returned.step step)
    (fun phase within filled => hasReturned_advance phase within filled) phase within among filled

/-- Once some thread has been let in, a round for each of its steps and one more are
enough for everybody to have the answer. -/
theorem hasReturned_of_endsIn {owner steps : Nat}
    (phase : Phase (fun _ _ => True) query state) (ends : state.EndsIn owner steps)
    (fair : ∀ round ∈ rounds, IsFairRound state.threads.length round)
    (long : steps + 1 ≤ rounds.length) (within : number < state.threads.length) :
    (state.after query rounds.flatten).HasReturned number := by
  induction rounds generalizing state steps with
  | nil => cases long
  | cons round rest ih =>
      rw [List.flatten_cons, after_append]
      obtain ⟨thisRound, restRounds⟩ := List.forall_mem_cons.mp fair
      have same := length_threads_after query state round
      rcases ends with ⟨selection, filled⟩ | ⟨left, fewer, rfl, inside, bounded⟩
      · have returned := hasReturned_of_round phase filled within (thisRound number within)
        exact after_of_step (fun kept step => kept.step step) returned rest.flatten
      · have ownerWithin : owner < state.threads.length :=
          (List.getElem?_eq_some_iff.mp inside).1
        have nearer := endsIn_of_round phase ownerWithin
          (Or.inr ⟨left, fewer, rfl, inside, bounded⟩) (thisRound owner ownerWithin)
        exact ih (phase.after_of_any round) nearer (same.symm ▸ restRounds)
          (Nat.le_of_succ_le_succ long) (same.symm ▸ within)

/-- Whatever has happened so far and whatever happens to the variables, enough fair
rounds bring every thread its answer. -/
theorem hasReturned_of_fair {steps : Nat} (bounded : query.EndsWithin steps)
    (phase : Phase (fun _ _ => True) query state)
    (fair : ∀ round ∈ rounds, IsFairRound state.threads.length round)
    (long : steps + 4 ≤ rounds.length) (within : number < state.threads.length) :
    (state.after query rounds.flatten).HasReturned number := by
  match rounds, fair, long with
  | first :: second :: rest, fair, long =>
      obtain ⟨firstRound, fair⟩ := List.forall_mem_cons.mp fair
      obtain ⟨secondRound, restRounds⟩ := List.forall_mem_cons.mp fair
      rw [List.flatten_cons, List.flatten_cons, after_append, after_append]
      have looked := hasLooked_of_round phase within (firstRound number within)
      have phase := phase.after_of_any first
      have same := length_threads_after query state first
      rw [← same] at secondRound restRounds within
      have taken := taken_of_round phase within looked (secondRound number within)
      have phase := phase.after_of_any second
      have same := length_threads_after query (state.after query first) second
      rw [← same] at restRounds within
      have enough : steps + 1 + 1 ≤ rest.length := by
        simp only [List.length_cons] at long
        omega
      cases phase with
      | untouched empty begun lookups outside => exact absurd empty taken
      | selecting owner left busy begun inside unfolds outside =>
          have ends : ((state.after query first).after query second).EndsIn owner (steps + 1) :=
            Or.inr ⟨left, steps, rfl, inside, unfolds.endsWithin bounded⟩
          exact hasReturned_of_endsIn
            (.selecting owner left busy begun inside unfolds outside) ends restRounds enough within
      | published selection filled begun unfolds settled =>
          have ends : ((state.after query first).after query second).EndsIn 0 (steps + 1) :=
            Or.inl ⟨selection, filled⟩
          exact hasReturned_of_endsIn (.published selection filled begun unfolds settled) ends
            restRounds enough within

end Rounds

end Tasking.Race
