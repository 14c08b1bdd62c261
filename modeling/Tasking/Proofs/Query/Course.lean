/-
# The course of a query, whatever the answers

`value` and `trail` describe a query that runs over one source of settings. A query
can also be held up between two lookups while the settings change, and then no one
source describes it. Three things can be said of it all the same. `LooksUpInOrder`
bounds the lookups by a fixed list, `EndsWithin` bounds the number of steps, and
`Ensures` says something of what the query finds. All are built up along `>>=`, so
that they can be read off a query's parts.

`Unfolds` relates a query to what is left of it after some steps, with the lookups
made on the way. It is what an onlooker knows of a query that has not ended.
-/

import Tasking.Query

namespace Tasking.Query

variable {α β : Type}

/-- Whatever the answers are, the query looks up some of the listed settings, in the
order of the list and none of them twice. -/
def LooksUpInOrder : Query α → List Setting → Prop
  | .done _, _ => True
  | .lookUp setting next, order =>
      ∃ passed later, order = passed ++ setting :: later ∧
        ∀ answer, (next answer).LooksUpInOrder later
  | .ask _ next, order => next.LooksUpInOrder order
  | .report _ next, order => next.LooksUpInOrder order

/-- Whatever the answers are, the query is over after so many steps. -/
def EndsWithin : Query α → Nat → Prop
  | .done _, _ => True
  | .lookUp _ next, steps => ∃ fewer, steps = fewer + 1 ∧ ∀ answer, (next answer).EndsWithin fewer
  | .ask _ next, steps => ∃ fewer, steps = fewer + 1 ∧ next.EndsWithin fewer
  | .report _ next, steps => ∃ fewer, steps = fewer + 1 ∧ next.EndsWithin fewer

/-- Whatever the answers are, what the query finds is such that `Holds`. -/
def Ensures : Query α → (α → Prop) → Prop
  | .done value, Holds => Holds value
  | .lookUp _ next, Holds => ∀ answer, (next answer).Ensures Holds
  | .ask _ next, Holds => next.Ensures Holds
  | .report _ next, Holds => next.Ensures Holds

theorem LooksUpInOrder.append_left {query : Query α} {order : List Setting}
    (ordered : query.LooksUpInOrder order) (passed : List Setting) :
    query.LooksUpInOrder (passed ++ order) := by
  induction query generalizing order with
  | done value => trivial
  | lookUp setting next ih =>
      obtain ⟨skipped, later, rfl, rest⟩ := ordered
      exact ⟨passed ++ skipped, later, (List.append_assoc _ _ _).symm, rest⟩
  | ask request next ih => exact ih ordered
  | report event next ih => exact ih ordered

theorem LooksUpInOrder.bind {query : Query α} {following : α → Query β}
    {first second : List Setting} (ordered : query.LooksUpInOrder first)
    (rest : ∀ value, (following value).LooksUpInOrder second) :
    (query >>= following).LooksUpInOrder (first ++ second) := by
  induction query generalizing first with
  | done value => exact (rest value).append_left first
  | lookUp setting next ih =>
      obtain ⟨passed, later, rfl, inner⟩ := ordered
      refine ⟨passed, later ++ second, ?_, fun answer => ih answer (inner answer)⟩
      rw [List.append_assoc, List.cons_append]
  | ask request next ih => exact ih ordered
  | report event next ih => exact ih ordered

theorem looksUpInOrder_setting_bind (asked : Setting) {following : Option String → Query β}
    {order : List Setting} (rest : ∀ value, (following value).LooksUpInOrder order) :
    (setting asked >>= following).LooksUpInOrder (asked :: order) :=
  ⟨[], order, rfl, fun answer => rest (present answer)⟩

theorem LooksUpInOrder.sublist_trail {query : Query α} {order : List Setting}
    (ordered : query.LooksUpInOrder order) (source : Source) :
    ((query.trail source).filterMap Observation.setting?).Sublist order := by
  induction query generalizing order with
  | done value => exact List.nil_sublist order
  | lookUp setting next ih =>
      obtain ⟨passed, later, rfl, rest⟩ := ordered
      have within := ih (source setting) (rest (source setting))
      exact (within.cons_cons setting).trans (List.sublist_append_right passed (setting :: later))
  | ask request next ih => exact ih ordered
  | report event next ih => exact ih ordered

theorem LooksUpInOrder.mem_of_lookedUp {query : Query α} {order : List Setting}
    {setting : Setting} {source : Source} (ordered : query.LooksUpInOrder order)
    (seen : .lookedUp setting ∈ query.trail source) : setting ∈ order :=
  (ordered.sublist_trail source).subset (List.mem_filterMap.mpr ⟨_, seen, rfl⟩)

theorem EndsWithin.mono {query : Query α} {steps more : Nat} (ends : query.EndsWithin steps)
    (longer : steps ≤ more) : query.EndsWithin more := by
  induction query generalizing steps more with
  | done value => trivial
  | lookUp setting next ih =>
      obtain ⟨fewer, rfl, rest⟩ := ends
      exact ⟨more - 1, by omega, fun answer => ih answer (rest answer) (by omega)⟩
  | ask request next ih =>
      obtain ⟨fewer, rfl, rest⟩ := ends
      exact ⟨more - 1, by omega, ih rest (by omega)⟩
  | report event next ih =>
      obtain ⟨fewer, rfl, rest⟩ := ends
      exact ⟨more - 1, by omega, ih rest (by omega)⟩

/-- Whatever is answered, no step makes a query longer. -/
theorem EndsWithin.of_lookUp {setting : Setting} {next : Option String → Query α} {steps : Nat}
    (ends : (lookUp setting next).EndsWithin steps) (answer : Option String) :
    (next answer).EndsWithin steps := by
  obtain ⟨fewer, rfl, rest⟩ := ends
  exact (rest answer).mono (Nat.le_succ fewer)

theorem EndsWithin.of_ask {request : Request} {next : Query α} {steps : Nat}
    (ends : (ask request next).EndsWithin steps) : next.EndsWithin steps := by
  obtain ⟨fewer, rfl, rest⟩ := ends
  exact rest.mono (Nat.le_succ fewer)

theorem EndsWithin.of_report {event : Event} {next : Query α} {steps : Nat}
    (ends : (report event next).EndsWithin steps) : next.EndsWithin steps := by
  obtain ⟨fewer, rfl, rest⟩ := ends
  exact rest.mono (Nat.le_succ fewer)

theorem EndsWithin.bind {query : Query α} {following : α → Query β} {first second : Nat}
    (ends : query.EndsWithin first) (rest : ∀ value, (following value).EndsWithin second) :
    (query >>= following).EndsWithin (first + second) := by
  induction query generalizing first with
  | done value => exact (rest value).mono (Nat.le_add_left second first)
  | lookUp setting next ih =>
      obtain ⟨fewer, rfl, inner⟩ := ends
      exact ⟨fewer + second, Nat.add_right_comm _ _ _, fun answer => ih answer (inner answer)⟩
  | ask request next ih =>
      obtain ⟨fewer, rfl, inner⟩ := ends
      exact ⟨fewer + second, Nat.add_right_comm _ _ _, ih inner⟩
  | report event next ih =>
      obtain ⟨fewer, rfl, inner⟩ := ends
      exact ⟨fewer + second, Nat.add_right_comm _ _ _, ih inner⟩

theorem endsWithin_setting_bind (asked : Setting) {following : Option String → Query β}
    {steps : Nat} (rest : ∀ value, (following value).EndsWithin steps) :
    (setting asked >>= following).EndsWithin (steps + 1) :=
  ⟨steps, rfl, fun answer => rest (present answer)⟩

/-- Nothing need be known of a query for it to find something. -/
theorem ensures_true (query : Query α) : query.Ensures fun _ => True := by
  induction query with
  | done value => trivial
  | lookUp setting next ih => exact ih
  | ask request next ih => exact ih
  | report event next ih => exact ih

theorem Ensures.mono {Holds Then : α → Prop} {query : Query α} (finds : query.Ensures Holds)
    (weaker : ∀ value, Holds value → Then value) : query.Ensures Then := by
  induction query with
  | done value => exact weaker value finds
  | lookUp setting next ih =>
      intro answer
      exact ih answer (finds answer)
  | ask request next ih => exact ih finds
  | report event next ih => exact ih finds

theorem Ensures.bind {Holds : α → Prop} {Then : β → Prop} {query : Query α}
    {following : α → Query β} (finds : query.Ensures Holds)
    (rest : ∀ value, Holds value → (following value).Ensures Then) :
    (query >>= following).Ensures Then := by
  induction query with
  | done value => exact rest value finds
  | lookUp setting next ih =>
      intro answer
      exact ih answer (finds answer)
  | ask request next ih => exact ih finds
  | report event next ih => exact ih finds

/-- A setting that is found is not empty. -/
theorem ensures_setting_bind (asked : Setting) {Then : β → Prop}
    {following : Option String → Query β} (absent : (following none).Ensures Then)
    (found : ∀ text, text ≠ "" → (following (some text)).Ensures Then) :
    (setting asked >>= following).Ensures Then := by
  intro answer
  show (following (present answer)).Ensures Then
  cases given : present answer with
  | none => exact absent
  | some text => exact found text (present_eq_some_iff.mp given).2

theorem Ensures.value {Holds : α → Prop} {query : Query α} (finds : query.Ensures Holds)
    (source : Source) : Holds (query.value source) := by
  induction query with
  | done value => exact finds
  | lookUp setting next ih => exact ih (source setting) (finds (source setting))
  | ask request next ih => exact ih finds
  | report event next ih => exact ih finds

/-- After some steps this is left of the query, and these are the lookups made so far.
Every answer was one that `allowed` admits for its setting. -/
inductive Unfolds (allowed : Setting → Option String → Prop) (query : Query α) :
    Query α → List Setting → Prop
  | start : Unfolds allowed query query []
  | lookUp {setting : Setting} {next : Option String → Query α} {lookups : List Setting}
      {answer : Option String} (sofar : Unfolds allowed query (.lookUp setting next) lookups)
      (admitted : allowed setting answer) :
      Unfolds allowed query (next answer) (lookups ++ [setting])
  | ask {request : Request} {next : Query α} {lookups : List Setting}
      (sofar : Unfolds allowed query (.ask request next) lookups) :
      Unfolds allowed query next lookups
  | report {event : Event} {next : Query α} {lookups : List Setting}
      (sofar : Unfolds allowed query (.report event next) lookups) :
      Unfolds allowed query next lookups

variable {allowed : Setting → Option String → Prop} {query rest : Query α}
  {lookups order : List Setting}

/-- The lookups made so far use up a beginning of the list, and the rest of the list is
enough for the rest of the query. -/
theorem Unfolds.used (unfolds : Unfolds allowed query rest lookups)
    (ordered : query.LooksUpInOrder order) :
    ∃ used later, order = used ++ later ∧ lookups.Sublist used ∧ rest.LooksUpInOrder later := by
  induction unfolds with
  | start => exact ⟨[], order, rfl, List.Sublist.refl [], ordered⟩
  | @lookUp setting next sofarLookups answer sofar admitted ih =>
      obtain ⟨used, later, rfl, within, passed, after, rfl, inner⟩ := ih
      refine ⟨used ++ (passed ++ [setting]), after, ?_, ?_, inner answer⟩
      · rw [List.append_assoc, List.append_assoc, List.singleton_append]
      · exact within.append (List.sublist_append_right passed [setting])
  | ask sofar ih => exact ih
  | report sofar ih => exact ih

theorem Unfolds.sublist (unfolds : Unfolds allowed query rest lookups)
    (ordered : query.LooksUpInOrder order) : lookups.Sublist order := by
  obtain ⟨used, later, rfl, within, -⟩ := unfolds.used ordered
  exact within.trans (List.sublist_append_left used later)

theorem Unfolds.endsWithin {steps : Nat} (unfolds : Unfolds allowed query rest lookups)
    (ends : query.EndsWithin steps) : rest.EndsWithin steps := by
  induction unfolds with
  | start => exact ends
  | lookUp sofar admitted ih => exact ih.of_lookUp _
  | ask sofar ih => exact ih.of_ask
  | report sofar ih => exact ih.of_report

theorem Unfolds.ensures {Holds : α → Prop} (unfolds : Unfolds allowed query rest lookups)
    (finds : query.Ensures Holds) : rest.Ensures Holds := by
  induction unfolds with
  | start => exact finds
  | lookUp sofar admitted ih => exact ih _
  | ask sofar ih => exact ih
  | report sofar ih => exact ih

/-- What is left comes to its end over any source whose answers are admitted. -/
theorem Unfolds.exists_done {source : Source}
    (admits : ∀ setting, allowed setting (source setting))
    (unfolds : Unfolds allowed query rest lookups) :
    ∃ all, Unfolds allowed query (.done (rest.value source)) all := by
  induction rest generalizing lookups with
  | done value => exact ⟨lookups, unfolds⟩
  | lookUp setting next ih => exact ih (source setting) (unfolds.lookUp (admits setting))
  | ask request next ih => exact ih unfolds.ask
  | report event next ih => exact ih unfolds.report

/-- Where every answer came from one source, the steps so far and the rest make up a
run over that source. -/
theorem Unfolds.of_source {source : Source}
    (unfolds : Unfolds (fun setting answer => source setting = answer) query rest lookups) :
    rest.value source = query.value source ∧
      lookups ++ (rest.trail source).filterMap Observation.setting? =
        (query.trail source).filterMap Observation.setting? := by
  induction unfolds with
  | start => exact ⟨rfl, rfl⟩
  | lookUp sofar admitted ih =>
      rw [← admitted, List.append_assoc]
      exact ih
  | ask sofar ih => exact ih
  | report sofar ih => exact ih

end Tasking.Query
