/-
# Eight variables, and whether they are there

Of all that an environment holds, a session shows the presence and the text of eight
variables, and nothing else. Two sessions whose environments agree on these show the
same, and go on doing so if what is set and removed in them agrees on these too. An
empty text may stand in one of them where the other has nothing.

The one thing left out is the value that a variable had before it was set or removed.
That answer tells what the environment holds, whether or not it matters.
-/

import Mathlib.Data.List.Forall2
import Tasking.Proofs.Probe.Presence
import Tasking.Proofs.Session.Step

namespace Tasking

/-- The names of the variables that matter. -/
def decisiveNames : List String :=
  ["CHPL_TASKS", "CHPL_TARGET_ARCH", "CHPL_TARGET_PLATFORM", "CHPL_HOST_PLATFORM",
    "CHPL_PLATFORM", "CHPL_TARGET_COMPILER", "CHPL_HOME", "CHPL_MODULE_HOME"]

theorem name_mem_decisiveNames {setting : Setting}
    (among : setting ∈ .tasks :: Probe.factSettings) : setting.name ∈ decisiveNames :=
  List.mem_map_of_mem among

namespace Environment

/-- What an environment holds of each variable that matters, with the empty text counted
as nothing. -/
def view (environment : Environment String) : List (Option String) :=
  decisiveNames.map fun name => present (environment.get? name)

/-- The environment in which the variable `name` has this value, or none. -/
def write (environment : Environment String) (name : String) : Option String → Environment String
  | some value => environment.insert name value
  | none => environment.erase name

theorem get?_write (environment : Environment String) (name other : String)
    (value : Option String) :
    (environment.write name value).get? other =
      if other = name then value else environment.get? other := by
  cases value with
  | some value => exact environment.get?_insert name other value
  | none => exact environment.get?_erase name other

theorem view_eq_iff {first second : Environment String} :
    first.view = second.view ↔
      ∀ name ∈ decisiveNames, present (first.get? name) = present (second.get? name) :=
  List.map_inj_left

/-- Writing values that count the same keeps views equal. -/
theorem view_write_eq {first second : Environment String} {name : String}
    {value value' : Option String} (same : first.view = second.view)
    (counts : name ∈ decisiveNames → present value = present value') :
    (first.write name value).view = (second.write name value').view := by
  apply view_eq_iff.mpr
  intro other decisive
  rw [get?_write, get?_write]
  by_cases written : other = name
  · rw [if_pos written, if_pos written]
    exact counts (written ▸ decisive)
  · rw [if_neg written, if_neg written]
    exact view_eq_iff.mp same other decisive

theorem view_write_of_not_mem (environment : Environment String) {name : String}
    (uncounted : name ∉ decisiveNames) (value : Option String) :
    (environment.write name value).view = environment.view := by
  apply view_eq_iff.mpr
  intro other decisive
  have apart : other ≠ name := fun same => uncounted (same ▸ decisive)
  rw [get?_write, if_neg apart]

end Environment

namespace Action

/-- The variable that the action writes and its value afterwards, if it writes one. -/
def written? : Action → Option (String × Option String)
  | .set name value => some (name, some value)
  | .unset name => some (name, none)
  | _ => none

/-- The actions are the same, or they write the same variable. If that is one that matters,
they write texts that count the same, such as the empty text and none. -/
def IsExchangeable (first second : Action) : Prop :=
  first = second ∨ ∃ name value value', first.written? = some (name, value) ∧
    second.written? = some (name, value') ∧
    (name ∈ decisiveNames → present value = present value')

end Action

/-- A reply to an action without the value that a variable had before it was written. -/
def Reply.withoutPrevious (action : Action) (reply : Reply) : Reply :=
  if action.written?.isSome then { reply with answer := .nothing } else reply

namespace Session

/-- What a list of actions shows apart from the values that variables had before. -/
def shown (session : Session) (actions : List Action) : List Reply :=
  List.zipWith Reply.withoutPrevious actions (session.replies actions)

/-- The two sessions differ at most in what does not matter of their environments. -/
structure SameView (first second : Session) : Prop where
  view : first.environment.view = second.environment.view
  facts : first.facts = second.facts
  selectors : first.selectors = second.selectors

variable {first second : Session} {action other : Action}

theorem next_of_written {name : String} {value : Option String}
    (written : action.written? = some (name, value)) (session : Session) :
    session.next action = { session with environment := session.environment.write name value } := by
  cases action with
  | set | unset =>
      cases written
      rfl
  | ask | setFacts | new => cases written

theorem SameView.source_eq (same : SameView first second) {setting : Setting}
    (among : setting ∈ .tasks :: Probe.factSettings) :
    present (first.environment.source setting) = present (second.environment.source setting) :=
  Environment.view_eq_iff.mp same.view setting.name (name_mem_decisiveNames among)

theorem SameView.act_ask (same : SameView first second) (number : Nat) (inquiry : Inquiry) :
    (first.act (.ask number inquiry)).answer = (second.act (.ask number inquiry)).answer ∧
      (first.act (.ask number inquiry)).trail = (second.act (.ask number inquiry)).trail ∧
      SameView (first.next (.ask number inquiry)) (second.next (.ask number inquiry)) := by
  rw [next, next, act, act, same.selectors]
  cases second.selectors[number]? with
  | none => exact ⟨rfl, rfl, same⟩
  | some selector =>
      have answered := selector.answer_congr second.facts
        (fun setting among => same.source_eq among) inquiry
      simp only [same.facts, ← answered, true_and]
      exact ⟨same.view, rfl, rfl⟩

theorem SameView.next_of_written (same : SameView first second) {name : String}
    {value value' : Option String} (written : action.written? = some (name, value))
    (written' : other.written? = some (name, value'))
    (counts : name ∈ decisiveNames → present value = present value') :
    SameView (first.next action) (second.next other) := by
  rw [Session.next_of_written written, Session.next_of_written written']
  exact ⟨Environment.view_write_eq same.view counts, same.facts, same.selectors⟩

/-- Taking exchangeable actions in both sessions leaves them with nothing to tell them apart. -/
theorem SameView.next (same : SameView first second) (exchangeable : action.IsExchangeable other) :
    SameView (first.next action) (second.next other) := by
  rcases exchangeable with rfl | ⟨name, value, value', written, written', counts⟩
  · cases action with
    | ask number inquiry => exact (same.act_ask number inquiry).2.2
    | set | unset => exact same.next_of_written rfl rfl fun _ => rfl
    | setFacts facts => exact ⟨same.view, rfl, same.selectors⟩
    | new kind =>
        have grown := congrArg (fun selectors => selectors ++ [({ kind := kind } : Selector)])
          same.selectors
        exact ⟨same.view, same.facts, grown⟩
  · exact same.next_of_written written written' counts

theorem withoutPrevious_of_written {name : String} {value : Option String}
    (written : action.written? = some (name, value)) (session : Session) :
    (session.reply action).withoutPrevious action =
      { answer := .nothing, cached := session.selectors.map Selector.isCached, trail := [] } := by
  cases action with
  | set | unset => rfl
  | ask | setFacts | new => cases written

theorem SameView.withoutPrevious_eq (same : SameView first second)
    (exchangeable : action.IsExchangeable other) :
    (first.reply action).withoutPrevious action = (second.reply other).withoutPrevious other := by
  have cached : (first.next action).selectors.map Selector.isCached =
      (second.next other).selectors.map Selector.isCached := by
    rw [(same.next exchangeable).selectors]
  -- a step that writes shows only which selections are cached, whatever it writes
  rcases exchangeable with rfl | ⟨name, value, value', written, written', -⟩
  · cases action with
    | ask number inquiry =>
        obtain ⟨answer, trail, -⟩ := same.act_ask number inquiry
        change Reply.mk _ _ _ = Reply.mk _ _ _
        rw [answer, cached, trail]
    | set | unset =>
        rw [withoutPrevious_of_written rfl, withoutPrevious_of_written rfl, same.selectors]
    | setFacts facts =>
        change Reply.mk _ _ _ = Reply.mk _ _ _
        rw [cached]
        rfl
    | new kind =>
        change Reply.mk (.index first.selectors.length) _ _ =
          Reply.mk (.index second.selectors.length) _ _
        rw [cached, same.selectors]
        rfl
  · rw [withoutPrevious_of_written written, withoutPrevious_of_written written', same.selectors]

/-- Two runs that take exchangeable actions show the same. -/
theorem SameView.shown_eq {actions others : List Action} (same : SameView first second)
    (exchangeable : List.Forall₂ Action.IsExchangeable actions others) :
    first.shown actions = second.shown others := by
  induction exchangeable generalizing first second with
  | nil => rfl
  | cons here _ ih =>
      change _ :: (first.next _).shown _ = _ :: (second.next _).shown _
      rw [same.withoutPrevious_eq here, ih (same.next here)]

/-- Whatever else two environments hold, and whatever else is written in the course of two
sessions, only the view of the environment shows. The host's architecture and compiler are
not part of it. -/
theorem only_view_shows {first second : Environment String} {actions others : List Action}
    (facts : Facts) (kind : ProbeKind) (views : first.view = second.view)
    (exchangeable : List.Forall₂ Action.IsExchangeable actions others) :
    (start first facts kind).shown actions = (start second facts kind).shown others ∧
      ∀ name ∈ ["CHPL_HOST_ARCH", "CHPL_HOST_COMPILER"], ∀ value : Option String,
        (start (first.write name value) facts kind).shown actions =
          (start first facts kind).shown actions := by
  refine ⟨SameView.shown_eq ⟨views, rfl, rfl⟩ exchangeable, ?_⟩
  intro name host value
  have uncounted : name ∉ decisiveNames := by
    revert name
    decide
  have unchanged : (first.write name value).view = first.view :=
    first.view_write_of_not_mem uncounted value
  have themselves : List.Forall₂ Action.IsExchangeable actions actions :=
    List.forall₂_same.mpr fun action _ => Or.inl rfl
  exact SameView.shown_eq ⟨unchanged, rfl, rfl⟩ themselves

/-- An empty text is exchanged for none, and a variable that does not matter gets another
value, before and while a selection is made. -/
theorem only_view_shows_around_empty_text :
    ((Environment.ofList [("CHPL_HOST_PLATFORM", ""), ("CHPL_PLATFORM", "cygwin64")]).view =
        (Environment.ofList [("CHPL_PLATFORM", "cygwin64"), ("CHPL_HOST_ARCH", "knc")]).view ∧
      List.Forall₂ Action.IsExchangeable
        [.set "CHPL_HOST_COMPILER" "gnu", .set "CHPL_MODULE_HOME" "", .ask 0 .selection]
        [.set "CHPL_HOST_COMPILER" "cray-prgenv-cray", .unset "CHPL_MODULE_HOME",
          .ask 0 .selection]) ∧
    (start (.ofList [("CHPL_HOST_PLATFORM", ""), ("CHPL_PLATFORM", "cygwin64")]) .unknown
        .settings).shown
      [.set "CHPL_HOST_COMPILER" "gnu", .set "CHPL_MODULE_HOME" "", .ask 0 .selection] =
    (start (.ofList [("CHPL_PLATFORM", "cygwin64"), ("CHPL_HOST_ARCH", "knc")]) .unknown
        .settings).shown
      [.set "CHPL_HOST_COMPILER" "cray-prgenv-cray", .unset "CHPL_MODULE_HOME",
        .ask 0 .selection] := by
  have views : (Environment.ofList [("CHPL_HOST_PLATFORM", ""), ("CHPL_PLATFORM", "cygwin64")]).view =
      (Environment.ofList [("CHPL_PLATFORM", "cygwin64"), ("CHPL_HOST_ARCH", "knc")]).view := by
    decide
  have exchangeable : List.Forall₂ Action.IsExchangeable
      [.set "CHPL_HOST_COMPILER" "gnu", .set "CHPL_MODULE_HOME" "", .ask 0 .selection]
      [.set "CHPL_HOST_COMPILER" "cray-prgenv-cray", .unset "CHPL_MODULE_HOME",
        .ask 0 .selection] := by
    refine .cons (Or.inr ⟨_, _, _, rfl, rfl, ?_⟩) (.cons (Or.inr ⟨_, _, _, rfl, rfl, ?_⟩)
      (.cons (Or.inl rfl) .nil))
    · decide
    · exact fun _ => rfl
  exact ⟨⟨views, exchangeable⟩, (only_view_shows .unknown .settings views exchangeable).1⟩

end Session

end Tasking
