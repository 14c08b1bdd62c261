/-
# The first query freezes a selector

`firstQuery` finds the moment of a run at which a selector is first asked for its
selection, and keeps the session as it stood just before. From that moment on the
selector gives what a fresh selector would have given then. The invariant behind
this is an equation for the cache after any run; everything a step can show of a
selector follows from it, together with what a single step does.

Observations (whether the selection has been made, the facts, the user's own
setting) are of the present and neither fill nor change a cache.
-/

import Tasking.Proofs.FirstSelection
import Tasking.Proofs.Session.Step

namespace Tasking

namespace Session

/-- The selection that a new selector would make in this session. -/
def freshSelection (session : Session) (kind : ProbeKind) : Selection :=
  Selector.freshSelection kind session.facts session.environment.source

/-- The session just before the first action that needs the selection of a selector.
Asking a selector that does not exist yet does not count. -/
def firstQuery (session : Session) (number : Nat) : List Action → Option Session
  | [] => none
  | action :: rest =>
      if action.queries number = true ∧ number < session.selectors.length then some session
      else (session.next action).firstQuery number rest

/-- No selector behind the number has been asked for its selection. -/
def Unasked (session : Session) (number : Nat) : Prop :=
  ∀ selector, session.selectors[number]? = some selector → selector.cache = none

variable {session : Session} {number : Nat} {selector : Selector}

/-- A moment that has been found stays the first one, however the run goes on. -/
theorem firstQuery_append {past : List Action} {asked : Session}
    (found : session.firstQuery number past = some asked) (more : List Action) :
    session.firstQuery number (past ++ more) = some asked := by
  induction past generalizing session with
  | nil => cases found
  | cons action rest ih =>
      rw [List.cons_append, firstQuery]
      rw [firstQuery] at found
      by_cases here : action.queries number = true ∧ number < session.selectors.length
      · rw [if_pos here] at found ⊢
        exact found
      · rw [if_neg here] at found ⊢
        exact ih found

theorem unasked_start (environment : Environment String) (facts : Facts) (kind : ProbeKind)
    (number : Nat) : (start environment facts kind).Unasked number := by
  intro selector there
  cases List.mem_singleton.mp (List.mem_of_getElem? there)
  rfl

theorem Unasked.next {action : Action} (unasked : session.Unasked number)
    (notYet : ¬ (action.queries number = true ∧ number < session.selectors.length)) :
    (session.next action).Unasked number := by
  intro selector there
  cases before : session.selectors[number]? with
  | none => exact cache_eq_none_of_getElem?_eq_none before there
  | some earlier =>
      have within : number < session.selectors.length := (List.getElem?_eq_some_iff.mp before).1
      have unchanged := getElem?_selectors_next_of_not_queries before
        (fun asks => notYet ⟨asks, within⟩)
      cases there.symm.trans unchanged
      exact unasked selector before

/-- No run touches a selector that has made its selection. -/
theorem getElem?_selectors_after_of_cached {selection : Selection}
    (there : session.selectors[number]? = some selector)
    (made : selector.cache = some selection) (actions : List Action) :
    (session.after actions).selectors[number]? = some selector := by
  induction actions generalizing session with
  | nil => exact there
  | cons action rest ih => exact ih (getElem?_selectors_next_of_cached there made)

/-- The cache after a run holds what a fresh selector would have selected at the
first query, and nothing if there was none. -/
theorem cache_after {actions : List Action} (unasked : session.Unasked number)
    (there : (session.after actions).selectors[number]? = some selector) :
    selector.cache =
      (session.firstQuery number actions).map fun asked => asked.freshSelection selector.kind := by
  induction actions generalizing session with
  | nil => exact unasked selector there
  | cons action rest ih =>
      rw [firstQuery]
      by_cases first : action.queries number = true ∧ number < session.selectors.length
      · obtain ⟨asks, within⟩ := first
        have before := List.getElem?_eq_getElem within
        -- from here on the selector cannot change, so the rest of the run does not matter
        have filled := getElem?_selectors_next_of_queries before asks
        cases there.symm.trans (getElem?_selectors_after_of_cached filled rfl rest)
        rw [if_pos ⟨asks, within⟩, Option.map_some, Selector.answer_consult, unasked _ before]
        rfl
      · rw [if_neg first]
        exact ih (unasked.next first) there

theorem getElem?_replies (session : Session) (past : List Action) (action : Action)
    (future : List Action) :
    (session.replies (past ++ action :: future))[past.length]? =
      some ((session.after past).reply action) := by
  rw [replies_append, List.getElem?_append_right (Nat.le_of_eq (length_replies session past)),
    length_replies, Nat.sub_self]
  rfl

/-- What a step of a run shows of a selector, where `past` are the steps before it. -/
structure Freezes (opening : Session) (past : List Action) (action : Action) (number : Nat)
    (selector : Selector) (reply : Reply) : Prop where
  /-- What needs the selection is answered from the one of the first query. -/
  answered : action.queries number = true →
    ∃ asked, opening.firstQuery number (past ++ [action]) = some asked ∧
      (action = .ask number .get →
        reply.answer = .text (asked.freshSelection selector.kind).choice.name) ∧
      (action = .ask number .selection →
        reply.answer = .selection (asked.freshSelection selector.kind)) ∧
      (∀ threads, action = .ask number (.concurrentGet threads) →
        reply.answer =
          .texts (List.replicate threads (asked.freshSelection selector.kind).choice.name))
  /-- The selector counts as cached from the first query on, and this never reverts. -/
  flagged : reply.cached[number]? = some (opening.firstQuery number (past ++ [action])).isSome
  told : action = .ask number .isCached →
    reply.answer = .flag (opening.firstQuery number past).isSome
  kept : ∀ asked, opening.firstQuery number past = some asked →
    opening.firstQuery number (past ++ [action]) = some asked
  /-- Nothing but a first query fills a cache, and nothing alters a filled one. -/
  untouched : ∀ before, (opening.after past).selectors[number]? = some before →
    (before.isCached = true ∨ ¬ action.queries number = true) → selector = before
  newborn : (opening.after past).selectors[number]? = none → selector.cache = none
  /-- The facts and the user's own setting are looked up again each time. -/
  gathered : action = .ask number .gatherFacts →
    ∃ found, reply.answer = .facts found ∧
      (selector.kind = .given → found = (opening.after past).facts) ∧
      (selector.kind = .settings → (opening.after past).environment.Describes found) ∧
      reply.trail = (selector.kind.probe (opening.after past).facts).targetFacts.trail
        (opening.after past).environment.source
  overridden : action = .ask number .overrideText →
    reply.answer = .textIfAny (present ((opening.after past).environment.get? "CHPL_TASKS")) ∧
      reply.trail = [.lookedUp .tasks]

section Step

variable {opening : Session} {past : List Action} {action : Action} {before : Selector}

theorem exists_before_of_queries (asks : action.queries number = true)
    (there : (session.next action).selectors[number]? = some selector) :
    ∃ before, session.selectors[number]? = some before := by
  cases missing : session.selectors[number]? with
  | some before => exact ⟨before, rfl⟩
  | none =>
      cases action with
      | set | unset | setFacts | new => exact absurd asks Bool.false_ne_true
      | ask asked inquiry =>
          obtain ⟨rfl, -⟩ := Action.queries_ask.mp asks
          rw [next_ask_of_none missing, missing] at there
          cases there

/-- A selector that was only observed was there before, and the same. -/
theorem getElem?_selectors_of_observed (inquiry : Inquiry)
    (observes : ¬ inquiry.needsSelection = true)
    (there : (session.next (.ask number inquiry)).selectors[number]? = some selector) :
    session.selectors[number]? = some selector := by
  cases before : session.selectors[number]? with
  | none =>
      rw [next_ask_of_none before, before] at there
      cases there
  | some earlier =>
      have unchanged : (session.next (.ask number inquiry)).selectors[number]? = some earlier :=
        getElem?_selectors_next_of_not_queries before
          (fun asks => observes (Action.queries_ask.mp asks).2)
      exact unchanged.symm.trans there

/-- A step that needs the selection is answered from the one of the first query. -/
theorem answer_consult_of_queries (unasked : opening.Unasked number)
    (there : (opening.after (past ++ [action])).selectors[number]? = some selector)
    (present : (opening.after past).selectors[number]? = some before)
    (asks : action.queries number = true) :
    ∃ asked, opening.firstQuery number (past ++ [action]) = some asked ∧
      (before.consult (opening.after past).facts (opening.after past).environment.source).answer =
        asked.freshSelection selector.kind := by
  have cache := cache_after unasked there
  rw [after_append] at there
  have filled := getElem?_selectors_next_of_queries present asks
  cases there.symm.trans filled
  obtain ⟨asked, found, same⟩ := Option.map_eq_some_iff.mp cache.symm
  exact ⟨asked, found, same.symm⟩

theorem answer_gatherFacts (there : session.selectors[number]? = some selector) :
    ∃ found, (session.act (.ask number .gatherFacts)).answer = .facts found ∧
      (selector.kind = .given → found = session.facts) ∧
      (selector.kind = .settings → session.environment.Describes found) := by
  refine ⟨_, (act_ask there .gatherFacts).1, ?_, ?_⟩
  · intro given
    rw [given]
    rfl
  · intro settings
    rw [settings]
    exact describes_targetFacts session.environment

/-- At every step of every session, a selector shows only what its first query froze:
whatever is set, removed or given in between, and whatever other selectors do. -/
theorem first_query_freezes {environment : Environment String} {facts : Facts}
    {kind : ProbeKind} {past : List Action} {action : Action} {number : Nat}
    {selector : Selector} (future : List Action)
    (there : ((start environment facts kind).after (past ++ [action])).selectors[number]? =
      some selector) :
    ∃ reply,
      ((start environment facts kind).replies (past ++ action :: future))[past.length]? =
        some reply ∧
      Freezes (start environment facts kind) past action number selector reply := by
  let opening := start environment facts kind
  have unasked : opening.Unasked number := unasked_start environment facts kind number
  have cache := cache_after unasked there
  have stepped : ((opening.after past).next action).selectors[number]? = some selector := by
    rw [after_append] at there
    exact there
  refine ⟨_, getElem?_replies opening past action future, ?_⟩
  constructor
  case answered =>
    intro asks
    obtain ⟨before, present⟩ := exists_before_of_queries asks stepped
    obtain ⟨asked, found, same⟩ := answer_consult_of_queries unasked there present asks
    refine ⟨asked, found, ?_, ?_, ?_⟩
    · rintro rfl
      rw [← same]
      exact (act_ask present .get).1
    · rintro rfl
      rw [← same]
      exact (act_ask present .selection).1
    · rintro threads rfl
      rw [← same, ← Selector.answer_concurrentGet]
      exact (act_ask present (.concurrentGet threads)).1
  case flagged =>
    change (((opening.after past).next action).selectors.map Selector.isCached)[number]? = _
    rw [List.getElem?_map, stepped, Option.map_some, Selector.isCached, cache, Option.isSome_map]
  case told =>
    rintro rfl
    have same := getElem?_selectors_of_observed .isCached Bool.false_ne_true stepped
    rw [← Option.isSome_map (f := fun asked : Session => asked.freshSelection selector.kind),
      ← cache_after unasked same]
    exact (act_ask same .isCached).1
  case kept =>
    intro asked found
    exact firstQuery_append found [action]
  case untouched =>
    intro before present quiet
    rcases quiet with cached | observes
    · obtain ⟨selection, made⟩ := Option.isSome_iff_exists.mp cached
      exact Option.some.inj (stepped.symm.trans (getElem?_selectors_next_of_cached present made))
    · exact Option.some.inj
        (stepped.symm.trans (getElem?_selectors_next_of_not_queries present observes))
  case newborn =>
    intro missing
    exact cache_eq_none_of_getElem?_eq_none missing stepped
  case gathered =>
    rintro rfl
    have same := getElem?_selectors_of_observed .gatherFacts Bool.false_ne_true stepped
    obtain ⟨found, answered, given, settings⟩ := answer_gatherFacts same
    exact ⟨found, answered, given, settings, (act_ask same .gatherFacts).2⟩
  case overridden =>
    rintro rfl
    exact act_ask (getElem?_selectors_of_observed .overrideText Bool.false_ne_true stepped)
      .overrideText

/-- The user's own setting comes too late for a selector that has been asked. -/
theorem first_query_freezes_before_override :
    ((start .empty .unknown .settings).after
        ([.ask 0 .get, .set "CHPL_TASKS" "muxed"] ++ [.ask 0 .selection])).selectors[0]? =
      some { kind := .settings, cache := some (.ofFacts { platform := "linux64" }) } ∧
    ∃ reply,
      ((start .empty .unknown .settings).replies
        ([.ask 0 .get, .set "CHPL_TASKS" "muxed"] ++ .ask 0 .selection :: [.ask 0 .isCached]))[2]? =
          some reply ∧
      Freezes (start .empty .unknown .settings) [.ask 0 .get, .set "CHPL_TASKS" "muxed"]
        (.ask 0 .selection) 0
        { kind := .settings, cache := some (.ofFacts { platform := "linux64" }) } reply :=
  ⟨rfl, first_query_freezes [.ask 0 .isCached] rfl⟩

end Step

end Session

end Tasking
