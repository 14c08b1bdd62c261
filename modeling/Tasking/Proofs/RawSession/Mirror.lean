/-
# A process, mirrored by a plain session

A process keeps bytes and decodes them at each lookup. The same can be played out in
a session of texts, in which every value is decoded once, when it is stored. Selector
0 of that session stands for the one that all parts of the process share. The newest
selector stands for the one that a part made for itself, so replacing it means making
another one.

`Mirrors` relates the two, and every step keeps it. What the two show is the same,
with one exception: a process can be asked for a name with an equals sign in it, and
then reaches into the bytes of a value, where a session of texts finds nothing.
-/

import Tasking.Proofs.Session.Step
import Tasking.RawSession

namespace Tasking

theorem Environment.decoded_insert (environment : Environment Bytes) (name : String)
    (value : Bytes) :
    (environment.insert name value).decoded =
      environment.decoded.insert name (Utf8.decodeLossy value) := by
  simp [decoded, insert, erase, map, List.filter_map, Function.comp_def]

theorem Environment.decoded_erase (environment : Environment Bytes) (name : String) :
    (environment.erase name).decoded = environment.decoded.erase name := by
  simp [decoded, erase, map, List.filter_map, Function.comp_def]

/-- The answer without the names that no variable can have. -/
def RawAnswer.named : RawAnswer → RawAnswer
  | .found entries => .found (entries.filter fun entry => '=' ∉ entry.name.toList)
  | other => other

/-- Among names that a variable can have, decoding at the lookup finds what decoding
beforehand finds. -/
theorem named_reachAll (environment : Environment Bytes) (names : List String) :
    (RawAnswer.found (environment.reachAll names)).named =
      (RawAnswer.found (environment.decoded.lookUpAll names)).named := by
  have plain : ∀ name ∈ names.filter fun name => '=' ∉ name.toList, '=' ∉ name.toList := by
    intro name among
    exact of_decide_eq_true (List.mem_filter.mp among).2
  have found := environment.reachAll_of_not_mem plain
  simp only [Environment.reachAll, Environment.lookUpAll] at found
  simp only [RawAnswer.named, Environment.reachAll, Environment.lookUpAll, List.filter_map]
  exact congrArg RawAnswer.found found

namespace Session

/-- The number of the selector that was made last. -/
def newest (session : Session) : Nat :=
  session.selectors.length - 1

/-- A session of texts with a selector to be shared and one beside it. -/
def startRaw (environment : Environment String) : Session :=
  (start environment .unknown .settings).next (.new .settings)

/-- What a step of a process comes to in a session of texts. -/
def actRaw (session : Session) : RawAction → Outcome Session RawAnswer
  | .askShared inquiry =>
      let outcome := session.act (.ask 0 inquiry)
      ⟨.answer outcome.answer, outcome.trail, outcome.state⟩
  | .askOwn inquiry =>
      let outcome := session.act (.ask session.newest inquiry)
      ⟨.answer outcome.answer, outcome.trail, outcome.state⟩
  | .renew => ⟨.answer .nothing, [], session.next (.new .settings)⟩
  | .survey => ⟨.survey (Probe.ofSettings.survey session.environment.source), [], session⟩
  | .lookUpAll names => ⟨.found (session.environment.lookUpAll names), [], session⟩
  | .set name value =>
      ⟨.answer .nothing, [], session.next (.set name (Utf8.decodeLossy value))⟩
  | .unset name => ⟨.answer .nothing, [], session.next (.unset name)⟩

/-- What a list of steps of a process shows in a session of texts, one answer for each. -/
def answersRaw (session : Session) : List RawAction → List RawAnswer
  | [] => []
  | action :: rest => (session.actRaw action).answer :: (session.actRaw action).state.answersRaw rest

end Session

/-- The session of texts stands where the process stands. -/
structure Mirrors (raw : RawSession) (session : Session) : Prop where
  environment : session.environment = raw.environment.decoded
  facts : session.facts = .unknown
  shared : session.selectors[0]? = some raw.shared
  own : session.selectors[session.newest]? = some raw.own
  apart : session.newest ≠ 0

theorem mirrors_start (environment : Environment Bytes) :
    Mirrors (.start environment) (.startRaw environment.decoded) :=
  ⟨rfl, rfl, rfl, rfl, Nat.one_ne_zero⟩

variable {raw : RawSession} {session : Session}

theorem Mirrors.source_eq (mirrors : Mirrors raw session) :
    session.environment.source = raw.environment.byteSource := by
  rw [mirrors.environment, RawSession.byteSource_eq_source_decoded]

/-- What the session of texts says to a step is what the process says. -/
theorem Mirrors.named_answer (mirrors : Mirrors raw session) (action : RawAction) :
    (raw.act action).answer.named = (session.actRaw action).answer.named := by
  cases action with
  | askShared inquiry =>
      have answered := (Session.act_ask mirrors.shared inquiry).1
      rw [mirrors.facts, mirrors.source_eq] at answered
      exact congrArg (fun answer => (RawAnswer.answer answer).named) answered.symm
  | askOwn inquiry =>
      have answered := (Session.act_ask mirrors.own inquiry).1
      rw [mirrors.facts, mirrors.source_eq] at answered
      exact congrArg (fun answer => (RawAnswer.answer answer).named) answered.symm
  | renew | set | unset => rfl
  | survey =>
      simp only [RawSession.act, Session.actRaw, mirrors.source_eq]
  | lookUpAll names =>
      simp only [RawSession.act, Session.actRaw, mirrors.environment]
      exact named_reachAll raw.environment names

/-- A question leaves the mirror in place if it leaves both selectors as the process has them. -/
theorem Mirrors.next_ask (mirrors : Mirrors raw session) {number : Nat} {inquiry : Inquiry}
    {later : RawSession} (environment : later.environment = raw.environment)
    (shared : (session.next (.ask number inquiry)).selectors[0]? = some later.shared)
    (own : (session.next (.ask number inquiry)).selectors[session.newest]? = some later.own) :
    Mirrors later (session.next (.ask number inquiry)) := by
  have newest : (session.next (.ask number inquiry)).newest = session.newest := by
    rw [Session.newest, Session.length_selectors_next]
    rfl
  refine ⟨?_, ?_, shared, ?_, ?_⟩
  · rw [Session.environment_next, environment]
    exact mirrors.environment
  · rw [Session.facts_next]
    exact mirrors.facts
  · rw [newest]
    exact own
  · rw [newest]
    exact mirrors.apart

/-- Every step of the process keeps the mirror in place. -/
theorem Mirrors.act (mirrors : Mirrors raw session) (action : RawAction) :
    Mirrors (raw.act action).state (session.actRaw action).state := by
  cases action with
  | askShared inquiry =>
      apply mirrors.next_ask
      · rfl
      · rw [Session.getElem?_selectors_next, mirrors.shared, mirrors.facts, mirrors.source_eq]
        rfl
      · rw [Session.getElem?_selectors_next]
        exact (if_neg mirrors.apart.symm).trans mirrors.own
  | askOwn inquiry =>
      apply mirrors.next_ask
      · rfl
      · rw [Session.getElem?_selectors_next]
        exact (if_neg mirrors.apart).trans mirrors.shared
      · rw [Session.getElem?_selectors_next, mirrors.own, mirrors.facts, mirrors.source_eq]
        exact if_pos rfl
  | renew =>
      have within : 0 < session.selectors.length := (List.getElem?_eq_some_iff.mp mirrors.shared).1
      have newest : (session.next (.new .settings)).newest = session.selectors.length := by
        rw [Session.newest, Session.length_selectors_next]
        rfl
      -- the newcomer goes to the end, so it never takes the place of the shared selector
      refine ⟨mirrors.environment, mirrors.facts, ?_, ?_, ?_⟩
      · exact Session.getElem?_selectors_next_of_not_queries mirrors.shared Bool.false_ne_true
      · change (session.next (.new .settings)).selectors[(session.next (.new .settings)).newest]? = _
        rw [newest, Session.getElem?_selectors_next]
        exact if_pos rfl
      · change (session.next (.new .settings)).newest ≠ 0
        rw [newest]
        exact Nat.ne_of_gt within
  | survey | lookUpAll => exact mirrors
  | set name value =>
      refine ⟨?_, mirrors.facts, mirrors.shared, mirrors.own, mirrors.apart⟩
      rw [RawSession.act, Environment.decoded_insert, ← mirrors.environment]
      rfl
  | unset name =>
      refine ⟨?_, mirrors.facts, mirrors.shared, mirrors.own, mirrors.apart⟩
      rw [RawSession.act, Environment.decoded_erase, ← mirrors.environment]
      rfl

/-- Along a whole run the process and its mirror give the same answers. -/
theorem Mirrors.answers (mirrors : Mirrors raw session) (actions : List RawAction) :
    (raw.answers actions).map RawAnswer.named =
      (session.answersRaw actions).map RawAnswer.named := by
  induction actions generalizing raw session with
  | nil => rfl
  | cons action rest ih =>
      rw [RawSession.answers, Session.answersRaw, List.map_cons, List.map_cons,
        mirrors.named_answer action, ih (mirrors.act action)]

end Tasking
