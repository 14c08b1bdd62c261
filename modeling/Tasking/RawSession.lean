/-
# Raw sessions

A raw session is what a single process sees: an environment of bytes, one selector that
all of its parts share, and one that a part made for itself. Bytes become text at each
lookup.

A process keeps each variable as one run of bytes, with an equals sign between the name
and the value. Whoever asks for a name of his own choice can therefore put an equals sign
into it and reach into a value.
-/

import Tasking.Selector
import Tasking.Text.Utf8

namespace Tasking

/-- A name that is present stays present, whatever its bytes are. -/
def Environment.decoded (environment : Environment Bytes) : Environment String :=
  environment.map Utf8.decodeLossy

def Environment.byteSource (environment : Environment Bytes) : Source :=
  fun setting => (environment.get? setting.name).map Utf8.decodeLossy

def equalsSign : UInt8 := 61

/-- The first equals sign ends the name of a variable; if there is a second part, the value must
begin with it. -/
def Environment.reach? (environment : Environment Bytes) (name : String) : Option Bytes :=
  let isPlain (letter : Char) : Bool := letter != '='
  match name.toList.dropWhile isPlain with
  | [] => environment.get? name
  | _ :: behind =>
      (environment.get? (String.ofList (name.toList.takeWhile isPlain))).bind
        (fun value => (Utf8.encode (String.ofList behind) ++ [equalsSign]).isPrefixOf? value)

theorem Environment.reach?_of_not_mem (environment : Environment Bytes) {name : String}
    (plain : '=' ∉ name.toList) : environment.reach? name = environment.get? name := by
  have nothing : name.toList.dropWhile (fun letter => letter != '=') = [] := by
    have others : ∀ letter ∈ name.toList, (letter != '=') = true := by
      intro letter inside
      simp only [bne_iff_ne, ne_eq]
      rintro rfl
      exact plain inside
    have dropped := @List.dropWhile_append_of_pos _ (fun letter => letter != '=') _ [] others
    simpa using dropped
  simp [reach?, nothing]

def Environment.reachAll (environment : Environment Bytes) (names : List String) :
    List Variable :=
  names.map (fun name =>
    .ofAnswer name ((environment.reach? name).map Utf8.decodeLossy))

theorem Environment.reachAll_of_not_mem (environment : Environment Bytes) {names : List String}
    (plain : ∀ name ∈ names, '=' ∉ name.toList) :
    environment.reachAll names = environment.decoded.lookUpAll names := by
  simp only [reachAll, lookUpAll, decoded, get?_map]
  exact List.map_congr_left fun name asked => by
    rw [environment.reach?_of_not_mem (plain name asked)]

structure RawSession where
  environment : Environment Bytes
  /-- The selector that all parts share. -/
  shared : Selector
  own : Selector

inductive RawAction where
  | askShared (inquiry : Inquiry)
  | askOwn (inquiry : Inquiry)
  | renew
  | survey
  | lookUpAll (names : List String)
  | set (name : String) (value : Bytes)
  | unset (name : String)

inductive RawAnswer where
  | answer (answer : Answer)
  | survey (survey : Survey)
  | found (found : List Variable)

namespace RawSession

def freshSelector : Selector := { kind := .settings }

def start (environment : Environment Bytes) : RawSession where
  environment := environment
  shared := freshSelector
  own := freshSelector

/-- No facts are given from outside. -/
def act (session : RawSession) : RawAction → Outcome RawSession RawAnswer
  | .askShared inquiry =>
      let outcome := session.shared.answer .unknown session.environment.byteSource inquiry
      ⟨.answer outcome.answer, outcome.trail, { session with shared := outcome.state }⟩
  | .askOwn inquiry =>
      let outcome := session.own.answer .unknown session.environment.byteSource inquiry
      ⟨.answer outcome.answer, outcome.trail, { session with own := outcome.state }⟩
  | .renew => ⟨.answer .nothing, [], { session with own := freshSelector }⟩
  | .survey => ⟨.survey (Probe.ofSettings.survey session.environment.byteSource), [], session⟩
  | .lookUpAll names =>
      ⟨.found (session.environment.reachAll names), [], session⟩
  | .set name value =>
      ⟨.answer .nothing, [],
        { session with environment := session.environment.insert name value }⟩
  | .unset name =>
      ⟨.answer .nothing, [], { session with environment := session.environment.erase name }⟩

def answers (session : RawSession) : List RawAction → List RawAnswer
  | [] => []
  | action :: rest => (session.act action).answer :: (session.act action).state.answers rest

theorem byteSource_eq_source_decoded (environment : Environment Bytes) :
    environment.byteSource = environment.decoded.source := by
  funext setting
  simp [Environment.byteSource, Environment.source, Environment.decoded]

end RawSession

end Tasking
