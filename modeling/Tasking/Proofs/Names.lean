/-
# What a name tells, and what it leaves open

A backend is passed on by its name. Whoever reads the name gets the backend back, and gets
it from no other text. What is refused is not lost, so refusals tell texts apart as well
as the texts themselves do.

A choice goes by its name wherever it is read: when it is shown, printed or logged, and
when somebody asks which known backend it stands for. One thing is left open. The user may
have given the very text that the table would have led to.
-/

import Tasking.Proofs.Report.Calls
import Tasking.Proofs.Text.Decoding

namespace Tasking

/-- What a user is told of a refused text tells which text it was. -/
theorem UnknownBackend.message_inj {first second : UnknownBackend}
    (same : first.message = second.message) : first = second := by
  unfold message at same
  have names := (String.append_right_inj _).mp ((String.append_left_inj _).mp same)
  cases first
  cases second
  exact congrArg mk names

namespace Backend

structure IsReadExactly (text : String) : Prop where
  /-- It has to be the name, byte for byte. -/
  accepted : ∀ backend, ofName text = .ok backend ↔ Utf8.encode text = Utf8.encode backend.name
  /-- It is refused if it is no name, and only then, and the refusal keeps all of it. -/
  refused : ∀ unknown, ofName text = .error unknown ↔
    unknown.name = text ∧ ∀ backend : Backend, Utf8.encode text ≠ Utf8.encode backend.name
  /-- Another refused text is refused differently, and the user is told so. -/
  apart : ∀ other unknown unknown', ofName text = .error unknown → ofName other = .error unknown' →
    (unknown = unknown' ↔ text = other) ∧ (unknown.message = unknown'.message ↔ text = other)

theorem isReadExactly (text : String) : IsReadExactly text := by
  have sameBytes (backend : Backend) :
      Utf8.encode text = Utf8.encode backend.name ↔ text = backend.name :=
    ⟨Utf8.encode_inj, congrArg Utf8.encode⟩
  constructor
  case accepted =>
    intro backend
    rw [sameBytes, ofName_eq_ok_iff]
  case refused =>
    intro unknown
    simp only [ne_eq, sameBytes]
    exact ofName_eq_error_iff
  case apart =>
    intro other unknown unknown' refused refused'
    have told : unknown = unknown' ↔ text = other := by
      rw [← ofName_inj, refused, refused', Except.error.injEq]
    refine ⟨told, ?_⟩
    rw [← told]
    exact ⟨UnknownBackend.message_inj, congrArg UnknownBackend.message⟩

end Backend

def Event.choice : Event → Choice
  | .overrideTaken text => .override text
  | .decided facts => .fromTable facts.decision.backend
  | .cacheHit choice => choice
  | .printing choice _ => choice

/-- The first thing that an event shows is what was chosen. -/
theorem Event.head?_fields (event : Event) :
    event.fields.head? = some ("tasks", .text (toString event.choice)) := by
  cases event with
  | overrideTaken text => rfl
  | decided facts => rfl
  | cacheHit choice => rfl
  | printing choice rule => rfl

namespace Choice

@[simp]
theorem toString_eq_name (choice : Choice) : toString choice = choice.name := rfl

/-- Every way to read a choice gives its name, or what its name is read as. -/
structure GoesByName (choice : Choice) : Prop where
  backend? : choice.backend? = (Backend.ofName choice.name).toOption
  shown : toString choice = choice.name
  /-- A report that meets with no failure prints it alone on a line. -/
  printed : ∀ selection : Selection, selection.choice = choice → ∀ explain streams,
    (selection.report explain streams).2 = none →
      (selection.report explain streams).1.out.taken =
        streams.out.taken ++ (Utf8.encode choice.name ++ [0x0A])
  /-- The events about it show it before anything else. -/
  logged : ∀ event : Event, event.choice = choice →
    event.fields.head? = some ("tasks", .text choice.name)

theorem goesByName (choice : Choice) : choice.GoesByName := by
  constructor
  case backend? => exact choice.backend?_eq_ofName_name
  case shown => exact choice.toString_eq_name
  case printed =>
    rintro selection rfl explain streams worked
    rw [(Selection.taken_of_report worked).2]
    exact congrArg _ (Utf8.encode_append selection.choice.name "\n")
  case logged =>
    rintro event rfl
    rw [event.head?_fields, toString_eq_name]

variable {first second : Choice}

theorem backend?_eq_some_iff {choice : Choice} {backend : Backend} :
    choice.backend? = some backend ↔ choice.name = backend.name := by
  rw [backend?_eq_ofName_name, ← Backend.ofName_eq_ok_iff]
  cases Backend.ofName choice.name with
  | ok named => simp [Except.toOption]
  | error unknown => simp [Except.toOption]

/-- What the second choice has from the user is the name of what the first has from the table. -/
def IsSpelledBy (first second : Choice) : Prop :=
  ∃ backend : Backend, first = .fromTable backend ∧ second = .override backend.name

theorem IsSpelledBy.name_eq (spelled : first.IsSpelledBy second) : first.name = second.name := by
  obtain ⟨backend, rfl, rfl⟩ := spelled
  rfl

theorem IsSpelledBy.ne (spelled : first.IsSpelledBy second) : first ≠ second := by
  obtain ⟨backend, rfl, rfl⟩ := spelled
  exact nofun

/-- The only two choices with one name are a backend of the table and its name as a text. -/
theorem name_eq_iff : first.name = second.name ↔
    first = second ∨ first.IsSpelledBy second ∨ second.IsSpelledBy first := by
  constructor
  · intro same
    cases first with
    | fromTable backend =>
        cases second with
        | fromTable other => exact Or.inl (congrArg fromTable (Backend.name_injective same))
        | override text => exact Or.inr (Or.inl ⟨backend, rfl, congrArg override same.symm⟩)
    | override text =>
        cases second with
        | fromTable backend => exact Or.inr (Or.inr ⟨backend, rfl, congrArg override same⟩)
        | override other => exact Or.inl (congrArg override same)
  · rintro (rfl | spelled | spelled)
    · rfl
    · exact spelled.name_eq
    · exact spelled.name_eq.symm

structure ComparesByName (first second : Choice) : Prop where
  /-- Choices with one name stand for one backend, and choices with two names do so only if
  neither stands for any. -/
  backend? : first.backend? = second.backend? ↔
    first.name = second.name ∨ first.backend? = none ∧ second.backend? = none
  /-- Choices with one name can come from different places, -/
  name : first.name = second.name ↔
    first = second ∨ first.IsSpelledBy second ∨ second.IsSpelledBy first
  /-- and then they are not equal. -/
  ne : first.IsSpelledBy second → first ≠ second

theorem comparesByName (first second : Choice) : first.ComparesByName second := by
  constructor
  case backend? =>
    constructor
    · intro same
      cases known : second.backend? with
      | none => exact Or.inr ⟨same.trans known, rfl⟩
      | some backend =>
          have named := backend?_eq_some_iff.mp known
          have named' := backend?_eq_some_iff.mp (same.trans known)
          exact Or.inl (named'.trans named.symm)
    · rintro (same | ⟨none, none'⟩)
      · rw [backend?_eq_ofName_name, backend?_eq_ofName_name second, same]
      · rw [none, none']
  case name => exact name_eq_iff
  case ne => exact IsSpelledBy.ne

end Choice

/-- Names are read exactly, every choice goes by its name, and what a name leaves open is
where the choice came from. -/
theorem names_are_read_exactly (text : String) (first second : Choice) :
    Backend.IsReadExactly text ∧ first.GoesByName ∧ first.ComparesByName second :=
  ⟨Backend.isReadExactly text, first.goesByName, Choice.comparesByName first second⟩

/-- A name with a blank in front and one in other letters are refused, and not alike. A name
that is spelled by the user stands for the backend all the same, and is printed like it. -/
theorem names_are_read_exactly_around_blank :
    ∃ (unknown unknown' : UnknownBackend) (first second : Choice) (selection : Selection),
      Backend.ofName " muxed" = .error unknown ∧ Backend.ofName "MUXED" = .error unknown' ∧
      unknown ≠ unknown' ∧ unknown.message ≠ unknown'.message ∧
      first.IsSpelledBy second ∧ first ≠ second ∧ first.backend? = second.backend? ∧
      first.backend? = some .muxed ∧ selection.choice = first ∧
      (selection.report true ⟨.unlimited, .unlimited⟩).2 = none ∧
      (selection.report true ⟨.unlimited, .unlimited⟩).1.out.taken =
        Utf8.encode second.name ++ [0x0A] := by
  let first := Choice.fromTable .muxed
  let second := Choice.override "muxed"
  let selection : Selection := ⟨first, .vendorModule, none⟩
  obtain ⟨exactly, goes, compares⟩ := names_are_read_exactly " muxed" first second
  have refused : Backend.ofName " muxed" = .error ⟨" muxed"⟩ := rfl
  have refused' : Backend.ofName "MUXED" = .error ⟨"MUXED"⟩ := rfl
  have different : ¬ " muxed" = "MUXED" := by decide
  obtain ⟨apart, toldApart⟩ := exactly.apart _ _ _ refused refused'
  have spelled : first.IsSpelledBy second := ⟨.muxed, rfl, rfl⟩
  have worked : (selection.report true ⟨.unlimited, .unlimited⟩).2 = none := by decide +kernel
  exact ⟨_, _, first, second, selection, refused, refused', mt apart.mp different,
    mt toldApart.mp different, spelled, compares.ne spelled,
    compares.backend?.mpr (.inl spelled.name_eq), rfl, rfl, worked,
    goes.printed selection rfl true _ worked⟩

end Tasking
