/-
# A choice that is pinned

What was chosen in one environment can be made the user's own setting in another. The choice
is then a text where it may have been a backend of the table, and the facts behind it are
gone, but its name and the backend that it names are the same. Nothing else of the other
environment is looked at.

Two things could go wrong. A name could be the empty text, which counts as no setting, and a
name could be read back as another one. Neither happens: a selection never has an empty name,
and bytes that a text was written as are decoded to that text. So the command prints again
what it printed, whatever bytes it was first given and however many line ends are in the
text, if just the one line end is taken off that the command put behind it.
-/

import Tasking.Proofs.Command.ExitCode
import Tasking.Proofs.Probe.Soundness

namespace Tasking

namespace Environment

theorem source_insert_tasks (elsewhere : Environment String) (text : String) :
    (elsewhere.insert "CHPL_TASKS" text).source .tasks = some text :=
  (elsewhere.get?_insert "CHPL_TASKS" "CHPL_TASKS" text).trans (if_pos rfl)

end Environment

/-- A fresh selector that looks its settings up here takes the choice for the user's own text,
and gives it the name and the backend that it had. -/
structure Choice.IsPinnedOver (choice : Choice) (kind : ProbeKind) (facts : Facts)
    (source : Source) : Prop where
  selection :
    (({ kind := kind } : Selector).answer facts source .selection).answer =
      .selection { choice := .override choice.name, rule := .override, facts := none }
  get : (({ kind := kind } : Selector).answer facts source .get).answer = .text choice.name
  backend? : (Choice.override choice.name).backend? = choice.backend?

theorem Choice.isPinnedOver_of_tasks {choice : Choice} (filled : choice.name ≠ "")
    (kind : ProbeKind) (facts : Facts) {source : Source}
    (tasks : source .tasks = some choice.name) : choice.IsPinnedOver kind facts source := by
  have selected : (kind.probe facts).select.value source = .ofOverride choice.name :=
    Probe.value_select_of_present (present_eq_some_iff.mpr ⟨tasks, filled⟩)
  constructor
  case selection => exact congrArg Answer.selection selected
  case get => exact congrArg (fun selection => Answer.text selection.choice.name) selected
  case backend? => rw [backend?_eq_ofName_name, backend?_eq_ofName_name choice, name]

/-- Whatever a selector selects has a name. -/
theorem ProbeKind.name_value_select_ne_empty (kind : ProbeKind) (facts : Facts) (source : Source) :
    ((kind.probe facts).select.value source).choice.name ≠ "" :=
  ((kind.ensures_isSoundFor facts).value source).sound.name_ne_empty

namespace Command

/-- A run that prints on a stream that works, beside another that may not. -/
def runBeside (diag : Health) (arguments : List String) (environment : Environment Bytes) :
    Completion :=
  run arguments environment ⟨Health.works.stream, diag.stream⟩

/-- What a run prints if it succeeds. It does succeed if nothing is in its way. -/
structure Prints (arguments : List String) (environment : Environment Bytes) (printed : Bytes) :
    Prop where
  succeeds : (runBeside .works arguments environment).code = 0
  taken : ∀ diag : Health, (runBeside diag arguments environment).code = 0 →
    (runBeside diag arguments environment).streams.out.taken = printed

variable {arguments : List String} {options : Options}

theorem prints_line (accepted : readArguments arguments = .ok options)
    (environment : Environment Bytes) :
    Prints arguments environment (Utf8.encode (selectFor environment).1.line) := by
  constructor
  case succeeds => exact congrArg Completion.code (runUnhindered_eq accepted environment)
  case taken =>
    intro diag zero
    by_cases unharmed : diag = .works ∨ logLines options environment = []
    · rw [runBeside, run_eq_runRegardless accepted unharmed] at zero ⊢
      rcases code_runRegardless accepted environment .works diag with ⟨-, able, -⟩ | ⟨-, one⟩
      · rw [runRegardless_of_works accepted environment able]
        rfl
      · exact absurd (one.symm.trans zero) Nat.one_ne_zero
    · obtain ⟨broken, lost⟩ := not_or.mp unharmed
      cases diag with
      | works => exact absurd rfl broken
      | refuses cause =>
          rw [runBeside, run_of_ok accepted, perform_of_lost lost] at zero
          cases zero

theorem encode_line (selection : Selection) :
    Utf8.encode selection.line = Utf8.encode selection.choice.name ++ [0x0A] :=
  Utf8.encode_append selection.choice.name "\n"

/-- What was selected once is selected again where its name is set, and what was printed once
is printed again where it is set without the line end. -/
theorem pinned_choice_recurs :
    (∀ (kind : ProbeKind) (facts : Facts) (source : Source), ∃ selection : Selection,
      (({ kind := kind } : Selector).answer facts source .selection).answer =
        .selection selection ∧
      (({ kind := kind } : Selector).answer facts source .get).answer =
        .text selection.choice.name ∧
      ∀ (other : ProbeKind) (otherFacts : Facts),
        (∀ elsewhere : Environment String,
          selection.choice.IsPinnedOver other otherFacts
            (elsewhere.insert "CHPL_TASKS" selection.choice.name).source) ∧
        ∀ elsewhere : Environment Bytes,
          selection.choice.IsPinnedOver other otherFacts
            (elsewhere.insert "CHPL_TASKS" (Utf8.encode selection.choice.name)).byteSource) ∧
    ∀ (arguments : List String) (options : Options), readArguments arguments = .ok options →
      ∀ environment : Environment Bytes, ∃ text : Bytes,
        Prints arguments environment (text ++ [0x0A]) ∧
        ∀ (others : List String) (otherOptions : Options), readArguments others = .ok otherOptions →
          ∀ elsewhere : Environment Bytes,
            Prints others (elsewhere.insert "CHPL_TASKS" text) (text ++ [0x0A]) := by
  constructor
  · intro kind facts source
    refine ⟨(kind.probe facts).select.value source, rfl, rfl, ?_⟩
    have filled := kind.name_value_select_ne_empty facts source
    intro other otherFacts
    constructor
    · intro elsewhere
      exact Choice.isPinnedOver_of_tasks filled other otherFacts
        (elsewhere.source_insert_tasks _)
    · intro elsewhere
      exact Choice.isPinnedOver_of_tasks filled other otherFacts
        (elsewhere.byteSource_insert_tasks _)
  · intro arguments options accepted environment
    have filled : (selectFor environment).1.choice.name ≠ "" :=
      ProbeKind.settings.name_value_select_ne_empty .unknown environment.byteSource
    have first := prints_line accepted environment
    rw [encode_line] at first
    refine ⟨_, first, ?_⟩
    intro others otherOptions accepted' elsewhere
    have again := prints_line accepted' (elsewhere.insert "CHPL_TASKS"
      (Utf8.encode (selectFor environment).1.choice.name))
    rw [encode_line, selectFor_insert filled] at again
    exact again

/-- A text with a fault and a line end of its own, printed again beside a log. -/
theorem pinned_choice_recurs_with_line_end :
    ∃ environment elsewhere : Environment Bytes, ∃ text : Bytes,
      readArguments [] = .ok {} ∧ readArguments ["-v"] = .ok { verbose := true } ∧
      environment.get? "CHPL_TASKS" = some [0x66, 0xFF, 0x0A] ∧
      elsewhere.get? "CHPL_TASKS" = some [0x67] ∧
      Prints [] environment (text ++ [0x0A]) ∧
      Prints ["-v"] (elsewhere.insert "CHPL_TASKS" text) (text ++ [0x0A]) := by
  have accepted : readArguments [] = .ok {} := by decide
  have accepted' : readArguments ["-v"] = .ok { verbose := true } := by decide
  obtain ⟨text, printed, again⟩ := pinned_choice_recurs.2 [] {} accepted
    (.ofList [("CHPL_TASKS", [0x66, 0xFF, 0x0A])])
  exact ⟨_, .ofList [("CHPL_TASKS", [0x67])], text, accepted, accepted', by decide, by decide,
    printed, again ["-v"] _ accepted' _⟩

end Command

end Tasking
