/-
# The exit code owns up to what could not be written

A run succeeds just if all that it has to write can be written, and the log is not
counted among that as long as lost lines of it are overlooked. An explanation that cannot
be written keeps the identifier back. An identifier that cannot be written is complained
about behind all that was written before.

The command itself does not overlook a lost line. For it the same is true of every run
that loses none, and a run that loses one is aborted before it prints anything.
-/

import Tasking.Proofs.Command.Diagnostics

namespace Tasking.Command

variable {arguments : List String} {options : Options}

/-- Selects, logs and prints as `perform` does, but drops a log line that cannot be written. -/
def performRegardless (options : Options) (environment : Environment Bytes) (streams : Streams) :
    Completion :=
  let (selection, events) := selectFor environment
  let lines := Log.lines (logFilter options environment) events
  conclude selection options.explain
    { streams with diag := lines.foldl Sink.writeTextIfPossible streams.diag }

/-- A run that goes on although it may have lost lines of its log. -/
def runRegardless (arguments : List String) (environment : Environment Bytes) (out diag : Health) :
    Completion :=
  match readArguments arguments with
  | .ok options => performRegardless options environment ⟨out.stream, diag.stream⟩
  | .error stop => finish stop ⟨out.stream, diag.stream⟩

/-- Such a run logs what it can, and then reports. -/
theorem runRegardless_eq (accepted : readArguments arguments = .ok options)
    (environment : Environment Bytes) (out diag : Health) :
    runRegardless arguments environment out diag =
      conclude (selectFor environment).1 options.explain
        ⟨out.stream, diag.after (Utf8.encodeAll (logLines options environment))⟩ := by
  have logged : (logLines options environment).foldl Sink.writeTextIfPossible diag.stream =
      diag.after (Utf8.encodeAll (logLines options environment)) :=
    Health.foldl_writeTextIfPossible [] diag _
  rw [runRegardless, accepted, ← logged]
  rfl

/-- A run that loses no line of its log is no different for what would become of one. -/
theorem run_eq_runRegardless (accepted : readArguments arguments = .ok options)
    {environment : Environment Bytes} {diag : Health}
    (unharmed : diag = .works ∨ logLines options environment = []) (out : Health) :
    run arguments environment ⟨out.stream, diag.stream⟩ =
      runRegardless arguments environment out diag := by
  rw [run_of_ok accepted, perform_of_unharmed unharmed, runRegardless_eq accepted]

/-- The explanation is not wanted, or it can be written. -/
def CanExplain (options : Options) (diag : Health) : Prop :=
  options.explain = false ∨ diag = .works

theorem exists_refuses_of_not_canExplain {diag : Health} (unable : ¬ CanExplain options diag) :
    options.explain = true ∧ ∃ cause, diag = .refuses cause := by
  obtain ⟨wanted, broken⟩ := not_or.mp unable
  refine ⟨eq_true_of_ne_false wanted, ?_⟩
  cases diag with
  | works => exact absurd rfl broken
  | refuses cause => exact ⟨cause, rfl⟩

section Outcomes

variable (accepted : readArguments arguments = .ok options) (environment : Environment Bytes)
  {diag : Health}
include accepted

theorem runRegardless_of_works (able : CanExplain options diag) :
    runRegardless arguments environment .works diag =
      ⟨succeeded, Health.works.after (Utf8.encode (selectFor environment).1.line),
        diag.after (Utf8.encodeAll (logLines options environment) ++
          explained (selectFor environment).1 options.explain)⟩ := by
  rw [runRegardless_eq accepted]
  exact conclude_of_works _ _ _ able

theorem runRegardless_of_identifier_refused (able : CanExplain options diag) (cause : String) :
    runRegardless arguments environment (.refuses cause) diag =
      ⟨failed, (Health.refuses cause).stream,
        diag.after (Utf8.encodeAll (logLines options environment) ++
          explained (selectFor environment).1 options.explain ++
          Utf8.encode (complaint ⟨.identifier, cause⟩))⟩ := by
  rw [runRegardless_eq accepted]
  exact conclude_of_identifier_refused _ _ _ able cause

theorem runRegardless_of_explanation_refused (wanted : options.explain = true) (out : Health)
    (cause : String) :
    runRegardless arguments environment out (.refuses cause) =
      ⟨failed, out.stream, (Health.refuses cause).stream⟩ := by
  rw [runRegardless_eq accepted, wanted]
  exact conclude_of_explanation_refused _ _ _ out cause

/-- There are two exit codes, and which of them it is depends on what can be written. -/
theorem code_runRegardless (out diag : Health) :
    out = .works ∧ CanExplain options diag ∧
        (runRegardless arguments environment out diag).code = 0 ∨
      ¬ (out = .works ∧ CanExplain options diag) ∧
        (runRegardless arguments environment out diag).code = 1 := by
  -- The explanation comes before the identifier, so its fate is settled first.
  by_cases able : CanExplain options diag
  · cases out with
    | works =>
        refine Or.inl ⟨rfl, able, ?_⟩
        rw [runRegardless_of_works accepted environment able]
        rfl
    | refuses cause =>
        refine Or.inr ⟨fun both => Health.noConfusion both.1, ?_⟩
        rw [runRegardless_of_identifier_refused accepted environment able]
        rfl
  · obtain ⟨wanted, cause, rfl⟩ := exists_refuses_of_not_canExplain able
    refine Or.inr ⟨fun both => able both.2, ?_⟩
    rw [runRegardless_of_explanation_refused accepted environment wanted]
    rfl

end Outcomes

end Tasking.Command
