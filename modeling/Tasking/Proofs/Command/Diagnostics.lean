/-
# The log and the explanation change no answer

Whoever reads the first stream of the command sees the identifier that the shared
selector gives in the same environment, and sees no sign of the switches or of the log
filter. The second stream begins with the log and goes on with the explanation, if there
is one, so to ask for an explanation is to add to the end of that stream. A filter in the
environment stands for itself, whatever the switches say.

All this is read off one equation for a run on streams that work, which says what each
stream holds in the end.
-/

import Tasking.Proofs.Command.Grammar
import Tasking.Proofs.Session.Events

namespace Tasking.Command

/-- The environments have the same variables, but for the one with the log filter. -/
def SameButForFilter (first second : Environment Bytes) : Prop :=
  ∀ name, name ≠ filterVariable → first.get? name = second.get? name

/-- The filter that the environment holds, if it holds one that can be read. -/
def filterOf? (environment : Environment Bytes) : Option Log.Filter :=
  ((environment.get? filterVariable).bind Utf8.decode?).bind Log.Filter.read?

variable {arguments : List String} {options : Options}

section Selecting

variable {first second : Environment Bytes}

/-- No setting is kept in the variable with the log filter. -/
theorem byteSource_congr (same : SameButForFilter first second) :
    first.byteSource = second.byteSource := by
  funext setting
  have other : setting.name ≠ filterVariable := by
    cases setting with
    | tasks | anyPlatform | home | moduleHome => decide
    | arch side | platform side | compiler side => cases side <;> decide
  rw [Environment.byteSource, Environment.byteSource, same _ other]

theorem selectFor_congr (same : SameButForFilter first second) :
    selectFor first = selectFor second := by
  rw [selectFor, selectFor, byteSource_congr same]

/-- A run asks its selector once, and so is never told that a selection is given again. -/
theorem isHit_of_mem_selectFor (environment : Environment Bytes) :
    ∀ event ∈ (selectFor environment).2, event.isHit = false := by
  obtain ⟨event, only, tells⟩ := RawSession.freshSelector.exists_eventsOf_consult rfl .unknown
    environment.byteSource
  have all : (selectFor environment).2 = [event, (selectFor environment).1.announcement] :=
    congrArg (· ++ [(selectFor environment).1.announcement]) only
  rw [all]
  refine List.forall_mem_cons.mpr ⟨tells.kinds.2, List.forall_mem_singleton.mpr ?_⟩
  rfl

end Selecting

theorem logFilter_of_filterOf? {filter : Log.Filter} {environment : Environment Bytes}
    (held : filterOf? environment = some filter) (options : Options) :
    logFilter options environment = filter := by
  rw [filterOf?] at held
  rw [logFilter, held, Option.getD_some]

theorem logLines_congr {first second : Options} {environment : Environment Bytes}
    (same : logFilter first environment = logFilter second environment) :
    logLines first environment = logLines second environment := by
  rw [logLines, logLines, same]

/-- The report of a selection adds just the explanation to its second stream. -/
theorem report_explained (selection : Selection) :
    (selection.report true ⟨Health.works.stream, Health.works.stream⟩).1.diag.taken =
      explained selection true := by
  rw [Health.stream, report_of_works selection [] [] (Or.inr rfl), List.nil_append]
  rfl

/-- One switch of well-formed arguments can be left out, and the rest asks for the rest. -/
theorem readArguments_leave_out {front back : List String} {switch : String}
    (accepted : readArguments (front ++ switch :: back) = .ok options) :
    readArguments (front ++ back) = .ok (Options.given (front ++ back)) := by
  have fitting := (readArguments_eq_ok_iff.mp accepted).1
  have fewer : (front ++ back).Sublist (front ++ switch :: back) :=
    (List.sublist_cons_self switch back).append_left front
  exact readArguments_eq_ok_iff.mpr ⟨fitting.sublist fewer, rfl⟩

theorem mem_leave_out {front back : List String} {switch other : String} (apart : other ≠ switch) :
    other ∈ front ++ switch :: back ↔ other ∈ front ++ back := by
  simp only [List.mem_append, List.mem_cons, apart, false_or]

/-- Without its switch for explanations, a run explains nothing and logs the same. -/
theorem given_leave_out_explain {front back : List String}
    (accepted : readArguments (front ++ "--explain" :: back) = .ok options) :
    options.explain = true ∧ Options.given (front ++ back) = { options with explain := false } := by
  obtain ⟨fitting, rfl⟩ := readArguments_eq_ok_iff.mp accepted
  have there : "--explain" ∈ front ++ "--explain" :: back :=
    List.mem_append_right front List.mem_cons_self
  have most := fitting.count_explain_le
  rw [List.perm_middle.count_eq, List.count_cons_self] at most
  have absent : "--explain" ∉ front ++ back :=
    List.count_eq_zero.mp (Nat.le_zero.mp (Nat.le_of_succ_le_succ most))
  refine ⟨decide_eq_true there, Options.mk.injEq .. ▸ ⟨decide_eq_false absent, ?_⟩⟩
  exact decide_eq_decide.mpr
    (or_congr (mem_leave_out (by decide)) (mem_leave_out (by decide))).symm

/-- Without its switch for the log, a run explains the same. -/
theorem explain_given_leave_out {front back : List String} {switch : String}
    (apart : "--explain" ≠ switch) :
    (Options.given (front ++ switch :: back)).explain = (Options.given (front ++ back)).explain :=
  decide_eq_decide.mpr (mem_leave_out apart)

/-- What diagnostics do to an accepted run, and what they do not. -/
structure Undisturbed (arguments : List String) (options : Options)
    (environment : Environment Bytes) : Prop where
  /-- The run succeeds, and prints what the shared selector answers, alone on its line. -/
  answer : ∃ identifier,
    ((RawSession.start environment).act (.askShared .get)).answer = .answer (.text identifier) ∧
      (runUnhindered arguments environment).code = 0 ∧
      (runUnhindered arguments environment).streams.out.taken = Utf8.encode (identifier ++ "\n")
  /-- Another run, with other switches and another log filter, answers the same. -/
  answerAgain : ∀ others otherOptions elsewhere, readArguments others = .ok otherOptions →
    SameButForFilter environment elsewhere →
    (runUnhindered others elsewhere).code = (runUnhindered arguments environment).code ∧
      (runUnhindered others elsewhere).streams.out =
        (runUnhindered arguments environment).streams.out
  /-- The log is of events of which none is about a selection that was given again. -/
  log : (∀ event ∈ (selectFor environment).2, event.message ≠ "CHPL_TASKS cache hit") ∧
    (options.explain = false →
      (runUnhindered arguments environment).streams.diag.taken =
        Utf8.encodeAll (Log.lines (logFilter options environment) (selectFor environment).2))
  /-- The explanation of what the shared selector gives stands behind all else. -/
  explanation : ∀ front back, arguments = front ++ "--explain" :: back →
    ∃ fewer selection, readArguments (front ++ back) = .ok fewer ∧ fewer.explain = false ∧
      ((RawSession.start environment).act (.askShared .selection)).answer =
        .answer (.selection selection) ∧
      (runUnhindered arguments environment).streams.diag.taken =
        (runUnhindered (front ++ back) environment).streams.diag.taken ++
          (selection.report true ⟨Health.works.stream, Health.works.stream⟩).1.diag.taken
  /-- Where the environment holds a filter, the switch for the log has nothing to say. -/
  filtered : ∀ filter, filterOf? environment = some filter →
    ∀ front switch back, switch = "--verbose" ∨ switch = "-v" → arguments = front ++ switch :: back →
    ∃ fewer, readArguments (front ++ back) = .ok fewer ∧
      runUnhindered arguments environment = runUnhindered (front ++ back) environment

/-- Diagnostics change no answer, and keep to the second stream. -/
theorem diagnostics_change_no_answer (accepted : readArguments arguments = .ok options)
    (environment : Environment Bytes) : Undisturbed arguments options environment := by
  have whole := runUnhindered_eq accepted environment
  constructor
  case answer => exact printsAnswer_of_ok accepted environment
  case answerAgain =>
    intro others otherOptions elsewhere read same
    rw [whole, runUnhindered_eq read, selectFor_congr same]
    exact ⟨rfl, rfl⟩
  case log =>
    refine ⟨fun event among same => ?_, fun unexplained => ?_⟩
    · have hit : event.isHit = true := by
        rw [Event.isHit, same]
        rfl
      exact absurd (isHit_of_mem_selectFor environment event among) (ne_false_of_eq_true hit)
    · rw [whole, unexplained]
      exact List.append_nil _
  case explanation =>
    rintro front back rfl
    obtain ⟨explains, remaining⟩ := given_leave_out_explain accepted
    have read := readArguments_leave_out accepted
    rw [remaining] at read
    refine ⟨_, _, read, rfl, act_start_askShared_selection environment, ?_⟩
    rw [whole, runUnhindered_eq read, report_explained, explains]
    exact congrArg (· ++ explained _ true) (List.append_nil _).symm
  case filtered =>
    rintro filter held front switch back spelled rfl
    have read := readArguments_leave_out accepted
    refine ⟨_, read, ?_⟩
    have apart : "--explain" ≠ switch := by
      rcases spelled with rfl | rfl <;> decide
    obtain ⟨-, rfl⟩ := readArguments_eq_ok_iff.mp accepted
    rw [whole, runUnhindered_eq read, explain_given_leave_out apart,
      logLines_congr ((logFilter_of_filterOf? held _).trans (logFilter_of_filterOf? held _).symm)]

theorem diagnostics_change_no_answer_under_filter :
    ∃ environment, (filterOf? environment).isSome = true ∧
      readArguments ["-v", "--explain"] = .ok ⟨true, true⟩ ∧
      Undisturbed ["-v", "--explain"] ⟨true, true⟩ environment :=
  ⟨.ofList [(filterVariable, Utf8.encode "trace"), ("CHPL_TASKS", [0x66, 0xFF])],
    by decide +kernel, by decide, diagnostics_change_no_answer (by decide) _⟩

end Tasking.Command
