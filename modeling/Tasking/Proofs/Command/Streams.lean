/-
# Streams that work and streams that refuse

A stream of a process either takes all that is written to it or refuses every write, and
goes on as it began. So what becomes of it is told by what was written to it: `after` is
the stream behind that many bytes. A run that selects and prints is worked out here for
every pair of such streams, as far as its two rules go: the log comes first, and the
report ends at the first write that is refused.
-/

import Tasking.Command.Run
import Tasking.Proofs.Report.Limits
import Tasking.Proofs.Text.Decoding

namespace Tasking

namespace Utf8

theorem encode_eq_nil_iff {text : String} : encode text = [] ↔ text = "" := by
  rw [encode, List.flatMap_eq_nil_iff]
  constructor
  · intro nothing
    apply String.toList_eq_nil_iff.mp
    apply List.eq_nil_iff_forall_not_mem.mpr
    intro letter among
    have width := congrArg List.length (nothing letter among)
    rw [String.length_utf8EncodeChar] at width
    exact Nat.ne_of_gt letter.utf8Size_pos width
  · rintro rfl letter among
    cases among

/-- The bytes of several texts, one behind the other. -/
def encodeAll (texts : List String) : Bytes :=
  texts.flatMap encode

end Utf8

/-- How a stream of a process stands. -/
inductive Health where
  /-- It takes all that is written to it. -/
  | works
  /-- It refuses every write, and says why. -/
  | refuses (cause : String)

namespace Health

/-- The stream behind these bytes. -/
def after (health : Health) (bytes : Bytes) : Sink :=
  match health with
  | .works => { taken := bytes }
  | .refuses cause => .refusing cause

/-- The stream before anything was written to it. -/
def stream (health : Health) : Sink := health.after []

variable (bytes : Bytes)

theorem writeText_works (text : String) :
    (works.after bytes).writeText text = (works.after (bytes ++ Utf8.encode text), none) :=
  Sink.writeAll_of_unlimited rfl _

theorem writeText_refuses (cause : String) {text : String} (something : text ≠ "") :
    ((refuses cause).after bytes).writeText text = ((refuses cause).after bytes, some cause) :=
  Sink.writeAll_of_full rfl rfl (mt Utf8.encode_eq_nil_iff.mp something)

/-- A text that is written if that is possible leaves the stream behind it. -/
theorem writeTextIfPossible_after (health : Health) (text : String) :
    (health.after bytes).writeTextIfPossible text = health.after (bytes ++ Utf8.encode text) := by
  cases health with
  | works => exact congrArg Prod.fst (writeText_works bytes text)
  | refuses cause =>
      by_cases something : text = ""
      · rw [Sink.writeTextIfPossible, Sink.writeText, Utf8.encode_eq_nil_iff.mpr something,
          Sink.writeAll]
        rfl
      · exact congrArg Prod.fst (writeText_refuses bytes cause something)

theorem foldl_writeTextIfPossible (health : Health) (texts : List String) :
    texts.foldl Sink.writeTextIfPossible (health.after bytes) =
      health.after (bytes ++ Utf8.encodeAll texts) := by
  induction texts generalizing bytes with
  | nil => rw [List.foldl_nil, Utf8.encodeAll, List.flatMap_nil, List.append_nil]
  | cons text rest ih =>
      rw [List.foldl_cons, writeTextIfPossible_after, ih, List.append_assoc]
      rfl

theorem writeTexts_works (texts : List String) :
    (works.after bytes).writeTexts texts = (works.after (bytes ++ Utf8.encodeAll texts), none) := by
  rw [Sink.writeTexts_eq]
  exact Sink.writeAll_of_unlimited rfl (Utf8.encodeAll texts)

theorem writeTexts_refuses (cause : String) {text : String} (something : text ≠ "")
    (rest : List String) :
    ((refuses cause).after bytes).writeTexts (text :: rest) =
      ((refuses cause).after bytes, some cause) := by
  rw [Sink.writeTexts, writeText_refuses bytes cause something]

end Health

/-- The bytes of a text are read as that text. -/
theorem Environment.byteSource_insert_tasks (elsewhere : Environment Bytes) (text : String) :
    (elsewhere.insert "CHPL_TASKS" (Utf8.encode text)).byteSource .tasks = some text := by
  have found : (elsewhere.insert "CHPL_TASKS" (Utf8.encode text)).get? Setting.tasks.name =
      some (Utf8.encode text) :=
    (elsewhere.get?_insert "CHPL_TASKS" "CHPL_TASKS" (Utf8.encode text)).trans (if_pos rfl)
  rw [byteSource, found, Option.map_some, Utf8.decodeLossy_encode]

theorem Selection.line_ne_empty (selection : Selection) : selection.line ≠ "" := by
  simp [Selection.line]

theorem Log.line_ne_empty (event : Event) : Log.line event ≠ "" := by
  simp [Log.line]

namespace Command

/-- What an explanation adds to the second stream, if there is one. -/
def explained (selection : Selection) (explain : Bool) : Bytes :=
  if explain then Utf8.encodeAll selection.explanation else []

section Conclude

variable (selection : Selection) (before said : Bytes)

theorem writeTexts_explanation {diag : Health} {explain : Bool}
    (possible : explain = false ∨ diag = .works) :
    (diag.after said).writeTexts (if explain then selection.explanation else []) =
      (diag.after (said ++ explained selection explain), none) := by
  rw [explained]
  cases explain with
  | false => exact congrArg (fun bytes => (diag.after bytes, none)) (List.append_nil said).symm
  | true =>
      obtain rfl := possible.resolve_left Bool.false_ne_true.symm
      exact Health.writeTexts_works said selection.explanation

/-- Where the explanation is refused, nothing else is written. -/
theorem conclude_of_explanation_refused (out : Health) (cause : String) :
    conclude selection true ⟨out.after before, (Health.refuses cause).after said⟩ =
      ⟨failed, out.after before, (Health.refuses cause).after said⟩ := by
  have first : "CHPL_TASKS=" ++ selection.choice.name ++ " (" ++ selection.rule.reason ++ ")\n" ≠
      "" := by
    simp
  have refused := Health.writeTexts_refuses said cause first
    (selection.facts.map (fun facts => "  " ++ facts.text ++ "\n")).toList
  rw [conclude, Selection.report, if_pos rfl, Selection.explanation, refused]
  exact congrArg (fun diag => Completion.mk failed ⟨out.after before, diag⟩)
    (Health.writeTextIfPossible_after said (.refuses cause) _)

/-- Where nothing is refused, the explanation and the identifier are written. -/
theorem report_of_works {diag : Health} {explain : Bool}
    (possible : explain = false ∨ diag = .works) :
    selection.report explain ⟨Health.works.after before, diag.after said⟩ =
      (⟨Health.works.after (before ++ Utf8.encode selection.line),
        diag.after (said ++ explained selection explain)⟩, none) := by
  rw [Selection.report, writeTexts_explanation selection said possible]
  simp only [Health.writeText_works]
  rfl

theorem conclude_of_works {diag : Health} {explain : Bool}
    (possible : explain = false ∨ diag = .works) :
    conclude selection explain ⟨Health.works.after before, diag.after said⟩ =
      ⟨succeeded, Health.works.after (before ++ Utf8.encode selection.line),
        diag.after (said ++ explained selection explain)⟩ := by
  rw [conclude, report_of_works selection before said possible]

/-- Where only the identifier is refused, there is a complaint about that. -/
theorem conclude_of_identifier_refused {diag : Health} {explain : Bool}
    (possible : explain = false ∨ diag = .works) (cause : String) :
    conclude selection explain ⟨(Health.refuses cause).after before, diag.after said⟩ =
      ⟨failed, (Health.refuses cause).after before,
        diag.after (said ++ explained selection explain ++
          Utf8.encode (complaint ⟨.identifier, cause⟩))⟩ := by
  rw [conclude, Selection.report, writeTexts_explanation selection said possible]
  simp only [Health.writeText_refuses before cause selection.line_ne_empty,
    Health.writeTextIfPossible_after]

end Conclude

section Perform

variable (options : Options) (environment : Environment Bytes)

/-- The log of a run that selects and prints, line by line. -/
def logLines : List String :=
  Log.lines (logFilter options environment) (selectFor environment).2

theorem perform_eq (streams : Streams) :
    perform options environment streams =
      match streams.diag.writeTexts (logLines options environment) with
      | (diag, some _) => ⟨aborted, { streams with diag := diag }⟩
      | (diag, none) =>
          conclude (selectFor environment).1 options.explain { streams with diag := diag } := rfl

variable {options : Options} {environment : Environment Bytes}

/-- A run that loses no line of its log goes on to its report. -/
theorem perform_of_unharmed {diag : Health}
    (unharmed : diag = .works ∨ logLines options environment = []) (out : Health) :
    perform options environment ⟨out.stream, diag.stream⟩ =
      conclude (selectFor environment).1 options.explain
        ⟨out.stream, diag.after (Utf8.encodeAll (logLines options environment))⟩ := by
  have written : diag.stream.writeTexts (logLines options environment) =
      (diag.after (Utf8.encodeAll (logLines options environment)), none) := by
    rcases unharmed with rfl | nothing
    · exact Health.writeTexts_works [] _
    · rw [nothing]
      rfl
  rw [perform_eq, written]

/-- A line of the log that is lost ends the run before anything is printed. -/
theorem perform_of_lost (lost : logLines options environment ≠ []) (out : Health)
    (cause : String) :
    perform options environment ⟨out.stream, (Health.refuses cause).stream⟩ =
      ⟨aborted, out.stream, (Health.refuses cause).stream⟩ := by
  have refused : (Health.refuses cause).stream.writeTexts (logLines options environment) =
      ((Health.refuses cause).stream, some cause) := by
    rw [logLines, Log.lines] at lost ⊢
    cases shown : (selectFor environment).2.filter (logFilter options environment).shows with
    | nil => exact absurd (congrArg (List.map Log.line) shown) lost
    | cons event rest =>
        exact Health.writeTexts_refuses [] cause (Log.line_ne_empty event) (rest.map Log.line)
  rw [perform_eq, refused]

end Perform

section Run

variable {arguments : List String} {options : Options}

theorem run_of_ok (read : readArguments arguments = .ok options)
    (environment : Environment Bytes) (streams : Streams) :
    run arguments environment streams = perform options environment streams := by
  rw [run, read]

theorem run_of_error {stop : Stop} (stopped : readArguments arguments = .error stop)
    (environment : Environment Bytes) (streams : Streams) :
    run arguments environment streams = finish stop streams := by
  rw [run, stopped]

theorem run_congr {first second : List String}
    (same : readArguments first = readArguments second) : run first = run second := by
  funext environment streams
  rw [run, run, same]

/-- A run on streams that work. -/
def runUnhindered (arguments : List String) (environment : Environment Bytes) : Completion :=
  run arguments environment ⟨Health.works.stream, Health.works.stream⟩

/-- What each stream holds in the end. -/
theorem runUnhindered_eq (accepted : readArguments arguments = .ok options)
    (environment : Environment Bytes) :
    runUnhindered arguments environment =
      ⟨succeeded, Health.works.after (Utf8.encode (selectFor environment).1.line),
        Health.works.after (Utf8.encodeAll (logLines options environment) ++
          explained (selectFor environment).1 options.explain)⟩ := by
  rw [runUnhindered, run_of_ok accepted, perform_of_unharmed (Or.inl rfl)]
  exact conclude_of_works _ _ _ (Or.inr rfl)

/-- Every text but the empty one is selected in some environment. -/
theorem selectFor_insert {text : String} (filled : text ≠ "") (elsewhere : Environment Bytes) :
    (selectFor (elsewhere.insert "CHPL_TASKS" (Utf8.encode text))).1 = .ofOverride text :=
  Probe.value_select_of_present
    (present_eq_some_iff.mpr ⟨elsewhere.byteSource_insert_tasks text, filled⟩)

/-- What the shared selector answers is what a run selects. -/
theorem act_start_askShared_get (environment : Environment Bytes) :
    ((RawSession.start environment).act (.askShared .get)).answer =
      .answer (.text (selectFor environment).1.choice.name) := rfl

theorem act_start_askShared_selection (environment : Environment Bytes) :
    ((RawSession.start environment).act (.askShared .selection)).answer =
      .answer (.selection (selectFor environment).1) := rfl

/-- On streams that work a run succeeds, and prints what the shared selector answers, alone on
its line. -/
def PrintsAnswer (arguments : List String) (environment : Environment Bytes) : Prop :=
  ∃ identifier,
    ((RawSession.start environment).act (.askShared .get)).answer = .answer (.text identifier) ∧
      (runUnhindered arguments environment).code = 0 ∧
      (runUnhindered arguments environment).streams.out.taken = Utf8.encode (identifier ++ "\n")

theorem printsAnswer_of_ok (accepted : readArguments arguments = .ok options)
    (environment : Environment Bytes) : PrintsAnswer arguments environment := by
  refine ⟨_, act_start_askShared_get environment, ?_⟩
  rw [runUnhindered_eq accepted]
  exact ⟨rfl, rfl⟩

/-- The answer is the user's own text where there is one. -/
theorem PrintsAnswer.taken_insert {text : String} {elsewhere : Environment Bytes}
    (prints : PrintsAnswer arguments (elsewhere.insert "CHPL_TASKS" (Utf8.encode text)))
    (filled : text ≠ "") :
    (runUnhindered arguments
      (elsewhere.insert "CHPL_TASKS" (Utf8.encode text))).streams.out.taken =
        Utf8.encode (text ++ "\n") := by
  obtain ⟨identifier, answered, -, printed⟩ := prints
  rw [act_start_askShared_get, selectFor_insert filled] at answered
  cases answered
  exact printed

end Run

end Command

end Tasking
