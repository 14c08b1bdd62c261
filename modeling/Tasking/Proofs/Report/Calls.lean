/-
# A report, call by call

A report reaches its sinks as a sequence of calls: pieces of the explanation, pieces of the
identifier's line, and one flush. Nobody promises where the pieces end. A piece may be
empty, or end inside a character, and the room of a sink may end anywhere.

Here the calls are made one by one, up to the first that fails. `Cut` is any division of
some bytes into pieces. However a report is cut, the whole of it is one `writeAll` for each
sink, and so it can leave only one thing behind.
-/

import Tasking.Proofs.Report.Limits
import Tasking.Report

namespace Tasking

/-- The two sinks of a report, by what goes there. -/
inductive Channel where
  | out
  | diag
  deriving DecidableEq, Repr

/-- What could not be done, if a write to this sink fails. -/
def Channel.fault : Channel → ReportFault
  | .out => .identifier
  | .diag => .explanation

namespace Streams

def sink (streams : Streams) : Channel → Sink
  | .out => streams.out
  | .diag => streams.diag

def put (streams : Streams) (channel : Channel) (sink : Sink) : Streams :=
  match channel with
  | .out => { streams with out := sink }
  | .diag => { streams with diag := sink }

@[simp]
theorem put_sink (streams : Streams) (channel : Channel) :
    streams.put channel (streams.sink channel) = streams := by
  cases channel <;> rfl

@[simp]
theorem sink_put (streams : Streams) (channel : Channel) (sink : Sink) :
    (streams.put channel sink).sink channel = sink := by
  cases channel <;> rfl

@[simp]
theorem put_put (streams : Streams) (channel : Channel) (first second : Sink) :
    (streams.put channel first).put channel second = streams.put channel second := by
  cases channel <;> rfl

end Streams

/-- One call on a sink. Only the sink of the identifier is ever flushed. -/
inductive SinkCall where
  | write (channel : Channel) (piece : Bytes)
  | flush

/-- How far some calls came. -/
structure CallCourse where
  streams : Streams
  /-- How often a flush was called for, whether it succeeded or not. -/
  flushes : Nat
  failure : Option ReportFailure
  deriving DecidableEq, Repr

namespace Streams

def call (streams : Streams) : SinkCall → CallCourse
  | .write channel piece =>
      match (streams.sink channel).writeAll piece with
      | (sink, cause) => ⟨streams.put channel sink, 0, cause.map (⟨channel.fault, ·⟩)⟩
  | .flush => ⟨streams, 1, streams.out.flushFault.map (⟨.flush, ·⟩)⟩

/-- Makes the calls in order, up to the first that fails. -/
def callAll (streams : Streams) : List SinkCall → CallCourse
  | [] => ⟨streams, 0, none⟩
  | call :: rest =>
      match streams.call call with
      | ⟨reached, flushes, none⟩ =>
          let later := reached.callAll rest
          { later with flushes := flushes + later.flushes }
      | stopped => stopped

end Streams

/-- Some bytes, cut into pieces. -/
structure Cut (whole : Bytes) where
  pieces : List Bytes
  joined : pieces.flatten = whole

/-- The bytes in one piece. -/
def Cut.uncut (whole : Bytes) : Cut whole :=
  ⟨[whole], List.flatten_singleton⟩

/-- The calls that write the pieces to one sink. -/
def Cut.writes {whole : Bytes} (cut : Cut whole) (channel : Channel) : List SinkCall :=
  cut.pieces.map (.write channel)

namespace Streams

theorem callAll_map_write (streams : Streams) (channel : Channel) (pieces : List Bytes)
    (rest : List SinkCall) :
    streams.callAll (pieces.map (.write channel) ++ rest) =
      match (streams.sink channel).writeAll pieces.flatten with
      | (sink, none) => (streams.put channel sink).callAll rest
      | (sink, some cause) => ⟨streams.put channel sink, 0, some ⟨channel.fault, cause⟩⟩ := by
  induction pieces generalizing streams with
  | nil =>
      rw [List.flatten_nil, Sink.writeAll]
      show streams.callAll rest = (streams.put channel (streams.sink channel)).callAll rest
      rw [put_sink]
  | cons piece later ih =>
      rw [List.flatten_cons, Sink.writeAll_append, List.map_cons, List.cons_append, callAll, call]
      cases (streams.sink channel).writeAll piece with
      | mk written refused =>
          cases refused with
          | some cause => rfl
          | none =>
              have goesOn := ih (streams.put channel written)
              simp only [sink_put, put_put] at goesOn
              simp only [Option.map_none, goesOn, Nat.zero_add]

theorem callAll_writes {whole : Bytes} (streams : Streams) (channel : Channel) (cut : Cut whole)
    (rest : List SinkCall) :
    streams.callAll (cut.writes channel ++ rest) =
      match (streams.sink channel).writeAll whole with
      | (sink, none) => (streams.put channel sink).callAll rest
      | (sink, some cause) => ⟨streams.put channel sink, 0, some ⟨channel.fault, cause⟩⟩ := by
  rw [Cut.writes, callAll_map_write, cut.joined]

theorem callAll_flush (streams : Streams) :
    streams.callAll [.flush] = ⟨streams, 1, streams.out.flushFault.map (⟨.flush, ·⟩)⟩ := by
  rw [callAll, call]
  cases streams.out.flushFault with
  | none => rfl
  | some cause => rfl

end Streams

namespace Selection

/-- What a report says on the second sink, in bytes. -/
def said (selection : Selection) (explain : Bool) : Bytes :=
  if explain then
    Utf8.encode ("CHPL_TASKS=" ++ selection.choice.name ++ " (" ++ selection.rule.reason ++ ")\n" ++
      match selection.facts with
      | none => ""
      | some facts => "  " ++ facts.text ++ "\n")
  else []

/-- What a report prints on the first sink, in bytes. -/
def printed (selection : Selection) : Bytes :=
  Utf8.encode (selection.choice.name ++ "\n")

theorem said_eq (selection : Selection) (explain : Bool) :
    selection.said explain =
      (if explain then selection.explanation else []).flatMap Utf8.encode := by
  cases explain with
  | false => rfl
  | true =>
      rw [said, if_pos rfl, if_pos rfl, explanation, List.flatMap_cons, Utf8.encode_append]
      cases selection.facts with
      | none => rfl
      | some facts => exact congrArg _ (List.append_nil _).symm

/-- The calls of a report, for any way to cut what it writes. -/
def calls {selection : Selection} {explain : Bool} (said : Cut (selection.said explain))
    (printed : Cut selection.printed) : List SinkCall :=
  said.writes .diag ++ (printed.writes .out ++ [.flush])

end Selection

/-- How a report ends that has `said` to tell on the second sink and `printed` on the
first, where the sinks were as in `before`. -/
structure CallCourse.EndsExactly (course : CallCourse) (before : Streams) (said printed : Bytes) :
    Prop where
  diag_taken :
    course.streams.diag.taken = before.diag.taken ++ said.take (before.diag.share said)
  out_taken :
    course.streams.out.taken = before.out.taken ++
      if before.diag.share said < said.length then []
      else printed.take (before.out.share printed)
  flushes :
    course.flushes =
      if before.diag.share said < said.length ∨ before.out.share printed < printed.length then 0
      else 1
  failure :
    course.failure.map (fun failure => (failure.fault.message, failure.cause)) =
      if before.diag.share said < said.length then
        some ("Failed to write explanation", before.diag.cause)
      else if before.out.share printed < printed.length then
        some ("Failed to write CHPL_TASKS to stdout", before.out.cause)
      else before.out.flushFault.map (fun cause => ("Failed to flush stdout", cause))

/-- A report that ends without a failure leaves all that it has to tell. -/
theorem CallCourse.EndsExactly.taken_of_no_failure {course : CallCourse} {before : Streams}
    {said printed : Bytes} (ends : course.EndsExactly before said printed)
    (worked : course.failure = none) :
    course.streams.diag.taken = before.diag.taken ++ said ∧
      course.streams.out.taken = before.out.taken ++ printed := by
  obtain ⟨diag_taken, out_taken, -, failure⟩ := ends
  rw [worked, Option.map_none] at failure
  have allSaid : ¬ before.diag.share said < said.length := by
    intro unsaid
    rw [if_pos unsaid] at failure
    cases failure
  rw [if_neg allSaid] at failure out_taken
  have allPrinted : ¬ before.out.share printed < printed.length := by
    intro unprinted
    rw [if_pos unprinted] at failure
    cases failure
  rw [List.take_of_length_le (Nat.not_lt.mp allSaid)] at diag_taken
  rw [List.take_of_length_le (Nat.not_lt.mp allPrinted)] at out_taken
  exact ⟨diag_taken, out_taken⟩

namespace Selection

variable {selection : Selection} {explain : Bool} (said : Cut (selection.said explain))
  (printed : Cut selection.printed) (streams : Streams)

/-- However a report is cut, it is one write to each sink and then a flush. -/
theorem callAll_calls :
    streams.callAll (calls said printed) =
      match streams.diag.writeAll (selection.said explain) with
      | (diag, some cause) => ⟨{ streams with diag := diag }, 0, some ⟨.explanation, cause⟩⟩
      | (diag, none) =>
          match streams.out.writeAll selection.printed with
          | (out, some cause) => ⟨⟨out, diag⟩, 0, some ⟨.identifier, cause⟩⟩
          | (out, none) => ⟨⟨out, diag⟩, 1, out.flushFault.map (⟨.flush, ·⟩)⟩ := by
  rw [calls, Streams.callAll_writes, Streams.sink]
  cases streams.diag.writeAll (selection.said explain) with
  | mk diag unsaid =>
      cases unsaid with
      | some cause => rfl
      | none =>
          simp only [Streams.callAll_writes, Streams.callAll_flush, Streams.put, Streams.sink]
          cases streams.out.writeAll selection.printed with
          | mk out unprinted =>
              cases unprinted with
              | some cause => rfl
              | none => rfl

theorem report_eq_callAll :
    selection.report explain streams =
      ((streams.callAll (calls said printed)).streams,
        (streams.callAll (calls said printed)).failure) := by
  rw [callAll_calls, report, Sink.writeTexts_eq, ← said_eq]
  cases streams.diag.writeAll (selection.said explain) with
  | mk diag unsaid =>
      cases unsaid with
      | some cause => rfl
      | none =>
          have sameLine : Utf8.encode selection.line = selection.printed := rfl
          simp only [Sink.writeText, sameLine]
          cases streams.out.writeAll selection.printed with
          | mk out unprinted =>
              cases unprinted with
              | some cause => rfl
              | none => rfl

theorem callAll_calls_endsExactly :
    (streams.callAll (calls said printed)).EndsExactly streams (selection.said explain)
      selection.printed := by
  rw [callAll_calls]
  rcases Nat.lt_or_eq_of_le (streams.diag.share_le (selection.said explain)) with unsaid | told
  · rw [Sink.writeAll_of_refused unsaid]
    refine ⟨rfl, ?_, ?_, ?_⟩
    · rw [if_pos unsaid, List.append_nil]
    · rw [if_pos (Or.inl unsaid)]
    · rw [if_pos unsaid]
      rfl
  · have notUnsaid := Nat.not_lt.mpr (Nat.le_of_eq told.symm)
    rw [Sink.writeAll_of_taken told]
    rcases Nat.lt_or_eq_of_le (streams.out.share_le selection.printed) with unprinted | shown
    · rw [Sink.writeAll_of_refused unprinted]
      refine ⟨?_, ?_, ?_, ?_⟩
      · rw [told]
        rfl
      · rw [if_neg notUnsaid]
        rfl
      · rw [if_pos (Or.inr unprinted)]
      · rw [if_neg notUnsaid, if_pos unprinted]
        rfl
    · have notUnprinted := Nat.not_lt.mpr (Nat.le_of_eq shown.symm)
      rw [Sink.writeAll_of_taken shown]
      refine ⟨?_, ?_, ?_, ?_⟩
      · rw [told]
        rfl
      · rw [if_neg notUnsaid, shown]
        rfl
      · rw [if_neg (not_or.mpr ⟨notUnsaid, notUnprinted⟩)]
      · rw [if_neg notUnsaid, if_neg notUnprinted, Option.map_map]
        rfl

/-- A report that meets with no failure adds its two texts to the sinks in full. -/
theorem taken_of_report {streams : Streams} (worked : (selection.report explain streams).2 = none) :
    (selection.report explain streams).1.diag.taken =
        streams.diag.taken ++ selection.said explain ∧
      (selection.report explain streams).1.out.taken = streams.out.taken ++ selection.printed := by
  have uncut := report_eq_callAll (.uncut (selection.said explain)) (.uncut selection.printed)
    streams
  have ends := callAll_calls_endsExactly (.uncut (selection.said explain))
    (.uncut selection.printed) streams
  rw [uncut] at worked ⊢
  exact ends.taken_of_no_failure worked

/-- However a report is cut into writes, and wherever its sinks run full, it leaves behind
what its two texts and the room of the sinks say, and nothing else. It does no more than
the report that writes each line at once. -/
theorem report_ends_exactly (selection : Selection) (explain : Bool) (streams : Streams)
    (said : Cut (selection.said explain)) (printed : Cut selection.printed) :
    (streams.callAll (calls said printed)).EndsExactly streams (selection.said explain)
        selection.printed ∧
      selection.report explain streams =
        ((streams.callAll (calls said printed)).streams,
          (streams.callAll (calls said printed)).failure) :=
  ⟨callAll_calls_endsExactly said printed streams, report_eq_callAll said printed streams⟩

end Selection

end Tasking
