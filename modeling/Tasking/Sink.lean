/-
# Byte sinks

Once a sink is full, it refuses in one of two ways: it fails with a cause, or it accepts
nothing and says no more. A sink may also be unable to flush, which is a failure of its
own.
-/

import Tasking.Text.Utf8

namespace Tasking

inductive Refusal where
  | fails (cause : String)
  | acceptsNothing
  deriving DecidableEq, Repr

structure Sink where
  taken : Bytes := []
  /-- How many more bytes there is room for, if there is a limit. -/
  room : Option Nat := none
  refusal : Refusal := .acceptsNothing
  flushFault : Option String := none
  deriving DecidableEq, Repr

namespace Sink

def unlimited : Sink := {}

def refusing (cause : String) : Sink where
  room := some 0
  refusal := .fails cause

/-- The cause reported when a sink accepts nothing and says no more. -/
def stalled : String := "failed to write whole buffer"

/-- How many of the bytes, counted from the front, the sink accepts, or why it fails. -/
def offer (sink : Sink) (bytes : Bytes) : Except String Nat :=
  match sink.room, sink.refusal with
  | none, _ => .ok bytes.length
  | some 0, .fails cause => .error cause
  | some room, _ => .ok (min room bytes.length)

def take (sink : Sink) (count : Nat) (bytes : Bytes) : Sink :=
  { sink with
    taken := sink.taken ++ bytes.take count
    room := sink.room.map (fun room => room - count) }

/-- Offers bytes until all of them are taken or the sink refuses. -/
def writeAll (sink : Sink) (bytes : Bytes) : Sink × Option String :=
  match bytes with
  | [] => (sink, none)
  | byte :: rest =>
      match sink.offer (byte :: rest) with
      | .error cause => (sink, some cause)
      | .ok 0 => (sink, some stalled)
      | .ok (count + 1) => (sink.take (count + 1) (byte :: rest)).writeAll (rest.drop count)
termination_by bytes.length
decreasing_by
  simp only [List.length_drop, List.length_cons]
  omega

theorem writeAll_of_unlimited {sink : Sink} (noLimit : sink.room = none) (bytes : Bytes) :
    sink.writeAll bytes = ({ sink with taken := sink.taken ++ bytes }, none) := by
  cases bytes with
  | nil => simp [writeAll]
  | cons byte rest => simp [writeAll, offer, take, noLimit]

theorem writeAll_of_full {sink : Sink} {cause : String} (full : sink.room = some 0)
    (failing : sink.refusal = .fails cause) {bytes : Bytes} (something : bytes ≠ []) :
    sink.writeAll bytes = (sink, some cause) := by
  cases bytes with
  | nil => contradiction
  | cons byte rest => simp [writeAll, offer, full, failing]

def writeText (sink : Sink) (text : String) : Sink × Option String :=
  sink.writeAll (Utf8.encode text)

/-- Writes texts in order, up to the first refusal. -/
def writeTexts (sink : Sink) : List String → Sink × Option String
  | [] => (sink, none)
  | text :: rest =>
      match sink.writeText text with
      | (written, none) => written.writeTexts rest
      | (written, some cause) => (written, some cause)

/-- Writes a text and does not mind a refusal. -/
def writeTextIfPossible (sink : Sink) (text : String) : Sink :=
  (sink.writeText text).1

end Sink

end Tasking
