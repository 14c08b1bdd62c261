/-
# The program

Whether a stream can be written to is only known after trying, so the run is repeated with
a sink that refuses in place of a stream that did.
-/

import Tasking.Command.Run

namespace Tasking.Command

def causeOf : IO.Error → String
  | .resourceExhausted _ code details => details ++ " (os error " ++ toString code ++ ")"
  | problem => toString problem

/-- Writes bytes to a stream, and gives the sink that behaves as the stream did. -/
def deliver (stream : IO.FS.Stream) (bytes : Bytes) : IO Sink := do
  try
    stream.write (ByteArray.mk bytes.toArray)
    stream.flush
    return .unlimited
  catch problem =>
    return .refusing (causeOf problem)

/-- Runs the command on the streams of the process and gives the exit code. What is
said on the error stream comes before the output is tried. -/
def runOnStreams (arguments : List String) (environment : Environment Bytes) : IO Nat := do
  let errors ← IO.getStderr
  let hoped := run arguments environment ⟨.unlimited, .unlimited⟩
  let diag ← deliver errors hoped.streams.diag.taken
  let planned := run arguments environment ⟨.unlimited, diag⟩
  let out ← deliver (← IO.getStdout) planned.streams.out.taken
  let final := run arguments environment ⟨out, diag⟩
  let said := planned.streams.diag.taken.length
  let _ ← deliver errors (final.streams.diag.taken.drop said)
  return final.code

end Tasking.Command

def main (arguments : List String) : IO UInt32 := do
  let block ← IO.FS.readBinFile "/proc/self/environ"
  let environment := Tasking.Command.environmentOfBlock block.toList
  return UInt32.ofNat (← Tasking.Command.runOnStreams arguments environment)
