/-
# The command

The identifier goes to one stream and everything else to another: the log as far as the
filter lets it through, then the explanation, and last a complaint if something could not
be written. The streams are given back with what they took.
-/

import Tasking.Command.Options
import Tasking.Log.Filter
import Tasking.RawSession
import Tasking.Report

namespace Tasking.Command

/-- An entry without an equals sign, or with a name that is no text, holds no variable. -/
def variableOfEntry? (entry : Bytes) : Option (String × Bytes) :=
  match entry.dropWhile (fun byte => byte != equalsSign) with
  | [] => none
  | _ :: value =>
      (Utf8.decode? (entry.takeWhile (fun byte => byte != equalsSign))).map
        (fun name => (name, value))

/-- A block of entries that each end with a zero byte. Where a name occurs twice, the first entry
counts. -/
def environmentOfBlock (block : Bytes) : Environment Bytes :=
  .ofList ((block.splitOn 0).filterMap variableOfEntry?).reverse

def helpText : String :=
  String.join
    ["Print the CHPL_TASKS setting for the current target\n",
      "\n",
      "Usage: chpl-tasks [OPTIONS]\n",
      "\n",
      "Options:\n",
      "      --explain  Explain the selection on stderr\n",
      "  -v, --verbose  Debug logging on stderr\n",
      "  -h, --help     Print help\n",
      "  -V, --version  Print version\n"]

def versionText : String := "chpl-tasks 0.1.0\n"

def filterVariable : String := "RUST_LOG"

def succeeded : Nat := 0

def failed : Nat := 1

def misused : Nat := 2

/-- The exit code of a command that was aborted. -/
def aborted : Nat := 101

def defaultFilter (options : Options) : Log.Filter :=
  .uniform (Log.amountThrough (if options.verbose then .debug else .warn))

/-- A filter that the environment gives replaces the default if it can be read; bytes that are no
text cannot be. -/
def logFilter (options : Options) (environment : Environment Bytes) : Log.Filter :=
  (((environment.get? filterVariable).bind Utf8.decode?).bind Log.Filter.read?).getD
    (defaultFilter options)

def complaint (failure : ReportFailure) : String :=
  "Error: " ++ failure.fault.message ++ "\n\nCaused by:\n    " ++ failure.cause ++ "\n"

/-- The first line of a text, without the carriage return that belongs to the line end. -/
def firstLine : List Char → List Char
  | [] => []
  | '\n' :: _ => []
  | '\r' :: '\n' :: _ => []
  | letter :: rest => letter :: firstLine rest

/-- An argument that is shown in a refusal may hold line ends of its own. -/
def refusalLine (error : UsageError) : String :=
  String.ofList (firstLine ("error: " ++ error.message).toList)

structure Completion where
  code : Nat
  streams : Streams
  deriving DecidableEq, Repr

def selectFor (environment : Environment Bytes) : Selection × List Event :=
  let outcome := RawSession.freshSelector.consult .unknown environment.byteSource
  (outcome.answer,
    outcome.trail.filterMap Observation.event? ++ [outcome.answer.announcement])

/-- Reports a selection, and complains if that fails. -/
def conclude (selection : Selection) (explain : Bool) (streams : Streams) : Completion :=
  match selection.report explain streams with
  | (streams, none) => ⟨succeeded, streams⟩
  | (streams, some failure) =>
      ⟨failed, { streams with diag := streams.diag.writeTextIfPossible (complaint failure) }⟩

/-- Selects, logs and prints. A log line that cannot be written aborts the run, for there is
nowhere left to complain. -/
def perform (options : Options) (environment : Environment Bytes) (streams : Streams) :
    Completion :=
  let (selection, events) := selectFor environment
  match streams.diag.writeTexts (Log.lines (logFilter options environment) events) with
  | (diag, some _) => ⟨aborted, { streams with diag := diag }⟩
  | (diag, none) => conclude selection options.explain { streams with diag := diag }

/-- Ends a run whose arguments were not read to the end. -/
def finish (stop : Stop) (streams : Streams) : Completion :=
  match stop with
  | .help => ⟨succeeded, { streams with out := streams.out.writeTextIfPossible helpText }⟩
  | .version => ⟨succeeded, { streams with out := streams.out.writeTextIfPossible versionText }⟩
  | .usage error =>
      ⟨misused, { streams with diag := streams.diag.writeTextIfPossible (refusalLine error) }⟩

def run (arguments : List String) (environment : Environment Bytes) (streams : Streams) :
    Completion :=
  match readArguments arguments with
  | .ok options => perform options environment streams
  | .error stop => finish stop streams

end Tasking.Command
