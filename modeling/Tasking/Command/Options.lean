/-
# Command-line options

Arguments are read from left to right, and the first one that asks for help or for the
version, or that cannot be understood, ends the reading. Two dashes end the switches, and
nothing may follow them. A switch with a value is refused before it is asked whether it
could be repeated.
-/

import Tasking.Text.Terminal

namespace Tasking.Command

inductive Switch where
  | explain
  | verbose
  | help
  | version
  deriving DecidableEq, Repr

namespace Switch

def all : List Switch := [.explain, .verbose, .help, .version]

def longName : Switch → List Char
  | .explain => ['e', 'x', 'p', 'l', 'a', 'i', 'n']
  | .verbose => ['v', 'e', 'r', 'b', 'o', 's', 'e']
  | .help => ['h', 'e', 'l', 'p']
  | .version => ['v', 'e', 'r', 's', 'i', 'o', 'n']

def letter? : Switch → Option Char
  | .explain => none
  | .verbose => some 'v'
  | .help => some 'h'
  | .version => some 'V'

def ofLongName? (name : List Char) : Option Switch :=
  all.find? (fun switch => switch.longName == name)

def ofLetter? (letter : Char) : Option Switch :=
  all.find? (fun switch => switch.letter? == some letter)

end Switch

inductive UsageError where
  | unexpected (argument : List Char)
  | repeated (switch : Switch)
  | valueGiven (switch : Switch) (value : List Char)
  deriving DecidableEq, Repr

/-- Arguments are told as a terminal would show them. -/
def UsageError.message : UsageError → String
  | .unexpected argument =>
      "unexpected argument '" ++ String.ofList (Terminal.plain argument) ++ "' found"
  | .repeated switch =>
      "the argument '--" ++ String.ofList switch.longName ++ "' cannot be used multiple times"
  | .valueGiven switch value =>
      "unexpected value '" ++ String.ofList (Terminal.plain value) ++ "' for '--"
        ++ String.ofList switch.longName ++ "' found; no more were expected"

inductive Stop where
  | help
  | version
  | usage (error : UsageError)
  deriving DecidableEq, Repr

structure Options where
  explain : Bool := false
  verbose : Bool := false
  deriving DecidableEq, Repr

namespace Options

def turnOn (options : Options) : Switch → Except Stop Options
  | .explain =>
      if options.explain then .error (.usage (.repeated .explain))
      else .ok { options with explain := true }
  | .verbose =>
      if options.verbose then .error (.usage (.repeated .verbose))
      else .ok { options with verbose := true }
  | .help => .error .help
  | .version => .error .version

def readLong (options : Options) (text : List Char) : Except Stop Options :=
  let name := text.takeWhile (fun letter => letter != '=')
  match Switch.ofLongName? name, text.dropWhile (fun letter => letter != '=') with
  | none, _ => .error (.usage (.unexpected ('-' :: '-' :: name)))
  | some switch, [] => options.turnOn switch
  | some switch, _ :: value => .error (.usage (.valueGiven switch value))

/-- Reads the letters behind one dash, one by one. -/
def readLetters (options : Options) : List Char → Except Stop Options
  | [] => .ok options
  | letter :: rest =>
      match Switch.ofLetter? letter with
      | none => .error (.usage (.unexpected ['-', letter]))
      | some switch =>
          match options.turnOn switch with
          | .error stop => .error stop
          | .ok options => options.readLetters rest

/-- Reads one argument that does not end the switches. -/
def readArgument (options : Options) : List Char → Except Stop Options
  | '-' :: '-' :: text => options.readLong text
  | '-' :: letter :: rest => options.readLetters (letter :: rest)
  | argument => .error (.usage (.unexpected argument))

def readAll (options : Options) : List (List Char) → Except Stop Options
  | [] => .ok options
  | argument :: rest =>
      if argument = ['-', '-'] then
        match rest with
        | [] => .ok options
        | extra :: _ => .error (.usage (.unexpected extra))
      else
        match options.readArgument argument with
        | .error stop => .error stop
        | .ok options => options.readAll rest

end Options

def readArguments (arguments : List String) : Except Stop Options :=
  Options.readAll {} (arguments.map String.toList)

end Tasking.Command
