/-
# Directives of log filters

In full a directive is written origin[span{field=value}]=amount, and nearly everything in
it can be left out. The name of a span, or a value for a field, makes it one about
stretches of work; no work is logged as a stretch here, so such a directive shows nothing
and hides nothing.

Blanks around a directive are passed over while its parts are told apart. The parts are
then taken from the text with its blanks, at the places they had without them, so blanks
in front move every part, and blanks behind belong to the last part.
-/

import Tasking.Event
import Tasking.Log.Pattern
import Tasking.Text.Basic

namespace Tasking.Log

open Tasking.Text (isAlphanumeric trimmed width behind? slice?)

/-- How many of the severities are shown, counted from the gravest. -/
abbrev Amount := Nat

def amountThrough : Severity → Amount
  | .error => 1
  | .warn => 2
  | .info => 3
  | .debug => 4
  | .trace => 5

def everything : Amount := amountThrough .trace

/-- In small letters, for they are read in letters of any case. -/
def amountNames : List (String × Amount) :=
  [("off", 0), ("error", 1), ("warn", 2), ("info", 3), ("debug", 4), ("trace", 5)]

/-- The number that decimal digits spell, with the number `before` in front of them. -/
def digitsValue (before : Nat) : List Char → Option Nat
  | [] => some before
  | digit :: rest =>
      if digit.isDigit then digitsValue (before * 10 + (digit.toNat - '0'.toNat)) rest else none

/-- An amount written as a number: a plus sign and zeros may stand in front. -/
def numericAmount? (text : List Char) : Option Amount :=
  let digits := match text with
    | '+' :: rest => rest
    | _ => text
  if digits.isEmpty then none
  else (digitsValue 0 digits).filter (fun amount => decide (amount ≤ everything))

def amount? (text : List Char) : Option Amount :=
  match amountNames.lookup (String.ofList (text.map Char.toLower)) with
  | some amount => some amount
  | none => numericAmount? text

/-- The amount behind an equals sign, where nothing stands for everything. -/
def givenAmount? (text : List Char) : Option Amount :=
  if text.isEmpty then some everything else amount? text

/-- What may stand behind the digits of a number: nothing, or a power of ten. -/
def isPower : List Char → Bool
  | [] => true
  | mark :: rest =>
      let digits := match rest with
        | '+' :: digits => digits
        | '-' :: digits => digits
        | digits => digits
      (mark == 'e' || mark == 'E') && !digits.isEmpty && digits.all Char.isDigit

/-- A number has a digit in front of its point or behind it, or it is one of the words for what no
digits can write. -/
def isUnsigned (text : List Char) : Bool :=
  let rest := text.dropWhile Char.isDigit
  let behind := match rest with
    | '.' :: fraction => fraction.dropWhile Char.isDigit
    | _ => rest
  let hasDigit := match text with
    | '.' :: digit :: _ => digit.isDigit
    | digit :: _ => digit.isDigit
    | [] => false
  hasDigit && isPower behind
    || ["inf", "infinity", "nan"].contains (String.ofList (text.map Char.toLower))

def isNumber : List Char → Bool
  | '+' :: text => isUnsigned text
  | '-' :: text => isUnsigned text
  | text => isUnsigned text

/-- Whether a text can be the value of a field: a number or a pattern. -/
def isValue (text : List Char) : Bool :=
  isNumber text || isPattern text

structure FieldTest where
  name : List Char
  value : Option (List Char) := none
  deriving DecidableEq, Repr

/-- What follows a second equals sign is not looked at. -/
def FieldTest.read? (text : List Char) : Option FieldTest :=
  if text.isEmpty then none
  else
    let name := text.takeWhile (fun letter => letter != '=')
    match text.dropWhile (fun letter => letter != '=') with
    | [] => some { name := name }
    | _ :: rest =>
        let value := rest.takeWhile (fun letter => letter != '=')
        if isValue value then some { name := name, value := some value } else none

structure Directive where
  origin : List Char := []
  span : Option (List Char) := none
  field : Option FieldTest := none
  amount : Amount
  deriving DecidableEq, Repr

namespace Directive

def canBegin (letter : Char) : Bool :=
  letter == '-' || letter == ':' || letter == '_' || isAlphanumeric letter

def beginsWell (text : List Char) : Bool :=
  match text with
  | [] => false
  | letter :: _ => letter == '[' || canBegin letter

/-- The part of the written text that lies where `part` lies behind `front`. -/
def place? (written front part : List Char) : Option (List Char) :=
  slice? (width front) (width part) written

/-- Reads the amount behind the bracket that ends at `front`, before what is left. -/
def amountBehind? (written front : List Char) : List Char → Option Amount
  | [] => some everything
  | '=' :: _ => (behind? (width (front ++ ['='])) written).bind givenAmount?
  | _ => none

def readField? (written origin : List Char) (span : Option (List Char)) (front inner : List Char) :
    Option Directive :=
  let field := inner.takeWhile (fun letter => letter != '\x7d')
  match inner.dropWhile (fun letter => letter != '\x7d') with
  | brace :: ']' :: rest => do
      let test ← (place? written front field).bind FieldTest.read?
      let amount ← amountBehind? written (front ++ field ++ [brace, ']']) rest
      return { origin := origin, span := span, field := some test, amount := amount }
  | _ => none

/-- Reads what stands in brackets, behind `named`. A name in front of a brace can be left out; empty
brackets hold an empty name. -/
def readBracket? (written named inner : List Char) : Option Directive := do
  let origin ← place? written [] named
  let front := named ++ ['[']
  let isEnd (letter : Char) : Bool := letter == ']' || letter == '\x7b'
  let name := inner.takeWhile (fun letter => !isEnd letter)
  let span ← place? written front name
  match inner.dropWhile (fun letter => !isEnd letter) with
  | [] => none
  | ']' :: rest =>
      let amount ← amountBehind? written (front ++ name ++ [']']) rest
      return { origin := origin, span := some span, amount := amount }
  | brace :: rest =>
      readField? written origin (if span.isEmpty then none else some span)
        (front ++ name ++ [brace]) rest

/-- Without an equals sign and brackets a directive is an amount, or else an origin of which
everything is shown. -/
def read? (written : List Char) : Option Directive :=
  let text := trimmed written
  let isMark (letter : Char) : Bool := letter == '=' || letter == '['
  let front := text.takeWhile (fun letter => !isMark letter)
  if !beginsWell text then none
  else
    match text.dropWhile (fun letter => !isMark letter) with
    | [] =>
        match amount? written with
        | some amount => some { amount := amount }
        | none => some { origin := written, amount := everything }
    | '=' :: _ => do
        let origin ← place? written [] front
        let amount ← (behind? (width (front ++ ['='])) written).bind givenAmount?
        return { origin := origin, amount := amount }
    | _ :: inner => readBracket? written front inner

def concerns (directive : Directive) (event : Event) : Bool :=
  directive.span.isNone && directive.origin.isPrefixOf event.origin.toList &&
    match directive.field with
    | none => true
    | some test =>
        test.value.isNone && (event.fieldNames.map String.toList).contains test.name

/-- Whether a rule stays in force beside a later one. -/
def outranks (earlier later : Directive) : Bool :=
  if earlier.origin.length != later.origin.length then
    decide (later.origin.length < earlier.origin.length)
  else
    match earlier.field, later.field with
    | none, _ => false
    | some _, none => true
    | some asked, some test => decide (test.name < asked.name)

end Directive

end Tasking.Log
