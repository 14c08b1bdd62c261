/-
# Signs of patterns

A sign is a character that stands for itself, or an escape. There is no table of kinds of
characters, so neither kinds nor the ends of words can be asked for while a pattern is
about characters.
-/

import Tasking.Log.Pattern.Mode

namespace Tasking.Log.Pattern

/-- What was read and the text behind it. -/
abbrev Read (α : Type) := Option (α × List Char)

theorem length_dropWhile_le (test : Char → Bool) (text : List Char) :
    (text.dropWhile test).length ≤ text.length :=
  (List.dropWhile_sublist test).length_le

def hexDigit? (letter : Char) : Option Nat :=
  let number := letter.toNat
  if letter.isDigit then some (number - '0'.toNat)
  else if 'a'.toNat ≤ number ∧ number ≤ 'f'.toNat then some (number - 'a'.toNat + 10)
  else if 'A'.toNat ≤ number ∧ number ≤ 'F'.toNat then some (number - 'A'.toNat + 10)
  else none

/-- Reads the given count of hexadecimal digits behind the number `before`. -/
def hexNumber? (mode : Mode) (before : Nat) : Nat → List Char → Read Nat
  | 0, text => some (before, text)
  | count + 1, text =>
      match mode.tidy text with
      | [] => none
      | letter :: rest =>
          match hexDigit? letter with
          | none => none
          | some digit => hexNumber? mode (before * 16 + digit) count rest

theorem length_hexNumber?_le {mode : Mode} {before count number : Nat} {text behind : List Char}
    (found : hexNumber? mode before count text = some (number, behind)) :
    behind.length ≤ text.length := by
  induction count generalizing before text with
  | zero => simp_all [hexNumber?]
  | succ count ih =>
      have tidied := mode.length_tidy_le text
      unfold hexNumber? at found
      grind

inductive Sign where
  /-- A character, and whether it was written as the number of a byte. -/
  | letter (letter : Char) (asByte : Bool)
  | kind
  | place
  deriving DecidableEq, Repr

/-- How many digits the number of a character has behind the letter that announces it. -/
def numberLengths : List (Char × Nat) := [('x', 2), ('u', 4), ('U', 8)]

def namedCharacters : List (Char × Char) :=
  [('a', '\x07'), ('f', '\x0c'), ('t', '\t'), ('n', '\n'), ('r', '\r'), ('v', '\x0b')]

def escape? (mode : Mode) : List Char → Read Sign
  | [] => none
  | letter :: rest =>
      match numberLengths.lookup letter, namedCharacters.lookup letter with
      | some count, _ =>
          match hexNumber? mode 0 count rest with
          | none => none
          | some (number, behind) =>
              if number.isValidChar then
                some (.letter (Char.ofNat number) (letter == 'x'), behind)
              else none
      | none, some named => some (.letter named false, rest)
      | none, none =>
          if ['A', 'z'].contains letter then some (.place, rest)
          else if ['b', 'B', '<', '>'].contains letter then
            if mode.characters then none else some (.place, rest)
          else if ['d', 's', 'w'].contains letter then
            if mode.characters then none else some (.kind, rest)
          else if letter.toNat < 0x80 && !letter.isAlphanum then
            some (.letter letter false, rest)
          else none

def sign? (mode : Mode) (letter : Char) (rest : List Char) : Read Sign :=
  if letter == '\\' then escape? mode rest else some (.letter letter false, rest)

theorem length_escape?_le {mode : Mode} {text behind : List Char} {sign : Sign}
    (found : escape? mode text = some (sign, behind)) : behind.length ≤ text.length := by
  cases text with
  | nil => simp [escape?] at found
  | cons letter rest =>
      simp only [escape?] at found
      split at found
      · split at found
        · contradiction
        · next number after numbered =>
            have shorter := length_hexNumber?_le numbered
            simp only [Option.ite_none_right_eq_some, Option.some.injEq, Prod.mk.injEq] at found
            grind
      · simp_all
      · grind

theorem length_sign?_le {mode : Mode} {letter : Char} {rest behind : List Char} {sign : Sign}
    (found : sign? mode letter rest = some (sign, behind)) : behind.length ≤ rest.length := by
  unfold sign? at found
  split at found
  · exact length_escape?_le found
  · simp_all

def classNames : List String :=
  ["alnum", "alpha", "ascii", "blank", "cntrl", "digit", "graph", "lower", "print", "punct",
    "space", "upper", "word", "xdigit"]

/-- Reads a named class behind its first bracket, and whether all else is meant. -/
def namedClass? (text : List Char) : Read Bool :=
  match text with
  | ':' :: inner =>
      let negated := inner.head? == some '^'
      let name := if negated then inner.drop 1 else inner
      match name.dropWhile (fun letter => letter != ':') with
      | ':' :: ']' :: behind =>
          if classNames.contains (String.ofList (name.takeWhile (fun letter => letter != ':')))
          then some (negated, behind)
          else none
      | _ => none
  | _ => none

theorem length_namedClass?_le {text behind : List Char} {negated : Bool}
    (found : namedClass? text = some (negated, behind)) : behind.length ≤ text.length := by
  unfold namedClass? at found
  grind [length_dropWhile_le]

end Tasking.Log.Pattern
