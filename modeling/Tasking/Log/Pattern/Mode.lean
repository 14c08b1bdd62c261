/-
# Modes of patterns

A pattern is about characters or about bytes. There is no table of cases, so letters
cannot be meant in either case while it is about characters. And a pattern that is about
bytes must not match a part of a character.
-/

import Tasking.Text.Basic

namespace Tasking.Log.Pattern

open Tasking.Text (isBlank)

structure Mode where
  /-- Whether the pattern is about characters; it is about bytes otherwise. -/
  characters : Bool := true
  anyCase : Bool := false
  /-- Whether blanks and remarks between the parts are passed over. -/
  spaced : Bool := false
  deriving DecidableEq, Repr

def modeLetters : List Char := ['i', 'm', 's', 'U', 'u', 'x', 'R', '-']

namespace Mode

/-- The setting of one letter after a change. -/
def changed (change : List Char) (letter : Char) (before : Bool) : Bool :=
  if (change.takeWhile (fun sign => sign != '-')).contains letter then true
  else if change.contains letter then false
  else before

/-- The letters that a mode has no field for leave no trace on which patterns are well formed. -/
def change (mode : Mode) (change : List Char) : Mode where
  characters := changed change 'u' mode.characters
  anyCase := changed change 'i' mode.anyCase
  spaced := changed change 'x' mode.spaced

/-- Written as the number of a byte, a character must be a whole one. -/
def allowsLetter (mode : Mode) (letter : Char) (asByte : Bool) : Bool :=
  if mode.characters then !mode.anyCase else !asByte || decide (letter.toNat < 0x80)

def allowsMember (mode : Mode) (letter : Char) : Bool :=
  if mode.characters then !mode.anyCase else decide (letter.toNat < 0x80)

/-- Whether a named class, or all that is not in it, can be a member. -/
def allowsNamed (mode : Mode) (negated : Bool) : Bool :=
  if mode.characters then !mode.anyCase else !negated

end Mode

/-- What is left of a text behind blanks and remarks. A remark goes to the end of its
line. -/
def passOver (inRemark : Bool) : List Char → List Char
  | [] => []
  | letter :: rest =>
      if inRemark then passOver (letter != '\n') rest
      else if isBlank letter then passOver false rest
      else if letter == '#' then passOver true rest
      else letter :: rest

def Mode.tidy (mode : Mode) (text : List Char) : List Char :=
  if mode.spaced then passOver false text else text

/-- The next character behind a dash. Of a remark only the sign in front of it is passed
over here. -/
def Mode.ahead? (mode : Mode) (text : List Char) : Option Char :=
  if mode.spaced then
    match text.dropWhile isBlank with
    | '#' :: remark => (remark.dropWhile isBlank).head?
    | other => other.head?
  else text.head?

theorem length_passOver_le (inRemark : Bool) (text : List Char) :
    (passOver inRemark text).length ≤ text.length := by
  induction text generalizing inRemark with
  | nil => simp [passOver]
  | cons letter rest ih =>
      unfold passOver
      split
      · exact Nat.le_succ_of_le (ih _)
      · split
        · exact Nat.le_succ_of_le (ih _)
        · split
          · exact Nat.le_succ_of_le (ih _)
          · exact Nat.le_refl _

theorem Mode.length_tidy_le (mode : Mode) (text : List Char) :
    (mode.tidy text).length ≤ text.length := by
  unfold Mode.tidy
  split
  · exact length_passOver_le ..
  · exact Nat.le_refl _

end Tasking.Log.Pattern
