/-
# Openings of groups

Behind its parenthesis a group may have a name or a change of the mode in which it is
read. A change can also stand alone between parentheses, and then holds up to the end of
the group around it.
-/

import Tasking.Log.Pattern.Sign
import Tasking.Text.Alphanumeric

namespace Tasking.Log.Pattern

open Tasking.Text (isLetter isAlphanumeric)

/-- The signs read before are `seen`, the latest first. No sign may come twice, and none may be
turned off by nothing. -/
def change? (seen : List Char) : List Char → Read (List Char × Bool)
  | [] => none
  | letter :: rest =>
      if letter == ':' || letter == ')' then
        if seen.head? == some '-' then none else some ((seen.reverse, letter == ':'), rest)
      else if modeLetters.contains letter && !seen.contains letter then
        change? (letter :: seen) rest
      else none

def isGroupName : List Char → Bool
  | [] => false
  | first :: rest =>
      (first == '_' || isLetter first) &&
        rest.all (fun letter => ['_', '.', '[', ']'].contains letter || isAlphanumeric letter)

inductive Opening where
  | group (name : Option (List Char))
  | changing (change : List Char)
  | change (change : List Char)
  deriving DecidableEq, Repr

def groupName? (text : List Char) : Read Opening :=
  match text.dropWhile (fun letter => letter != '>') with
  | [] => none
  | _ :: behind =>
      let name := text.takeWhile (fun letter => letter != '>')
      if isGroupName name then some (.group (some name), behind) else none

def opening? (text : List Char) : Read Opening :=
  match text with
  | '?' :: 'P' :: '<' :: rest => groupName? rest
  | '?' :: '<' :: rest => groupName? rest
  | '?' :: rest =>
      match change? [] rest with
      | none => none
      | some ((change, true), behind) => some (.changing change, behind)
      | some (([], false), _) => none
      | some ((change, false), behind) => some (.change change, behind)
  | _ => some (.group none, text)

theorem length_change?_le {seen text behind : List Char} {change : List Char × Bool}
    (found : change? seen text = some (change, behind)) : behind.length ≤ text.length := by
  induction text generalizing seen with
  | nil => simp [change?] at found
  | cons letter rest ih =>
      unfold change? at found
      grind

theorem length_groupName?_le {text behind : List Char} {opening : Opening}
    (found : groupName? text = some (opening, behind)) : behind.length ≤ text.length := by
  unfold groupName? at found
  grind [length_dropWhile_le]

theorem length_opening?_le {text behind : List Char} {opening : Opening}
    (found : opening? text = some (opening, behind)) : behind.length ≤ text.length := by
  unfold opening? at found
  split at found
  · have shorter := length_groupName?_le found
    simp only [List.length_cons]
    omega
  · have shorter := length_groupName?_le found
    simp only [List.length_cons]
    omega
  · next rest _ _ =>
      cases changed : change? [] rest with
      | none => simp [changed] at found
      | some read =>
          obtain ⟨⟨change, group⟩, after⟩ := read
          have shorter := length_change?_le changed
          simp only [changed] at found
          simp only [List.length_cons]
          grind
  · simp_all

end Tasking.Log.Pattern
