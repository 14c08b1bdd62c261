/-
# Patterns

A filter may describe a value by a regular expression. No value is ever compared with one
here, but a pattern that is not well formed spoils the filter that it stands in. A text is
a pattern if every part of it can be read, nothing is open at the end, and nothing lies
too deep.
-/

import Tasking.Log.Pattern.Nesting
import Tasking.Log.Pattern.Opening

namespace Tasking.Log.Pattern

/-- How far the innermost class has been read. -/
inductive ClassPart where
  | bracket
  /-- The sign that all but its members are meant. -/
  | negation
  /-- Dashes in front of everything else. -/
  | dashes
  /-- A member, or more than one. -/
  | members
  deriving DecidableEq, Repr

/-- What has been read of a pattern so far. -/
structure State where
  mode : Mode := {}
  names : List (List Char) := []
  /-- Whether there is something in front that can be repeated. -/
  repeatable : Bool := false
  nesting : Nesting := {}
  /-- What stands around each group that is open, the innermost first. -/
  groups : List (Mode × Nesting) := []
  /-- The members of each class that is open, the innermost first. -/
  classes : List Nesting := []
  part : ClassPart := .members
  deriving DecidableEq, Repr

namespace State

def operand (state : State) (depth : Nat) : State :=
  { state with repeatable := true, nesting := state.nesting.push depth }

def repeated (state : State) : State :=
  { state with nesting := state.nesting.repeated }

def alternative (state : State) : State :=
  { state with repeatable := false, nesting := state.nesting.alternative }

/-- Behind a change of the mode, which is a part and cannot be repeated. -/
def changed (state : State) (change : List Char) : State :=
  { state with
    mode := state.mode.change change
    repeatable := false
    nesting := state.nesting.push 0 }

def enter (state : State) (mode : Mode) : State :=
  { state with
    mode := mode
    repeatable := false
    nesting := {}
    groups := (state.mode, state.nesting) :: state.groups }

def opened (state : State) : Opening → Option State
  | .group none => some (state.enter state.mode)
  | .group (some name) =>
      if state.names.contains name then none
      else some { state.enter state.mode with names := name :: state.names }
  | .changing change => some (state.enter (state.mode.change change))
  | .change change => some (state.changed change)

def closed? (state : State) : Option State :=
  match state.groups with
  | [] => none
  | (mode, nesting) :: groups =>
      some ({ state with mode := mode, nesting := nesting, groups := groups }.operand
        (state.nesting.depth + 1))

def classOpened (state : State) : State :=
  { state with classes := {} :: state.classes, part := .bracket }

def onMembers (state : State) (part : ClassPart) (change : Nesting → Nesting) : State :=
  { state with classes := state.classes.modifyHead change, part := part }

def member (state : State) : State :=
  state.onMembers .members (fun nesting => nesting.push 0)

def operator (state : State) : State :=
  state.onMembers .members Nesting.operand

/-- Closes the innermost class. It is a member of the class around it, if there is one. -/
def classClosed (state : State) : State :=
  match state.classes with
  | [] => state
  | [members] => { state with classes := [] }.operand (members.depth + 1)
  | members :: classes =>
      { state with classes := classes }.onMembers .members
        (fun nesting => nesting.push (members.depth + 1))

/-- Reads one part outside all classes. Nothing can be repeated a counted number of times. -/
def readOutside (state : State) (letter : Char) (rest : List Char) : Read State :=
  match letter with
  | '(' =>
      match opening? (state.mode.tidy rest) with
      | none => none
      | some (opening, behind) => (state.opened opening).map (fun state => (state, behind))
  | ')' => state.closed?.map (fun state => (state, rest))
  | '|' => some (state.alternative, rest)
  | '*' | '+' | '?' =>
      if state.repeatable then
        match rest with
        | '?' :: behind => some (state.repeated, behind)
        | _ => some (state.repeated, rest)
      else none
  | '{' => none
  | '[' => some (state.classOpened, rest)
  | '.' => if state.mode.characters then some (state.operand 0, rest) else none
  | '^' | '$' => some (state.operand 0, rest)
  | _ =>
      match sign? state.mode letter rest with
      | none => none
      | some (.letter letter asByte, behind) =>
          if state.mode.allowsLetter letter asByte then some (state.operand 0, behind) else none
      | some (_, behind) => some (state.operand 0, behind)

def single? (state : State) : Sign → Option State
  | .letter letter _ => if state.mode.allowsMember letter then some state.member else none
  | .kind => some state.member
  | .place => none

def range? (state : State) : Sign → Sign → Option State
  | .letter low _, .letter high _ =>
      if low ≤ high && state.mode.allowsMember low && state.mode.allowsMember high
      then some state.member else none
  | _, _ => none

/-- Reads one member of a class: a sign, or two signs with a dash between them. A dash
in front of a bracket or of another dash makes no range. -/
def readMember (state : State) (letter : Char) (rest : List Char) : Read State :=
  match sign? state.mode letter rest with
  | none => none
  | some (first, behind) =>
      match state.mode.tidy behind with
      | '-' :: further =>
          if [some ']', some '-'].contains (state.mode.ahead? further) then
            (state.single? first).map (fun state => (state, behind))
          else
            match state.mode.tidy further with
            | [] => none
            | letter :: rest =>
                match sign? state.mode letter rest with
                | none => none
                | some (second, behind) =>
                    (state.range? first second).map (fun state => (state, behind))
      | _ => (state.single? first).map (fun state => (state, behind))

/-- Reads one part of a class behind its front. Two equal signs in a row take classes
apart or put them together. -/
def readMembers (state : State) (letter : Char) (rest : List Char) : Read State :=
  match letter, rest with
  | '[', _ =>
      match namedClass? rest with
      | some (negated, behind) =>
          if state.mode.allowsNamed negated then some (state.member, behind) else none
      | none => some (state.classOpened, rest)
  | ']', _ => some (state.classClosed, rest)
  | '&', '&' :: behind => some (state.operator, behind)
  | '-', '-' :: behind => some (state.operator, behind)
  | '~', '~' :: behind => some (state.operator, behind)
  | _, _ => state.readMember letter rest

/-- Reads one part of a class. At its front dashes stand for themselves, and so does a
closing bracket, for a class is never empty there. -/
def readInside (state : State) (letter : Char) (rest : List Char) : Read State :=
  match state.part, letter with
  | .bracket, '^' =>
      if state.mode.characters then some ({ state with part := .negation }, rest) else none
  | .bracket, '-' | .negation, '-' | .dashes, '-' =>
      if state.mode.allowsMember '-' then
        some (state.onMembers .dashes (fun nesting => nesting.push 0), rest)
      else none
  | .bracket, ']' | .negation, ']' =>
      if state.mode.allowsMember ']' then some (state.member, rest) else none
  | _, _ => state.readMembers letter rest

def read (state : State) (letter : Char) (rest : List Char) : Read State :=
  if state.classes.isEmpty then state.readOutside letter rest else state.readInside letter rest

def mayEnd (state : State) : Bool :=
  state.groups.isEmpty && state.classes.isEmpty && decide (state.nesting.depth ≤ deepest)

/-! ## Reading never adds characters -/

theorem length_of_passed {α : Type} {answer : Option α} {found : α} {after behind : List Char}
    (passed : answer.map (fun value => (value, after)) = some (found, behind)) :
    behind.length = after.length := by
  simp only [Option.map_eq_some_iff, Prod.mk.injEq] at passed
  obtain ⟨_, _, _, rfl⟩ := passed
  rfl

theorem length_readOutside_le {state next : State} {letter : Char} {rest behind : List Char}
    (found : state.readOutside letter rest = some (next, behind)) :
    behind.length ≤ rest.length := by
  have tidied := state.mode.length_tidy_le rest
  unfold readOutside at found
  split at found
  case h_1 =>
    split at found
    · contradiction
    · next opening after opened =>
        have shorter := length_opening?_le opened
        have same := length_of_passed found
        omega
  case h_2 =>
    have same := length_of_passed found
    omega
  case h_12 =>
    cases signed : sign? state.mode letter rest with
    | none => simp [signed] at found
    | some read =>
        obtain ⟨sign, after⟩ := read
        have shorter := length_sign?_le signed
        cases sign <;> simp only [signed] at found <;> grind
  all_goals grind

theorem length_readMember_le {state next : State} {letter : Char} {rest behind : List Char}
    (found : state.readMember letter rest = some (next, behind)) :
    behind.length ≤ rest.length := by
  unfold readMember at found
  split at found
  · contradiction
  · next first after signed =>
      have shorter := length_sign?_le signed
      have tidied := state.mode.length_tidy_le after
      split at found
      · next further dashed =>
          have tidiedFurther := state.mode.length_tidy_le further
          simp only [dashed, List.length_cons] at tidied
          split at found
          · have same := length_of_passed found
            omega
          · split at found
            · contradiction
            · next letter rest spaced =>
                simp only [spaced, List.length_cons] at tidiedFurther
                split at found
                · contradiction
                · next second last ending =>
                    have ended := length_sign?_le ending
                    have same := length_of_passed found
                    omega
      · have same := length_of_passed found
        omega

theorem length_readMembers_le {state next : State} {letter : Char} {rest behind : List Char}
    (found : state.readMembers letter rest = some (next, behind)) :
    behind.length ≤ rest.length := by
  unfold readMembers at found
  split at found
  · split at found
    · next named =>
        have shorter := length_namedClass?_le named
        grind
    · grind
  · grind
  · grind
  · grind
  · grind
  · exact length_readMember_le found

theorem length_read_le {state next : State} {letter : Char} {rest behind : List Char}
    (found : state.read letter rest = some (next, behind)) : behind.length ≤ rest.length := by
  unfold read at found
  split at found
  · exact length_readOutside_le found
  · unfold readInside at found
    split at found
    case h_7 => exact length_readMembers_le found
    all_goals grind

def accepts (state : State) (text : List Char) : Bool :=
  match _ : state.mode.tidy text with
  | [] => state.mayEnd
  | letter :: rest =>
      match _ : state.read letter rest with
      | none => false
      | some (next, behind) => next.accepts behind
termination_by text.length
decreasing_by
  rename_i tidied taken
  have shorter := length_read_le taken
  have kept := state.mode.length_tidy_le text
  simp only [tidied, List.length_cons] at kept
  omega

end State

end Tasking.Log.Pattern

namespace Tasking.Log

def isPattern (text : List Char) : Bool :=
  Pattern.State.accepts {} text

end Tasking.Log
