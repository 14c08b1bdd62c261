/-
# Nesting of patterns

A repetition, a group and a class are nested one deeper than what they hold, and so is a
sequence of two parts or more, and a choice between sequences.
-/

namespace Tasking.Log.Pattern

def deepest : Nat := 250

structure Nesting where
  count : Nat := 0
  last : Nat := 0
  /-- The deepest part in front of the last one. -/
  others : Nat := 0
  /-- The sequences in front of this one, if there are any to choose from. -/
  before : Option Nat := none
  deriving DecidableEq, Repr

namespace Nesting

def push (nesting : Nesting) (depth : Nat) : Nesting :=
  { nesting with
    count := nesting.count + 1
    last := depth
    others := max nesting.others nesting.last }

def repeated (nesting : Nesting) : Nesting :=
  { nesting with last := nesting.last + 1 }

def sequence (nesting : Nesting) : Nat :=
  if nesting.count ≤ 1 then nesting.last else max nesting.others nesting.last + 1

def depth (nesting : Nesting) : Nat :=
  match nesting.before with
  | none => nesting.sequence
  | some before => max before nesting.sequence + 1

/-- However many sequences there are to choose from, they make one choice. -/
def alternative (nesting : Nesting) : Nesting :=
  { before := some (max (nesting.before.getD 0) nesting.sequence) }

/-- The first operand holds all operations in front. -/
def operand (nesting : Nesting) : Nesting :=
  { before := some nesting.depth }

end Nesting

end Tasking.Log.Pattern
