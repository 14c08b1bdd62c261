/-
# Text for terminals

Some characters begin a control sequence, which a terminal does not show. A sequence that
does not end takes the rest of the text with it. Line ends and tabs take effect even
inside the shorter sequences, and from then on the text is shown again as it stands.
-/

namespace Tasking.Terminal

inductive Midst where
  | text
  /-- An escape whose kind is not known yet. -/
  | escape
  /-- An escape of more than one character. -/
  | escapeTail
  | control
  | device
  | deviceNumbers
  | deviceTail
  | deviceData
  | command
  /-- A text for nobody. -/
  | aside
  deriving DecidableEq, Repr

def escapeCharacter : Char := '\x1b'

def cancels (letter : Char) : Bool :=
  letter == '\x18' || letter == '\x1a'

/-- The byte that ends device data and asides. It only occurs inside a wide character. -/
def endOfString : UInt8 := 0x9C

def isLayout (letter : Char) : Bool :=
  letter == '\t' || letter == '\n' || letter == '\x0c' || letter == '\r'

def isWide (letter : Char) : Bool :=
  decide (0x80 ≤ letter.toNat)

def isVisible (letter : Char) : Bool :=
  isLayout letter || isWide letter || decide (0x20 ≤ letter.toNat ∧ letter.toNat ≤ 0x7E)

namespace Midst

/-- What becomes of a sequence behind a character that neither begins nor cancels one. -/
def continued (midst : Midst) (letter : Char) : Midst :=
  let number := letter.toNat
  let between (low high : Nat) : Bool := decide (low ≤ number ∧ number ≤ high)
  match midst with
  | .text => .text
  | .escape =>
      if between 0x20 0x2F then .escapeTail
      else if letter == '[' then .control
      else if letter == ']' then .command
      else if letter == 'P' then .device
      else if letter == 'X' || letter == '^' || letter == '_' then .aside
      else if between 0x30 0x7E then .text
      else .escape
  | .escapeTail => if between 0x30 0x7E then .text else .escapeTail
  | .control => if between 0x40 0x7E then .text else .control
  | .device =>
      if between 0x20 0x2F then .deviceTail
      else if between 0x30 0x3F then .deviceNumbers
      else if between 0x40 0x7E then .deviceData
      else .device
  | .deviceNumbers =>
      if between 0x20 0x2F then .deviceTail
      else if between 0x3C 0x7E then .deviceData
      else .deviceNumbers
  | .deviceTail => if between 0x30 0x7E then .deviceData else .deviceTail
  | .deviceData =>
      if (String.utf8EncodeChar letter).contains endOfString then .text else .deviceData
  | .command => if letter == '\x07' then .text else .command
  | .aside => if (String.utf8EncodeChar letter).contains endOfString then .text else .aside

def next (midst : Midst) (letter : Char) : Midst :=
  if letter == escapeCharacter then .escape
  else if cancels letter then .text
  else midst.continued letter

def shows (midst : Midst) (letter : Char) : Bool :=
  match midst with
  | .text => isVisible letter
  | .escape | .escapeTail | .control => isLayout letter
  | _ => false

end Midst

/-- While characters are being shown, every visible one is, even if a sequence was left open before
the first of them. -/
def seen (midst : Midst) (showing : Bool) : List Char → List Char
  | [] => []
  | letter :: rest =>
      if showing && isVisible letter then
        letter :: seen (if isWide letter then .text else midst) true rest
      else if !showing && midst.shows letter then
        letter :: seen (midst.next letter) true rest
      else
        seen (midst.next letter) false rest

def plain (text : List Char) : List Char :=
  seen .text false text

end Tasking.Terminal
