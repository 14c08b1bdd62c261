/-
# Blanks and places

Blanks are spaces of every width, tabs, and the ends of lines, paragraphs and pages. A
place is a number of bytes, and a number that falls inside a character is none.
-/

namespace Tasking.Text

def isBlank (letter : Char) : Bool :=
  let number := letter.toNat
  (9 ≤ number && number ≤ 13) || number == 0x20 || number == 0x85 || number == 0xA0
    || number == 0x1680 || (0x2000 ≤ number && number ≤ 0x200A) || number == 0x2028
    || number == 0x2029 || number == 0x202F || number == 0x205F || number == 0x3000

def trimmed (text : List Char) : List Char :=
  ((text.dropWhile isBlank).reverse.dropWhile isBlank).reverse

def width : List Char → Nat
  | [] => 0
  | letter :: rest => letter.utf8Size + width rest

def behind? (count : Nat) : List Char → Option (List Char)
  | [] => if count = 0 then some [] else none
  | letter :: rest =>
      if count = 0 then some (letter :: rest)
      else if letter.utf8Size ≤ count then behind? (count - letter.utf8Size) rest
      else none

def upTo? (count : Nat) : List Char → Option (List Char)
  | [] => if count = 0 then some [] else none
  | letter :: rest =>
      if count = 0 then some []
      else if letter.utf8Size ≤ count then
        (upTo? (count - letter.utf8Size) rest).map (letter :: ·)
      else none

/-- What stands in the `count` bytes behind the first `start` bytes. -/
def slice? (start count : Nat) (text : List Char) : Option (List Char) :=
  (behind? start text).bind (upTo? count)

end Tasking.Text
