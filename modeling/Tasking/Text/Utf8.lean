/-
# Text as bytes

Bytes are read as UTF-8 in two ways. The strict reader refuses a text with any fault in
it. For the lossy reader every maximal faulty part becomes one replacement character, and
reading goes on right behind it. A faulty part is as long as it could still have become a
character, so a truncated sequence is replaced once and not once per byte.
-/

namespace Tasking

abbrev Bytes := List UInt8

namespace Utf8

def encode (text : String) : Bytes :=
  text.toList.flatMap String.utf8EncodeChar

/-- What the first byte of a character announces. -/
structure Lead where
  /-- How many bytes are still owed. -/
  owed : Nat
  low : Nat
  high : Nat
  /-- The part of the character's number that the first byte holds. -/
  bits : Nat
  deriving DecidableEq, Repr

/-- The narrower ranges behind `E0` and `F0` keep out numbers that a shorter sequence could hold,
the one behind `ED` keeps out surrogates, and the one behind `F4` keeps out numbers past the last
character. -/
def Lead.ofByte? (byte : UInt8) : Option Lead :=
  let value := byte.toNat
  if value ≤ 0x7F then some ⟨0, 0x80, 0xBF, value⟩
  else if value < 0xC2 then none
  else if value ≤ 0xDF then some ⟨1, 0x80, 0xBF, value - 0xC0⟩
  else if value = 0xE0 then some ⟨2, 0xA0, 0xBF, 0⟩
  else if value = 0xED then some ⟨2, 0x80, 0x9F, 0xD⟩
  else if value ≤ 0xEF then some ⟨2, 0x80, 0xBF, value - 0xE0⟩
  else if value = 0xF0 then some ⟨3, 0x90, 0xBF, 0⟩
  else if value ≤ 0xF3 then some ⟨3, 0x80, 0xBF, value - 0xF0⟩
  else if value = 0xF4 then some ⟨3, 0x80, 0x8F, 4⟩
  else none

/-- Reads the bytes still owed after a first byte. The first of them must lie between `low` and
`high`, and a byte that is no continuation is left for the next piece. -/
def continuation (owed low high bits : Nat) (bytes : Bytes) : Option Nat × Bytes :=
  match owed, bytes with
  | 0, rest => (some bits, rest)
  | _ + 1, [] => (none, [])
  | owed + 1, byte :: rest =>
      if low ≤ byte.toNat ∧ byte.toNat ≤ high then
        continuation owed 0x80 0xBF (bits * 64 + byte.toNat % 64) rest
      else
        (none, byte :: rest)

theorem length_continuation_le (owed low high bits : Nat) (bytes : Bytes) :
    (continuation owed low high bits bytes).2.length ≤ bytes.length := by
  fun_induction continuation owed low high bits bytes with
  | case1 | case2 | case4 => simp
  | case3 low high bits owed byte rest inRange ih =>
      exact Nat.le_trans ih (by simp)

def firstPiece (byte : UInt8) (rest : Bytes) : Option Char × Bytes :=
  match Lead.ofByte? byte with
  | none => (none, rest)
  | some lead =>
      let (number, behind) := continuation lead.owed lead.low lead.high lead.bits rest
      (number.map Char.ofNat, behind)

theorem length_firstPiece_le (byte : UInt8) (rest : Bytes) :
    (firstPiece byte rest).2.length ≤ rest.length := by
  unfold firstPiece
  split
  · simp
  · exact length_continuation_le ..

/-- Characters in order, and nothing for each fault. -/
def pieces : Bytes → List (Option Char)
  | [] => []
  | byte :: rest => (firstPiece byte rest).1 :: pieces (firstPiece byte rest).2
termination_by bytes => bytes.length
decreasing_by
  exact Nat.lt_succ_of_le (length_firstPiece_le byte rest)

def replacement : Char := Char.ofNat 0xFFFD

def decodeLossy (bytes : Bytes) : String :=
  String.ofList ((pieces bytes).map (fun piece => piece.getD replacement))

def decode? (bytes : Bytes) : Option String :=
  ((pieces bytes).mapM id).map String.ofList

@[simp]
theorem pieces_nil : pieces [] = [] := by
  simp [pieces]

/-- A fault never vanishes. -/
theorem decodeLossy_eq_empty_iff {bytes : Bytes} : decodeLossy bytes = "" ↔ bytes = [] := by
  cases bytes with
  | nil => simp [decodeLossy]
  | cons byte rest => simp [decodeLossy, pieces]

end Utf8

end Tasking
