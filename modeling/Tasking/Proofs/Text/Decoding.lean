/-
# A fault never reaches into a character

Decoding cuts bytes into pieces from the left, and a faulty piece ends at the latest
where a byte comes that cannot continue a character. The first byte of a character is
such a byte, and behind it the bytes of the character are taken together, neither more
nor fewer. So a stretch of well-formed text is found again wherever it stands: what is
in front of it is decoded as if the bytes ended there, and what is behind it as if they
began there.
-/

import Tasking.Text.Utf8

namespace Tasking.Utf8

/-- A byte that only stands behind the first one of a character. -/
def IsContinuation (byte : UInt8) : Prop :=
  0x80 ≤ byte.toNat ∧ byte.toNat ≤ 0xBF

/-- Whatever the first byte, only continuation bytes are let through behind it. -/
theorem Lead.le_of_ofByte? {byte : UInt8} {lead : Lead} (found : Lead.ofByte? byte = some lead) :
    0x80 ≤ lead.low ∧ lead.high ≤ 0xBF := by
  revert found
  fun_cases Lead.ofByte? byte with
  | case2 | case10 => exact nofun
  | case1 | case3 | case4 | case5 | case6 | case7 | case8 | case9 =>
      intro found
      cases found
      simp

section Resumption

variable {first : UInt8} (fresh : ¬ IsContinuation first) (rest : Bytes)

include fresh

/-- Reading what is owed stops at a byte that begins something new. -/
theorem continuation_append {low high : Nat} (owed bits : Nat) (bytes : Bytes)
    (least : 0x80 ≤ low) (most : high ≤ 0xBF) :
    continuation owed low high bits (bytes ++ first :: rest) =
      ((continuation owed low high bits bytes).1,
        (continuation owed low high bits bytes).2 ++ first :: rest) := by
  fun_induction continuation owed low high bits bytes with
  | case1 low high bits bytes => rw [continuation]
  | case2 low high bits owed =>
      have outside : ¬ (low ≤ first.toNat ∧ first.toNat ≤ high) := fun inside =>
        fresh ⟨Nat.le_trans least inside.1, Nat.le_trans inside.2 most⟩
      rw [List.nil_append, continuation, if_neg outside]
  | case3 low high bits owed byte behind inside ih =>
      rw [List.cons_append, continuation, if_pos inside]
      exact ih (Nat.le_refl 0x80) (Nat.le_refl 0xBF)
  | case4 low high bits owed byte behind outside =>
      rw [List.cons_append, continuation, if_neg outside]

theorem firstPiece_append (byte : UInt8) (bytes : Bytes) :
    firstPiece byte (bytes ++ first :: rest) =
      ((firstPiece byte bytes).1, (firstPiece byte bytes).2 ++ first :: rest) := by
  unfold firstPiece
  cases found : Lead.ofByte? byte with
  | none => rfl
  | some lead =>
      obtain ⟨least, most⟩ := Lead.le_of_ofByte? found
      simp only [continuation_append fresh rest lead.owed lead.bits bytes least most]

/-- The pieces in front of such a byte are what they would be if the bytes ended there. -/
theorem pieces_append (bytes : Bytes) :
    pieces (bytes ++ first :: rest) = pieces bytes ++ pieces (first :: rest) := by
  fun_induction pieces bytes with
  | case1 => rfl
  | case2 byte bytes ih =>
      rw [List.cons_append, pieces, firstPiece_append fresh rest, ih]
      rfl

end Resumption

section Characters

variable {value next : Nat} (behind : Bytes)

theorem Lead.ofByte?_one (small : value ≤ 0x7F) :
    Lead.ofByte? (UInt8.ofNat value) = some ⟨0, 0x80, 0xBF, value⟩ := by
  simp only [Lead.ofByte?, UInt8.toNat_ofNat_of_lt' (show value < 256 by omega)]
  rw [if_pos small]

theorem Lead.ofByte?_two (least : 0xC2 ≤ value) (most : value ≤ 0xDF) :
    Lead.ofByte? (UInt8.ofNat value) = some ⟨1, 0x80, 0xBF, value - 0xC0⟩ := by
  simp only [Lead.ofByte?, UInt8.toNat_ofNat_of_lt' (show value < 256 by omega)]
  rw [if_neg (by omega), if_neg (by omega), if_pos most]

/-- Behind `E0` the next byte may not be small, and behind `ED` it may not be great. -/
theorem Lead.exists_ofByte?_three (least : 0xE0 ≤ value) (most : value ≤ 0xEF)
    (continues : 0x80 ≤ next ∧ next ≤ 0xBF) (long : value = 0xE0 → 0xA0 ≤ next)
    (noSurrogate : value = 0xED → next ≤ 0x9F) :
    ∃ low high, Lead.ofByte? (UInt8.ofNat value) = some ⟨2, low, high, value - 0xE0⟩ ∧
      low ≤ next ∧ next ≤ high := by
  simp only [Lead.ofByte?, UInt8.toNat_ofNat_of_lt' (show value < 256 by omega)]
  rw [if_neg (by omega), if_neg (by omega), if_neg (by omega)]
  by_cases narrow : value = 0xE0
  · rw [if_pos narrow, narrow]
    exact ⟨0xA0, 0xBF, rfl, long narrow, continues.2⟩
  · rw [if_neg narrow]
    by_cases surrogates : value = 0xED
    · rw [if_pos surrogates, surrogates]
      exact ⟨0x80, 0x9F, rfl, continues.1, noSurrogate surrogates⟩
    · rw [if_neg surrogates, if_pos most]
      exact ⟨0x80, 0xBF, rfl, continues⟩

/-- Behind `F0` the next byte may not be small, and behind `F4` it may not be great. -/
theorem Lead.exists_ofByte?_four (least : 0xF0 ≤ value) (most : value ≤ 0xF4)
    (continues : 0x80 ≤ next ∧ next ≤ 0xBF) (long : value = 0xF0 → 0x90 ≤ next)
    (notPast : value = 0xF4 → next ≤ 0x8F) :
    ∃ low high, Lead.ofByte? (UInt8.ofNat value) = some ⟨3, low, high, value - 0xF0⟩ ∧
      low ≤ next ∧ next ≤ high := by
  simp only [Lead.ofByte?, UInt8.toNat_ofNat_of_lt' (show value < 256 by omega)]
  rw [if_neg (by omega), if_neg (by omega), if_neg (by omega), if_neg (by omega),
    if_neg (by omega), if_neg (by omega)]
  by_cases narrow : value = 0xF0
  · rw [if_pos narrow, narrow]
    exact ⟨0x90, 0xBF, rfl, long narrow, continues.2⟩
  · rw [if_neg narrow]
    by_cases last : value = 0xF4
    · rw [if_neg (by omega), if_pos last, last]
      exact ⟨0x80, 0x8F, rfl, continues.1, notPast last⟩
    · rw [if_pos (by omega)]
      exact ⟨0x80, 0xBF, rfl, continues⟩

/-- A byte in range is taken, and its six bits are added. -/
theorem continuation_of_inside (owed bits : Nat) {low high : Nat} (least : low ≤ value)
    (most : value ≤ high) (small : value < 256) :
    continuation (owed + 1) low high bits (UInt8.ofNat value :: behind) =
      continuation owed 0x80 0xBF (bits * 64 + value % 64) behind := by
  rw [continuation, UInt8.toNat_ofNat_of_lt' small, if_pos ⟨least, most⟩]

theorem firstPiece_of_lead {byte : UInt8} {lead : Lead} {bytes behind : Bytes} {number : Nat}
    (found : Lead.ofByte? byte = some lead)
    (read : continuation lead.owed lead.low lead.high lead.bits bytes = (some number, behind)) :
    firstPiece byte bytes = (some (Char.ofNat number), behind) := by
  rw [firstPiece, found]
  simp only [read]
  rfl

variable {number : Nat}

theorem firstPiece_one (small : number ≤ 0x7F) :
    firstPiece (UInt8.ofNat number) behind = (some (Char.ofNat number), behind) :=
  firstPiece_of_lead (Lead.ofByte?_one small) rfl

theorem firstPiece_two (least : 0x80 ≤ number) (most : number ≤ 0x7FF) :
    firstPiece (UInt8.ofNat (number / 64 % 32 + 192))
      (UInt8.ofNat (number % 64 + 128) :: behind) = (some (Char.ofNat number), behind) := by
  apply firstPiece_of_lead (Lead.ofByte?_two (by omega) (by omega))
  show continuation 1 0x80 0xBF (number / 64 % 32 + 192 - 0xC0) _ = _
  rw [continuation_of_inside behind 0 _ (by omega) (by omega) (by omega), continuation]
  have whole : (number / 64 % 32 + 192 - 0xC0) * 64 + (number % 64 + 128) % 64 = number := by
    omega
  rw [whole]

theorem firstPiece_three (least : 0x800 ≤ number) (most : number ≤ 0xFFFF)
    (noSurrogate : number < 0xD800 ∨ 0xDFFF < number) :
    firstPiece (UInt8.ofNat (number / 4096 % 16 + 224))
      (UInt8.ofNat (number / 64 % 64 + 128) :: UInt8.ofNat (number % 64 + 128) :: behind) =
        (some (Char.ofNat number), behind) := by
  obtain ⟨low, high, found, above, below⟩ :=
    @Lead.exists_ofByte?_three (number / 4096 % 16 + 224) (number / 64 % 64 + 128)
      (by omega) (by omega) (by omega) (by omega) (by omega)
  apply firstPiece_of_lead found
  rw [continuation_of_inside _ 1 _ above below (by omega),
    continuation_of_inside behind 0 _ (by omega) (by omega) (by omega), continuation]
  have whole : ((number / 4096 % 16 + 224 - 0xE0) * 64 + (number / 64 % 64 + 128) % 64) * 64 +
      (number % 64 + 128) % 64 = number := by
    omega
  rw [whole]

theorem firstPiece_four (least : 0x10000 ≤ number) (most : number < 0x110000) :
    firstPiece (UInt8.ofNat (number / 262144 % 8 + 240))
      (UInt8.ofNat (number / 4096 % 64 + 128) :: UInt8.ofNat (number / 64 % 64 + 128) ::
        UInt8.ofNat (number % 64 + 128) :: behind) = (some (Char.ofNat number), behind) := by
  obtain ⟨low, high, found, above, below⟩ :=
    @Lead.exists_ofByte?_four (number / 262144 % 8 + 240) (number / 4096 % 64 + 128)
      (by omega) (by omega) (by omega) (by omega) (by omega)
  apply firstPiece_of_lead found
  rw [continuation_of_inside _ 2 _ above below (by omega),
    continuation_of_inside _ 1 _ (by omega) (by omega) (by omega),
    continuation_of_inside behind 0 _ (by omega) (by omega) (by omega), continuation]
  have whole : (((number / 262144 % 8 + 240 - 0xF0) * 64 + (number / 4096 % 64 + 128) % 64) * 64 +
      (number / 64 % 64 + 128) % 64) * 64 + (number % 64 + 128) % 64 = number := by
    omega
  rw [whole]

/-- The bytes of a character begin with one that begins something new, and all of them are
its first piece. -/
theorem exists_encodeChar_eq (letter : Char) :
    ∃ byte rest, String.utf8EncodeChar letter = byte :: rest ∧ ¬ IsContinuation byte ∧
      firstPiece byte (rest ++ behind) = (some letter, behind) := by
  have same : Char.ofNat letter.val.toNat = letter := Char.ofNat_toNat letter
  have valid : letter.val.toNat < 0xD800 ∨
      0xDFFF < letter.val.toNat ∧ letter.val.toNat < 0x110000 :=
    letter.valid
  have starts {value : Nat} (outside : ¬ (0x80 ≤ value ∧ value ≤ 0xBF)) (small : value < 256) :
      ¬ IsContinuation (UInt8.ofNat value) := by
    rw [IsContinuation, UInt8.toNat_ofNat_of_lt' small]
    exact outside
  unfold String.utf8EncodeChar
  generalize letter.val.toNat = number at same valid
  rw [← same]
  dsimp only
  by_cases one : number ≤ 0x7F
  · rw [if_pos one]
    exact ⟨_, _, rfl, starts (by omega) (by omega), firstPiece_one behind one⟩
  · rw [if_neg one]
    by_cases two : number ≤ 0x7FF
    · rw [if_pos two]
      exact ⟨_, _, rfl, starts (by omega) (by omega), firstPiece_two behind (by omega) two⟩
    · rw [if_neg two]
      by_cases three : number ≤ 0xFFFF
      · rw [if_pos three]
        exact ⟨_, _, rfl, starts (by omega) (by omega),
          firstPiece_three behind (by omega) three (by omega)⟩
      · rw [if_neg three]
        exact ⟨_, _, rfl, starts (by omega) (by omega),
          firstPiece_four behind (by omega) (by omega)⟩

end Characters

theorem pieces_encodeChar (letter : Char) (behind : Bytes) :
    pieces (String.utf8EncodeChar letter ++ behind) = some letter :: pieces behind := by
  obtain ⟨byte, rest, bytes, -, read⟩ := exists_encodeChar_eq behind letter
  rw [bytes, List.cons_append, pieces, read]

/-- The pieces of well-formed text are its characters, whatever comes behind it. -/
theorem pieces_encode (text : String) (behind : Bytes) :
    pieces (encode text ++ behind) = text.toList.map some ++ pieces behind := by
  unfold encode
  induction text.toList with
  | nil => rfl
  | cons letter rest ih =>
      rw [List.flatMap_cons, List.append_assoc, pieces_encodeChar, ih]
      rfl

/-- Well-formed text is found again between any bytes, if there is at least one character
of it. -/
theorem pieces_append_encode (before behind : Bytes) {text : String} (filled : text ≠ "") :
    pieces (before ++ encode text ++ behind) =
      pieces before ++ text.toList.map some ++ pieces behind := by
  obtain ⟨first, rest, letters⟩ :=
    List.exists_cons_of_ne_nil (mt String.toList_eq_nil_iff.mp filled)
  obtain ⟨byte, others, bytes, fresh, -⟩ := exists_encodeChar_eq [] first
  have front : encode text = byte :: (others ++ rest.flatMap String.utf8EncodeChar) := by
    rw [encode, letters, List.flatMap_cons, bytes]
    rfl
  have cut : pieces (before ++ (encode text ++ behind)) =
      pieces before ++ pieces (encode text ++ behind) := by
    rw [front]
    exact pieces_append fresh _ before
  rw [List.append_assoc, cut, pieces_encode, List.append_assoc]

theorem decodeLossy_append_encode (before behind : Bytes) {text : String} (filled : text ≠ "") :
    decodeLossy (before ++ encode text ++ behind) =
      decodeLossy before ++ text ++ decodeLossy behind := by
  have letters : (text.toList.map some).map (fun piece => piece.getD replacement) =
      text.toList := by
    rw [List.map_map]
    exact List.map_id text.toList
  apply String.toList_injective
  simp only [decodeLossy, pieces_append_encode before behind filled, List.map_append, letters,
    String.toList_append, String.toList_ofList]

@[simp]
theorem decodeLossy_nil : decodeLossy [] = "" :=
  decodeLossy_eq_empty_iff.mpr rfl

/-- Text in front of any bytes is decoded as it is. -/
theorem decodeLossy_encode_append (text : String) (behind : Bytes) :
    decodeLossy (encode text ++ behind) = text ++ decodeLossy behind := by
  by_cases filled : text = ""
  · rw [filled, String.empty_append]
    rfl
  · have cut := decodeLossy_append_encode [] behind filled
    rwa [decodeLossy_nil, String.empty_append] at cut

theorem decodeLossy_encode (text : String) : decodeLossy (encode text) = text := by
  have cut := decodeLossy_encode_append text []
  rwa [List.append_nil, decodeLossy_nil, String.append_empty] at cut

/-- Texts with the same bytes are the same text. -/
theorem encode_inj {first second : String} (same : encode first = encode second) :
    first = second := by
  rw [← decodeLossy_encode first, ← decodeLossy_encode second, same]

end Tasking.Utf8
