import Mathlib.Data.List.Basic
import StyleAudit.Proofs.Decoding

/-!
Reading back what was written.

A character is written as one to four bytes. The first of them tells how many are owed and bounds
the next one, so that a decoder between two characters takes exactly these bytes and stands between
two characters again. The bytes of a text are therefore all readable, and give this text.
-/

set_option autoImplicit false

namespace StyleAudit.Text.Utf8

/-! ### The bytes of a text -/

theorem toList_loop (bytes : ByteArray) (index : Nat) (reversed : List UInt8) :
    ByteArray.toList.loop bytes index reversed =
      reversed.reverse ++ bytes.data.toList.drop index := by
  induction index, reversed using ByteArray.toList.loop.induct bytes with
  | case1 index reversed within ih =>
      have inside : index < bytes.data.size := within
      have next : bytes.get! index = bytes.data[index] := getElem!_pos bytes.data index inside
      rw [ByteArray.toList.loop, if_pos within, ih, next, List.reverse_cons, List.append_assoc,
        List.singleton_append, ← Array.getElem_toList inside, ← List.drop_eq_getElem_cons]
  | case2 index reversed outside =>
      have beyond : bytes.data.toList.length ≤ index := Nat.le_of_not_lt outside
      rw [ByteArray.toList.loop, if_neg outside, List.drop_eq_nil_of_le beyond, List.append_nil]

/-- The bytes of a text are those of its characters, one after the other. -/
theorem toUTF8_toList (text : String) :
    text.toUTF8.toList = text.toList.flatMap String.utf8EncodeChar := by
  have spelled : text.toUTF8 = (text.toList.flatMap String.utf8EncodeChar).toByteArray := by
    conv => lhs; rw [← @String.ofList_toList text]
    exact String.toByteArray_ofList
  rw [spelled, ByteArray.toList, toList_loop, List.reverse_nil, List.nil_append, List.drop_zero,
    List.data_toByteArray]

/-! ### One character -/

theorem start_of_between (byte : Nat) : step .between byte = start byte := rfl

/-- The first of two bytes. -/
theorem start_two {byte : Nat} (least : 0xC2 ≤ byte) (most : byte < 0xE0) :
    start byte = ⟨[], .inside (byte - 0xC0) 1 0x80 0xBF⟩ := by
  unfold start
  rw [if_neg (by omega), if_neg (by omega), if_pos most]

/-- The first of three bytes. -/
theorem start_three {byte : Nat} (least : 0xE0 ≤ byte) (most : byte < 0xF0) :
    start byte = ⟨[], .inside (byte - 0xE0) 2 (if byte = 0xE0 then 0xA0 else 0x80)
      (if byte = 0xED then 0x9F else 0xBF)⟩ := by
  unfold start
  rw [if_neg (by omega), if_neg (by omega), if_neg (by omega), if_pos most]

/-- The first of four bytes. -/
theorem start_four {byte : Nat} (least : 0xF0 ≤ byte) (most : byte < 0xF5) :
    start byte = ⟨[], .inside (byte - 0xF0) 3 (if byte = 0xF0 then 0x90 else 0x80)
      (if byte = 0xF4 then 0x8F else 0xBF)⟩ := by
  unfold start
  rw [if_neg (by omega), if_neg (by omega), if_neg (by omega), if_neg (by omega), if_pos most]

/-- A byte that may come next, when more are owed behind it. -/
theorem step_further {bits owed low high byte : Nat} (more : 1 < owed)
    (within : low ≤ byte ∧ byte ≤ high) :
    step (.inside bits owed low high) byte =
      ⟨[], .inside (bits * 64 + (byte - 0x80)) (owed - 1) 0x80 0xBF⟩ := by
  simp only [step]
  rw [if_pos within, if_neg (by omega)]

/-- The last byte owed. -/
theorem step_last {bits low high byte : Nat} (within : low ≤ byte ∧ byte ≤ high) :
    step (.inside bits 1 low high) byte =
      ⟨[some (Char.ofNat (bits * 64 + (byte - 0x80)))], .between⟩ := by
  simp only [step]
  rw [if_pos within, if_pos (Nat.le_refl 1)]

section Codes

variable {code : Nat} (rest : List UInt8)

theorem scan_one_byte (most : code ≤ 0x7F) :
    scan .between (UInt8.ofNat code :: rest) = some (Char.ofNat code) :: scan .between rest := by
  have lead := UInt8.toNat_ofNat_of_lt' (show code < 256 by omega)
  have ascii : (UInt8.ofNat code).toNat < 0x80 := by omega
  rw [scan_ascii between_isSound ascii, lead]
  rfl

theorem scan_two_bytes (least : 0x7F < code) (most : code ≤ 0x7FF) :
    scan .between (UInt8.ofNat (code / 64 % 32 + 192) :: UInt8.ofNat (code % 64 + 128) :: rest) =
      some (Char.ofNat code) :: scan .between rest := by
  have lead := UInt8.toNat_ofNat_of_lt' (show code / 64 % 32 + 192 < 256 by omega)
  have last := UInt8.toNat_ofNat_of_lt' (show code % 64 + 128 < 256 by omega)
  have whole : (code / 64 % 32 + 192 - 0xC0) * 64 + (code % 64 + 128 - 0x80) = code := by omega
  rw [scan_cons, scan_cons, lead, last, start_of_between, start_two (by omega) (by omega)]
  dsimp only
  rw [step_last (by omega), whole]
  rfl

theorem scan_three_bytes (least : 0x7FF < code) (most : code ≤ 0xFFFF)
    (scalar : code < 0xD800 ∨ 0xDFFF < code) :
    scan .between (UInt8.ofNat (code / 4096 % 16 + 224) :: UInt8.ofNat (code / 64 % 64 + 128) ::
        UInt8.ofNat (code % 64 + 128) :: rest) =
      some (Char.ofNat code) :: scan .between rest := by
  have lead := UInt8.toNat_ofNat_of_lt' (show code / 4096 % 16 + 224 < 256 by omega)
  have second := UInt8.toNat_ofNat_of_lt' (show code / 64 % 64 + 128 < 256 by omega)
  have last := UInt8.toNat_ofNat_of_lt' (show code % 64 + 128 < 256 by omega)
  have whole : ((code / 4096 % 16 + 224 - 0xE0) * 64 + (code / 64 % 64 + 128 - 0x80)) * 64 +
      (code % 64 + 128 - 0x80) = code := by omega
  -- The bounds of the second byte shut out overlong forms and surrogates.
  have bounded : (if code / 4096 % 16 + 224 = 0xE0 then 0xA0 else 0x80) ≤ code / 64 % 64 + 128 ∧
      code / 64 % 64 + 128 ≤ (if code / 4096 % 16 + 224 = 0xED then 0x9F else 0xBF) := by
    split <;> split <;> omega
  rw [scan_cons, scan_cons, scan_cons, lead, second, last, start_of_between,
    start_three (by omega) (by omega)]
  dsimp only
  rw [step_further (by omega) bounded]
  dsimp only
  rw [step_last (by omega), whole]
  rfl

theorem scan_four_bytes (least : 0xFFFF < code) (most : code < 0x110000) :
    scan .between (UInt8.ofNat (code / 262144 % 8 + 240) :: UInt8.ofNat (code / 4096 % 64 + 128) ::
        UInt8.ofNat (code / 64 % 64 + 128) :: UInt8.ofNat (code % 64 + 128) :: rest) =
      some (Char.ofNat code) :: scan .between rest := by
  have lead := UInt8.toNat_ofNat_of_lt' (show code / 262144 % 8 + 240 < 256 by omega)
  have second := UInt8.toNat_ofNat_of_lt' (show code / 4096 % 64 + 128 < 256 by omega)
  have third := UInt8.toNat_ofNat_of_lt' (show code / 64 % 64 + 128 < 256 by omega)
  have last := UInt8.toNat_ofNat_of_lt' (show code % 64 + 128 < 256 by omega)
  have whole : (((code / 262144 % 8 + 240 - 0xF0) * 64 + (code / 4096 % 64 + 128 - 0x80)) * 64 +
      (code / 64 % 64 + 128 - 0x80)) * 64 + (code % 64 + 128 - 0x80) = code := by omega
  -- The bounds of the second byte shut out overlong forms and codes behind the last character.
  have bounded :
      (if code / 262144 % 8 + 240 = 0xF0 then 0x90 else 0x80) ≤ code / 4096 % 64 + 128 ∧
        code / 4096 % 64 + 128 ≤ (if code / 262144 % 8 + 240 = 0xF4 then 0x8F else 0xBF) := by
    split <;> split <;> omega
  rw [scan_cons, scan_cons, scan_cons, scan_cons, lead, second, third, last, start_of_between,
    start_four (by omega) (by omega)]
  dsimp only
  rw [step_further (by omega) bounded]
  dsimp only
  rw [step_further (by omega) (by omega)]
  dsimp only
  rw [step_last (by omega), whole]
  rfl

end Codes

/-- A decoder between two characters takes the bytes of a character as this character. -/
theorem scan_encoded (character : Char) (rest : List UInt8) :
    scan .between (String.utf8EncodeChar character ++ rest) =
      some character :: scan .between rest := by
  have scalar : character.toNat < 0xD800 ∨ 0xDFFF < character.toNat ∧
      character.toNat < 0x110000 := character.valid
  have read : Char.ofNat character.toNat = character := Char.ofNat_toNat character
  conv => rhs; rw [← read]
  show scan .between ((if character.toNat ≤ 0x7F then _ else if character.toNat ≤ 0x7FF then _
    else if character.toNat ≤ 0xFFFF then _ else _) ++ rest) = _
  split
  · exact @scan_one_byte character.toNat rest (by omega)
  · split
    · exact @scan_two_bytes character.toNat rest (by omega) (by omega)
    · split
      · exact @scan_three_bytes character.toNat rest (by omega) (by omega) (by omega)
      · exact @scan_four_bytes character.toNat rest (by omega) (by omega)

/-! ### A whole text -/

theorem scan_encodedAll (characters : List Char) (rest : List UInt8) :
    scan .between (characters.flatMap String.utf8EncodeChar ++ rest) =
      characters.map some ++ scan .between rest := by
  induction characters with
  | nil => rfl
  | cons first others ih =>
      rw [List.flatMap_cons, List.append_assoc, scan_encoded, ih, List.map_cons, List.cons_append]

theorem scan_toUTF8 (text : String) :
    scan .between text.toUTF8.toList = text.toList.map some := by
  have read := scan_encodedAll text.toList []
  rw [List.append_nil, ← toUTF8_toList] at read
  simpa [scan] using read

/-- The bytes of a text give the text. -/
theorem decode_toUTF8 (text : String) : decode text.toUTF8.toList = text.toList := by
  rw [decode, scan_toUTF8, List.map_map]
  exact List.map_id _

theorem decode?_toUTF8 (text : String) : decode? text.toUTF8.toList = some text.toList := by
  rw [decode?, scan_toUTF8, mapM_id_eq_some_iff]

end StyleAudit.Text.Utf8
