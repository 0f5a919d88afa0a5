import StyleAudit.Text.Hexadecimal

/-!
Reading bytes as UTF-8.

A decoder stands between two characters or inside one, where it knows how many bytes are owed and
which ones may come next. A byte that may not come next ends the character begun as one that cannot
be read, and is then looked at afresh, so that damage never reaches beyond the damaged bytes.
-/

set_option autoImplicit false

namespace StyleAudit.Text.Utf8

/-- Where a decoder stands. -/
inductive State where
  | between
  /-- Inside a character: its bits so far, the number of bytes owed, and the bounds of the next
  one. -/
  | inside (bits owed low high : Nat)
deriving DecidableEq, Repr

/-- What a byte contributes: characters, or marks of damage, and where the decoder stands then. -/
structure Outcome where
  characters : List (Option Char)
  state : State

/-- A byte between two characters. -/
def start (byte : Nat) : Outcome :=
  if byte < 0x80 then ⟨[some (Char.ofNat byte)], .between⟩
  else if byte < 0xC2 then ⟨[none], .between⟩
  else if byte < 0xE0 then ⟨[], .inside (byte - 0xC0) 1 0x80 0xBF⟩
  else if byte < 0xF0 then
    ⟨[], .inside (byte - 0xE0) 2 (if byte = 0xE0 then 0xA0 else 0x80)
      (if byte = 0xED then 0x9F else 0xBF)⟩
  else if byte < 0xF5 then
    ⟨[], .inside (byte - 0xF0) 3 (if byte = 0xF0 then 0x90 else 0x80)
      (if byte = 0xF4 then 0x8F else 0xBF)⟩
  else ⟨[none], .between⟩

/-- A byte wherever the decoder stands. -/
def step : State → Nat → Outcome
  | .between, byte => start byte
  | .inside bits owed low high, byte =>
    if low ≤ byte ∧ byte ≤ high then
      let bits := bits * 64 + (byte - 0x80)
      if owed ≤ 1 then ⟨[some (Char.ofNat bits)], .between⟩
      else ⟨[], .inside bits (owed - 1) 0x80 0xBF⟩
    else
      let fresh := start byte
      ⟨none :: fresh.characters, fresh.state⟩

/-- The characters of bytes, with a mark for each stretch that cannot be read. -/
def scan : State → List UInt8 → List (Option Char)
  | .between, [] => []
  | .inside _ _ _ _, [] => [none]
  | state, byte :: rest =>
    let outcome := step state byte.toNat
    outcome.characters ++ scan outcome.state rest

/-- The character that stands for bytes that cannot be read. -/
def replacement : Char :=
  '\uFFFD'

/-- The characters of any bytes. -/
def decode (bytes : List UInt8) : List Char :=
  (scan .between bytes).map (·.getD replacement)

/-- The characters of bytes that are all readable. -/
def decode? (bytes : List UInt8) : Option (List Char) :=
  (scan .between bytes).mapM id

/-! ### Telling what is wrong -/

/-- Why bytes cannot be read. -/
inductive DamageCause where
  /-- No character starts with this byte. -/
  | start
  /-- The character is not continued by the next byte. -/
  | continuation
  /-- The bytes end within the character. -/
  | ending
deriving DecidableEq, Repr

/-- The first bytes that cannot be read, and the number of bytes in front of them. -/
structure Damage where
  offset : Nat
  bytes : List UInt8
  cause : DamageCause
deriving DecidableEq, Repr

/-- Looks for damage from a state on, after `offset` bytes, of which the last ones have begun a
character. -/
def damageFrom : (offset : Nat) → (begun : List UInt8) → State → List UInt8 → Option Damage
  | _, _, .between, [] => none
  | offset, begun, .inside _ _ _ _, [] => some ⟨offset - begun.length, begun, .ending⟩
  | offset, begun, state, byte :: rest =>
    let outcome := step state byte.toNat
    if outcome.characters.contains none then
      if begun.isEmpty then some ⟨offset, [byte], .start⟩
      else some ⟨offset - begun.length, begun, .continuation⟩
    else
      let begun := if outcome.state = .between then [] else begun ++ [byte]
      damageFrom (offset + 1) begun outcome.state rest

/-- The first damage in some bytes. -/
def damage? (bytes : List UInt8) : Option Damage :=
  damageFrom 0 [] .between bytes

/-- The text of a cause. -/
def DamageCause.text : DamageCause → String
  | start => "invalid start byte"
  | continuation => "invalid continuation byte"
  | ending => "unexpected end of data"

/-- The text of a damage. -/
def Damage.text (damage : Damage) : String :=
  let place := match damage.bytes with
    | [byte] =>
      "byte 0x" ++ String.ofList (hexDigits 2 byte.toNat) ++ s!" in position {damage.offset}"
    | bytes => s!"bytes in position {damage.offset}-{damage.offset + bytes.length - 1}"
  "'utf-8' codec can't decode " ++ place ++ ": " ++ damage.cause.text

end StyleAudit.Text.Utf8
