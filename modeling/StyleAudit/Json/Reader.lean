import StyleAudit.Value

/-!
Reading JSON.

A text is one value with blanks around it. Beyond the standard, `NaN` and the infinities are
numbers, and a name that occurs twice in a table takes its last value.
-/

set_option autoImplicit false

namespace StyleAudit.Json

/-- What is wrong with a text. -/
inductive Cause where
  | byteOrderMark
  | noValue
  | noName
  | noColon
  | noComma
  | openString
  | controlCharacter
  | badEscape
  | badCodeEscape
  | extraData
  | tooManyDigits (count : Nat)
deriving DecidableEq, Repr

/-- A cause with the number of characters in front of the place. -/
structure Error where
  cause : Cause
  offset : Nat
deriving DecidableEq, Repr

/-- What is left of a text, and how many characters were read. -/
structure Place where
  rest : List Char
  offset : Nat

namespace Place

/-- The place behind the next `count` characters. -/
def advance (place : Place) (count : Nat) : Place :=
  ⟨place.rest.drop count, place.offset + count⟩

/-- Whether a character separates tokens. -/
def isBlank (character : Char) : Bool :=
  character == ' ' || character == '\t' || character == '\n' || character == '\r'

/-- The place behind the blanks in front. -/
def skipBlanks (place : Place) : Place :=
  place.advance (place.rest.takeWhile isBlank).length

/-- The refusal of a text at a place. -/
def refuse {α : Type} (place : Place) (cause : Cause) : Except Error α :=
  .error ⟨cause, place.offset⟩

end Place

/-! ### Strings -/

/-- The first unit of a pair of units that stand for one character. -/
def isLeading (unit : Nat) : Bool :=
  0xD800 ≤ unit && unit < 0xDC00

/-- The second unit of such a pair. -/
def isTrailing (unit : Nat) : Bool :=
  0xDC00 ≤ unit && unit < 0xE000

/-- The character of a unit; half of a pair is no character. -/
def unitCharacter (unit : Nat) : Char :=
  if isLeading unit || isTrailing unit then '\uFFFD' else Char.ofNat unit

/-- The character of a pair of units. -/
def pairCharacter (leading trailing : Nat) : Char :=
  Char.ofNat (0x10000 + (leading - 0xD800) * 0x400 + (trailing - 0xDC00))

/-- Reads four hexadecimal digits behind `\u`. At least one more character has to follow. -/
def codeUnit (place : Place) : Except Error (Nat × Place) :=
  if place.rest.length ≤ 4 then .error ⟨.badCodeEscape, place.offset - 1⟩
  else
    match Text.hexNumber? (place.rest.take 4) with
    | some unit => .ok (unit, place.advance 4)
    | none => .error ⟨.badCodeEscape, place.offset - 1⟩

/-- Reads what `\u` stands for, from its digits on: one character, perhaps given by two units. -/
def codeEscape (place : Place) : Except Error (Char × Place) := do
  let (unit, after) ← codeUnit place
  match after.rest with
  | '\\' :: 'u' :: more =>
    if isLeading unit && 4 < more.length then
      let (second, afterPair) ← codeUnit (after.advance 2)
      if isTrailing second then return (pairCharacter unit second, afterPair)
      else return (unitCharacter unit, after)
    else return (unitCharacter unit, after)
  | _ => return (unitCharacter unit, after)

/-- The character that a simple escape stands for. -/
def simpleEscape? : Char → Option Char
  | '"' => some '"'
  | '\\' => some '\\'
  | '/' => some '/'
  | 'b' => some '\x08'
  | 'f' => some '\x0c'
  | 'n' => some '\n'
  | 'r' => some '\r'
  | 't' => some '\t'
  | _ => none

/-- Reads the rest of a string whose quote stands at `opening`; `fuel` bounds the characters. -/
def stringRest (opening : Nat) : (fuel : Nat) → List Char → Place → Except Error (String × Place)
  | 0, _, _ => .error ⟨.openString, opening⟩
  | fuel + 1, reversed, place =>
    match place.rest with
    | [] => .error ⟨.openString, opening⟩
    | '"' :: _ => .ok (String.ofList reversed.reverse, place.advance 1)
    | '\\' :: escaped =>
      match escaped with
      | [] => .error ⟨.openString, opening⟩
      | 'u' :: _ => do
        let (character, after) ← codeEscape (place.advance 2)
        stringRest opening fuel (character :: reversed) after
      | marker :: _ =>
        match simpleEscape? marker with
        | some character => stringRest opening fuel (character :: reversed) (place.advance 2)
        | none => place.refuse .badEscape
    | character :: _ =>
      if character.toNat < 0x20 then place.refuse .controlCharacter
      else stringRest opening fuel (character :: reversed) (place.advance 1)

/-- Reads a string from its opening quote on. -/
def string (place : Place) : Except Error (String × Place) :=
  stringRest place.offset (place.rest.length + 1) [] (place.advance 1)

/-! ### Numbers -/

/-- The digits of a whole number in front of a text; none starts with a zero but zero itself. -/
def wholeDigits (text : List Char) : List Char :=
  match text with
  | '0' :: _ => ['0']
  | _ => Decimal.digitsAhead text

/-- The digits behind a point in front of a text. -/
def fractionDigits (text : List Char) : List Char :=
  match text with
  | '.' :: rest => Decimal.digitsAhead rest
  | _ => []

/-- The exponent in front of a text, with the number of its characters. -/
def exponentAhead (text : List Char) : Int × Nat :=
  match text with
  | marker :: rest =>
    if marker == 'e' || marker == 'E' then
      let (negative, signs, digits) := match rest with
        | '-' :: more => (true, 1, Decimal.digitsAhead more)
        | '+' :: more => (false, 1, Decimal.digitsAhead more)
        | more => (false, 0, Decimal.digitsAhead more)
      if digits.isEmpty then (0, 0)
      else
        let magnitude := Int.ofNat (Decimal.numberOf digits)
        (if negative then -magnitude else magnitude, 1 + signs + digits.length)
    else (0, 0)
  | [] => (0, 0)

/-- Reads a number. -/
def number (place : Place) : Except Error (Value × Place) :=
  let (negative, body) := match place.rest with
    | '-' :: rest => (true, rest)
    | rest => (false, rest)
  let whole := wholeDigits body
  if whole.isEmpty then place.refuse .noValue
  else
    let afterWhole := body.drop whole.length
    let fraction := fractionDigits afterWhole
    let fractionLength := if fraction.isEmpty then 0 else fraction.length + 1
    let (exponent, exponentLength) := exponentAhead (afterWhole.drop fractionLength)
    let signLength := if negative then 1 else 0
    let after := place.advance (signLength + whole.length + fractionLength + exponentLength)
    if fractionLength = 0 && exponentLength = 0 then
      if Decimal.digitLimit < whole.length then place.refuse (.tooManyDigits whole.length)
      else
        let magnitude := Int.ofNat (Decimal.numberOf whole)
        .ok (.integer (if negative then -magnitude else magnitude), after)
    else
      let digits := Decimal.numberOf (whole ++ fraction)
      .ok (.real (.ofDecimal negative digits (exponent - fraction.length)), after)

/-! ### Values -/

/-- The values that are words. -/
def wordValues : List (String × Value) :=
  [("null", .null), ("true", .boolean true), ("false", .boolean false), ("NaN", .real .notNumber),
    ("Infinity", .real (.infinite false)), ("-Infinity", .real (.infinite true))]

/-- The word in front of a text, with its value. -/
def wordAhead? (text : List Char) : Option (String × Value) :=
  wordValues.find? fun entry => entry.1.toList.isPrefixOf text

mutual

/-- Reads a value; `fuel` bounds the nesting. -/
def value : (fuel : Nat) → Place → Except Error (Value × Place)
  | 0, place => place.refuse .noValue
  | fuel + 1, place =>
    match place.rest with
    | '"' :: _ => do
      let (text, after) ← string place
      return (.text text, after)
    | '\x7b' :: _ =>
      let inside := (place.advance 1).skipBlanks
      match inside.rest with
      | '\x7d' :: _ => .ok (.table [], inside.advance 1)
      | _ => members fuel [] inside
    | '[' :: _ =>
      let inside := (place.advance 1).skipBlanks
      match inside.rest with
      | ']' :: _ => .ok (.list [], inside.advance 1)
      | _ => items fuel [] inside
    | text =>
      match wordAhead? text with
      | some (word, value) => .ok (value, place.advance word.length)
      | none => number place

/-- Reads the items of a list up to its bracket. -/
def items : (fuel : Nat) → List Value → Place → Except Error (Value × Place)
  | 0, _, place => place.refuse .noValue
  | fuel + 1, reversed, place => do
    let (item, after) ← value fuel place
    let after := after.skipBlanks
    match after.rest with
    | ']' :: _ => return (.list (item :: reversed).reverse, after.advance 1)
    | ',' :: _ => items fuel (item :: reversed) (after.advance 1).skipBlanks
    | _ => after.refuse .noComma

/-- Reads the members of a table up to its brace. -/
def members : (fuel : Nat) → List (String × Value) → Place → Except Error (Value × Place)
  | 0, _, place => place.refuse .noName
  | fuel + 1, before, place =>
    match place.rest with
    | '"' :: _ => do
      let (name, afterName) ← string place
      let colon := afterName.skipBlanks
      match colon.rest with
      | ':' :: _ =>
        let (member, after) ← value fuel (colon.advance 1).skipBlanks
        let all := Value.insertMember name member before
        let after := after.skipBlanks
        match after.rest with
        | '\x7d' :: _ => return (.table all, after.advance 1)
        | ',' :: _ => members fuel all (after.advance 1).skipBlanks
        | _ => after.refuse .noComma
      | _ => colon.refuse .noColon
    | _ => place.refuse .noName

end

/-- Reads a whole text. -/
def parse (text : String) : Except Error Value := do
  let start : Place := ⟨text.toList, 0⟩
  if text.toList.head? = some '\uFEFF' then start.refuse .byteOrderMark
  let (result, after) ← value (text.length + 1) start.skipBlanks
  let after := after.skipBlanks
  if after.rest.isEmpty then return result
  else after.refuse .extraData

/-! ### Texts of errors -/

/-- What a cause says. -/
def Cause.text : Cause → String
  | byteOrderMark => "Unexpected UTF-8 BOM (decode using utf-8-sig)"
  | noValue => "Expecting value"
  | noName => "Expecting property name enclosed in double quotes"
  | noColon => "Expecting ':' delimiter"
  | noComma => "Expecting ',' delimiter"
  | openString => "Unterminated string starting at"
  | controlCharacter => "Invalid control character at"
  | badEscape => "Invalid \\escape"
  | badCodeEscape => "Invalid \\uXXXX escape"
  | extraData => "Extra data"
  | tooManyDigits count =>
    s!"Exceeds the limit ({Decimal.digitLimit} digits) for integer string conversion: " ++
      s!"value has {count} digits; use sys.set_int_max_str_digits() to increase the limit"

/-- The full text of an error in a text, with its line, its column and its offset. -/
def Error.message (error : Error) (text : String) : String :=
  match error.cause with
  | .tooManyDigits _ => error.cause.text
  | cause =>
    let before := text.toList.take error.offset
    let line := before.count '\n' + 1
    let column := (before.reverse.takeWhile (· ≠ '\n')).length + 1
    s!"{cause.text}: line {line} column {column} (char {error.offset})"

end StyleAudit.Json
