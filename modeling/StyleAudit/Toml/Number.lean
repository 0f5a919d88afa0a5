import StyleAudit.Text.Hexadecimal
import StyleAudit.Toml.Text
import StyleAudit.Value

/-!
Numbers of TOML.

Single underscores may stand between the digits of a number. Whole numbers may be given by
hexadecimal, octal or binary digits, without a sign.
-/

set_option autoImplicit false

namespace StyleAudit.Toml

/-- More digits of a number behind a digit, each perhaps behind an underscore. -/
def moreDigits (accepts : Char → Bool) : List Char → List Char × List Char
  | '_' :: digit :: rest =>
    if accepts digit then
      let (digits, after) := moreDigits accepts rest
      (digit :: digits, after)
    else ([], '_' :: digit :: rest)
  | digit :: rest =>
    if accepts digit then
      let (digits, after) := moreDigits accepts rest
      (digit :: digits, after)
    else ([], digit :: rest)
  | [] => ([], [])

/-- The digits in front of a text, and what follows them. -/
def groupedDigits (accepts : Char → Bool) (text : List Char) : List Char × List Char :=
  match text with
  | first :: _ => if accepts first then moreDigits accepts text else ([], text)
  | [] => ([], [])

/-- The base that a letter behind a zero announces. -/
def baseOf? : Char → Option Nat
  | 'x' => some 16
  | 'o' => some 8
  | 'b' => some 2
  | _ => none

/-- Whether a character is a digit in a base. -/
def isDigitOf (base : Nat) (character : Char) : Bool :=
  match Text.hexValue? character with
  | some value => value < base
  | none => false

/-- The number that digits make up in a base. -/
def numberIn (base : Nat) (digits : List Char) : Nat :=
  digits.foldl (fun number digit => number * base + (Text.hexValue? digit).getD 0) 0

/-- Reads a whole number that announces its base. -/
def basedNumber? : List Char → Option (Value × List Char)
  | '0' :: marker :: rest => do
    let base ← baseOf? marker
    let (digits, after) := groupedDigits (isDigitOf base) rest
    if digits.isEmpty then none else some (.integer (numberIn base digits), after)
  | _ => none

/-- A sign, if there is one: whether it is a minus, and what follows it. -/
def signAhead : List Char → Bool × List Char
  | '-' :: rest => (true, rest)
  | '+' :: rest => (false, rest)
  | text => (false, text)

/-- The digits of a whole number in front of a text; none starts with a zero but zero itself. -/
def wholeDigits (text : List Char) : List Char × List Char :=
  match text with
  | '0' :: rest => (['0'], rest)
  | _ => groupedDigits Char.isDigit text

/-- The digits behind a point in front of a text. -/
def fractionAhead (text : List Char) : List Char × List Char :=
  match text with
  | '.' :: rest =>
    let (digits, after) := groupedDigits Char.isDigit rest
    if digits.isEmpty then ([], text) else (digits, after)
  | _ => ([], text)

/-- The exponent in front of a text. -/
def exponentAhead? (text : List Char) : Option (Int × List Char) :=
  match text with
  | marker :: rest =>
    if marker == 'e' || marker == 'E' then
      let (negative, unsigned) := signAhead rest
      let (digits, after) := groupedDigits Char.isDigit unsigned
      let magnitude := Int.ofNat (Decimal.numberOf digits)
      if digits.isEmpty then none
      else some (if negative then -magnitude else magnitude, after)
    else none
  | [] => none

/-- The number with a sign and a magnitude. -/
def signed (negative : Bool) (magnitude : Nat) : Int :=
  if negative then -Int.ofNat magnitude else Int.ofNat magnitude

/-- Reads a decimal number, which is a whole one unless it has a fraction or an exponent. -/
def decimalNumber (text : List Char) : Except Refusal (Value × List Char) :=
  let (negative, unsigned) := signAhead text
  let (whole, afterWhole) := wholeDigits unsigned
  let (fraction, afterFraction) := fractionAhead afterWhole
  if whole.isEmpty then .error .malformed
  else
    match exponentAhead? afterFraction with
    | some (exponent, after) =>
      .ok (real negative (whole ++ fraction) (exponent - fraction.length), after)
    | none =>
      if !fraction.isEmpty then
        .ok (real negative (whole ++ fraction) (-fraction.length), afterFraction)
      else if Decimal.digitLimit < whole.length then .error .tooManyDigits
      else .ok (.integer (signed negative (Decimal.numberOf whole)), afterFraction)
where
  real (negative : Bool) (digits : List Char) (exponent : Int) : Value :=
    .real (.ofDecimal negative (Decimal.numberOf digits) exponent)

/-- Reads one of the words that stand for numbers out of reach. -/
def wordNumber? (text : List Char) : Option (Value × List Char) :=
  match signAhead text with
  | (negative, 'i' :: 'n' :: 'f' :: rest) => some (.real (.infinite negative), rest)
  | (_, 'n' :: 'a' :: 'n' :: rest) => some (.real .notNumber, rest)
  | _ => none

/-- Reads a number. -/
def number (text : List Char) : Except Refusal (Value × List Char) :=
  match (basedNumber? text).or (wordNumber? text) with
  | some result => .ok result
  | none => decimalNumber text

end StyleAudit.Toml
