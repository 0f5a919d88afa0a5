import StyleAudit.Decimal.Layout
import StyleAudit.Decimal.Rounded
import StyleAudit.Template.Form

/-!
How a field of a template shows a number.

A number is written as a sign, a marker of its base, digits in groups, and a tail that begins at the
point or at the exponent. Only the digits are grouped, and zeros that fill up the width are grouped
with them.
-/

set_option autoImplicit false

namespace StyleAudit.Template

/-- The parts of a written number. -/
structure Numeral where
  negative : Bool
  marker : List Char
  digits : List Char
  tail : List Char
deriving DecidableEq, Repr

/-- The sign that a number is written with. -/
def Form.signOf (form : Form) (negative : Bool) : List Char :=
  if negative then ['-']
  else
    match form.sign with
    | some '+' => ['+']
    | some ' ' => [' ']
    | _ => []

/-- Groups digits that are given from the last one to the first, after filling them up with zeros;
`least` is the width that is still to be filled, and `fuel` bounds the groups. -/
def groupDigits (separator : Char) (size : Nat) :
    (fuel : Nat) → (least : Int) → List Char → List Char
  | 0, _, reversed => reversed
  | fuel + 1, least, reversed =>
    let length := min size (max (max reversed.length least.toNat) 1)
    let taken := reversed.take length
    let group := taken ++ List.replicate (length - taken.length) '0'
    let rest := reversed.drop length
    let left := least - length
    if rest.isEmpty && left ≤ 0 then group
    else group ++ separator :: groupDigits separator size fuel (left - 1) rest

/-- The digits of a number with their separators, filled up with zeros to a width. -/
def Form.grouped (form : Form) (least : Int) (digits : List Char) : List Char :=
  match form.separator with
  | none => Decimal.padDigits least.toNat digits
  | some separator =>
    let size := (Form.groupSize? separator form.kind).getD 3
    (groupDigits separator size (digits.length + least.toNat + 1) least digits.reverse).reverse

/-- Shows a number. -/
def Form.place (form : Form) (numeral : Numeral) : List Char :=
  let sign := form.signOf numeral.negative
  let fixed := sign.length + numeral.marker.length + numeral.tail.length
  let least : Int :=
    if form.fill = '0' && form.alignment = .inner then
      Int.ofNat (form.width.getD 0) - Int.ofNat fixed
    else 0
  let digits := if numeral.digits.isEmpty then [] else form.grouped least numeral.digits
  let head := sign ++ numeral.marker
  let body := digits ++ numeral.tail
  let (left, right) := form.padding (head.length + body.length)
  if form.alignment = .inner then head ++ right ++ body else left ++ head ++ body ++ right

/-! ### Whole numbers -/

/-- The base of a kind, and the letter that marks it. -/
def baseOf : Char → Nat × Char
  | 'b' => (2, 'b')
  | 'o' => (8, 'o')
  | 'x' => (16, 'x')
  | 'X' => (16, 'X')
  | _ => (10, 'd')

/-- The parts of a whole number. -/
def wholeNumeral (form : Form) (kind : Char) (number : Int) : Numeral :=
  let (base, letter) := baseOf kind
  let digits := Nat.toDigits base number.natAbs
  { negative := number < 0
    marker := if form.alternate && base != 10 then ['0', letter] else []
    digits := if kind = 'X' then digits.map Char.toUpper else digits
    tail := [] }

/-- Shows the character that a number is the code point of. -/
def Form.showCharacter (form : Form) (number : Int) : Except TemplateError (List Char) :=
  if form.sign.isSome || form.alternate then .error .malformed
  else if number < 0 || 0x10FFFF < number then .error .tooLarge
  else .ok (form.place ⟨false, [], [], [Char.ofNat number.toNat]⟩)

/-- Shows a number in a kind for whole numbers. -/
def Form.showWhole (form : Form) (kind : Char) (number : Int) : Except TemplateError (List Char) :=
  if form.plainZero || form.precision.isSome then .error .malformed
  else if kind = 'c' then form.showCharacter number
  else .ok (form.place (wholeNumeral form kind number))

/-! ### Numbers with a point -/

/-- Digits behind a point, which is left out where there are none and nothing asks for it. -/
def behindPoint (form : Form) (digits : List Char) : List Char :=
  if digits.isEmpty && !form.alternate then [] else '.' :: digits

/-- Digits without the zeros at their end, unless a form keeps them. -/
def trimFraction (form : Form) (digits : List Char) : List Char :=
  if form.alternate then digits else Decimal.trimZeros digits

/-- Digits and a tail with a fixed number of places. -/
def fixedParts (form : Form) (precision : Nat) (value : Nat × Nat) : List Char × List Char :=
  let (whole, fraction) := Decimal.fixedDigits precision value
  (whole, behindPoint form fraction)

/-- Digits and a tail with an exponent. -/
def exponentParts (form : Form) (letter : Char) (digits : List Char) (exponent : Int) :
    List Char × List Char :=
  (digits.take 1, behindPoint form (digits.drop 1) ++ letter :: Decimal.exponentText 2 exponent)

/-- Digits and a tail with as many digits as the precision says, whichever way is shorter. With
`pointed`, a number has a point where it has no exponent. -/
def generalParts (form : Form) (letter : Char) (pointed : Bool) (precision : Nat)
    (value : Nat × Nat) : List Char × List Char :=
  let precision := max precision 1
  let (digits, exponent) := Decimal.significantDigits precision value
  let limit : Int := if pointed then precision - 1 else precision
  if exponent < -4 || limit ≤ exponent then
    exponentParts form letter (digits.take 1 ++ trimFraction form (digits.drop 1)) exponent
  else
    let (whole, fraction) :=
      if exponent < 0 then (['0'], List.replicate (-exponent - 1).toNat '0' ++ digits)
      else (digits.take (exponent + 1).toNat, digits.drop (exponent + 1).toNat)
    let fraction := trimFraction form fraction
    (whole, behindPoint form (if pointed && fraction.isEmpty then ['0'] else fraction))

/-- Digits and a tail of an absolute value in a kind. -/
def realParts (form : Form) (kind : Option Char) (mantissa : Nat) (exponent : Int) :
    List Char × List Char :=
  let value := Decimal.Binary.quotient mantissa exponent
  let precision := form.precision.getD 6
  match kind with
  | some 'e' => exponential 'e' precision value
  | some 'E' => exponential 'E' precision value
  | some 'g' => generalParts form 'e' false precision value
  | some 'n' => generalParts form 'e' false precision value
  | some 'G' => generalParts form 'E' false precision value
  | some _ => fixedParts form precision value
  | none =>
    match form.precision with
    | some precision => generalParts form 'e' true precision value
    | none =>
      let text := Decimal.standardLayout.magnitude mantissa exponent
      let tail := text.dropWhile Char.isDigit
      (text.takeWhile Char.isDigit,
        if form.alternate && !tail.contains '.' then '.' :: tail else tail)
where
  exponential (letter : Char) (precision : Nat) (value : Nat × Nat) : List Char × List Char :=
    let (digits, exponent) := Decimal.significantDigits (precision + 1) value
    exponentParts form letter digits exponent

/-- The parts of a number with a point. A word stands for one that is out of reach. -/
def realNumeral (form : Form) (kind : Option Char) (number : Decimal.Binary) : Numeral :=
  let upper := kind == some 'E' || kind == some 'F' || kind == some 'G'
  let percent := if kind = some '%' then ['%'] else []
  match number with
  | .infinite negative => ⟨negative, [], [], (if upper then "INF" else "inf").toList ++ percent⟩
  | .notNumber => ⟨false, [], [], (if upper then "NAN" else "nan").toList ++ percent⟩
  | .finite negative mantissa exponent =>
    let (digits, tail) := realParts form kind mantissa exponent
    let shown := digits ++ tail.takeWhile fun character => character != 'e' && character != 'E'
    let isZero := shown.all fun character => !character.isDigit || character == '0'
    ⟨negative && !(form.plainZero && isZero), [], digits, tail ++ percent⟩

/-- A number a hundred times as large. -/
def hundredfold : Decimal.Binary → Decimal.Binary
  | .finite negative mantissa exponent =>
    let (above, below) := Decimal.Binary.quotient (mantissa * 100) exponent
    .ofQuotient negative above below
  | other => other

/-- The kinds of numbers with a point. -/
def realKinds : List Char :=
  "eEfFgG%".toList

/-- Shows a number in a kind for numbers with a point. -/
def Form.showReal (form : Form) (number : Decimal.Binary) : Except TemplateError (List Char) :=
  let number := if form.kind = some '%' then hundredfold number else number
  match form.kind with
  | none => .ok (form.place (realNumeral form none number))
  | some kind =>
    if kind = 'n' || realKinds.contains kind then .ok (form.place (realNumeral form kind number))
    else .error .malformed

/-- Shows a whole number. -/
def Form.showInteger (form : Form) (number : Int) : Except TemplateError (List Char) :=
  let kind := form.kind.getD 'd'
  if "bcdoxXn".toList.contains kind then form.showWhole kind number
  else if realKinds.contains kind then
    match Decimal.Binary.ofInt? number with
    | some real => form.showReal real
    | none => .error .tooLarge
  else .error .malformed

end StyleAudit.Template
