import StyleAudit.Decimal.Shortest

/-!
The text of a binary number.

The fewest digits that read back are written positionally where the number is neither tiny nor huge,
and with a power of ten otherwise. The format's decisions are one record.
-/

set_option autoImplicit false

namespace StyleAudit.Decimal

/-- How a number is laid out. -/
structure Layout where
  /-- The place of the point up to which small numbers are written positionally. -/
  least : Int
  /-- The place of the point up to which large numbers are written positionally. -/
  greatest : Int
  /-- The number of digits that an exponent has at least. -/
  exponentWidth : Nat
  infinite : String
  notNumber : String

/-- Numbers from a ten-thousandth up to below ten to the sixteenth are written positionally, and an
exponent has a sign and two digits. -/
def standardLayout : Layout :=
  ⟨-3, 16, 2, "inf", "nan"⟩

/-- Digits without the zeros at their end. -/
def trimZeros (digits : List Char) : List Char :=
  (digits.reverse.dropWhile (· = '0')).reverse

/-- An exponent with its sign and at least `width` digits. -/
def exponentText (width : Nat) (exponent : Int) : List Char :=
  let digits := digitsOf exponent.natAbs
  (if exponent < 0 then '-' else '+') :: List.replicate (width - digits.length) '0' ++ digits

/-- Digits with the point behind `point` of them; at least one digit stands on either side. -/
def positional (digits : List Char) (point : Int) : List Char :=
  if point ≤ 0 then '0' :: '.' :: List.replicate (-point).toNat '0' ++ digits
  else if digits.length ≤ point.toNat then
    digits ++ List.replicate (point.toNat - digits.length) '0' ++ ['.', '0']
  else digits.take point.toNat ++ '.' :: digits.drop point.toNat

/-- Digits with the point behind the first one and a power of ten. -/
def scientific (width : Nat) (digits : List Char) (point : Int) : List Char :=
  let fraction := match digits.tail with
    | [] => []
    | rest => '.' :: rest
  digits.take 1 ++ fraction ++ 'e' :: exponentText width (point - 1)

/-- The text of the absolute value of a finite number. -/
def Layout.magnitude (layout : Layout) (mantissa : Nat) (exponent : Int) : List Char :=
  if mantissa = 0 then ['0', '.', '0']
  else
    let found := shortest mantissa exponent
    let all := digitsOf found.digits
    let point := Int.ofNat all.length + found.exponent
    let digits := trimZeros all
    if point < layout.least || layout.greatest < point then
      scientific layout.exponentWidth digits point
    else positional digits point

/-- The text of a number. -/
def Layout.text (layout : Layout) : Binary → String
  | .finite negative mantissa exponent =>
    String.ofList ((if negative then ['-'] else []) ++ layout.magnitude mantissa exponent)
  | .infinite negative => (if negative then "-" else "") ++ layout.infinite
  | .notNumber => layout.notNumber

end StyleAudit.Decimal
