import StyleAudit.Decimal.Digits
import StyleAudit.Decimal.Rounding

/-!
Decimal digits of quotients, rounded to a number of places or of digits.
-/

set_option autoImplicit false

namespace StyleAudit.Decimal

/-- Digits with zeros in front, so that there are at least `width` of them. -/
def padDigits (width : Nat) (digits : List Char) : List Char :=
  List.replicate (width - digits.length) '0' ++ digits

/-- The digits before and behind the point of a quotient rounded to `places` places. -/
def fixedDigits (places : Nat) (value : Nat × Nat) : List Char × List Char :=
  let rounded := roundQuotient (value.1 * Nat.pow 10 places) value.2
  let digits := padDigits (places + 1) (digitsOf rounded)
  (digits.take (digits.length - places), digits.drop (digits.length - places))

/-- The quotient of a quotient and a power of ten. -/
def shifted (value : Nat × Nat) (exponent : Int) : Nat × Nat :=
  if exponent < 0 then (value.1 * Nat.pow 10 (-exponent).toNat, value.2)
  else (value.1, value.2 * Nat.pow 10 exponent.toNat)

/-- The exponent of the greatest power of ten that is at most a quotient other than zero. -/
def magnitudeOf (value : Nat × Nat) : Int :=
  let guess := Int.ofNat (digitsOf value.1).length - Int.ofNat (digitsOf value.2).length
  let (above, below) := shifted value guess
  if below ≤ above then guess else guess - 1

/-- The first `count` digits of a quotient, rounded, and the exponent of the first of them. -/
def significantDigits (count : Nat) (value : Nat × Nat) : List Char × Int :=
  if value.1 = 0 then (List.replicate count '0', 0)
  else
    let magnitude := magnitudeOf value
    let (above, below) := shifted value (magnitude - (count - 1))
    let digits := digitsOf (roundQuotient above below)
    if count < digits.length then (digits.take count, magnitude + 1) else (digits, magnitude)

end StyleAudit.Decimal
