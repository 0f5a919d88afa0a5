import StyleAudit.Decimal.Binary

/-!
The fewest digits that read back.

Every real number near a binary number rounds to it. `shortest` looks, for one digit, two digits and
so on, at the two decimal numbers around the binary one and takes the first that lies so near.
-/

set_option autoImplicit false

namespace StyleAudit.Decimal

/-- Digits with the place of the point: `digits` times ten to the power of `exponent`. -/
structure Digits where
  digits : Nat
  exponent : Int
deriving DecidableEq, Repr

/-- The distance of two quotients, as a quotient over the product of their denominators. -/
def distance (first second : Nat × Nat) : Nat × Nat :=
  let left := first.1 * second.2
  let right := second.1 * first.2
  (max left right - min left right, first.2 * second.2)

/-- Whether a quotient is at most another one. -/
def atMost (first second : Nat × Nat) : Bool :=
  first.1 * second.2 ≤ second.1 * first.2

/-- Whether a quotient is less than another one. -/
def lessThan (first second : Nat × Nat) : Bool :=
  first.1 * second.2 < second.1 * first.2

/-- The real numbers that round to a binary number: the bounds, and whether they belong to them. -/
structure Neighbourhood where
  low : Nat × Nat
  high : Nat × Nat
  closed : Bool

/-- The neighbourhood of a positive number. Below a power of two the numbers lie closer. -/
def neighbourhood (mantissa : Nat) (exponent : Int) : Neighbourhood :=
  let narrow := mantissa = Nat.pow 2 52 && Binary.leastExponent < exponent
  let low := if narrow then Binary.quotient (4 * mantissa - 1) (exponent - 2)
    else Binary.quotient (2 * mantissa - 1) (exponent - 1)
  ⟨low, Binary.quotient (2 * mantissa + 1) (exponent - 1), mantissa % 2 = 0⟩

/-- Whether a quotient lies in a neighbourhood. -/
def Neighbourhood.holds (near : Neighbourhood) (value : Nat × Nat) : Bool :=
  if near.closed then atMost near.low value && atMost value near.high
  else lessThan near.low value && lessThan value near.high

/-- Digits with their exponent as a quotient. -/
def Digits.quotient (number : Digits) : Nat × Nat :=
  if number.exponent < 0 then (number.digits, Nat.pow 10 (-number.exponent).toNat)
  else (number.digits * Nat.pow 10 number.exponent.toNat, 1)

/-- The power of ten of the first digit of a positive quotient. -/
def leadingPower (value : Nat × Nat) : Int :=
  let guess := Int.ofNat (digitsOf value.1).length - Int.ofNat (digitsOf value.2).length
  if atMost (Digits.quotient ⟨1, guess⟩) value then guess else guess - 1

/-- A quotient over a power of ten, cut to a whole number. -/
def cutAt (value : Nat × Nat) (exponent : Int) : Nat :=
  if exponent < 0 then value.1 * Nat.pow 10 (-exponent).toNat / value.2
  else value.1 / (value.2 * Nat.pow 10 exponent.toNat)

/-- The better of the two decimal numbers around a value that end at a power of ten, if one of them
lies in the neighbourhood. Of two equally near ones the even one is taken. -/
def candidate? (near : Neighbourhood) (value : Nat × Nat) (exponent : Int) : Option Digits :=
  let below : Digits := ⟨cutAt value exponent, exponent⟩
  let above : Digits := ⟨below.digits + 1, exponent⟩
  match near.holds below.quotient, near.holds above.quotient with
  | true, false => some below
  | false, true => some above
  | false, false => none
  | true, true =>
    let down := distance below.quotient value
    let up := distance above.quotient value
    if lessThan down up then some below
    else if lessThan up down then some above
    else if below.digits % 2 = 0 then some below
    else some above

/-- Looks for a candidate with more and more digits, up to seventeen. -/
def search (near : Neighbourhood) (value : Nat × Nat) : (left : Nat) → (exponent : Int) → Digits
  | 0, exponent => ⟨cutAt value exponent, exponent⟩
  | left + 1, exponent =>
    match candidate? near value exponent with
    | some found => found
    | none => search near value left (exponent - 1)

/-- The fewest digits that read back to a positive number. -/
def shortest (mantissa : Nat) (exponent : Int) : Digits :=
  let value := Binary.quotient mantissa exponent
  search (neighbourhood mantissa exponent) value 17 (leadingPower value)

end StyleAudit.Decimal
