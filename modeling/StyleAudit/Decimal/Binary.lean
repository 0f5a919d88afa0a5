import StyleAudit.Decimal.Digits
import StyleAudit.Decimal.Rounding

/-!
Numbers with 53 significant bits.

A finite number is a whole multiple of a power of two. `Binary.ofQuotient` finds the one nearest to
a quotient, `Binary.ofDecimal` the one nearest to a decimal number.
-/

set_option autoImplicit false

namespace StyleAudit.Decimal

/-- A binary number of double precision. -/
inductive Binary where
  /-- `mantissa` times two to the power of `exponent`. -/
  | finite (negative : Bool) (mantissa : Nat) (exponent : Int)
  | infinite (negative : Bool)
  | notNumber
deriving DecidableEq, Repr, Inhabited

namespace Binary

/-- The least exponent. -/
def leastExponent : Int :=
  -1074

/-- The greatest exponent. -/
def greatestExponent : Int :=
  971

/-- The quotient of a quotient and a power of two. -/
def scaled (numerator denominator : Nat) (exponent : Int) : Nat × Nat :=
  if exponent < 0 then (numerator * Nat.pow 2 (-exponent).toNat, denominator)
  else (numerator, denominator * Nat.pow 2 exponent.toNat)

/-- The exponent at which a quotient has 53 bits before the point, or the least one. -/
def exponentOf (numerator denominator : Nat) : Int :=
  let guess : Int := Int.ofNat numerator.log2 - Int.ofNat denominator.log2 - 52
  let (above, below) := scaled numerator denominator guess
  let exponent := if above / below < Nat.pow 2 52 then guess - 1 else guess
  max exponent leastExponent

/-- The number nearest to a quotient. -/
def ofQuotient (negative : Bool) (numerator denominator : Nat) : Binary :=
  if numerator = 0 then .finite negative 0 leastExponent
  else
    let exponent := exponentOf numerator denominator
    let (above, below) := scaled numerator denominator exponent
    let rounded := roundQuotient above below
    let (mantissa, exponent) :=
      if rounded = Nat.pow 2 53 then (Nat.pow 2 52, exponent + 1) else (rounded, exponent)
    if greatestExponent < exponent then .infinite negative
    else .finite negative mantissa exponent

/-- The number nearest to `digits` times ten to the power of `exponent`. A number beyond all powers
in reach needs no power of ten to be computed. -/
def ofDecimal (negative : Bool) (digits : Nat) (exponent : Int) : Binary :=
  let magnitude := Int.ofNat (digitsOf digits).length + exponent
  if digits = 0 || magnitude < -330 then .finite negative 0 leastExponent
  else if 330 < magnitude then .infinite negative
  else if exponent < 0 then ofQuotient negative digits (Nat.pow 10 (-exponent).toNat)
  else ofQuotient negative (digits * Nat.pow 10 exponent.toNat) 1

/-- A whole number; none where it is out of reach. -/
def ofInt? (number : Int) : Option Binary :=
  match ofQuotient (number < 0) number.natAbs 1 with
  | .infinite _ => none
  | value => some value

/-- Whether a number is zero, of whatever sign. -/
def isZero : Binary → Bool
  | finite _ mantissa _ => mantissa = 0
  | _ => false

/-- The absolute value as a quotient. -/
def quotient (mantissa : Nat) (exponent : Int) : Nat × Nat :=
  if exponent < 0 then (mantissa, Nat.pow 2 (-exponent).toNat)
  else (mantissa * Nat.pow 2 exponent.toNat, 1)

end Binary

end StyleAudit.Decimal
