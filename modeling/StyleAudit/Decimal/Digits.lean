/-!
Decimal digits.
-/

set_option autoImplicit false

namespace StyleAudit.Decimal

/-- The decimal digits of a number, the first one first. -/
def digitsOf (number : Nat) : List Char :=
  Nat.toDigits 10 number

/-- The number that decimal digits make up. -/
def numberOf (digits : List Char) : Nat :=
  digits.foldl (fun number digit => number * 10 + (digit.toNat - 0x30)) 0

/-- The digits in front of a text. -/
def digitsAhead (text : List Char) : List Char :=
  text.takeWhile Char.isDigit

/-- The number of digits up to which whole numbers are read. -/
def digitLimit : Nat :=
  4300

end StyleAudit.Decimal
