/-!
Rounding quotients of natural numbers.
-/

set_option autoImplicit false

namespace StyleAudit.Decimal

/-- The integer nearest to a quotient; a half goes to the even neighbour. -/
def roundQuotient (numerator denominator : Nat) : Nat :=
  let below := numerator / denominator
  let doubled := 2 * (numerator % denominator)
  if doubled < denominator then below
  else if denominator < doubled then below + 1
  else if below % 2 = 0 then below
  else below + 1

end StyleAudit.Decimal
