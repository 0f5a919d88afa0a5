/-!
Lists of items with keys.

They keep the order in which the keys came first.
-/

set_option autoImplicit false

namespace StyleAudit.Keyed

variable {α κ : Type} [DecidableEq κ]

/-- Puts an item among others: one with the same key gives up its place to it. -/
def put (key : α → κ) (item : α) : List α → List α
  | [] => [item]
  | first :: rest => if key first = key item then item :: rest else first :: put key item rest

end StyleAudit.Keyed
