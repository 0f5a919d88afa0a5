import StyleAudit.Script.Pattern

/-!
Lists of values: list literals and the arguments of calls.
-/

set_option autoImplicit false

namespace StyleAudit.Script.Grammar

variable (g : Grammar)

/-- Three dots and what they spread. -/
def spread : Reader Nodes :=
  node "spread_element" do
    symbol "..."
    g.expression

/-- An item of a list or an argument of a call. -/
def item : Reader Nodes := do
  skipMarkup
  if ← startsWith "..." then g.spread else g.expression

/-- A list literal. -/
def array : Reader Nodes :=
  node "array" do
    symbol "["
    enclosing true (sparse g.limit "]" g.item)

/-- The arguments of a call. -/
def arguments : Reader Nodes :=
  field "arguments" <| node "arguments" do
    symbol "("
    enclosing true (sparse g.limit ")" g.item)

/-- A name, then members of it joined by dots. -/
def dotted : (limit : Nat) → Nodes → Reader Nodes
  | 0, _ => failure
  | limit + 1, first => do
    if ← startsWith "." then
      let access ← nodeFrom "member_expression" (inField "object" first) do
        symbol "."
        field "property" (wordNode "property_identifier")
      dotted limit access
    else return first

end StyleAudit.Script.Grammar
