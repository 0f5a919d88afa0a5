import StyleAudit.Script.Function

/-!
Object literals.
-/

set_option autoImplicit false

namespace StyleAudit.Script.Grammar

variable (g : Grammar)

/-- Whether a function member's parameters come next. -/
def signatureAhead : Reader Bool := do
  return (← startsWith "(") || (g.typed && (← startsWith "<"))

/-- A member of an object literal. -/
def objectMember : Reader Nodes := do
  skipMarkup
  if ← startsWith "..." then g.spread
  else
    let before ← get
    g.functionModifiers
    let plain := (← get).offset = before.offset
    let key ← g.memberKey
    if ← g.signatureAhead then
      let signature ← g.signature
      let body ← g.body
      return [leaf "method_definition" before.offset (← get).stop
        (inField "name" key ++ signature ++ body)]
    else if !plain then failure
    else if ← symbol? ":" then
      let value ← field "value" g.expression
      return [leaf "pair" before.offset (← get).stop (inField "key" key ++ value)]
    else
      set before
      g.nameNode "shorthand_property_identifier"

/-- An object literal. -/
def object : Reader Nodes :=
  node "object" do
    symbol "\x7b"
    enclosing true (sparse g.limit "\x7d" g.objectMember)

/-- Whether braces in front may be an object literal where they could also be a list of statements:
their first member has to be something that no statement starts with. -/
def objectAhead : Reader Bool :=
  ahead do
    symbol "\x7b"
    skipMarkup
    match ← nextWord? with
    | none => if ← startsWith "\x7d" then failure
    | some name =>
      if statementWords.contains name || operandWords.contains name then failure
      keyword name
      if (← startsWith ",") || (← startsWith "\x7d") then failure

end StyleAudit.Script.Grammar
