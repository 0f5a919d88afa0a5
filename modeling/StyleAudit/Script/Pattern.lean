import StyleAudit.Script.Name

/-!
Patterns: what a value is bound to by a declaration, a parameter or an assignment.
-/

set_option autoImplicit false

namespace StyleAudit.Script.Grammar

variable (g : Grammar)

/-- A pattern with an optional value to fall back on, as a node of the given kind. -/
def defaulted (kind : String) (first : Nodes) : Reader Nodes := do
  if (← startsWith "=") && !(← startsWith "==") && !(← startsWith "=>") then
    nodeFrom kind (inField "left" first) do
      symbol "="
      field "right" (enclosing true g.expression)
  else return first

/-- The rest of a list or of an object. -/
def restPattern (target : Bool) : Reader Nodes :=
  node "rest_pattern" do
    symbol "..."
    g.read (.pattern target)

/-- An item of a list that is taken apart. -/
def patternItem (target : Bool) : Reader Nodes := do
  if ← startsWith "..." then g.restPattern target
  else g.defaulted "assignment_pattern" (← g.read (.pattern target))

/-- A list that is taken apart. -/
def arrayPattern (target : Bool) : Reader Nodes :=
  node "array_pattern" do
    symbol "["
    enclosing true (sparse g.limit "]" (g.patternItem target))

/-- A member of an object that is taken apart. -/
def patternMember (target : Bool) : Reader Nodes := do
  if ← startsWith "..." then g.restPattern target
  else
    skipGap
    let before ← get
    let key ← g.memberKey
    if ← symbol? ":" then
      let value ← g.patternItem target
      let parts := inField "key" key ++ inField "value" value
      return [leaf "pair_pattern" before.offset (← get).stop parts]
    else
      set before
      let name ← g.nameNode "shorthand_property_identifier_pattern"
      g.defaulted "object_assignment_pattern" name

/-- An object that is taken apart. -/
def objectPattern (target : Bool) : Reader Nodes :=
  node "object_pattern" do
    symbol "\x7b"
    enclosing true (sparse g.limit "\x7d" (g.patternMember target))

/-- A list or an object that is taken apart. -/
def destructuring (target : Bool) : Reader Nodes := do
  match ← nextChar? with
  | some '[' => g.arrayPattern target
  | some '\x7b' => g.objectPattern target
  | _ => failure

/-- Member accesses and subscripts after a node, as long as there are any. -/
def accessChain : (limit : Nat) → Nodes → Reader Nodes
  | 0, _ => failure
  | limit + 1, first => do
    if (← startsWith ".") && !(← startsWith "..") then
      let access ← nodeFrom "member_expression" (inField "object" first) do
        symbol "."
        field "property" (privateName <|> wordNode "property_identifier")
      accessChain limit access
    else if ← startsWith "[" then
      let access ← nodeFrom "subscript_expression" (inField "object" first) do
        symbol "["
        let index ← field "index" (enclosing true g.expression)
        symbol "]"
        return index
      accessChain limit access
    else return first

/-- A pattern: a name, a list or an object taken apart, or the place that an assignment writes
to. -/
def pattern (target : Bool) : Reader Nodes := do
  match ← nextChar? with
  | some '[' => g.arrayPattern target
  | some '\x7b' => g.objectPattern target
  | _ =>
    if target then
      let first ← match ← nextWord? with
        | some "this" => wordNode "this"
        | some "super" => wordNode "super"
        | _ => g.identifier
      g.accessChain g.limit first
    else g.identifier

/-- A name or something taken apart, as a declaration binds it. -/
def binding : Reader Nodes :=
  g.destructuring false <|> g.identifier

/-- The value given to something declared. -/
def initializer : Reader Nodes := do
  symbolUnless "=" "=>"
  field "value" g.expression

end StyleAudit.Script.Grammar
