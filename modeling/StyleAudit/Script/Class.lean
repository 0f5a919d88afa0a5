import StyleAudit.Script.Object
import StyleAudit.Script.Type

/-!
Classes: their heritage and their members.
-/

set_option autoImplicit false

namespace StyleAudit.Script.Grammar

variable (g : Grammar)

/-- The words in front of a class member. The result tells whether the member is abstract. -/
def memberModifiers : Reader Bool := do
  let words := if g.typed then
      ["public", "private", "protected", "declare", "static", "override", "abstract", "readonly",
        "accessor"]
    else ["static"]
  go words words.length false
where
  /-- Consumes one modifier after the other. -/
  go (words : List String) : Nat → Bool → Reader Bool
    | 0, abstracted => pure abstracted
    | rounds + 1, abstracted => do
      let some found ← nextWord? | return abstracted
      if !words.contains found then return abstracted
      else if ← g.modifier? found then go words rounds (abstracted || found = "abstract")
      else return abstracted

/-- The words in front of the key of a method, and its star. -/
def methodModifiers : Reader Bool := do
  let before := (← get).stop
  g.functionModifiers
  return (← get).stop != before

/-- Consumes a comma that separates members, which the typed dialect allows. -/
def memberComma : Reader Bool := do
  if g.typed then symbol? "," else return false

/-- A field, from its key on: what it is declared as and its value. -/
def fieldTail (start : Nat) (marks key : Nodes) : Reader Nodes := do
  let type ← if g.typed then
      let _ ← symbol? "?" <||> symbol? "!"
      field "type" (perhaps g.typeAnnotation)
    else pure []
  let value ← perhaps g.initializer
  let stop := (← get).stop
  let made := if g.typed then
      leaf "public_field_definition" start stop (marks ++ inField "name" key ++ type ++ value)
    else leaf "field_definition" start stop (marks ++ inField "property" key ++ value)
  if ← g.memberComma then return [made]
  g.terminator (!value.isEmpty)
  return [made]

/-- A method, from its parameters on. Without a body it is a signature. -/
def methodTail (start : Nat) (abstracted : Bool) (marks key : Nodes) : Reader Nodes := do
  let signature ← g.signature
  if ← startsWith "\x7b" then
    let body ← g.body
    return [leaf "method_definition" start (← get).stop
      (marks ++ inField "name" key ++ signature ++ body)]
  else if g.typed then
    let kind := if abstracted then "abstract_method_signature" else "method_signature"
    let made := leaf kind start (← get).stop (inField "name" key ++ signature)
    if ← g.memberComma then return [made]
    g.terminator false
    return [made]
  else failure

/-- A block that runs once for the class. -/
def staticBlock : Reader Nodes :=
  node "class_static_block" do
    keyword "static"
    g.body

/-- A member of a class. -/
def classMember : Reader Nodes := do
  skipMarkup
  if ← symbol? ";" then return []
  let before ← get
  if ← ahead (do keyword "static"; symbol "\x7b") then return ← g.staticBlock
  let marks ← g.decorators
  let abstracted ← g.memberModifiers
  if ← ahead g.indexSignature then
    let made ← g.indexSignature
    g.terminator false
    return made
  let _ ← g.methodModifiers
  let key ← g.memberKey
  let _ ← if g.typed && (← ahead (do symbol "?"; if !(← g.signatureAhead) then failure)) then
      symbol? "?"
    else pure false
  let members ← if ← g.signatureAhead then g.methodTail before.offset abstracted marks key
    else g.fieldTail before.offset marks key
  return if g.typed then members else inField "member" members

/-- The members of a class in braces. -/
def classBody : Reader Nodes :=
  field "body" <| node "class_body" do
    symbol "\x7b"
    let members ← enclosing false <|
      repeatingWhile g.limit (not <$> startsWith "\x7d") g.classMember
    symbol "\x7d"
    return members

/-- What a class is derived from. -/
def classHeritage : Reader Nodes :=
  if g.typed then
    node "class_heritage" do
      let derived ← perhaps <| node "extends_clause" do
        keyword "extends"
        separated g.limit do
          let value ← field "value" (g.read (.leftHand true))
          return value ++ (← field "type_arguments" (perhaps g.typeArguments))
      let kept ← perhaps <| node "implements_clause" do
        keyword "implements"
        separated g.limit (g.read .type)
      if (derived ++ kept).isEmpty then failure
      return derived ++ kept
  else
    node "class_heritage" do
      keyword "extends"
      g.read (.leftHand true)

/-- A class, from its decorators on, as a node of the given kind. -/
def classNode (kind : String) (named : Bool) : Reader Nodes :=
  node kind do
    let marks ← g.decorators
    keyword "class"
    let following ← nextWord?
    let heritage (found : String) : Bool := found = "extends" || found = "implements"
    let anonymous := !named && following.all heritage
    let name ← if anonymous then pure [] else field "name" className
    let types ← if g.typed then field "type_parameters" (perhaps g.typeParameters) else pure []
    let heritage ← perhaps g.classHeritage
    return marks ++ name ++ types ++ heritage ++ (← g.classBody)
where
  /-- The name of a class. -/
  className : Reader Nodes :=
    if g.typed then typeName else g.identifier

end StyleAudit.Script.Grammar
