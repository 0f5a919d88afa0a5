import StyleAudit.Script.Arguments

/-!
Functions: parameters, signatures, bodies, and the members of objects and classes that are
functions.
-/

set_option autoImplicit false

namespace StyleAudit.Script.Grammar

variable (g : Grammar)

/-- A type after a colon. -/
def typeAnnotation : Reader Nodes :=
  g.whenTyped <| node "type_annotation" do
    symbol ":"
    g.read .type

/-- A name of a type. -/
def typeName : Reader Nodes :=
  wordNode "type_identifier"

/-- A parameter of a type: its name, what it extends, and what it is by default. -/
def typeParameter : Reader Nodes :=
  node "type_parameter" do
    if (← nextWord?) = some "const" then keyword "const"
    let name ← field "name" typeName
    let bound ← perhaps do
      if ← startsWith "extends" then keyword "extends" else symbol ":"
      field "constraint" (node "constraint" (g.read .type))
    let standard ← perhaps do
      symbolUnless "=" ">="
      field "value" (node "default_type" (g.read .type))
    return name ++ bound ++ standard

/-- The parameters of a type in angle brackets. -/
def typeParameters : Reader Nodes :=
  g.whenTyped <| node "type_parameters" do
    symbol "<"
    enclosing true (listed g.limit ">" g.typeParameter)

/-- Types given as arguments, in angle brackets. -/
def typeArguments : Reader Nodes :=
  g.whenTyped <| node "type_arguments" do
    symbol "<"
    let types ← enclosing true (separated g.limit (g.read .type))
    let _ ← symbol? ","
    symbol ">"
    return types

/-- What a decorator applies: a name or members of it, called or not. -/
def decoration : Reader Nodes := do
  let callee ← dotted g.limit (← g.identifier)
  if g.typed && (← startsWith "<") then
    nodeFrom "call_expression" (inField "function" callee) do
      return (← field "type_arguments" g.typeArguments) ++ (← g.arguments)
  else if ← startsWith "(" then
    nodeFrom "call_expression" (inField "function" callee) g.arguments
  else return callee

/-- A use of a decorator. -/
def decorator : Reader Nodes :=
  node "decorator" do
    symbol "@"
    if g.typed && (← startsWith "(") then
      node "parenthesized_expression" do
        symbol "("
        let inner ← enclosing true g.decoration
        symbol ")"
        return inner
    else g.decoration

/-- All decorators in front of something. -/
def decorators : Reader Nodes :=
  repeatingWhile g.limit (startsWith "@") (field "decorator" g.decorator)

/-- A parameter without types. -/
def plainParameter : Reader Nodes :=
  g.patternItem false

/-- The words that may stand in front of a parameter. -/
def parameterWords : List String :=
  ["public", "private", "protected", "override", "readonly"]

/-- The words that say how a parameter becomes a field. -/
def parameterModifiers : Reader Nodes :=
  repeating 4 do
    let some found ← nextWord? | failure
    if !parameterWords.contains found then failure
    keyword found
    if (← keyAhead) || (← startsWith "\x7b") then return []
    else failure

/-- A parameter that may carry a type. -/
def typedParameter : Reader Nodes := do
  skipGap
  let start := (← get).offset
  let marks ← g.decorators
  let _ ← parameterModifiers
  let name ←
    if ← startsWith "..." then g.restPattern false
    else if (← nextWord?) = some "this" then wordNode "this"
    else g.read (.pattern false)
  let optional ← symbol? "?"
  let type ← field "type" (perhaps g.typeAnnotation)
  let value ← perhaps g.initializer
  let kind := if optional then "optional_parameter" else "required_parameter"
  return [leaf kind start (← get).stop (marks ++ inField "pattern" name ++ type ++ value)]

/-- The parameters of a function in parentheses. -/
def formalParameters : Reader Nodes :=
  node "formal_parameters" do
    symbol "("
    enclosing true <| listed g.limit ")" <|
      if g.typed then g.typedParameter else g.plainParameter

/-- What a function tells about its result: `x is T` or `asserts x`. -/
def typePredicate : Reader Nodes := do
  (node "type_predicate" do
    let name ← wordNode "identifier"
    keyword "is"
    let type ← g.read .type
    return inField "name" name ++ inField "type" type) <|>
  (node "asserts" do
    keyword "asserts"
    let name ← wordNode "identifier"
    if ← keyword? "is" then
      return name ++ (← g.read .type)
    else return name)

/-- The result of a function: a type, or what the function tells about its argument. -/
def resultAnnotation : Reader Nodes :=
  g.whenTyped <|
    (node "type_predicate_annotation" do
      symbol ":"
      g.typePredicate) <|> g.typeAnnotation

/-- The parameters and the result of a function. -/
def signature : Reader Nodes := do
  let types ← field "type_parameters" (if g.typed then perhaps g.typeParameters else pure [])
  let parameters ← field "parameters" g.formalParameters
  let result ← field "return_type" (if g.typed then perhaps g.resultAnnotation else pure [])
  return types ++ parameters ++ result

/-- A list of statements in braces. -/
def block : Reader Nodes :=
  node "statement_block" do
    symbol "\x7b"
    let statements ← enclosing false <|
      repeatingWhile g.limit (not <$> startsWith "\x7d") (g.read .statement)
    symbol "\x7d"
    return statements

/-- The body of a function. -/
def body : Reader Nodes :=
  field "body" g.block

/-- A function as an expression, from the word `function` on. -/
def functionExpression : Reader Nodes := do
  skipGap
  let start := (← get).offset
  if (← nextWord?) = some "async" then keyword "async"
  keyword "function"
  let generator ← symbol? "*"
  let name ← field "name" (if ← startsWith "(" then pure [] else perhaps g.identifier)
  let signature ← g.signature
  let body ← g.body
  let kind := if generator then "generator_function" else "function_expression"
  return [leaf kind start (← get).stop (name ++ signature ++ body)]

/-- The words in front of the key of a function member, and its star. -/
def functionModifiers : Reader Unit := do
  let _ ← g.modifier? "static"
  let _ ← g.modifier? "async"
  if ← symbol? "*" then return ()
  if ← g.modifier? "get" then return ()
  let _ ← g.modifier? "set"

end StyleAudit.Script.Grammar
