import StyleAudit.Script.Expression

/-!
Declarations: variables, functions, classes and, in the typed dialect, types.
-/

set_option autoImplicit false

namespace StyleAudit.Script.Grammar

variable (g : Grammar)

/-! ### Variables -/

/-- A name or something taken apart, with its type and its value. -/
def variableDeclarator : Reader Nodes :=
  node "variable_declarator" do
    let name ← field "name" g.binding
    let type ← if g.typed then
        let _ ← if ← startsWith "!=" then pure false else symbol? "!"
        field "type" (perhaps g.typeAnnotation)
      else pure []
    let value ← if (← startsWith "=") && !(← startsWith "==") && !(← startsWith "=>") then
        g.initializer
      else pure []
    return name ++ type ++ value

/-- Declarators up to the end of the statement. -/
def variableDeclarators : Reader Nodes := do
  let declared ← separated g.limit g.variableDeclarator
  let valued := declared.getLast?.any fun last => (last.child? "value").isSome
  g.terminator valued
  return declared

/-- Variables, from their keyword on. -/
def variableStatement (introduction : String) (kind : String) : Reader Nodes :=
  node kind do
    keyword introduction
    g.variableDeclarators

/-- Whether a resource that is released at the end of its block is declared here. -/
def resourceAhead : Reader Bool := do
  if g.typed then return false
  else
    ahead do
      let _ ← keyword? "await"
      keyword "using"
      if ← lineEndsHere g.dialect false then failure
      let _ ← g.identifier
      symbolUnless "=" "=>"

/-- Resources that are released at the end of their block. -/
def resources : Reader Nodes :=
  node "using_declaration" do
    let _ ← keyword? "await"
    keyword "using"
    g.variableDeclarators

/-! ### Functions and classes -/

/-- A function with its name. In the typed dialect its body may be absent. -/
def functionDeclaration : Reader Nodes := do
  skipGap
  let start := (← get).offset
  let _ ← keyword? "async"
  keyword "function"
  let generator ← symbol? "*"
  let name ← field "name" g.identifier
  let signature ← g.signature
  if g.typed && !generator && !(← startsWith "\x7b") then
    g.terminator false
    return [leaf "function_signature" start (← get).stop (name ++ signature)]
  else
    let body ← g.body
    let kind := if generator then "generator_function_declaration" else "function_declaration"
    return [leaf kind start (← get).stop (name ++ signature ++ body)]

/-- A class with its name, behind the word `abstract`. -/
def abstractClass : Reader Nodes := do
  skipGap
  let start := (← get).offset
  keyword "abstract"
  let made ← g.classNode "abstract_class_declaration" true
  return made.map fun node => { node with start }

/-! ### Types -/

/-- A name given to a type. -/
def typeAlias : Reader Nodes :=
  node "type_alias_declaration" do
    keyword "type"
    let name ← field "name" typeName
    let types ← field "type_parameters" (perhaps g.typeParameters)
    symbol "="
    let value ← field "value" (g.read .type)
    g.terminator false
    return name ++ types ++ value

/-- A named type of objects. -/
def interface : Reader Nodes :=
  node "interface_declaration" do
    keyword "interface"
    let name ← field "name" typeName
    let types ← field "type_parameters" (perhaps g.typeParameters)
    let extended ← if ← keyword? "extends" then
        node "extends_type_clause" (separated g.limit (field "type" g.namedType))
      else pure []
    return name ++ types ++ extended ++ (← field "body" (g.objectType "interface_body"))

/-- A list of named values. -/
def enumeration : Reader Nodes :=
  node "enum_declaration" do
    let _ ← keyword? "const"
    keyword "enum"
    let name ← field "name" g.identifier
    let body ← field "body" <| node "enum_body" do
      symbol "\x7b"
      enclosing true <| listed g.limit "\x7d" do
        let key ← field "name" g.memberKey
        if ← startsWith "=" then nodeFrom "enum_assignment" key g.initializer else return key
    return name ++ body

/-- Names joined by dots, as a namespace is named. -/
def joinedNames : Reader Nodes := do
  let first ← g.identifier
  let names ← dotted g.limit first
  return names.map fun node =>
    if node.kind = "member_expression" then { node with kind := "nested_identifier" } else node

/-- Declarations under a common name. -/
def namespaceNode (introduction : String) (kind : String) : Reader Nodes :=
  node kind do
    keyword introduction
    let name ← field "name" (string <|> g.joinedNames)
    let body ← if ← startsWith "\x7b" then g.body else pure []
    return name ++ body

/-- Another name for something in a namespace. -/
def importAlias : Reader Nodes :=
  node "import_alias" do
    keyword "import"
    let name ← g.identifier
    symbolUnless "=" "=>"
    let aliased ← g.joinedNames
    g.terminator false
    return name ++ aliased

/-! ### All declarations -/

/-- Whether a name comes next that is none of the words that may follow in its place. -/
def nameAhead (others : List String) : Reader Bool := do
  return (← nextWord?).any fun found => !others.contains found

/-- Whether a function is declared here, with a name. -/
def functionAhead : Reader Bool :=
  ahead do
    let _ ← keyword? "async"
    keyword "function"
    let _ ← symbol? "*"
    let _ ← word

/-- Whether a declaration comes next, given its first word. -/
def declarationAhead (introduction : String) : Reader Bool := do
  match introduction with
  | "var" => return true
  | "const" => return true
  | "let" => ahead do
      keyword "let"
      if (← startsWith "[") || (← startsWith "\x7b") then return ()
      else if !(← nameAhead ["in", "instanceof"]) then failure
  | "function" => functionAhead
  | "async" => functionAhead
  | "class" => ahead do
      keyword "class"
      if !(← nameAhead ["extends", "implements"]) then failure
  | "using" => g.resourceAhead
  | "await" => g.resourceAhead
  | _ =>
    if !g.typed then return false
    else
      match introduction with
      | "interface" => return true
      | "enum" => return true
      | "abstract" => return true
      | "type" => ahead do
          keyword "type"
          let _ ← word
          symbol "=" <|> symbol "<"
      | "namespace" => named
      | "module" => named
      | "declare" => ahead do
          let _ ← word
          if !((← nextWord?).any declared.contains) then failure
      | _ => return false
where
  /-- The words that may stand behind `declare`. -/
  declared : List String :=
    ["var", "let", "const", "function", "async", "class", "abstract", "interface", "enum", "type",
      "namespace", "module", "global", "import"]
  /-- Whether a namespace is named here. -/
  named : Reader Bool := ahead do
    let _ ← word
    if (← nextWord?).isNone then
      let _ ← string

/-- A declaration with its first word, inside or outside `declare`. -/
def simpleDeclaration (introduction : String) : Reader Nodes := do
  match introduction with
  | "var" => g.variableStatement "var" "variable_declaration"
  | "let" => g.variableStatement "let" "lexical_declaration"
  | "const" =>
    if g.typed && (← ahead (do keyword "const"; keyword "enum")) then g.enumeration
    else g.variableStatement "const" "lexical_declaration"
  | "function" => g.functionDeclaration
  | "async" => g.functionDeclaration
  | "class" => g.classNode "class_declaration" true
  | "using" => g.resources
  | "await" => g.resources
  | "interface" => g.interface
  | "enum" => g.enumeration
  | "abstract" => g.abstractClass
  | "type" => g.typeAlias
  | "namespace" => g.namespaceNode "namespace" "internal_module"
  | "module" => g.namespaceNode "module" "module"
  | "import" => g.importAlias
  | _ => failure

/-- A declaration of something that exists elsewhere. -/
def ambient : Reader Nodes :=
  node "ambient_declaration" do
    keyword "declare"
    match ← nextWord? with
    | some "global" =>
      keyword "global"
      g.block
    | some introduction => g.simpleDeclaration introduction
    | none => failure

/-- A declaration, given its first word. -/
def declaration (introduction : String) : Reader Nodes :=
  if introduction = "declare" then g.ambient else g.simpleDeclaration introduction

/-- A class behind its decorators. -/
def decoratedClass : Reader Nodes := do
  let abstracted ← ahead do
    let _ ← g.decorators
    keyword "abstract"
  if abstracted then
    skipGap
    let start := (← get).offset
    let marks ← g.decorators
    let made ← g.abstractClass
    return made.map fun node => { node with start, children := marks ++ node.children }
  else g.classNode "class_declaration" true

end StyleAudit.Script.Grammar
