import StyleAudit.Script.Function

/-!
Types, as the typed dialect annotates them.

An operand of a type is read with the brackets behind it; operands are joined by `|` and `&`, and
the whole may be the left side of a conditional type. What is built inside a type matters only where
an expression is named in it, by `typeof`; everything else is grouped loosely.
-/

set_option autoImplicit false

namespace StyleAudit.Script.Grammar

variable (g : Grammar)

/-- The types that have a name of their own. -/
def predefinedTypes : List String :=
  ["any", "number", "boolean", "string", "symbol", "void", "unknown", "never", "object"]

/-! ### Expressions named in a type -/

/-- The index of a named expression in a type. -/
def queryIndex : Reader Nodes := do
  match ← nextWord? with
  | some name => if predefinedTypes.contains name then wordNode "predefined_type" else failure
  | none => string <|> number

/-- Members, subscripts and calls of an expression named in a type. -/
def queryChain (called : Bool) : (limit : Nat) → Nodes → Reader Nodes
  | 0, _ => failure
  | limit + 1, first => do
    let subscripted ← ahead do
      let _ ← symbol? "?."
      symbol "["
      let _ ← queryIndex
      symbol "]"
    if subscripted && !(← lineEndsHere .typed false) then
      let access ← nodeFrom "subscript_expression" (inField "object" first) do
        let _ ← symbol? "?."
        symbol "["
        let index ← field "index" queryIndex
        symbol "]"
        return index
      queryChain false limit access
    else if (← startsWith ".") || (← startsWith "?.") then
      let access ← nodeFrom "member_expression" (inField "object" first) do
        if ← startsWith "?." then symbol "?." else symbol "."
        field "property" (privateName <|> wordNode "property_identifier")
      queryChain false limit access
    else if !called && (← startsWith "(") then
      let call ← nodeFrom "call_expression" (inField "function" first) g.arguments
      queryChain true limit call
    else return first

/-- An expression whose type is taken: `typeof a.b`. -/
def typeQuery : Reader Nodes :=
  node "type_query" do
    keyword "typeof"
    let first ← match ← nextWord? with
      | some "this" => wordNode "this"
      | some "import" => wordNode "import"
      | _ => wordNode "identifier"
    let named ← g.queryChain false g.limit first
    if (← startsWith "<") && !(← lineEndsHere .typed false) then
      nodeFrom "instantiation_expression" (inField "function" named)
        (field "type_arguments" g.typeArguments)
    else return named

/-- A type out of another file: `import("file").Name`. -/
def importedType : Reader Nodes := do
  let first ← wordNode "import"
  if (← startsWith "(") || (← startsWith ".") then g.queryChain false g.limit first
  else failure

/-! ### Members of object types -/

/-- The words that may stand in front of a member of an object type. -/
def typeMemberWords : List String :=
  ["public", "private", "protected", "static", "override", "readonly", "async", "get", "set"]

/-- The words in front of a member of an object type. -/
def typeMemberModifiers : Reader Unit := do
  let _ ← repeating 6 do
    let some found ← nextWord? | failure
    if !typeMemberWords.contains found then failure
    keyword found
    if (← keyAhead) || (← startsWith "*") then return []
    else failure

/-- What an index runs over: `K in T`, perhaps renamed. -/
def mappedIndex : Reader Nodes :=
  node "mapped_type_clause" do
    let name ← field "name" typeName
    keyword "in"
    let type ← field "type" (g.read .type)
    let renamed ← perhaps do
      keyword "as"
      field "alias" (g.read .type)
    return name ++ type ++ renamed

/-- The type of all members at once: `[key: T]: T`, or `[K in T]: T`. -/
def indexSignature : Reader Nodes :=
  g.whenTyped <| node "index_signature" do
    let sign ← (symbol? "-") <||> (symbol? "+")
    if sign then keyword "readonly"
    else if (← nextWord?) = some "readonly" then keyword "readonly"
    symbol "["
    let index ← enclosing true <| g.mappedIndex <|> do
      let name ← field "name" (wordNode "identifier")
      symbol ":"
      return name ++ (← field "index_type" (g.read .type))
    symbol "]"
    let type ← field "type" <|
      (node "omitting_type_annotation" do symbol "-?:"; g.read .type) <|>
      (node "adding_type_annotation" do symbol "+?:"; g.read .type) <|>
      (node "opting_type_annotation" do symbol "?:"; g.read .type) <|> g.typeAnnotation
    return index ++ type

/-- The parameters of a constructor, from the word `new` on. -/
def constructSignature : Reader Nodes :=
  node "construct_signature" do
    if (← nextWord?) = some "abstract" then keyword "abstract"
    keyword "new"
    let types ← field "type_parameters" (perhaps g.typeParameters)
    let parameters ← field "parameters" g.formalParameters
    return types ++ parameters ++ (← field "type" (perhaps g.typeAnnotation))

/-- A property or a method of an object type. -/
def namedTypeMember : Reader Nodes := do
  skipGap
  let start := (← get).offset
  typeMemberModifiers
  let _ ← symbol? "*"
  let key ← g.memberKey
  let _ ← symbol? "?"
  if (← startsWith "(") || (← startsWith "<") then
    let signature ← g.signature
    return [leaf "method_signature" start (← get).stop (inField "name" key ++ signature)]
  else
    let type ← field "type" (perhaps g.typeAnnotation)
    return [leaf "property_signature" start (← get).stop (inField "name" key ++ type)]

/-- A member of an object type. -/
def typeMember : Reader Nodes := do
  if (← startsWith "(") || (← startsWith "<") then node "call_signature" g.signature
  else if ← ahead (do
      let _ ← keyword? "abstract"
      keyword "new"
      symbol "(" <|> symbol "<") then g.constructSignature
  else g.indexSignature <|> g.namedTypeMember

/-- The members of an object type up to its closing brace. -/
def typeMembers : (limit : Nat) → Reader Nodes
  | 0 => failure
  | limit + 1 => do
    if (← startsWith "\x7d") || (← startsWith "|\x7d") then return []
    let member ← g.typeMember
    if ← symbol? "," then return member ++ (← typeMembers limit)
    else if (← startsWith "\x7d") || (← startsWith "|\x7d") then return member
    else
      g.terminator false
      return member ++ (← typeMembers limit)

/-- Members in braces, as a node of the given kind. -/
def objectType (kind : String) : Reader Nodes :=
  node kind do
    symbol "\x7b|" <|> symbol "\x7b"
    let _ ← symbol? "," <||> symbol? ";"
    let members ← enclosing false (g.typeMembers g.limit)
    symbol "\x7d" <|> symbol "|\x7d"
    return members

/-! ### Operands -/

/-- A member of a tuple: a type, perhaps named, optional or spread. -/
def tupleMember : Reader Nodes := do
  let named ← ahead do
    let _ ← symbol? "..."
    let _ ← word
    let _ ← symbol? "?"
    symbol ":"
  if named then
    node "required_parameter" do
      let name ← if ← startsWith "..." then
          node "rest_pattern" do
            symbol "..."
            wordNode "identifier"
        else wordNode "identifier"
      let _ ← symbol? "?"
      return name ++ (← field "type" g.typeAnnotation)
  else if ← startsWith "..." then
    node "rest_type" do
      symbol "..."
      g.read .type
  else
    let type ← g.read .type
    if ← startsWith "?" then nodeFrom "optional_type" type do
      symbol "?"
      return []
    else return type

/-- The pieces of a template in a type, after its opening mark. -/
def typeTemplatePieces : (limit : Nat) → Reader Nodes
  | 0 => failure
  | limit + 1 => do
    modify fun cursor => { cursor with rest := cursor.tail, offset := cursor.stop }
    match (← get).rest with
    | [] => failure
    | '\x60' :: rest =>
      consume rest 1
      return []
    | '$' :: '\x7b' :: rest =>
      consume rest 2
      let inner ← enclosing true (g.read .type)
      symbol "\x7d"
      return inner ++ (← typeTemplatePieces limit)
    | '\\' :: character :: rest =>
      consume rest (1 + character.utf8Size)
      typeTemplatePieces limit
    | character :: rest =>
      consume rest character.utf8Size
      typeTemplatePieces limit

/-- A function as a type, with the words in front of it. -/
def functionType : Reader Nodes :=
  node "function_type" do
    if (← nextWord?) = some "abstract" then keyword "abstract"
    if (← nextWord?) = some "new" then keyword "new"
    let types ← field "type_parameters" (perhaps g.typeParameters)
    let parameters ← field "parameters" g.formalParameters
    symbol "=>"
    return types ++ parameters ++ (← field "return_type" (g.typePredicate <|> g.read .type))

/-- A type in parentheses. -/
def parenthesizedType : Reader Nodes :=
  node "parenthesized_type" do
    symbol "("
    let inner ← enclosing true (g.read .type)
    symbol ")"
    return inner

/-- Further names after a name, joined by dots. The last one names the type. -/
def qualifiedName : (limit : Nat) → Nodes → Reader Nodes
  | 0, _ => failure
  | limit + 1, first => do
    if ← startsWith "." then
      let last ← ahead do
        symbol "."
        let _ ← word
        if ← startsWith "." then failure
      if last then
        nodeFrom "nested_type_identifier" (inField "module" first) do
          symbol "."
          field "name" typeName
      else
        let inner := first.map fun node =>
          if node.kind = "nested_identifier" then { node with kind := "member_expression" }
          else node
        let joined ← nodeFrom "nested_identifier" (inField "object" inner) do
          symbol "."
          field "property" (wordNode "property_identifier")
        qualifiedName limit joined
    else return first

/-- A type by its name, perhaps applied to others. -/
def namedType : Reader Nodes := do
  let qualified ← ahead do
    let _ ← word
    symbol "."
  let name ← if qualified then do qualifiedName g.limit (← wordNode "identifier") else typeName
  if (← startsWith "<") then
    nodeFrom "generic_type" (inField "name" name) (field "type_arguments" g.typeArguments)
  else return name

/-- A type that a word starts. -/
def wordType (name : String) : Reader Nodes := do
  match name with
  | "typeof" => g.typeQuery
  | "import" => g.importedType
  | "keyof" => node "index_type_query" do
      keyword "keyof"
      g.read .typeOperand
  | "readonly" => node "readonly_type" do
      keyword "readonly"
      g.read .typeOperand
  | "unique" =>
    if ← ahead (do keyword "unique"; keyword "symbol") then
      keyword "unique"
      wordNode "predefined_type"
    else g.namedType
  | "infer" => node "infer_type" do
      keyword "infer"
      let name ← typeName
      let bound ← perhaps do
        keyword "extends"
        g.read .typeOperand
      return name ++ bound
  | "new" => g.functionType
  | "abstract" =>
    if ← ahead (do keyword "abstract"; keyword "new") then g.functionType else g.namedType
  | "true" => wordNode "literal_type"
  | "false" => wordNode "literal_type"
  | "null" => wordNode "literal_type"
  | "undefined" => wordNode "literal_type"
  | "this" => wordNode "this_type"
  | _ => if predefinedTypes.contains name then wordNode "predefined_type" else g.namedType

/-- A type without brackets behind it. -/
def plainType : Reader Nodes := do
  match ← upcoming with
  | [] => failure
  | '(' :: _ => g.functionType <|> g.parenthesizedType
  | '<' :: _ => g.functionType
  | '\x7b' :: _ => g.objectType "object_type"
  | '[' :: _ => node "tuple_type" do
      symbol "["
      enclosing true (listed g.limit "]" g.tupleMember)
  | '"' :: _ => string
  | '\'' :: _ => string
  | '\x60' :: _ => node "template_literal_type" do
      symbol "`"
      g.typeTemplatePieces g.limit
  | '?' :: _ => node "flow_maybe_type" do
      symbol "?"
      g.read .typeOperand
  | '*' :: _ => node "existential_type" do
      symbol "*"
      return []
  | '-' :: _ => node "unary_expression" do
      symbol "-"
      number
  | '+' :: _ => node "unary_expression" do
      symbol "+"
      number
  | _ =>
    match ← nextWord? with
    | some name => g.wordType name
    | none => number

/-- Brackets after a type, as long as there are any on the same line. -/
def typeSuffixes : (limit : Nat) → Nodes → Reader Nodes
  | 0, _ => failure
  | limit + 1, first => do
    if (← startsWith "[") && !(← lineEndsHere .typed false) then
      let indexed ← nodeFrom "lookup_type" first do
        symbol "["
        let index ← if ← startsWith "]" then pure [] else enclosing true (g.read .type)
        symbol "]"
        return index
      typeSuffixes limit indexed
    else return first

/-- An operand of a type, with the brackets behind it. -/
def typeOperand : Reader Nodes := do
  g.typeSuffixes g.limit (← g.plainType)

/-- Operands joined by `|` and `&`; a sign may stand in front of the first one. -/
def joinedTypes : Reader Nodes := do
  skipGap
  let start := (← get).offset
  let _ ← symbol? "|" <||> symbol? "&"
  let first ← g.typeOperand
  let more ← repeatingWhile g.limit joined do
    symbol "|" <|> symbol "&"
    let _ ← symbol? "|" <||> symbol? "&"
    g.typeOperand
  if more.isEmpty then return first
  else return [leaf "union_type" start (← get).stop (first ++ more)]
where
  /-- Whether a sign that joins types comes next. -/
  joined : Reader Bool := do
    return ((← startsWith "|") && !(← startsWith "|\x7d") && !(← startsWith "||")) ||
      ((← startsWith "&") && !(← startsWith "&&"))

/-- A type, which may depend on whether another one extends a third. -/
def type : Reader Nodes := do
  let left ← g.joinedTypes
  let conditional : Reader Nodes := nodeFrom "conditional_type" (inField "left" left) do
    keyword "extends"
    let right ← field "right" g.joinedTypes
    symbol "?"
    let consequence ← field "consequence" (g.read .type)
    symbol ":"
    return right ++ consequence ++ (← field "alternative" (g.read .type))
  if (← nextWord?) = some "extends" then conditional <|> pure left
  else return left

end StyleAudit.Script.Grammar
