import StyleAudit.Script.Element

/-!
Expressions.

Operands are read with all that binds tighter than a binary operator; a chain of operands and
operators is then grouped by precedence. An assignment, an arrow function and the like extend as far
to the right as they can, wherever they start.
-/

set_option autoImplicit false

namespace StyleAudit.Script

/-- How tightly a binary operator binds, the higher the tighter. -/
def precedence : List (String × Nat) :=
  [("**", 11), ("*", 10), ("/", 10), ("%", 10), ("+", 9), ("-", 9), ("<<", 8), (">>", 8),
    (">>>", 8), ("<", 7), ("<=", 7), (">", 7), (">=", 7), ("in", 7), ("instanceof", 7), ("as", 7),
    ("satisfies", 7), ("==", 6), ("!=", 6), ("===", 6), ("!==", 6), ("&", 5), ("^", 4), ("|", 3),
    ("&&", 2), ("||", 1), ("??", 1)]

/-- The binary operators made of signs, the longest first. -/
def binarySigns : List String :=
  [">>>", "===", "!==", "**", "<<", ">>", "<=", ">=", "==", "!=", "&&", "||", "??", "*", "/", "%",
    "+", "-", "<", ">", "&", "^", "|"]

/-- The operators that assign after computing. -/
def augmentedSigns : List String :=
  [">>>=", "**=", "<<=", ">>=", "&&=", "||=", "??=", "*=", "/=", "%=", "+=", "-=", "&=", "^=", "|="]

/-- A binary operator in front of a text. An operator that assigns, or that counts up or down, is
none. -/
def binarySign? (text : List Char) : Option String :=
  if augmentedSigns.any fun sign => (afterLiteral? sign.toList text).isSome then none
  else
    match text with
    | '+' :: '+' :: _ => none
    | '-' :: '-' :: _ => none
    | _ => binarySigns.find? fun sign => (afterLiteral? sign.toList text).isSome

/-- An operand that waits for what stands to the right of its operator. -/
structure Waiting where
  left : Node
  operator : String
  level : Nat

/-- Joins two operands. -/
def joinOperands (left : Node) (operator : String) (right : Node) : Node :=
  let kind := match operator with
    | "as" => "as_expression"
    | "satisfies" => "satisfies_expression"
    | _ => "binary_expression"
  if kind = "binary_expression" then
    leaf kind left.start right.stop (inField "left" [left] ++ inField "right" [right])
  else leaf kind left.start right.stop [left, right]

/-- Joins an operand to all that wait for it and bind at least as tightly as `level`. -/
def settle (level : Nat) (last : Node) : List Waiting → Node × List Waiting
  | [] => (last, [])
  | top :: rest =>
    if level ≤ top.level then settle level (joinOperands top.left top.operator last) rest
    else (last, top :: rest)

/-- Groups operands by the precedence of the operators between them. -/
def group (first : Node) (waiting : List Waiting) : List (String × Node) → Node
  | [] => (settle 0 first waiting).1
  | (operator, right) :: rest =>
    let level := (precedence.lookup operator).getD 0
    let (left, waiting) := settle (if operator = "**" then level + 1 else level) first waiting
    group right (⟨left, operator, level⟩ :: waiting) rest

namespace Grammar

variable (g : Grammar)

/-- An expression, or several between commas. -/
def sequence : Reader Nodes := do
  let first ← g.expression
  if ← startsWith "," then
    nodeFrom "sequence_expression" first <| repeatingWhile g.limit (startsWith ",") do
      symbol ","
      g.expression
  else return first

/-- An expression in parentheses; it may carry a type. -/
def parenthesized : Reader Nodes :=
  node "parenthesized_expression" do
    symbol "("
    let inner ← enclosing true do
      let inner ← g.read .sequence
      return inner ++ (← field "type" (perhaps g.typeAnnotation))
    symbol ")"
    return inner

/-- The text of a template up to its end or to the next substitution; `fuel` bounds the
characters. -/
def afterTemplateText? : (fuel : Nat) → List Char → Option (List Char)
  | 0, _ => none
  | _ + 1, [] => none
  | _ + 1, '\x60' :: rest => some ('\x60' :: rest)
  | _ + 1, '$' :: '\x7b' :: rest => some ('$' :: '\x7b' :: rest)
  | fuel + 1, '\\' :: rest => (afterEscape? rest).bind (afterTemplateText? fuel)
  | fuel + 1, _ :: rest => afterTemplateText? fuel rest

/-- The pieces of a template after its opening mark, with its closing mark. -/
def templatePieces : (limit : Nat) → Reader Nodes
  | 0 => failure
  | limit + 1 => do
    modify fun cursor => { cursor with rest := cursor.tail, offset := cursor.stop }
    let text := (← get).rest
    match afterTemplateText? (text.length + 1) text with
    | some rest =>
      consume rest (byteLength (text.take (text.length - rest.length)))
      match rest with
      | '\x60' :: after =>
        consume after 1
        return []
      | _ =>
        let piece ← node "template_substitution" do
          symbol "$\x7b"
          let inner ← enclosing true (g.read .sequence)
          symbol "\x7d"
          return inner
        return piece ++ (← templatePieces limit)
    | none => failure

/-- A template with its substitutions. -/
def template : Reader Nodes :=
  node "template_string" do
    symbol "`"
    g.templatePieces g.limit

/-- What is made by `new`, or the function that it was applied to. -/
def newExpression : Reader Nodes := do
  skipGap
  let start := (← get).offset
  keyword "new"
  if ← startsWith "." then
    symbol "."
    keyword "target"
    return [leaf "meta_property" start (← get).stop []]
  else
    let made ← field "constructor" (g.read (.leftHand false))
    let types ← if g.typed && (← ahead (do let _ ← g.typeArguments; symbol "(")) then
        field "type_arguments" g.typeArguments
      else pure []
    let arguments ← if ← startsWith "(" then g.arguments else pure []
    return [leaf "new_expression" start (← get).stop (made ++ types ++ arguments)]

/-- What the word `import` stands for inside an expression. -/
def importOperand : Reader Nodes := do
  skipGap
  let start := (← get).offset
  keyword "import"
  let stop := (← get).stop
  if ← startsWith "(" then return [leaf "import" start stop []]
  else
    symbol "."
    keyword "meta"
    return [leaf "meta_property" start (← get).stop []]

/-- An operand that a word starts. -/
def wordOperand (name : String) : Reader Nodes := do
  match name with
  | "function" => g.functionExpression
  | "class" => g.classNode "class" false
  | "new" => g.newExpression
  | "import" => importOperand
  | "this" => wordNode name
  | "super" => wordNode name
  | "true" => wordNode name
  | "false" => wordNode name
  | "null" => wordNode name
  | "undefined" => wordNode name
  | "async" =>
    if ← ahead (do keyword "async"; keyword "function") then g.functionExpression
    else g.identifier
  | _ => if operandWords.contains name then failure else g.identifier

/-- An operand without member accesses and calls. -/
def primary : Reader Nodes := do
  skipMarkup
  match (← get).rest with
  | [] => failure
  | character :: rest =>
    match character with
    | '(' => g.parenthesized
    | '[' => g.array
    | '\x7b' => g.object
    | '"' => string
    | '\'' => string
    | '\x60' => g.template
    | '/' => regex
    | '<' => g.read .element
    | '@' => g.classNode "class" false
    | '#' => do
      let name ← privateName
      if (← nextWord?) = some "in" then return name else failure
    | '.' => if rest.head?.any Char.isDigit then number else failure
    | _ =>
      if character.isDigit then number
      else
        match ← nextWord? with
        | none => failure
        | some name => g.wordOperand name

/-- A member of an operand, by name. -/
def memberAccess (first : Nodes) (mark : String) : Reader Nodes :=
  nodeFrom "member_expression" (inField "object" first) do
    let sign ← node "optional_chain" do
      symbol mark
      return []
    let chain := if mark = "?." then inField "optional_chain" sign else []
    return chain ++ (← field "property" (privateName <|> wordNode "property_identifier"))

/-- A member of an operand, by index. -/
def subscript (first : Nodes) (optional : Bool) : Reader Nodes :=
  nodeFrom "subscript_expression" (inField "object" first) do
    if optional then symbol "?."
    symbol "["
    let index ← field "index" (enclosing true (g.read .sequence))
    symbol "]"
    return index

/-- A call of an operand. -/
def call (first : Nodes) (optional : Bool) : Reader Nodes :=
  nodeFrom "call_expression" (inField "function" first) do
    if optional then symbol "?."
    let types ← field "type_arguments" (if ← startsWith "<" then g.typeArguments else pure [])
    return types ++ (← g.arguments)

/-- Whether types are given as arguments here, and to what: a call, or the bare operand. -/
def typeArgumentsAhead : Reader (Option Bool) := do
  if !g.typed || !(← startsWith "<") then return none
  let cursor ← get
  match g.typeArguments cursor with
  | none => return none
  | some (_, after) =>
    match upcoming after with
    | some ('(' :: _, _) => return some true
    | some ('\x60' :: _, _) => return some true
    | some (text, _) =>
      return if text.head?.all fun c => "),;:]\x7d.".toList.contains c then some false else none
    | none => return none

/-- Consumes what the arguments of a call start with. -/
def callMark : Reader Unit := do
  if g.typed then symbol "(" <|> symbol "<" else symbol "("

/-- Member accesses, calls and the like after an operand, as long as there are any. -/
def suffixes (calls : Bool) : (limit : Nat) → Nodes → Reader Nodes
  | 0, _ => failure
  | limit + 1, first => do
    match ← upcoming with
    | '.' :: rest =>
      if rest.head? == some '.' then return first
      else suffixes calls limit (← memberAccess first ".")
    | '?' :: '.' :: rest =>
      if rest.head?.any Char.isDigit then return first
      else if ← ahead (do symbol "?."; symbol "[") then
        suffixes calls limit (← g.subscript first true)
      else if ← ahead (do symbol "?."; g.callMark) then
        if calls then suffixes calls limit (← g.call first true) else return first
      else suffixes calls limit (← memberAccess first "?.")
    | '[' :: _ => suffixes calls limit (← g.subscript first false)
    | '(' :: _ =>
      if calls then suffixes calls limit (← g.call first false) else return first
    | '\x60' :: _ =>
      let tagged ← nodeFrom "call_expression" (inField "function" first)
        (field "arguments" g.template)
      suffixes calls limit tagged
    | '!' :: rest =>
      if g.typed && rest.head? != some '=' && !(← lineEndsHere g.dialect true) then
        let asserted ← nodeFrom "non_null_expression" first do
          symbol "!"
          return []
        suffixes calls limit asserted
      else return first
    | '<' :: _ =>
      if !calls then return first
      match ← g.typeArgumentsAhead with
      | none => return first
      | some true =>
        let called ← nodeFrom "call_expression" (inField "function" first) do
          let types ← field "type_arguments" g.typeArguments
          if ← startsWith "`" then return types ++ (← field "arguments" g.template)
          else return types ++ (← g.arguments)
        suffixes calls limit called
      | some false =>
        let instantiated ← nodeFrom "instantiation_expression" first
          (field "type_arguments" g.typeArguments)
        suffixes calls limit instantiated
    | _ => return first

/-- An operand with its member accesses, and with its calls where `calls` is set. -/
def leftHand (calls : Bool) : Reader Nodes := do
  let first ← if (← nextWord?) = some "new" then g.newExpression else g.primary
  g.suffixes calls g.limit first

/-- The body of an arrow function. -/
def arrowBody (annotated : Bool) : Reader Nodes :=
  field "body" do
    if ← startsWith "\x7b" then
      if ← objectAhead then g.read (.expression annotated) <|> g.block else g.block
    else g.read (.expression annotated)

/-- What stands in front of the body of an arrow function, with its arrow. -/
def arrowHead (annotated : Bool) : Reader Nodes := do
  let awaited ← ahead do
    keyword "async"
    if ← startsWith "=>" then failure
    if ← lineEndsHere g.dialect false then failure
  if awaited then keyword "async"
  let head ← match ← nextWord? with
    | some _ => field "parameter" g.identifier
    | none =>
      if annotated then g.read .signature
      else field "parameters" g.formalParameters
  symbol "=>"
  return head

/-- Whether something that could be the front of an arrow function comes next. -/
def arrowPossible : Reader Bool := do
  match ← upcoming with
  | '(' :: _ => return true
  | '<' :: _ => return g.typed
  | _ =>
    match ← nextWord? with
    | none => return false
    | some "async" => return true
    | some _ => ahead do
      let _ ← word
      symbol "=>"

/-- An arrow function, if one comes next. -/
def arrow? (annotated : Bool) : Reader (Option Nodes) := do
  if !(← g.arrowPossible) then return none
  skipGap
  let start := (← get).offset
  match ← (some <$> g.arrowHead annotated) <|> pure none with
  | none => return none
  | some head =>
    let body ← g.arrowBody annotated
    return some [leaf "arrow_function" start (← get).stop (head ++ body)]

/-- Whether an operand comes next that a word such as `await` applies to. -/
def operandAhead : Reader Bool := do
  match ← upcoming with
  | [] => return false
  | character :: _ =>
    if isWordStart character then
      return !(((← nextWord?).getD "") ∈ ["in", "of", "instanceof", "as", "satisfies"])
    else
      return character.isDigit || "\\([\x7b\"'`!~+-/<@#".toList.contains character

/-- An expression that hands over a value, or several, or nothing. -/
def yieldExpression : Reader Nodes :=
  node "yield_expression" do
    keyword "yield"
    if ← lineEndsHere g.dialect false then return []
    else if ← symbol? "*" then g.expression
    else perhaps g.expression

/-- The kinds of operand that can be assigned to. -/
def assignable : List String :=
  ["identifier", "undefined", "member_expression", "subscript_expression",
    "parenthesized_expression", "non_null_expression"]

/-- Whether the operand just read is followed by a plain assignment sign. -/
def assignmentAhead : Reader Bool := do
  return (← startsWith "=") && !(← startsWith "==") && !(← startsWith "=>")

/-- An operand that is assigned to, counted up or down, or merely read. -/
def assignment (annotated : Bool) : Reader Nodes := do
  skipMarkup
  let before ← get
  let first? ← (some <$> g.leftHand true) <|> pure none
  let kind := (first?.bind (·.head?)).map (·.kind)
  let taken := kind == some "object" || kind == some "array"
  if first?.isNone || (taken && (← assignmentAhead)) then
    set before
    nodeFrom "assignment_expression" [] do
      let left ← field "left" (g.destructuring true)
      symbolUnless "=" "=>"
      return left ++ (← field "right" (g.read (.expression annotated)))
  else
    let first := first?.getD []
    if ← assignmentAhead then
      if !kind.any assignable.contains then failure
      nodeFrom "assignment_expression" (inField "left" first) do
        symbol "="
        field "right" (g.read (.expression annotated))
    else
      let text ← upcoming
      match augmentedSigns.find? fun sign => (afterLiteral? sign.toList text).isSome with
      | some sign =>
        if !kind.any assignable.contains then failure
        nodeFrom "augmented_assignment_expression" (inField "left" first) do
          symbol sign
          field "right" (g.read (.expression annotated))
      | none =>
        if ((← startsWith "++") || (← startsWith "--")) && !(← lineEndsHere g.dialect true) then
          nodeFrom "update_expression" (inField "argument" first) do
            symbol "++" <|> symbol "--"
            return []
        else return first

/-- An operator in front of its operand. -/
def unary (sign : Reader Unit) (kind : String) : Reader Nodes :=
  node kind do
    sign
    field "argument" (g.read .operand)

/-- What stands between binary operators. -/
def operand (annotated : Bool) : Reader Nodes := do
  skipMarkup
  match ← g.arrow? annotated with
  | some arrow => return arrow
  | none =>
    match (← get).rest with
    | '+' :: '+' :: _ => g.unary (symbol "++") "update_expression"
    | '-' :: '-' :: _ => g.unary (symbol "--") "update_expression"
    | '+' :: _ => g.unary (symbol "+") "unary_expression"
    | '-' :: _ => g.unary (symbol "-") "unary_expression"
    | '!' :: _ => g.unary (symbol "!") "unary_expression"
    | '~' :: _ => g.unary (symbol "~") "unary_expression"
    | _ =>
      match ← nextWord? with
      | some "typeof" => g.unary (keyword "typeof") "unary_expression"
      | some "void" => g.unary (keyword "void") "unary_expression"
      | some "delete" => g.unary (keyword "delete") "unary_expression"
      | some "yield" => g.yieldExpression
      | some "await" =>
        if ← ahead (do
            keyword "await"
            if !(← operandAhead) then failure
            if ← lineEndsHere g.dialect false then failure) then
          node "await_expression" do
            keyword "await"
            g.read .operand
        else g.assignment annotated
      | _ => g.assignment annotated

/-- The next binary operator, consumed. -/
def binaryOperator? : Reader (Option String) := do
  let text ← upcoming
  match binarySign? text with
  | some sign =>
    symbol sign
    return some sign
  | none =>
    match ← nextWord? with
    | some "in" =>
      keyword "in"
      return some "in"
    | some "instanceof" =>
      keyword "instanceof"
      return some "instanceof"
    | some name =>
      if g.typed && (name = "as" || name = "satisfies") && !(← lineEndsHere g.dialect true) then
        keyword name
        return some name
      else return none
    | none => return none

/-- The operators and operands after a first operand. -/
def binaryRest : (limit : Nat) → Reader (List (String × Node))
  | 0 => failure
  | limit + 1 => do
    match ← g.binaryOperator? with
    | none => return []
    | some operator =>
      let right ←
        if operator = "as" && (← nextWord?) = some "const" then wordNode "const"
        else if operator = "as" || operator = "satisfies" then g.read .type
        else g.read .operand
      match right with
      | [] => failure
      | right :: _ => return (operator, right) :: (← binaryRest limit)

/-- Whether the mark of a conditional expression comes next. -/
def conditionAhead : Reader Bool := do
  match ← upcoming with
  | '?' :: rest =>
    match rest with
    | '?' :: _ => return false
    | '.' :: more => return more.head?.any Char.isDigit
    | _ =>
      if g.typed then
        return !((dropBlanks false rest).2.head?.any fun c => ":),".toList.contains c)
      else return true
  | _ => return false

/-- An expression without commas. -/
def expressionWith (annotated : Bool) : Reader Nodes := do
  let first ← g.operand annotated
  match first with
  | [] => failure
  | head :: _ =>
    let condition := group head [] (← g.binaryRest g.limit)
    if ← g.conditionAhead then
      nodeFrom "ternary_expression" (inField "condition" [condition]) do
        symbol "?"
        let consequence ← chosen (g.read (.expression true)) <|>
          chosen (g.read (.expression false))
        let alternative ← field "alternative" (g.read (.expression annotated))
        return consequence ++ alternative
    else return [condition]
where
  /-- The middle of a conditional expression, with its colon. -/
  chosen (reader : Reader Nodes) : Reader Nodes := do
    let nodes ← field "consequence" reader
    symbol ":"
    return nodes

end Grammar

end StyleAudit.Script
