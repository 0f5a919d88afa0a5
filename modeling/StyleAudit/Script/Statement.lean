import StyleAudit.Script.Module

/-!
Statements.

The first word of a statement decides what it is. Only braces are looked into: where their first
member is something that no statement starts with, they are tried as an object first.
-/

set_option autoImplicit false

namespace StyleAudit.Script.Grammar

variable (g : Grammar)

/-- An expression as a statement. -/
def expressionStatement : Reader Nodes :=
  node "expression_statement" do
    let value ← g.sequence
    g.terminator true
    return value

/-- A statement in braces: an object literal or a list of statements. -/
def bracedStatement : Reader Nodes := do
  if ← objectAhead then g.expressionStatement <|> g.block else g.block

/-- A condition in parentheses. -/
def condition : Reader Nodes :=
  field "condition" g.parenthesized

/-- The statement that another one governs. -/
def governed : Reader Nodes :=
  field "body" (g.read .statement)

/-- A statement done under a condition, and perhaps another one otherwise. -/
def ifStatement : Reader Nodes :=
  node "if_statement" do
    keyword "if"
    let condition ← g.condition
    let consequence ← field "consequence" (g.read .statement)
    let alternative ← if (← nextWord?) = some "else" then
        field "alternative" <| node "else_clause" do
          keyword "else"
          g.read .statement
      else pure []
    return condition ++ consequence ++ alternative

/-- What a loop over the members of something binds. -/
def loopBinding : Reader Nodes := do
  let declared ← match ← nextWord? with
    | some "var" => pure true
    | some "const" => pure true
    | some "let" => ahead do
        keyword "let"
        let _ ← g.binding
        keyword "in" <|> keyword "of"
    | some "using" => ahead do
        if g.typed then failure
        keyword "using"
        if (← nextWord?) = some "of" then failure
        let _ ← g.binding
        keyword "in" <|> keyword "of"
    | some "await" => ahead do
        if g.typed then failure
        keyword "await"
        keyword "using"
    | _ => pure false
  if declared then
    let _ ← keyword? "await"
    let _ ← word
    field "left" g.binding
  else field "left" (g.destructuring true <|> g.read (.leftHand true))

/-- A loop over the members of something. -/
def memberLoop : Reader Nodes :=
  node "for_in_statement" do
    keyword "for"
    let _ ← keyword? "await"
    symbol "("
    let header ← enclosing true do
      let left ← g.loopBinding
      keyword "in" <|> keyword "of"
      return left ++ (← field "right" (g.read .sequence))
    symbol ")"
    return header ++ (← g.governed)

/-- An expression up to a semicolon, or the semicolon alone. -/
def loopPart (name : String) : Reader Nodes :=
  field name do
    if ← startsWith ";" then
      node "empty_statement" do
        symbol ";"
        return []
    else
      let value ← g.read .sequence
      symbol ";"
      return value

/-- A loop with a start, a condition and a step. -/
def countingLoop : Reader Nodes :=
  node "for_statement" do
    keyword "for"
    symbol "("
    let header ← enclosing true do
      let introduction := (← nextWord?).getD ""
      let first ←
        if ["var", "let", "const"].contains introduction &&
            (← g.declarationAhead introduction) then
          field "initializer" (g.simpleDeclaration introduction)
        else g.loopPart "initializer"
      let condition ← g.loopPart "condition"
      let step ← if ← startsWith ")" then pure [] else field "increment" (g.read .sequence)
      return first ++ condition ++ step
    symbol ")"
    return header ++ (← g.governed)

/-- A loop that tests first. -/
def whileStatement : Reader Nodes :=
  node "while_statement" do
    keyword "while"
    let condition ← g.condition
    return condition ++ (← g.governed)

/-- A loop that tests last. -/
def doStatement : Reader Nodes :=
  node "do_statement" do
    keyword "do"
    let body ← g.governed
    keyword "while"
    let condition ← g.condition
    let _ ← symbol? ";"
    return body ++ condition

/-- What is done when something fails, with what it calls the failure. -/
def catchClause : Reader Nodes :=
  node "catch_clause" do
    keyword "catch"
    let parameter ← if ← symbol? "(" then do
        let parameter ← enclosing true do
          let name ← field "parameter" g.binding
          return name ++ (← field "type" (if g.typed then perhaps g.typeAnnotation else pure []))
        symbol ")"
        pure parameter
      else pure []
    return parameter ++ (← g.body)

/-- Statements that may fail, and what is done then and afterwards. -/
def tryStatement : Reader Nodes :=
  node "try_statement" do
    keyword "try"
    let body ← g.body
    let handler ← if (← nextWord?) = some "catch" then field "handler" g.catchClause else pure []
    let finalizer ← if (← nextWord?) = some "finally" then
        field "finalizer" <| node "finally_clause" do
          keyword "finally"
          g.body
      else pure []
    return body ++ handler ++ finalizer

/-- A case of a choice with its statements. -/
def switchCase : Reader Nodes := do
  let start ← nextWord?
  match start with
  | some "case" => node "switch_case" do
      keyword "case"
      let value ← field "value" (g.read .sequence)
      symbol ":"
      return value ++ (← statements)
  | some "default" => node "switch_default" do
      keyword "default"
      symbol ":"
      statements
  | _ => failure
where
  /-- The statements of a case. -/
  statements : Reader Nodes :=
    field "body" <| repeatingWhile g.limit continues (g.read .statement)
  /-- Whether another statement of the case follows. -/
  continues : Reader Bool := do
    match ← nextWord? with
    | some "case" => return false
    | some "default" => return false
    | _ => return !(← startsWith "\x7d")

/-- A choice between cases. -/
def switchStatement : Reader Nodes :=
  node "switch_statement" do
    keyword "switch"
    let value ← field "value" g.parenthesized
    let body ← field "body" <| node "switch_body" do
      symbol "\x7b"
      let cases ← enclosing false <|
        repeatingWhile g.limit (not <$> startsWith "\x7d") g.switchCase
      symbol "\x7d"
      return cases
    return value ++ body

/-- A statement done with the members of something in reach. -/
def withStatement : Reader Nodes :=
  node "with_statement" do
    keyword "with"
    let thing ← field "object" g.parenthesized
    return thing ++ (← g.governed)

/-- A word, then what may follow it on the same line, as a statement. -/
def jump (introduction : String) (kind : String) (operand : Bool) (more : Reader Nodes) :
    Reader Nodes :=
  node kind do
    keyword introduction
    if endsUnmarked g.dialect false (← get).tail then return []
    else if ← symbol? ";" then return []
    else
      let value ← more
      g.terminator operand
      return value

/-- The label that a jump goes to. -/
def jumpLabel : Reader Nodes :=
  field "label" (g.nameNode "statement_identifier")

/-- A statement with a label. -/
def labeledStatement : Reader Nodes :=
  node "labeled_statement" do
    let label ← g.jumpLabel
    symbol ":"
    return label ++ (← g.governed)

/-- What remains when the first word of a statement is no keyword of statements. -/
def plainStatement (introduction : String) : Reader Nodes := do
  if ← g.declarationAhead introduction then g.declaration introduction
  else
    let labeled ← ahead do
      if operandWords.contains introduction then failure
      let _ ← g.jumpLabel
      symbol ":"
    if labeled then g.labeledStatement else g.expressionStatement

/-- A statement, given its first word. -/
def wordStatement (introduction : String) : Reader Nodes := do
  match introduction with
  | "import" =>
    if ← ahead (do keyword "import"; symbol "(" <|> symbol ".") then g.expressionStatement
    else if g.typed && (← ahead g.importAlias) then g.importAlias
    else g.importStatement
  | "export" => g.exportStatement
  | "if" => g.ifStatement
  | "for" => g.memberLoop <|> g.countingLoop
  | "while" => g.whileStatement
  | "do" => g.doStatement
  | "try" => g.tryStatement
  | "switch" => g.switchStatement
  | "with" => g.withStatement
  | "return" => g.jump "return" "return_statement" true (g.read .sequence)
  | "throw" => node "throw_statement" do
      keyword "throw"
      let value ← g.read .sequence
      g.terminator true
      return value
  | "break" => g.jump "break" "break_statement" false g.jumpLabel
  | "continue" => g.jump "continue" "continue_statement" false g.jumpLabel
  | "debugger" => node "debugger_statement" do
      keyword "debugger"
      g.terminator false
      return []
  | _ => g.plainStatement introduction

/-- A statement. -/
def statement : Reader Nodes := do
  skipMarkup
  match (← get).rest with
  | [] => failure
  | ';' :: _ => node "empty_statement" do
      symbol ";"
      return []
  | '\x7b' :: _ => g.bracedStatement
  | '@' :: _ =>
    if ← ahead (do let _ ← g.decorators; keyword "export") then g.exportStatement
    else g.decoratedClass
  | _ =>
    match ← nextWord? with
    | some introduction => g.wordStatement introduction
    | none => g.expressionStatement

end StyleAudit.Script.Grammar
