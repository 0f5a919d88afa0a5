import StyleAudit.Script.Grammar

/-!
Names: identifiers, and the keys of objects and classes.
-/

set_option autoImplicit false

namespace StyleAudit.Script

/-- The words that are no identifiers in the plain dialect. -/
def reservedWords : List String :=
  ["break", "case", "catch", "class", "const", "continue", "debugger", "default", "delete", "do",
    "else", "export", "extends", "false", "finally", "for", "function", "if", "import", "in",
    "instanceof", "new", "null", "return", "super", "switch", "this", "throw", "true", "try",
    "typeof", "var", "void", "while", "with"]

/-- The words that start an operand of their own kind, so that they are never its identifier. -/
def operandWords : List String :=
  ["class", "delete", "false", "function", "import", "new", "null", "super", "this", "true",
    "typeof", "void", "yield"]

/-- The words that start a statement of their own kind. -/
def statementWords : List String :=
  ["break", "case", "class", "const", "continue", "debugger", "default", "do", "export", "for",
    "function", "if", "import", "return", "switch", "throw", "try", "var", "while", "with"]

namespace Grammar

variable (g : Grammar)

/-- Whether a word may be a name that is declared. The typed dialect takes any word where no
keyword is expected. -/
def namesFreely (name : String) : Bool :=
  g.typed || !reservedWords.contains name

/-- A word as a node of the given kind. -/
def wordNode (kind : String) : Reader Nodes :=
  node kind do
    let _ ← word
    return []

/-- A name that is declared or used as an operand, as a node of the given kind. -/
def nameNode (kind : String) : Reader Nodes :=
  node kind do
    let name ← word
    if g.namesFreely name then return []
    else failure

/-- An identifier. -/
def identifier : Reader Nodes :=
  g.nameNode "identifier"

/-- A private name of a class: `#name`. -/
def privateName : Reader Nodes :=
  node "private_property_identifier" do
    symbol "#"
    let cursor ← get
    match scanWord .start cursor.rest with
    | ([], _) => failure
    | _ =>
      let _ ← word
      return []

/-- A key in brackets. -/
def computedKey : Reader Nodes :=
  node "computed_property_name" do
    symbol "["
    let key ← enclosing true g.expression
    symbol "]"
    return key

/-- The key of a member of an object or a class. -/
def memberKey : Reader Nodes := do
  match ← nextChar? with
  | some '[' => g.computedKey
  | some '#' => privateName
  | some '"' => string
  | some '\'' => string
  | _ => wordNode "property_identifier" <|> number

/-- Whether a key of a member comes next. -/
def keyAhead : Reader Bool := do
  match ← upcoming with
  | [] => return false
  | character :: rest =>
    return "[#\"'".toList.contains character || isWordStart character || character.isDigit ||
      character == '\\' || (character == '.' && rest.head?.any Char.isDigit)

/-- Consumes a word that says something about the member after it, if it does: the member's key, or
the star of a generator, has to come next, on the same line where the word could stand alone. -/
def modifier? (modifierWord : String) : Reader Bool := do
  if (← nextWord?) != some modifierWord then return false
  let before ← get
  keyword modifierWord
  let ended ← lineEndsHere g.dialect false
  if !ended && ((← keyAhead) || (← startsWith "*")) then return true
  else
    set before
    return false

end Grammar

end StyleAudit.Script
