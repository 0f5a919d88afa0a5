import StyleAudit.Script.Class

/-!
Elements of markup inside a script.
-/

set_option autoImplicit false

namespace StyleAudit.Script.Grammar

variable (g : Grammar)

/-- A word of markup, which may hold dashes. -/
def markupWord (kind : String) : Reader Nodes :=
  node kind do
    let text ← upcoming
    match scanWord .start text with
    | ([], _) => failure
    | (name, rest) =>
      if rest.head? == some '-' then
        let (more, after) := spanWhere (fun c => c.isAlphanum || "_$-".toList.contains c) rest
        consume after (byteLength name + byteLength more)
        return []
      else if g.namesFreely (String.ofList name) then
        consume rest (byteLength name)
        return []
      else failure

/-- A word of markup, or two joined by a colon. -/
def namespacedWord (kind : String) : Reader Nodes := do
  let first ← g.markupWord kind
  if ← startsWith ":" then
    nodeFrom "jsx_namespace_name" (first.map fun node => { node with kind := "identifier" }) do
      symbol ":"
      g.markupWord "identifier"
  else return first

/-- The name of an element. -/
def elementName : Reader Nodes := do
  let first ← g.namespacedWord "identifier"
  dotted g.limit first

/-- An expression in braces within markup; it may be absent or spread. -/
def markupExpression : Reader Nodes :=
  node "jsx_expression" do
    symbol "\x7b"
    let inner ← enclosing true do
      if ← startsWith "\x7d" then return []
      else if ← startsWith "..." then g.spread
      else g.read .sequence
    symbol "\x7d"
    return inner

/-- The rest of a quoted attribute value. -/
def markupString : Reader Nodes :=
  token "string" fun text =>
    match text with
    | '"' :: rest => closing '"' rest
    | '\'' :: rest => closing '\'' rest
    | _ => none
where
  /-- What is left after the closing quote. -/
  closing (quote : Char) (text : List Char) : Option (List Char) :=
    match (spanWhere (· != quote) text).2 with
    | [] => none
    | _ :: rest => some rest

/-- An attribute of an element. -/
def markupAttribute : Reader Nodes := do
  if ← startsWith "\x7b" then g.markupExpression
  else
    node "jsx_attribute" do
      let name ← g.namespacedWord "property_identifier"
      if ← symbol? "=" then
        let value ← match ← nextChar? with
          | some '\x7b' => g.markupExpression
          | some '<' => g.read .element
          | _ => markupString
        return name ++ value
      else return name

/-- A name and attributes, as they stand in an opening mark. -/
def markupHead : Reader Nodes := do
  let name ← field "name" g.elementName
  let types ← field "type_arguments" (perhaps g.typeArguments)
  let attributes ← repeatingWhile g.limit
    (do return !(← startsWith ">") && !(← startsWith "/>")) (field "attribute" g.markupAttribute)
  return name ++ types ++ attributes

/-- A reference to a character: `&name;` or `&#code;`. -/
def characterReference : Reader Nodes :=
  token "html_character_reference" fun text =>
    match text with
    | '&' :: '#' :: rest =>
      match rest with
      | marker :: more =>
        if marker == 'x' || marker == 'X' then ended 6 isHexDigit more
        else ended 5 Char.isDigit rest
      | [] => none
    | '&' :: rest => ended 30 Char.isAlpha rest
    | _ => none
where
  /-- What is left after up to `most` characters of a kind and a semicolon. -/
  ended (most : Nat) (test : Char → Bool) (text : List Char) : Option (List Char) :=
    match spanWhere test text with
    | ([], _) => none
    | (front, ';' :: rest) => if front.length ≤ most then some rest else none
    | _ => none

/-- Whether running text of markup says anything: more than line ends and the blanks after them. -/
def saysSomething : (lineStart : Bool) → List Char → Bool
  | _, [] => false
  | lineStart, character :: rest =>
    if character == '\n' then saysSomething true rest
    else if lineStart && isBlank character then saysSomething true rest
    else true

/-- Running text between elements. -/
def markupText : Reader Nodes := do
  modify fun cursor => { cursor with rest := cursor.tail, offset := cursor.stop }
  let cursor ← get
  let (text, rest) := spanWhere (fun c => !("<>\x7b\x7d&".toList.contains c)) cursor.rest
  let length := byteLength text
  consume rest length
  if saysSomething false text then
    return [leaf "jsx_text" cursor.offset (cursor.offset + length) []]
  else return []

/-- What stands between the opening and the closing mark of an element. -/
def markupChildren : (limit : Nat) → Reader Nodes
  | 0 => failure
  | limit + 1 => do
    let text ← markupText
    let cursor ← get
    match cursor.rest with
    | '<' :: '/' :: _ => return text
    | '<' :: _ =>
      let child ← g.read .element
      return text ++ child ++ (← markupChildren limit)
    | '\x7b' :: _ =>
      let child ← g.markupExpression
      return text ++ child ++ (← markupChildren limit)
    | '&' :: _ =>
      let child ← characterReference
      return text ++ child ++ (← markupChildren limit)
    | _ => failure

/-- An element: a single mark, or an opening mark, children and a closing mark. The names of the two
marks are not compared. -/
def element : Reader Nodes := do
  skipGap
  let start := (← get).offset
  symbol "<"
  let head ← if ← startsWith ">" then pure [] else g.markupHead
  if !head.isEmpty && (← startsWith "/>") then
    symbol "/>"
    return [leaf "jsx_self_closing_element" start (← get).stop head]
  else
    symbol ">"
    let opening := leaf "jsx_opening_element" start (← get).stop head
    let children ← g.markupChildren g.limit
    let closing ← node "jsx_closing_element" do
      symbol "</"
      let name ← if ← startsWith ">" then pure [] else field "name" g.elementName
      symbol ">"
      return name
    return [leaf "jsx_element" start (← get).stop
      (inField "open_tag" [opening] ++ children ++ inField "close_tag" closing)]

end StyleAudit.Script.Grammar
