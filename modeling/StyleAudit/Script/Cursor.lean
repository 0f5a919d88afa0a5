import StyleAudit.Parse
import StyleAudit.Script.Character

/-!
Reading a script from left to right.

A cursor holds what is left of a text and where the last token ended. A reader consumes tokens and
yields nodes, or gives up and leaves the cursor to the next alternative. Comments belong to no
production: they are collected on the way and put into the tree afterwards.
-/

set_option autoImplicit false

namespace StyleAudit.Script

/-- A place in a script. -/
structure Cursor where
  /-- What is left; blanks and comments at its front may have been passed over already. -/
  rest : List Char
  offset : Nat
  /-- What follows the last token. -/
  tail : List Char
  /-- Where the last token ends. -/
  stop : Nat
  /-- Whether the place is inside brackets, where no semicolon can be left out. -/
  enclosed : Bool
  /-- The comments met so far, the latest first. -/
  remarks : List Node

/-- The start of a text. -/
def Cursor.ofText (text : List Char) : Cursor :=
  ⟨text, 0, text, 0, false, []⟩

/-- Reads a part of a script, or gives up. -/
abbrev Reader := StateT Cursor Option

/-- The nodes that a production contributes to its parent. -/
abbrev Nodes := List Node

/-- A named node. -/
def leaf (kind : String) (start stop : Nat) (children : Nodes) : Node :=
  ⟨kind, true, false, false, none, start, stop, children⟩

/-! ### Blanks and comments -/

/-- What is being passed over between two tokens. -/
inductive Gap where
  | blanks
  /-- A comment up to the end of its line, of the given kind, since an offset. -/
  | line (kind : String) (start : Nat)
  /-- A comment up to its closing mark; with the place to return to should it never close. -/
  | block (start : Nat) (text : List Char)

/-- What is left after a gap: the text, its offset, and the comments passed over. -/
structure GapEnd where
  rest : List Char
  offset : Nat
  remarks : List Node

/-- Passes over blanks and comments. Where `markup` is set, a line that starts with `<!--` or `-->`
is a comment too. -/
def passGap (markup : Bool) : Gap → Nat → List Node → List Char → GapEnd
  | .blanks, offset, remarks, [] => ⟨[], offset, remarks⟩
  | .line kind start, offset, remarks, [] => ⟨[], offset, leaf kind start offset [] :: remarks⟩
  | .block start text, _, remarks, [] => ⟨text, start, remarks⟩
  | .blanks, offset, remarks, '/' :: '/' :: rest =>
    passGap markup (.line "comment" offset) (offset + 2) remarks rest
  | .blanks, offset, remarks, '/' :: '*' :: rest =>
    passGap markup (.block offset ('/' :: '*' :: rest)) (offset + 2) remarks rest
  | .blanks, offset, remarks, '<' :: '!' :: '-' :: '-' :: rest =>
    if markup then passGap markup (.line "html_comment" offset) (offset + 4) remarks rest
    else ⟨'<' :: '!' :: '-' :: '-' :: rest, offset, remarks⟩
  | .blanks, offset, remarks, '-' :: '-' :: '>' :: rest =>
    if markup then passGap markup (.line "html_comment" offset) (offset + 3) remarks rest
    else ⟨'-' :: '-' :: '>' :: rest, offset, remarks⟩
  | .blanks, offset, remarks, character :: rest =>
    if isBlank character then
      passGap markup .blanks (offset + character.utf8Size) remarks rest
    else ⟨character :: rest, offset, remarks⟩
  | .line kind start, offset, remarks, character :: rest =>
    if isLineEnd character || (character == '\r' && kind == "comment") then
      passGap markup .blanks (offset + character.utf8Size)
        (leaf kind start offset [] :: remarks) rest
    else passGap markup (.line kind start) (offset + character.utf8Size) remarks rest
  | .block start _, offset, remarks, '*' :: '/' :: rest =>
    passGap markup .blanks (offset + 2) (leaf "comment" start (offset + 2) [] :: remarks) rest
  | .block start text, offset, remarks, character :: rest =>
    passGap markup (.block start text) (offset + character.utf8Size) remarks rest

/-- Passes over the blanks and comments in front of the next token. -/
def skipGapWith (markup : Bool) : Reader Unit :=
  modify fun cursor =>
    match cursor.rest with
    | [] => cursor
    | character :: _ =>
      if isBlank character || character == '/' || character == '<' || character == '-' then
        let gap := passGap markup .blanks cursor.offset cursor.remarks cursor.rest
        { cursor with rest := gap.rest, offset := gap.offset, remarks := gap.remarks }
      else cursor

/-- Passes over the gap in front of the next token. -/
def skipGap : Reader Unit :=
  skipGapWith false

/-- Passes over the gap in front of an operand or a statement, where a line may be a comment for
its opening mark. -/
def skipMarkup : Reader Unit :=
  skipGapWith true

/-! ### Tokens -/

/-- Puts the cursor behind a token that ends `length` bytes further on. -/
def consume (rest : List Char) (length : Nat) : Reader Unit :=
  modify fun cursor =>
    { cursor with
      rest, tail := rest
      offset := cursor.offset + length, stop := cursor.offset + length }

/-- What is left, from the next token on. -/
def upcoming : Reader (List Char) := do
  skipGap
  return (← get).rest

/-- The first character of the next token. -/
def nextChar? : Reader (Option Char) := do
  return (← upcoming).head?

/-- Whether a reader would succeed here; nothing is consumed. -/
def ahead {α : Type} (reader : Reader α) : Reader Bool := do
  let cursor ← get
  return (reader cursor).isSome

/-- Whether the text in front is the given one. -/
def startsWith (literal : String) : Reader Bool := do
  return (afterLiteral? literal.toList (← upcoming)).isSome

/-- Consumes a fixed text. -/
def symbol (literal : String) : Reader Unit := do
  match afterLiteral? literal.toList (← upcoming) with
  | some rest => consume rest literal.utf8ByteSize
  | none => failure

/-- Consumes a fixed text unless one of the given characters follows it at once. -/
def symbolUnless (literal : String) (followers : String) : Reader Unit := do
  match afterLiteral? literal.toList (← upcoming) with
  | some rest =>
    if rest.head?.any followers.toList.contains then failure
    else consume rest literal.utf8ByteSize
  | none => failure

/-- Consumes a fixed text if it is there. -/
def symbol? (literal : String) : Reader Bool := do
  if ← startsWith literal then
    symbol literal
    return true
  else return false

/-- Where a scan of a word is. -/
inductive WordPart where
  | start
  | inside
  /-- Inside the braces of an escape. -/
  | escape
deriving DecidableEq

/-- Whether braces with a hexadecimal number are in front of a text. -/
def bracedNumberAhead : List Char → Bool
  | '\x7b' :: rest =>
    match spanWhere isHexDigit rest with
    | (_ :: _, '\x7d' :: _) => true
    | _ => false
  | _ => false

/-- The word in front of a text with what follows it. An escape such as `\u0061` or `\u{61}` is part
of a word. -/
def scanWord : WordPart → List Char → List Char × List Char
  | _, [] => ([], [])
  | .escape, character :: rest =>
    let (word, rest) := scanWord (if character = '\x7d' then .inside else .escape) rest
    (character :: word, rest)
  | _, '\\' :: 'u' :: a :: b :: c :: d :: rest =>
    if isHexDigit a && isHexDigit b && isHexDigit c && isHexDigit d then
      let (word, rest) := scanWord .inside rest
      ('\\' :: 'u' :: a :: b :: c :: d :: word, rest)
    else if bracedNumberAhead (a :: b :: c :: d :: rest) then
      let (word, rest) := scanWord .escape (b :: c :: d :: rest)
      ('\\' :: 'u' :: a :: word, rest)
    else ([], '\\' :: 'u' :: a :: b :: c :: d :: rest)
  | part, character :: rest =>
    if (if part = .inside then isWordPart character else isWordStart character) then
      let (word, rest) := scanWord .inside rest
      (character :: word, rest)
    else ([], character :: rest)

/-- The next word, if a word is next; nothing is consumed. -/
def nextWord? : Reader (Option String) := do
  match scanWord .start (← upcoming) with
  | ([], _) => return none
  | (word, _) => return some (String.ofList word)

/-- Consumes a word. -/
def word : Reader String := do
  match scanWord .start (← upcoming) with
  | ([], _) => failure
  | (word, rest) =>
    consume rest (byteLength word)
    return String.ofList word

/-- Consumes the given word. -/
def keyword (expected : String) : Reader Unit := do
  let found ← word
  if found = expected then return () else failure

/-- Consumes the given word if it is next. -/
def keyword? (expected : String) : Reader Bool := do
  if (← nextWord?) = some expected then
    keyword expected
    return true
  else return false

/-! ### Nodes -/

/-- Wraps what a reader yields into a node that spans the tokens it consumes. -/
def node (kind : String) (children : Reader Nodes) : Reader Nodes := do
  skipGap
  let start := (← get).offset
  let children ← children
  let stop := (← get).stop
  return [leaf kind start (max start stop) children]

/-- Wraps nodes already read and what follows them into a node. -/
def nodeFrom (kind : String) (first : Nodes) (more : Reader Nodes) : Reader Nodes := do
  let start := ((first.head?).map (·.start)).getD (← get).offset
  let more ← more
  return [leaf kind start (max start (← get).stop) (first ++ more)]

/-- Holds nodes under a field. -/
def inField (name : String) (nodes : Nodes) : Nodes :=
  nodes.map fun node => { node with field := some name }

/-- Holds what a reader yields under a field. -/
def field (name : String) (reader : Reader Nodes) : Reader Nodes :=
  inField name <$> reader

/-- What a reader yields, or nothing. -/
def perhaps (reader : Reader Nodes) : Reader Nodes :=
  reader <|> pure []

/-- Reads inside brackets. -/
def enclosing {α : Type} (inside : Bool) (reader : Reader α) : Reader α := do
  let outer := (← get).enclosed
  modify fun cursor => { cursor with enclosed := inside }
  let value ← reader
  modify fun cursor => { cursor with enclosed := outer }
  return value

end StyleAudit.Script
