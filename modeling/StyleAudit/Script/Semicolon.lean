import StyleAudit.Script.Cursor

/-!
Where a semicolon may be left out.

At the end of a text and before a closing brace none is needed. After a line end none is needed
unless the next character could continue the statement. The two dialects differ in a few of these
characters.
-/

set_option autoImplicit false

namespace StyleAudit.Script

/-- Whether a text starts with the operator `in` or `instanceof`, given the text after its `i`. -/
def continuesWithRelation : List Char → Bool
  | 'n' :: rest =>
    match rest with
    | [] => true
    | character :: _ =>
      if !character.isAlpha then true
      else
        match afterLiteral? "stanceof".toList rest with
        | none => false
        | some after => !after.head?.any Char.isAlpha
  | _ => false

/-- Whether a statement ends at a line end that is followed by the given text. `operand` says
whether an operator could follow. -/
def endsBefore (dialect : Dialect) (operand : Bool) : List Char → Bool
  | [] => true
  | '+' :: rest => rest.head? == some '+'
  | '-' :: rest => rest.head? == some '-'
  | '!' :: rest => rest.head? != some '='
  | 'i' :: rest => !continuesWithRelation rest
  | '.' :: rest => dialect == .plain && rest.head?.any Char.isDigit
  | character :: _ =>
    if character == '(' || character == '[' then dialect == .typed && !operand
    else !("`,:;*%><=?^|&/".toList.contains character)

/-- What follows the blanks in front of a text, with whether a line end was among them. -/
def dropBlanks (lineEnded : Bool) : List Char → Bool × List Char
  | [] => (lineEnded, [])
  | character :: rest =>
    if isBlank character then dropBlanks (lineEnded || isLineEnd character) rest
    else (lineEnded, character :: rest)

/-- What follows the end of a block comment, with whether a line ended inside; none if it never
ends. -/
def afterBlock (lineEnded : Bool) : List Char → Option (Bool × List Char)
  | [] => none
  | '*' :: '/' :: rest => some (lineEnded, rest)
  | character :: rest => afterBlock (lineEnded || isLineEnd character) rest

/-- How the gap after a statement looks: whether a line ended outside comments, whether a comment
ended a line, and what follows. -/
structure Ending where
  lineEnded : Bool
  remarkEnded : Bool
  rest : List Char

/-- Passes over the blanks and comments after a statement; `fuel` bounds their number. -/
def endingOf : (fuel : Nat) → (lineEnded remarkEnded : Bool) → List Char → Ending
  | 0, lineEnded, remarkEnded, text => ⟨lineEnded, remarkEnded, text⟩
  | fuel + 1, lineEnded, remarkEnded, text =>
    match dropBlanks lineEnded text with
    | (lineEnded, '/' :: '/' :: rest) =>
      let after := (spanWhere (fun c => !isLineEnd c && c != '\r') rest).2
      endingOf fuel lineEnded (remarkEnded || !lineEnded) after
    | (lineEnded, '/' :: '*' :: rest) =>
      match afterBlock false rest with
      | some (inside, after) =>
        endingOf fuel lineEnded (remarkEnded || (inside && !lineEnded)) after
      | none => ⟨lineEnded, remarkEnded, '/' :: '*' :: rest⟩
    | (lineEnded, rest) => ⟨lineEnded, remarkEnded, rest⟩

/-- Whether a statement may end without a semicolon where the given text follows it. -/
def endsUnmarked (dialect : Dialect) (operand : Bool) (text : List Char) : Bool :=
  let ending := endingOf (text.length + 1) false false text
  match ending.rest with
  | [] => true
  | '}' :: rest =>
    match dialect with
    | .plain => true
    | .typed => operand || (dropBlanks false rest).2.head? != some ':'
  | rest =>
    if dialect == .plain && !operand && ending.remarkEnded &&
        rest.head? != some ',' && rest.head? != some '=' then true
    else ending.lineEnded && endsBefore dialect operand rest

/-- Consumes the end of a statement: nothing where the semicolon is left out, else the semicolon. -/
def semicolon (dialect : Dialect) (operand : Bool) : Reader Unit := do
  if endsUnmarked dialect operand (← get).tail then return ()
  else symbol ";"

/-- Whether the statement could end right here because of a line end. -/
def lineEndsHere (dialect : Dialect) (operand : Bool) : Reader Bool := do
  let cursor ← get
  return !cursor.enclosed && endsUnmarked dialect operand cursor.tail

end StyleAudit.Script
