import StyleAudit.Script.Cursor

/-!
Numbers, strings and regular expressions.
-/

set_option autoImplicit false

namespace StyleAudit.Script

/-- Digits with single underscores between them: what is left after as many as possible. -/
def afterDigits (test : Char → Bool) : List Char → List Char
  | [] => []
  | '_' :: character :: rest =>
    if test character then afterDigits test rest else '_' :: character :: rest
  | character :: rest => if test character then afterDigits test rest else character :: rest

/-- At least one digit, then digits with single underscores between them. -/
def digits? (test : Char → Bool) : List Char → Option (List Char)
  | [] => none
  | character :: rest => if test character then some (afterDigits test rest) else none

/-- What is left after an exponent, if there is one. -/
def afterExponent (text : List Char) : List Char :=
  match text with
  | marker :: rest =>
    if marker == 'e' || marker == 'E' then
      let unsigned := match rest with
        | sign :: more => if sign == '+' || sign == '-' then more else rest
        | [] => []
      (digits? Char.isDigit unsigned).getD text
    else text
  | [] => []

/-- What is left after a number in a base other than ten. -/
def afterBased? (text : List Char) : Option (List Char) :=
  match text with
  | '0' :: marker :: rest =>
    let test? : Option (Char → Bool) :=
      if marker == 'x' || marker == 'X' then some isHexDigit
      else if marker == 'o' || marker == 'O' then some fun c => '0' ≤ c && c ≤ '7'
      else if marker == 'b' || marker == 'B' then some fun c => c == '0' || c == '1'
      else none
    test?.bind fun test => (digits? test rest).map fun after =>
      match after with
      | 'n' :: more => more
      | _ => after
  | _ => none

/-- What is left after a decimal number. -/
def afterDecimal? (text : List Char) : Option (List Char) :=
  match text with
  | '.' :: rest => (digits? Char.isDigit rest).map afterExponent
  | _ => (digits? Char.isDigit text).map fun after =>
    match after with
    | 'n' :: more => more
    | '.' :: more => afterExponent ((digits? Char.isDigit more).getD more)
    | _ => afterExponent after

/-- What is left after a number. -/
def afterNumber? (text : List Char) : Option (List Char) :=
  (afterBased? text).or (afterDecimal? text)

/-- What is left after an escape sequence, given the text after its backslash. -/
def afterEscape? : List Char → Option (List Char)
  | [] => none
  | 'x' :: a :: b :: rest => if isHexDigit a && isHexDigit b then some rest else none
  | 'u' :: '{' :: rest =>
    match spanWhere isHexDigit rest with
    | (_ :: _, '}' :: after) => some after
    | _ => none
  | 'u' :: a :: b :: c :: d :: rest =>
    if isHexDigit a && isHexDigit b && isHexDigit c && isHexDigit d then some rest else none
  | '\r' :: '\n' :: rest => some rest
  | character :: rest => if character == 'x' || character == 'u' then none else some rest

/-- What is left after a string, given the text after its opening quote; `fuel` bounds the
characters. -/
def afterString? (quote : Char) : (fuel : Nat) → List Char → Option (List Char)
  | 0, _ => none
  | _ + 1, [] => none
  | fuel + 1, '\\' :: rest => (afterEscape? rest).bind (afterString? quote fuel)
  | fuel + 1, character :: rest =>
    if character == quote then some rest
    else if character == '\n' || character == '\r' then none
    else afterString? quote fuel rest

/-- What is left after a regular expression with its flags, given the text after the opening
slash. -/
def afterPattern? (inClass : Bool) : List Char → Option (List Char)
  | [] => none
  | '\\' :: character :: rest => if character == '\n' then none else afterPattern? inClass rest
  | character :: rest =>
    if character == '\n' then none
    else if inClass then afterPattern? (character != ']') rest
    else if character == '/' then some (spanWhere (fun c => 'a' ≤ c && c ≤ 'z') rest).2
    else afterPattern? (character == '[') rest

/-- Consumes a token that ends where a text is left, as a node. -/
def token (kind : String) (after? : List Char → Option (List Char)) : Reader Nodes := do
  let text ← upcoming
  match after? text with
  | none => failure
  | some rest =>
    let start := (← get).offset
    let length := byteLength (text.take (text.length - rest.length))
    consume rest length
    return [leaf kind start (start + length) []]

/-- Reads a number. -/
def number : Reader Nodes :=
  token "number" afterNumber?

/-- Reads a string. -/
def string : Reader Nodes :=
  token "string" fun text =>
    match text with
    | '"' :: rest => afterString? '"' rest.length rest
    | '\'' :: rest => afterString? '\'' rest.length rest
    | _ => none

/-- Reads a regular expression. -/
def regex : Reader Nodes :=
  token "regex" fun text =>
    match text with
    | '/' :: '*' :: _ => none
    | '/' :: '/' :: _ => none
    | '/' :: rest => afterPattern? false rest
    | _ => none

end StyleAudit.Script
