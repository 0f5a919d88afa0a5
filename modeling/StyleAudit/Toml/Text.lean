import StyleAudit.Text.Hexadecimal

/-!
Texts and keys of TOML.

A text is literal, between single quotes, or basic, between double quotes and with escapes. Three
quotes instead of one allow several lines. A key is a sequence of parts with points between them,
each part being bare or a text of one line.
-/

set_option autoImplicit false

namespace StyleAudit.Toml

/-- Why a text is not read. -/
inductive Refusal where
  | malformed
  | tooManyDigits
deriving DecidableEq, Repr

/-- Whether a character separates the tokens of a line. -/
def isBlank (character : Char) : Bool :=
  character == ' ' || character == '\t'

/-- Whether a character separates the items of an array. -/
def isBlankOrBreak (character : Char) : Bool :=
  isBlank character || character == '\n'

/-- A text without the blanks in front. -/
def skipBlanks (text : List Char) : List Char :=
  text.dropWhile isBlank

/-- Whether a character is a control character other than a tab. -/
def isControl (character : Char) : Bool :=
  (character.toNat < 0x20 && character != '\t') || character.toNat == 0x7F

/-- Whether a character cannot stand in a text as it is. -/
def isBarred (multiline : Bool) (character : Char) : Bool :=
  isControl character && !(multiline && character == '\n')

/-- The quotes that open and close a text. -/
def quotes (quote : Char) (multiline : Bool) : List Char :=
  List.replicate (if multiline then 3 else 1) quote

/-! ### Literal texts -/

/-- What stands in front of a mark and what stands behind it. -/
def cutAt? (mark : List Char) : List Char → Option (List Char × List Char)
  | [] => none
  | first :: rest =>
    if mark.isPrefixOf (first :: rest) then some ([], (first :: rest).drop mark.length)
    else (cutAt? mark rest).map fun (before, after) => (first :: before, after)

/-- Reads a literal text behind its opening quotes. -/
def literalText (multiline : Bool) (text : List Char) : Except Refusal (List Char × List Char) :=
  match cutAt? (quotes '\'' multiline) text with
  | none => .error .malformed
  | some (body, after) =>
    if body.any (isBarred multiline) then .error .malformed else .ok (body, after)

/-! ### Basic texts -/

/-- The character that an escape of one letter stands for. -/
def simpleEscape? : Char → Option Char
  | 'b' => some '\x08'
  | 't' => some '\t'
  | 'n' => some '\n'
  | 'f' => some '\x0c'
  | 'r' => some '\r'
  | '"' => some '"'
  | '\\' => some '\\'
  | _ => none

/-- Reads a character that is given by `width` hexadecimal digits. -/
def codeCharacter (width : Nat) (text : List Char) : Except Refusal (List Char × List Char) :=
  if text.length < width then .error .malformed
  else
    match Text.hexNumber? (text.take width) with
    | none => .error .malformed
    | some code => if code.isValidChar then .ok ([Char.ofNat code], text.drop width)
      else .error .malformed

/-- Reads what follows a backslash. In a text of several lines, a backslash at the end of a line
takes the line break with it, and all blanks and breaks behind that. -/
def escape (multiline : Bool) : List Char → Except Refusal (List Char × List Char)
  | 'u' :: rest => codeCharacter 4 rest
  | 'U' :: rest => codeCharacter 8 rest
  | marker :: rest =>
    match simpleEscape? marker with
    | some character => .ok ([character], rest)
    | none =>
      if multiline && isBlankOrBreak marker then
        match skipBlanks (marker :: rest) with
        | '\n' :: more => .ok ([], more.dropWhile isBlankOrBreak)
        | _ => .error .malformed
      else .error .malformed
  | [] => .error .malformed

/-- Reads a basic text behind its opening quotes; `fuel` bounds its characters. -/
def basicText (multiline : Bool) : (fuel : Nat) → List Char → Except Refusal (List Char × List Char)
  | 0, _ => .error .malformed
  | _ + 1, [] => .error .malformed
  | fuel + 1, first :: rest =>
    if (quotes '"' multiline).isPrefixOf (first :: rest) then
      .ok ([], (first :: rest).drop (quotes '"' multiline).length)
    else if first = '\\' then do
      let (written, after) ← escape multiline rest
      let (more, last) ← basicText multiline fuel after
      return (written ++ more, last)
    else if isBarred multiline first then .error .malformed
    else do
      let (more, last) ← basicText multiline fuel rest
      return (first :: more, last)

/-! ### Texts of either kind -/

/-- Reads a text of one line from its opening quote on. -/
def lineText (text : List Char) : Except Refusal (List Char × List Char) :=
  match text with
  | '"' :: rest => basicText false (rest.length + 1) rest
  | '\'' :: rest => literalText false rest
  | _ => .error .malformed

/-- A text without the line break in front. -/
def skipBreak : List Char → List Char
  | '\n' :: rest => rest
  | text => text

/-- A text of several lines, with up to two quotes that stand in front of the closing ones. -/
def withExtraQuotes (quote : Char) (body after : List Char) : List Char × List Char :=
  let extra := (after.take 2).takeWhile (· = quote)
  (body ++ extra, after.drop extra.length)

/-- Reads a text from its opening quotes on. -/
def text (text : List Char) : Except Refusal (List Char × List Char) :=
  match text with
  | '"' :: '"' :: '"' :: rest => do
    let body := skipBreak rest
    let (read, after) ← basicText true (body.length + 1) body
    return withExtraQuotes '"' read after
  | '\'' :: '\'' :: '\'' :: rest => do
    let (read, after) ← literalText true (skipBreak rest)
    return withExtraQuotes '\'' read after
  | _ => lineText text

/-! ### Keys -/

/-- Whether a character may stand in a bare part of a key. -/
def isBare (character : Char) : Bool :=
  character.isAlphanum || character == '-' || character == '_'

/-- Whether a character starts a key. -/
def startsKey (character : Char) : Bool :=
  isBare character || character == '"' || character == '\''

/-- Reads a part of a key, and the blanks behind it. -/
def keyPart (text : List Char) : Except Refusal (String × List Char) :=
  let bare := text.takeWhile isBare
  if bare.isEmpty then do
    let (name, after) ← lineText text
    return (String.ofList name, skipBlanks after)
  else .ok (String.ofList bare, skipBlanks (text.dropWhile isBare))

/-- Reads a key and the blanks behind it; `fuel` bounds its parts. -/
def keyParts : (fuel : Nat) → List Char → Except Refusal (List String × List Char)
  | 0, _ => .error .malformed
  | fuel + 1, text => do
    let (name, after) ← keyPart text
    match after with
    | '.' :: rest => do
      let (more, last) ← keyParts fuel (skipBlanks rest)
      return (name :: more, last)
    | _ => return ([name], after)

/-- Reads a key and the blanks behind it. -/
def key (text : List Char) : Except Refusal (List String × List Char) :=
  keyParts (text.length + 1) text

end StyleAudit.Toml
