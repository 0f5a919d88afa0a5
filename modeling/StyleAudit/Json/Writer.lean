import StyleAudit.Text.Quoted

/-!
Writing JSON.

A document is written with one item or member a line, two spaces deeper for each level. Only ASCII
is written: all other characters are escaped by their 16-bit units.
-/

set_option autoImplicit false

namespace StyleAudit.Json

/-- A document to be written. -/
inductive Document where
  | null
  | integer (value : Int)
  | text (value : String)
  | list (items : List Document)
  | object (members : List (String × Document))
deriving Repr, Inhabited

/-- An escape that gives a 16-bit unit. -/
def unitEscape (unit : Nat) : List Char :=
  '\\' :: 'u' :: Text.hexDigits 4 unit

/-- A character as it is written in a string. -/
def writtenCharacter (character : Char) : List Char :=
  let code := character.toNat
  if character = '"' then ['\\', '"']
  else if character = '\\' then ['\\', '\\']
  else if character = '\n' then ['\\', 'n']
  else if character = '\r' then ['\\', 'r']
  else if character = '\t' then ['\\', 't']
  else if character = '\x08' then ['\\', 'b']
  else if character = '\x0c' then ['\\', 'f']
  else if 0x20 ≤ code ∧ code < 0x7F then [character]
  else if code < 0x10000 then unitEscape code
  else
    unitEscape (0xD800 + (code - 0x10000) / 0x400) ++ unitEscape (0xDC00 + (code - 0x10000) % 0x400)

/-- A text as it is written, between quotes. -/
def writtenText (text : String) : String :=
  String.ofList ('"' :: text.toList.flatMap writtenCharacter ++ ['"'])

/-- The start of a line at a depth. -/
def lineStart (depth : Nat) : String :=
  "\n" ++ String.ofList (List.replicate (2 * depth) ' ')

/-- Written parts between brackets, one a line. -/
def bracketed (opening closing : String) (depth : Nat) (parts : List String) : String :=
  if parts.isEmpty then opening ++ closing
  else
    let lines := parts.map (lineStart (depth + 1) ++ ·)
    opening ++ ",".intercalate lines ++ lineStart depth ++ closing

mutual

/-- A document as it is written at a depth. -/
def Document.write : (depth : Nat) → Document → String
  | _, .null => "null"
  | _, .integer value => toString value
  | _, .text value => writtenText value
  | depth, .list items => bracketed "[" "]" depth (writeItems (depth + 1) items)
  | depth, .object members => bracketed "\x7b" "\x7d" depth (writeMembers (depth + 1) members)

/-- Items as they are written. -/
def writeItems : (depth : Nat) → List Document → List String
  | _, [] => []
  | depth, item :: rest => item.write depth :: writeItems depth rest

/-- Members as they are written. -/
def writeMembers : (depth : Nat) → List (String × Document) → List String
  | _, [] => []
  | depth, (name, value) :: rest =>
    (writtenText name ++ ": " ++ value.write depth) :: writeMembers depth rest

end

/-- The text of a document. -/
def Document.render (document : Document) : String :=
  document.write 0

end StyleAudit.Json
