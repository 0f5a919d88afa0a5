/-!
Characters of a script: blanks, line ends, and what words are made of.
-/

set_option autoImplicit false

namespace StyleAudit.Script

/-- Whether a character separates tokens without being one. -/
def isBlank (character : Char) : Bool :=
  let code := character.toNat
  (0x09 ≤ code && code ≤ 0x0D) || code == 0x20 || code == 0x85 || code == 0xA0 || code == 0x1680 ||
  (0x2000 ≤ code && code ≤ 0x200B) || code == 0x2028 || code == 0x2029 || code == 0x202F ||
  code == 0x205F || code == 0x2060 || code == 0x3000 || code == 0xFEFF

/-- Whether a character ends a line for the purpose of leaving out a semicolon. -/
def isLineEnd (character : Char) : Bool :=
  character == '\n' || character == '\u2028' || character == '\u2029'

/-- Whether a character may stand inside a word. Everything beyond ASCII may that is no blank. -/
def isWordPart (character : Char) : Bool :=
  character.isAlphanum || character == '_' || character == '$' || character == '\x7f' ||
  (0x80 ≤ character.toNat && !isBlank character)

/-- Whether a character may start a word. -/
def isWordStart (character : Char) : Bool :=
  isWordPart character && !character.isDigit

/-- Whether a character is a hexadecimal digit. -/
def isHexDigit (character : Char) : Bool :=
  character.isDigit || ('a' ≤ character && character ≤ 'f') || ('A' ≤ character && character ≤ 'F')

/-- What follows the first characters of a text when these are the given ones. -/
def afterLiteral? : List Char → List Char → Option (List Char)
  | [], rest => some rest
  | _ :: _, [] => none
  | expected :: others, character :: rest =>
    if expected = character then afterLiteral? others rest else none

/-- The characters that satisfy a test at the front of a text, and the rest. -/
def spanWhere (test : Char → Bool) : List Char → List Char × List Char
  | [] => ([], [])
  | character :: rest =>
    if test character then
      let (front, back) := spanWhere test rest
      (character :: front, back)
    else ([], character :: rest)

/-- The number of bytes of a text in UTF-8. -/
def byteLength (text : List Char) : Nat :=
  text.foldl (fun length character => length + character.utf8Size) 0

end StyleAudit.Script
