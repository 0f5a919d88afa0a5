import StyleAudit.Text.Hexadecimal
import StyleAudit.Text.Printable

/-!
Quoted texts.

A quoted text stands between single quotes, or between double ones where it holds single ones only.
Backslashes, the quote in use and all characters that are not shown as they are get escaped.
-/

set_option autoImplicit false

namespace StyleAudit.Text

/-- An escape that gives a character by its code point. -/
def codeEscape (character : Char) : List Char :=
  let code := character.toNat
  if code < 0x100 then '\\' :: 'x' :: hexDigits 2 code
  else if code < 0x10000 then '\\' :: 'u' :: hexDigits 4 code
  else '\\' :: 'U' :: hexDigits 8 code

/-- A character as it is written between quotes. -/
def quotedCharacter (quote : Char) (character : Char) : List Char :=
  if character = '\\' then ['\\', '\\']
  else if character = quote then ['\\', quote]
  else if character = '\n' then ['\\', 'n']
  else if character = '\r' then ['\\', 'r']
  else if character = '\t' then ['\\', 't']
  else if isPrintable character then [character]
  else codeEscape character

/-- The quote that a text is put between. -/
def quoteFor (text : List Char) : Char :=
  if text.contains '\'' && !text.contains '"' then '"' else '\''

/-- A text between quotes. -/
def quote (text : String) : String :=
  let characters := text.toList
  let mark := quoteFor characters
  String.ofList (mark :: characters.flatMap (quotedCharacter mark) ++ [mark])

/-- A text with all characters beyond ASCII escaped. -/
def escapeBeyondAscii (text : String) : String :=
  String.ofList <| text.toList.flatMap fun character =>
    if character.toNat < 0x80 then [character] else codeEscape character

end StyleAudit.Text
