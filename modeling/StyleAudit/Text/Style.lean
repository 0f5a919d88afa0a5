/-!
Colored text on a terminal.

A text is colored by an escape sequence in front of it, and another one behind it ends all colors.
-/

set_option autoImplicit false

namespace StyleAudit.Text

/-- Colors of text. -/
inductive Color where
  | red
  | green
  | yellow
  | gray
deriving DecidableEq, Repr

/-- The number of a color. -/
def Color.code : Color → Nat
  | red => 31
  | green => 32
  | yellow => 33
  | gray => 90

/-- The character that starts an escape sequence. -/
def escapeCharacter : Char :=
  '\x1b'

/-- The escape sequence of a number. -/
def escapeSequence (code : Nat) : String :=
  String.ofList [escapeCharacter, '['] ++ toString code ++ "m"

/-- A text in a color. -/
def colored (color : Option Color) (text : String) : String :=
  (match color with
    | some color => escapeSequence color.code
    | none => "") ++ text ++ escapeSequence 0

/-- Whether a character may stand in an escape sequence before the letter that ends it. -/
def isSequenceCharacter (character : Char) : Bool :=
  character == ';' || character == '?' || character.isDigit

/-- What follows the escape sequence that starts behind the characters `\x1b[`, if there is one. -/
def afterSequence? (text : List Char) : Option (List Char) :=
  match text.dropWhile isSequenceCharacter with
  | letter :: rest => if letter.isAlpha then some rest else none
  | [] => none

/-- A text without its escape sequences; `fuel` bounds its length. -/
def plainWithin : (fuel : Nat) → List Char → List Char
  | 0, text => text
  | _ + 1, [] => []
  | fuel + 1, first :: rest =>
    match first, rest with
    | '\x1b', '[' :: more =>
      match afterSequence? more with
      | some after => plainWithin fuel after
      | none => first :: plainWithin fuel rest
    | _, _ => first :: plainWithin fuel rest

/-- A text without its escape sequences. -/
def plain (text : String) : String :=
  String.ofList (plainWithin text.length text.toList)

end StyleAudit.Text
