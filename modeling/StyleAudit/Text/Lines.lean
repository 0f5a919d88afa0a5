/-!
Lines of a text.

`splitLines` cuts at line feeds and nowhere else, so a text has one line more than it has line
feeds. `normalizeNewlines` turns every way of ending a line into a line feed.
-/

set_option autoImplicit false

namespace StyleAudit.Text

/-- The pieces of a text between the characters that satisfy a test: one more than there are such
characters. -/
def splitWhere (test : Char → Bool) : List Char → List (List Char)
  | [] => [[]]
  | character :: rest =>
    if test character then [] :: splitWhere test rest
    else
      match splitWhere test rest with
      | [] => [[character]]
      | piece :: pieces => (character :: piece) :: pieces

/-- The lines of a text, without their line feeds. -/
def splitLines (text : String) : List String :=
  (splitWhere (· = '\n') text.toList).map String.ofList

/-- A text in which a line feed ends every line: a carriage return, with or without a line feed
after it, becomes one. -/
def normalizeNewlines : List Char → List Char
  | [] => []
  | '\r' :: '\n' :: rest => '\n' :: normalizeNewlines rest
  | character :: rest =>
    (if character = '\r' then '\n' else character) :: normalizeNewlines rest

end StyleAudit.Text
