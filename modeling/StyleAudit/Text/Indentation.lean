import StyleAudit.Text.Lines

/-!
The margin of a text.

The margin is the longest indentation that all lines share; lines of nothing but indentation have no
say in it, and lose theirs.
-/

set_option autoImplicit false

namespace StyleAudit.Text

/-- Whether a character indents a line. -/
def isIndent (character : Char) : Bool :=
  character == ' ' || character == '\t'

/-- A line, emptied where it is nothing but indentation. -/
def clearBlankLine (line : List Char) : List Char :=
  if line.all isIndent then [] else line

/-- The indentation of a line. -/
def indentOf (line : List Char) : List Char :=
  line.takeWhile isIndent

/-- What two texts start with in common. -/
def commonStart : List Char → List Char → List Char
  | first :: rest, other :: others =>
    if first = other then first :: commonStart rest others else []
  | _, _ => []

/-- The margin of some lines. -/
def margin (lines : List (List Char)) : List Char :=
  match (lines.filter (!·.isEmpty)).map indentOf with
  | [] => []
  | first :: rest => rest.foldl commonStart first

/-- A line without a margin. -/
def dropMargin (margin line : List Char) : List Char :=
  if margin.isPrefixOf line then line.drop margin.length else line

/-- A text without its margin. -/
def dedent (text : String) : String :=
  let lines := (splitWhere (· = '\n') text.toList).map clearBlankLine
  let margin := margin lines
  "\n".intercalate ((lines.map (dropMargin margin)).map String.ofList)

/-- A text without the line feeds in front. -/
def dropLeadingBreaks (text : String) : String :=
  String.ofList (text.toList.dropWhile (· = '\n'))

end StyleAudit.Text
