/-!
Positions in a text.

Syntax trees speak of byte offsets into the UTF-8 form of a text, people speak of lines and columns.
`Position.after` walks a text up to an offset and says which line and column that is; `cut` is the
text between two offsets; `sliceLines` is the run of whole lines that a span touches.
-/

set_option autoImplicit false

namespace StyleAudit

/-- A place in a text: lines count from 1, columns from 0. A line may be negative where a caller
counts from the end of a file. -/
structure Position where
  line : Int
  column : Nat
deriving DecidableEq, Repr, Inhabited

/-- A stretch of text, its end exclusive. -/
structure Span where
  start : Position
  stop : Position
deriving DecidableEq, Repr, Inhabited

/-- What a column counts. -/
inductive ColumnUnit where
  | characters
  | bytes
deriving DecidableEq, Repr

/-- How far a column moves over a character when `left` bytes remain before the offset sought. -/
def ColumnUnit.width : ColumnUnit → Char → Nat → Nat
  | .characters, _, _ => 1
  | .bytes, character, left => min left character.utf8Size

/-- Where a text starts. -/
def Position.origin : Position := ⟨1, 0⟩

/-- The position `offset` bytes further on in `text`, starting from `here`. Only a line feed starts
a new line; a character that the offset cuts counts as one column. -/
def Position.after (unit : ColumnUnit) (here : Position) : List Char → Nat → Position
  | _, 0 => here
  | [], _ + 1 => here
  | character :: rest, left + 1 =>
    let next : Position :=
      if character = '\n' then ⟨here.line + 1, 0⟩
      else ⟨here.line, here.column + unit.width character (left + 1)⟩
    next.after unit rest (left + 1 - character.utf8Size)

/-- The position of a byte offset in a text. -/
def positionAt (unit : ColumnUnit) (text : List Char) (offset : Nat) : Position :=
  Position.origin.after unit text offset

/-- The span between two byte offsets of a text. -/
def spanBetween (unit : ColumnUnit) (text : List Char) (start stop : Nat) : Span :=
  ⟨positionAt unit text start, positionAt unit text stop⟩

/-- A text without its first `count` bytes. -/
def dropBytes : List Char → Nat → List Char
  | text, 0 => text
  | [], _ + 1 => []
  | character :: rest, count + 1 => dropBytes rest (count + 1 - character.utf8Size)

/-- The first `count` bytes of a text. -/
def takeBytes : List Char → Nat → List Char
  | _, 0 => []
  | [], _ + 1 => []
  | character :: rest, count + 1 =>
    character :: takeBytes rest (count + 1 - character.utf8Size)

/-- The text between two byte offsets. -/
def cut (text : List Char) (start stop : Nat) : List Char :=
  takeBytes (dropBytes text start) (stop - start)

/-- A list bound as an index: a negative bound counts from the end, and both ends are clamped. -/
def clampIndex (length : Nat) (bound : Int) : Nat :=
  if bound < 0 then (bound + length).toNat else min bound.toNat length

/-- The members from bound `low` up to, not including, bound `high`. -/
def sliceBetween {α : Type} (members : List α) (low high : Int) : List α :=
  let first := clampIndex members.length low
  let past := clampIndex members.length high
  (members.drop first).take (past - first)

/-- The whole lines from a span's first to its last, joined again. -/
def sliceLines (lines : List String) (span : Span) : String :=
  "\n".intercalate (sliceBetween lines (span.start.line - 1) span.stop.line)

end StyleAudit
