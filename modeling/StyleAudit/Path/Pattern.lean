import StyleAudit.Path

/-!
Patterns of file names.

A star stands for any characters, a question mark for one, and brackets for one of a set, which may
hold ranges. `Pattern.ofText` reads a pattern, `Pattern.accepts` matches a whole name.
-/

set_option autoImplicit false

namespace StyleAudit

namespace Pattern

/-- A part of a pattern. -/
inductive Part where
  | anything
  | anyCharacter
  | exactly (character : Char)
  /-- One character from the first to the second one of a pair, or, where `negated` is set, one that
  is in no such range. -/
  | oneOf (negated : Bool) (ranges : List (Char × Char))
deriving DecidableEq, Repr

end Pattern

/-- A pattern of file names. -/
structure Pattern where
  parts : List Pattern.Part
deriving DecidableEq, Repr

namespace Pattern

/-- Whether a part stands for a character. -/
def Part.admits : Part → Char → Bool
  | anything, _ => true
  | anyCharacter, _ => true
  | exactly expected, character => expected = character
  | oneOf negated ranges, character =>
    negated != ranges.any fun range => range.1 ≤ character && character ≤ range.2

/-- Whether a test holds of some end of a text. -/
def someEnd (test : List Char → Bool) : List Char → Bool
  | [] => test []
  | character :: more => test (character :: more) || someEnd test more

/-- Whether parts match a whole text. -/
def matchParts : List Part → List Char → Bool
  | [], text => text.isEmpty
  | .anything :: rest, text => someEnd (matchParts rest) text
  | part :: rest, text =>
    match text with
    | [] => false
    | character :: more => part.admits character && matchParts rest more

/-- A set in brackets, cut at the hyphens that make ranges: a hyphen makes one that has a character
on its left. The piece that it ends needs `needed` characters, and two where it starts behind
another hyphen. -/
def pieces (needed : Nat) : List Char → List Char → List (List Char)
  | reversed, [] => [reversed.reverse]
  | reversed, character :: rest =>
    if character = '-' && needed ≤ reversed.length then
      reversed.reverse :: pieces 2 [] rest
    else pieces needed (character :: reversed) rest

/-- A piece behind another one, the hyphen between them making a range: a range without characters
is removed together with its ends. -/
def joinPieces (piece : List Char) : List (List Char) → List (List Char)
  | [] => [piece]
  | next :: rest =>
    match piece.getLast?, next.head? with
    | some low, some high =>
      if high < low then (piece.dropLast ++ next.tail) :: rest else piece :: next :: rest
    | _, _ => piece :: next :: rest

/-- A final hyphen that makes no range is a character of its own. -/
def closePieces (all : List (List Char)) : List (List Char) :=
  match all.reverse with
  | [] :: last :: others => ((last ++ ['-']) :: others).reverse
  | _ => all

/-- The ranges of pieces: one between neighbouring ones, and one for every other character. Where
`begun` is set, the first character has ended a range already. -/
def rangesOf (begun : Bool) : List (List Char) → List (Char × Char)
  | [] => []
  | piece :: rest =>
    let own := if begun then piece.tail else piece
    match rest with
    | [] => own.map fun character => (character, character)
    | next :: _ =>
      let range := match piece.getLast?, next.head? with
        | some low, some high => [(low, high)]
        | _, _ => []
      (own.dropLast.map fun character => (character, character)) ++ range ++ rangesOf true rest

/-- The set that the text between brackets stands for. -/
def setOf (text : List Char) : Part :=
  let negated := text.head? = some '!'
  if text.contains '-' then
    let cuts := closePieces (pieces (if negated then 2 else 1) [] text)
    let kept := cuts.foldr joinPieces []
    let (negated, kept) := match kept with
      | ('!' :: first) :: rest => (true, first :: rest)
      | _ => (false, kept)
    if kept.all List.isEmpty then if negated then .anyCharacter else .oneOf false []
    else .oneOf negated (rangesOf false kept)
  else
    let members := if negated then text.tail else text
    if members.isEmpty then if negated then .anyCharacter else .oneOf false []
    else .oneOf negated (members.map fun character => (character, character))

/-- A text up to a closing bracket, and what follows it. A bracket right at the front, or behind an
exclamation mark there, belongs to the set. -/
def closeSet? (text : List Char) : Option (List Char × List Char) :=
  let (mark, rest) := match text with
    | '!' :: rest => (['!'], rest)
    | rest => ([], rest)
  let (front, rest) := match rest with
    | ']' :: rest => (mark ++ [']'], rest)
    | rest => (mark, rest)
  match rest.dropWhile (· != ']') with
  | [] => none
  | _ :: after => some (front ++ rest.takeWhile (· != ']'), after)

/-- Reads the parts of a pattern; `fuel` bounds their number. -/
def readParts : (fuel : Nat) → List Char → List Part
  | 0, _ => []
  | _ + 1, [] => []
  | fuel + 1, '*' :: rest => .anything :: readParts fuel rest
  | fuel + 1, '?' :: rest => .anyCharacter :: readParts fuel rest
  | fuel + 1, '[' :: rest =>
    match closeSet? rest with
    | some (set, after) => setOf set :: readParts fuel after
    | none => .exactly '[' :: readParts fuel rest
  | fuel + 1, character :: rest => .exactly character :: readParts fuel rest

/-- Whether two stars stand side by side. -/
def hasDoubleStar : List Char → Bool
  | '*' :: '*' :: _ => true
  | _ :: rest => hasDoubleStar rest
  | [] => false

/-- The pattern that a text spells. Two stars side by side stand for directories, so that no name
can be matched with them. -/
def ofText? (text : String) : Option Pattern :=
  if hasDoubleStar text.toList then none
  else some ⟨readParts text.toList.length text.toList⟩

/-- Whether a pattern matches a whole name. -/
def accepts (pattern : Pattern) (name : String) : Bool :=
  matchParts pattern.parts name.toList

end Pattern

end StyleAudit
