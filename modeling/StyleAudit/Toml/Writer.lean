import StyleAudit.Toml.Document
import StyleAudit.Toml.Text

/-!
Writing TOML.

A table is written as a heading and its members, one a line, followed by the tables inside it. Lists
are written with one item a line. A list of tables whose tables do not all fit a line is written as
one table a time. Nothing says that there is no value, so a table with such a member has no text.
-/

set_option autoImplicit false

namespace StyleAudit.Toml

/-- A character as it is written in a text. -/
def writtenCharacter (character : Char) : List Char :=
  if character = '"' then ['\\', '"']
  else if character = '\\' then ['\\', '\\']
  else if character = '\n' then ['\\', 'n']
  else if character = '\r' then ['\\', 'r']
  else if character = '\x08' then ['\\', 'b']
  else if character = '\x0c' then ['\\', 'f']
  else if isControl character then '\\' :: 'u' :: Text.hexDigits 4 character.toNat
  else [character]

/-- A text as it is written. -/
def writtenText (text : String) : String :=
  String.ofList ('"' :: text.toList.flatMap writtenCharacter ++ ['"'])

/-- A part of a key as it is written: bare where it can be. -/
def writtenKey (name : String) : String :=
  if !name.isEmpty && name.toList.all isBare then name else writtenText name

/-- The blanks in front of a line at a depth. -/
def indent (depth : Nat) : String :=
  String.ofList (List.replicate (4 * depth) ' ')

/-- Written items between brackets, one a line. -/
def bracketed (depth : Nat) (parts : List String) : String :=
  if parts.isEmpty then "[]"
  else "[\n" ++ String.join (parts.map fun part => indent (depth + 1) ++ part ++ ",\n") ++
    indent depth ++ "]"

/-- Written members between braces, on one line. -/
def braced (parts : List String) : String :=
  if parts.isEmpty then "\x7b\x7d" else "\x7b " ++ ", ".intercalate parts ++ " \x7d"

mutual

/-- A value as it is written behind an equals sign, at a depth of lists. -/
def writtenValue (depth : Nat) : Value → Option String
  | .null => none
  | .boolean value => some (if value then "true" else "false")
  | .integer value => some (toString value)
  | .real value => some (Decimal.standardLayout.text value)
  | .text value => some (writtenText value)
  | .moment value => some value
  | .list items => (writtenItems (depth + 1) items).map (bracketed depth)
  | .table members => (writtenMembers members).map braced

/-- The items of a list as they are written. -/
def writtenItems (depth : Nat) : List Value → Option (List String)
  | [] => some []
  | item :: rest => do
    let first ← writtenValue depth item
    return first :: (← writtenItems depth rest)

/-- The members of a table as they are written. -/
def writtenMembers : List (String × Value) → Option (List String)
  | [] => some []
  | (name, value) :: rest => do
    let first ← writtenValue 0 value
    return (writtenKey name ++ " = " ++ first) :: (← writtenMembers rest)

end

/-- The length up to which an item of a list of tables is written on one line. -/
def lineLimit : Nat :=
  100

/-- Whether a value is a table that fits a line. -/
def fitsLine : Value → Bool
  | .table members =>
    match (writtenMembers members).map braced with
    | some written =>
      let line := indent 1 ++ written ++ ","
      line.length ≤ lineLimit && !line.toList.contains '\n'
    | none => true
  | _ => false

/-- Whether a value is a table. -/
def isTable : Value → Bool
  | .table _ => true
  | _ => false

/-- Whether a list is written as one table a time. -/
def isSpread (items : List Value) : Bool :=
  !items.isEmpty && items.all isTable && !items.all fitsLine

/-- Whether a member is written on lines of its table, and not as a table of its own. -/
def isInline : String × Value → Bool
  | (_, .table _) => false
  | (_, .list items) => !isSpread items
  | _ => true

/-- The lines of a table, without those of the tables inside it. -/
def ownLines (members : Members) : Option (List String) := do
  let written ← writtenMembers (members.filter isInline)
  return written.map (· ++ "\n")

/-- What is put in front of the tables inside a table: its heading, which a table that holds nothing
but tables needs only as an item of a list, and its own lines. -/
def ownBlock (name : String) (listed : Bool) (members : Members) (inner : List String) :
    Option (List String) := do
  let lines ← ownLines members
  if listed then return [s!"[[{name}]]\n" ++ String.join lines]
  else if !lines.isEmpty || inner.isEmpty then return [s!"[{name}]\n" ++ String.join lines]
  else return []

/-- The written path of a table inside another one. -/
def pathInside (outer : String) (name : String) : String :=
  if outer.isEmpty then writtenKey name else outer ++ "." ++ writtenKey name

mutual

/-- The blocks of the tables that a value at a path brings along. -/
def valueBlocks (path : String) (listed : Bool) : Value → Option (List String)
  | .table members => do
    let inner ← memberBlocks path members
    let own ← ownBlock path listed members inner
    return own ++ inner
  | .list items => if isSpread items then itemBlocks path items else some []
  | _ => some []

/-- The blocks of the tables among some members of the table at a path. -/
def memberBlocks (path : String) : List (String × Value) → Option (List String)
  | [] => some []
  | (name, value) :: rest => do
    let first ← valueBlocks (pathInside path name) false value
    return first ++ (← memberBlocks path rest)

/-- The blocks of the tables of a list at a path. -/
def itemBlocks (path : String) : List Value → Option (List String)
  | [] => some []
  | item :: rest => do
    let first ← valueBlocks path true item
    return first ++ (← itemBlocks path rest)

end

/-- The text of a document. -/
def write (members : Members) : Option String := do
  let own ← ownLines members
  let inner ← memberBlocks "" members
  let all := if own.isEmpty then inner else String.join own :: inner
  return "\n".intercalate all

end StyleAudit.Toml
