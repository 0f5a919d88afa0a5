import StyleAudit.Script.Literal
import StyleAudit.Script.Semicolon

/-!
The parts of a grammar that refer to each other.

A production may need any other, nested to any depth. Each is written as a plain definition over a
`Grammar`, which offers the productions that nest as goals; `Script.Program` ties the knot with a
bound on the depth.
-/

set_option autoImplicit false

namespace StyleAudit.Script

/-- A production that may be nested in any other. -/
inductive Goal where
  | statement
  /-- An expression without commas outside brackets. Where `annotated` is not set, no arrow function
  with a result type is read at its front. -/
  | expression (annotated : Bool)
  /-- Expressions between commas. -/
  | sequence
  /-- What stands between binary operators. -/
  | operand
  /-- An operand with its member accesses, and with its calls where `calls` is set. -/
  | leftHand (calls : Bool)
  /-- What a value is bound to; `target` allows member accesses. -/
  | pattern (target : Bool)
  /-- A braces-enclosed list of statements. -/
  | block
  /-- An element of markup. -/
  | element
  /-- A type. -/
  | type
  /-- What stands between the signs that join types. -/
  | typeOperand
  /-- The parameters and the result type of a function. -/
  | signature
deriving DecidableEq, Repr

/-- A dialect, a bound on repetitions, and the productions that nest. -/
structure Grammar where
  dialect : Dialect
  limit : Nat
  read : Goal → Reader Nodes

namespace Grammar

variable (g : Grammar)

/-- Whether types may be annotated. -/
def typed : Bool :=
  g.dialect == .typed

/-- Reads an expression without commas. -/
def expression : Reader Nodes :=
  g.read (.expression true)

/-- Reads only in the typed dialect. -/
def whenTyped (reader : Reader Nodes) : Reader Nodes :=
  if g.typed then reader else failure

/-- The end of a statement. -/
def terminator (operand : Bool) : Reader Unit :=
  semicolon g.dialect operand

end Grammar

/-- Repeats a reader until it gives up or stands still; `limit` bounds the rounds. -/
def repeating : (limit : Nat) → Reader Nodes → Reader Nodes
  | 0, _ => pure []
  | limit + 1, reader => fun cursor =>
    match reader cursor with
    | none => some ([], cursor)
    | some (nodes, next) =>
      if next.offset = cursor.offset && next.stop = cursor.stop then some ([], cursor)
      else (do return nodes ++ (← repeating limit reader) : Reader Nodes) next

/-- Repeats a reader as long as a test holds; `limit` bounds the rounds. -/
def repeatingWhile : (limit : Nat) → Reader Bool → Reader Nodes → Reader Nodes
  | 0, _, _ => failure
  | limit + 1, test, reader => do
    if ← test then
      let nodes ← reader
      return nodes ++ (← repeatingWhile limit test reader)
    else return []

/-- One item, then further ones after commas. -/
def separated (limit : Nat) (item : Reader Nodes) : Reader Nodes := do
  let first ← item
  return first ++ (← repeatingWhile limit (startsWith ",") do
    symbol ","
    item)

/-- Items between commas up to a closing mark, where any item may be absent. -/
def sparse (limit : Nat) (close : String) (item : Reader Nodes) : Reader Nodes := do
  let here : Reader Nodes := do
    if (← startsWith ",") || (← startsWith close) then return []
    else item
  let first ← here
  let more ← repeatingWhile limit (startsWith ",") do
    symbol ","
    here
  symbol close
  return first ++ more

/-- Items between commas up to a closing mark; a comma may stand behind the last one. -/
def listed (limit : Nat) (close : String) (item : Reader Nodes) : Reader Nodes := do
  if ← symbol? close then return []
  let first ← item
  let more ← repeatingWhile limit (startsWith ",") do
    symbol ","
    if ← startsWith close then return []
    else item
  symbol close
  return first ++ more

end StyleAudit.Script
