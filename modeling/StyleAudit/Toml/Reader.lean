import StyleAudit.Toml.Document
import StyleAudit.Toml.Moment
import StyleAudit.Toml.Number

/-!
Reading TOML.
-/

set_option autoImplicit false

namespace StyleAudit.Toml

/-- An outcome that is malformed where there is none. -/
def required {α : Type} : Option α → Except Refusal α
  | some value => .ok value
  | none => .error .malformed

/-- Reads a comment, if there is one, up to the end of its line. -/
def skipComment (text : List Char) : Except Refusal (List Char) :=
  match text with
  | '#' :: rest =>
    if (rest.takeWhile (· ≠ '\n')).any isControl then .error .malformed
    else .ok (rest.dropWhile (· ≠ '\n'))
  | _ => .ok text

/-- Reads the blanks, line breaks and comments between the items of an array; `fuel` bounds the
comments. -/
def skipFiller : (fuel : Nat) → List Char → Except Refusal (List Char)
  | 0, _ => .error .malformed
  | fuel + 1, text =>
    match text.dropWhile isBlankOrBreak with
    | '#' :: rest => do skipFiller fuel (← skipComment ('#' :: rest))
    | other => .ok other

/-- Reads all that separates the items of an array. -/
def filler (text : List Char) : Except Refusal (List Char) :=
  skipFiller (text.length + 1) text

/-- Reads a value that holds no others. -/
def scalar (source : List Char) : Except Refusal (Value × List Char) :=
  match source with
  | 't' :: 'r' :: 'u' :: 'e' :: rest => .ok (.boolean true, rest)
  | 'f' :: 'a' :: 'l' :: 's' :: 'e' :: rest => .ok (.boolean false, rest)
  | '"' :: _ => do
    let (read, after) ← text source
    return (.text (String.ofList read), after)
  | '\'' :: _ => do
    let (read, after) ← text source
    return (.text (String.ofList read), after)
  | _ =>
    match moment? source with
    | some (moment, after) => .ok (.moment moment, after)
    | none => number source

/-- Reads the equals sign between a key and its value, with the blanks behind it. -/
def equalsSign : List Char → Except Refusal (List Char)
  | '=' :: rest => .ok (skipBlanks rest)
  | _ => .error .malformed

mutual

/-- Reads a value; `fuel` bounds the nesting and the number of items. -/
def value : (fuel : Nat) → List Char → Except Refusal (Value × List Char)
  | 0, _ => .error .malformed
  | fuel + 1, '[' :: rest => do items fuel [] (← filler rest)
  | fuel + 1, '\x7b' :: rest =>
    match skipBlanks rest with
    | '\x7d' :: after => .ok (.table [], after)
    | inside => members fuel [] [] inside
  | _ + 1, source => scalar source

/-- Reads the items of an array up to its bracket, behind those read before. -/
def items : (fuel : Nat) → (reversed : List Value) → List Char → Except Refusal (Value × List Char)
  | 0, _, _ => .error .malformed
  | _ + 1, reversed, ']' :: after => .ok (.list reversed.reverse, after)
  | fuel + 1, reversed, source => do
    let (item, rest) ← value fuel source
    match ← filler rest with
    | ']' :: after => return (.list (item :: reversed).reverse, after)
    | ',' :: more => items fuel (item :: reversed) (← filler more)
    | _ => throw .malformed

/-- Reads the members of a table up to its brace, behind those read before. -/
def members : (fuel : Nat) → (before : Members) → (closed : List (List String)) → List Char →
    Except Refusal (Value × List Char)
  | 0, _, _, _ => .error .malformed
  | fuel + 1, before, closed, source => do
    let (path, rest) ← key source
    let (read, rest) ← value fuel (← equalsSign rest)
    if leadsTo closed path then throw .malformed
    let all ← required (putAt false path read before)
    match skipBlanks rest with
    | '\x7d' :: after => return (.table all, after)
    | ',' :: more =>
      members fuel all (if isContainer read then path :: closed else closed) (skipBlanks more)
    | _ => throw .malformed

end

/-- Reads the end of a line, behind blanks and perhaps a comment. -/
def lineEnd (source : List Char) : Except Refusal (List Char) := do
  match ← skipComment (skipBlanks source) with
  | [] => return []
  | '\n' :: rest => return rest
  | _ => throw .malformed

/-- Reads a header up to the brackets that close it. -/
def header (brackets : List Char) (source : List Char) :
    Except Refusal (List String × List Char) := do
  let (path, rest) ← key (skipBlanks source)
  if brackets.isPrefixOf rest then return (path, rest.drop brackets.length)
  else throw .malformed

/-- Reads a key and its value. -/
def pair (source : List Char) : Except Refusal (List String × Value × List Char) := do
  let (path, rest) ← key source
  let rest ← equalsSign rest
  let (read, rest) ← value (rest.length + 1) rest
  return (path, read, rest)

/-- Reads statements; `table` is the path of the current table, and `fuel` bounds the lines. -/
def statements : (fuel : Nat) → (table : List String) → Document → List Char →
    Except Refusal Document
  | 0, _, _, _ => .error .malformed
  | fuel + 1, table, document, source =>
    match skipBlanks source with
    | [] => .ok document
    | '\n' :: rest => statements fuel table document rest
    | '#' :: rest => do statements fuel table document (← lineEnd ('#' :: rest))
    | '[' :: '[' :: rest => do
      let (path, rest) ← header [']', ']'] rest
      let document ← required (document.endTable.declareItem path)
      statements fuel path document (← lineEnd rest)
    | '[' :: rest => do
      let (path, rest) ← header [']'] rest
      let document ← required (document.endTable.declareTable path)
      statements fuel path document (← lineEnd rest)
    | first :: rest => do
      if startsKey first then
        let (path, read, rest) ← pair (first :: rest)
        let document ← required (document.put table path read)
        statements fuel table document (← lineEnd rest)
      else throw .malformed

/-- A text with the line ends of two characters made one. -/
def joinLineEnds : List Char → List Char
  | '\r' :: '\n' :: rest => '\n' :: joinLineEnds rest
  | first :: rest => first :: joinLineEnds rest
  | [] => []

/-- Reads a document. -/
def parse (source : String) : Except Refusal Members := do
  let text := joinLineEnds source.toList
  return (← statements (text.length + 1) [] .empty text).members

end StyleAudit.Toml
