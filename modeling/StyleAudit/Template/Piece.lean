/-!
The pieces of a template.

A template is text with fields between braces; a brace of the text is written twice. A template that
is not well formed has the pieces in front of the place where that shows.
-/

set_option autoImplicit false

namespace StyleAudit.Template

/-- What stands between the braces of a field. -/
structure Field where
  /-- A name, perhaps with indices and attributes. -/
  name : List Char
  /-- The letter behind an exclamation mark. -/
  conversion : Option Char
  /-- What stands behind the colon. -/
  form : List Char
deriving DecidableEq, Repr

/-- A piece of a template. -/
inductive Piece where
  | character (value : Char)
  | field (value : Field)
  /-- The template is not well formed from here on. -/
  | malformed
deriving DecidableEq, Repr

/-- Reads the name of a field, and the mark that ends it. Within brackets no mark does. -/
def nameAhead (bracketed : Bool) : List Char → Option (List Char × Char × List Char)
  | [] => none
  | first :: rest =>
    if bracketed then
      (nameAhead (first != ']') rest).map fun (name, mark, after) => (first :: name, mark, after)
    else if first = '\x7b' then none
    else if first = '\x7d' || first = ':' || first = '!' then some ([], first, rest)
    else (nameAhead (first == '[') rest).map fun (name, mark, after) => (first :: name, mark, after)

/-- Reads a form up to the brace that closes its field, `nested` being the number of further braces
that are open. -/
def formAhead : (nested : Nat) → List Char → Option (List Char × List Char)
  | _, [] => none
  | nested, '\x7b' :: rest =>
    (formAhead (nested + 1) rest).map fun (form, after) => ('\x7b' :: form, after)
  | 0, '\x7d' :: rest => some ([], rest)
  | nested + 1, '\x7d' :: rest =>
    (formAhead nested rest).map fun (form, after) => ('\x7d' :: form, after)
  | nested, first :: rest =>
    (formAhead nested rest).map fun (form, after) => (first :: form, after)

/-- Reads the conversion of a field behind its exclamation mark, with what follows it: whether there
is a form, and the rest. -/
def conversionAhead : List Char → Option (Char × Bool × List Char)
  | letter :: '\x7d' :: rest => some (letter, false, rest)
  | letter :: ':' :: rest => some (letter, true, rest)
  | _ => none

/-- Reads a field behind its opening brace. -/
def fieldAhead (text : List Char) : Option (Field × List Char) := do
  match ← nameAhead false text with
  | (name, ':', rest) =>
    let (form, rest) ← formAhead 0 rest
    return (⟨name, none, form⟩, rest)
  | (name, '!', rest) =>
    let (letter, hasForm, rest) ← conversionAhead rest
    if hasForm then
      let (form, rest) ← formAhead 0 rest
      return (⟨name, some letter, form⟩, rest)
    else return (⟨name, some letter, []⟩, rest)
  | (name, _, rest) => return (⟨name, none, []⟩, rest)

/-- The pieces of a text; `fuel` bounds their number. -/
def piecesWithin : (fuel : Nat) → List Char → List Piece
  | 0, _ => []
  | _ + 1, [] => []
  | fuel + 1, '\x7b' :: '\x7b' :: rest => .character '\x7b' :: piecesWithin fuel rest
  | fuel + 1, '\x7d' :: '\x7d' :: rest => .character '\x7d' :: piecesWithin fuel rest
  | fuel + 1, '\x7b' :: rest =>
    match fieldAhead rest with
    | some (field, after) => .field field :: piecesWithin fuel after
    | none => [.malformed]
  | _ + 1, '\x7d' :: _ => [.malformed]
  | fuel + 1, first :: rest => .character first :: piecesWithin fuel rest

/-- The pieces of a template. -/
def pieces (text : List Char) : List Piece :=
  piecesWithin text.length text

end StyleAudit.Template
