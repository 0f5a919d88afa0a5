import StyleAudit.Failure
import StyleAudit.Tree

/-!
Choosing how a source is read.

A source is read as plain script first. Only when that reading has an error is it read with type
annotations, and only when both have one is the source refused, at the first error of the plain
reading.
-/

set_option autoImplicit false

namespace StyleAudit

/-- Turns a text into a tree, whatever the text. -/
abbrev TreeReader := String → SyntaxTree

/-- Turns the text of a file into the root of its tree, or says why it cannot. -/
abbrev Parse := (text : String) → (path : String) → Except Failure Node

/-- A file that was read and parsed. -/
structure Source where
  path : String
  text : String
  root : Node

/-- Parses a text into a source. -/
def Parse.source (parse : Parse) (path text : String) : Except Failure Source :=
  (parse text path).map (⟨path, text, ·⟩)

/-- The two ways to read a source. -/
structure Readers where
  plain : TreeReader
  typed : TreeReader

/-- Which of the two readings a source is given. -/
inductive Dialect where
  | plain
  | typed
deriving DecidableEq, Repr

namespace Readers

/-- The first node in pre-order at which a tree is wrong. -/
def firstFaulty? (root : Node) : Option Node :=
  root.preorder.find? Node.faulty

/-- The reading of a source and its dialect. -/
def read (readers : Readers) (text : String) (path : String) : Except Failure (Dialect × Node) :=
  let plain := readers.plain text
  if !plain.hasError then .ok (.plain, plain.root)
  else
    let typed := readers.typed text
    if !typed.hasError then .ok (.typed, typed.root)
    else .error <| .syntaxError path <|
      (firstFaulty? plain.root).map fun node => positionAt .bytes text.toList node.start

section

variable {readers : Readers} {text : String} (path : String)

theorem read_of_plain (fits : (readers.plain text).hasError = false) :
    readers.read text path = .ok (.plain, (readers.plain text).root) := by
  simp only [read, fits, Bool.not_false, ↓reduceIte]

theorem read_of_typed (plain : (readers.plain text).hasError = true)
    (fits : (readers.typed text).hasError = false) :
    readers.read text path = .ok (.typed, (readers.typed text).root) := by
  simp only [read, plain, fits, Bool.not_true, Bool.not_false, Bool.false_eq_true, ↓reduceIte]

theorem read_of_refused (plain : (readers.plain text).hasError = true)
    (typed : (readers.typed text).hasError = true) :
    readers.read text path = .error (.syntaxError path
      ((firstFaulty? (readers.plain text).root).map fun node =>
        positionAt .bytes text.toList node.start)) := by
  simp only [read, plain, typed, Bool.not_true, Bool.false_eq_true, ↓reduceIte]

end

/-- The tree of a source. -/
def parse (readers : Readers) : Parse :=
  fun text path => (readers.read text path).map (·.2)

end Readers

end StyleAudit
