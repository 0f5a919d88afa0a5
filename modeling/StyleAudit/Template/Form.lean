import StyleAudit.Text.DecimalDigit

/-!
How a field of a template shows its value.

A form is written behind a colon: a fill character with an alignment, a sign, `z`, `#`, a zero, a
width, a separator of digit groups, a precision and a kind, each of which may be left out.
-/

set_option autoImplicit false

namespace StyleAudit

/-- Why a template cannot be filled in. -/
inductive TemplateError where
  /-- The template, or a form in it, is not well formed, or a form does not suit a value. -/
  | malformed
  /-- There is no parameter, or no member, of a name. -/
  | unknownName
  /-- There is no parameter, no item or no character at a number. -/
  | outOfRange
  /-- A value has no such attribute. -/
  | unknownAttribute
  /-- A value has no items, or cannot be shown in a form at all. -/
  | unsupported
  /-- A number is too large for its form. -/
  | tooLarge
deriving DecidableEq, Repr

namespace Template

/-- Where a value stands within its width. -/
inductive Alignment where
  | left
  | right
  | center
  /-- At the right, with its sign at the left. -/
  | inner
deriving DecidableEq, Repr

/-- How a value is shown. -/
structure Form where
  fill : Char
  alignment : Alignment
  sign : Option Char
  /-- Whether a zero loses its sign. -/
  plainZero : Bool
  alternate : Bool
  width : Option Nat
  /-- What separates groups of digits. -/
  separator : Option Char
  precision : Option Nat
  kind : Option Char
deriving DecidableEq, Repr

/-- The alignment that a mark stands for. -/
def alignment? : Char → Option Alignment
  | '<' => some .left
  | '>' => some .right
  | '^' => some .center
  | '=' => some .inner
  | _ => none

/-- The greatest number that may stand in a template. -/
def greatestNumber : Nat :=
  Nat.pow 2 63 - 1

/-- The number that the digits in front of a text make up, if there are any. -/
def numberAhead (text : List Char) : Except TemplateError (Option Nat × List Char) :=
  let digits := text.map Text.digitValue? |>.takeWhile Option.isSome |>.filterMap id
  let number := digits.foldl (fun number digit => number * 10 + digit) 0
  if digits.isEmpty then .ok (none, text)
  else if greatestNumber < number then .error .malformed
  else .ok (some number, text.drop digits.length)

/-- The fill character and the alignment in front of a text. -/
def alignmentAhead (text : List Char) : Option Char × Option Alignment × List Char :=
  let plain := match text with
    | mark :: rest => match alignment? mark with
      | some alignment => (none, some alignment, rest)
      | none => (none, none, text)
    | [] => (none, none, text)
  match text with
  | fill :: mark :: rest => match alignment? mark with
    | some alignment => (some fill, some alignment, rest)
    | none => plain
  | _ => plain

/-- The mark in front of a text, if it is one of some. -/
def markAhead (marks : List Char) (text : List Char) : Option Char × List Char :=
  match text with
  | first :: rest => if marks.contains first then (some first, rest) else (none, text)
  | [] => (none, text)

/-- The precision in front of a text. -/
def precisionAhead (text : List Char) : Except TemplateError (Option Nat × List Char) :=
  match text with
  | '.' :: rest =>
    match numberAhead rest with
    | .ok (some number, after) => .ok (some number, after)
    | _ => .error .malformed
  | _ => .ok (none, text)

namespace Form

/-- The kinds that show a number by digits in groups of three, or of four where it says so. -/
def groupSize? (separator : Char) : Option Char → Option Nat
  | none => some 3
  | some kind =>
    if "deEfFgG%".toList.contains kind then some 3
    else if separator = '_' && "boxX".toList.contains kind then some 4
    else none

/-- Whether the separator of a form goes with its kind. -/
def separatorFits (form : Form) : Bool :=
  match form.separator with
  | none => true
  | some separator => (groupSize? separator form.kind).isSome

/-- Reads a form for values that are shown in a standard kind and stand at the right (numbers) or at
the left. -/
def parse (standard : Option Char) (numeric : Bool) (text : List Char) :
    Except TemplateError Form := do
  let (fill, alignment, text) := alignmentAhead text
  let (sign, text) := markAhead ['+', '-', ' '] text
  let (plainZero, text) := markAhead ['z'] text
  let (alternate, text) := markAhead ['#'] text
  let (zero, text) := if fill.isSome then (none, text) else markAhead ['0'] text
  let (width, text) ← numberAhead text
  let (comma, text) := markAhead [','] text
  let (underscore, text) := markAhead ['_'] text
  let (precision, text) ← precisionAhead text
  let kind ← match text with
    | [] => pure standard
    | [kind] => pure (some kind)
    | _ => throw .malformed
  let usual := if !numeric then .left else if zero.isSome then .inner else .right
  let form : Form := {
    fill := fill.getD (zero.getD ' ')
    alignment := alignment.getD usual
    sign
    plainZero := plainZero.isSome
    alternate := alternate.isSome
    width
    separator := comma.or underscore
    precision
    kind }
  if (comma.isSome && underscore.isSome) || !form.separatorFits then throw .malformed
  return form

end Form

/-- The blanks at the two sides of something of a length. -/
def Form.padding (form : Form) (length : Nat) : List Char × List Char :=
  let total := form.width.getD 0 - length
  let left := match form.alignment with
    | .right => total
    | .center => total / 2
    | _ => 0
  (List.replicate left form.fill, List.replicate (total - left) form.fill)

/-- Shows a text, cut to the precision. -/
def Form.showText (form : Form) (text : List Char) : Except TemplateError (List Char) :=
  if form.kind != some 's' || form.sign.isSome || form.plainZero || form.alternate ||
      form.alignment = .inner then
    .error .malformed
  else
    let shown := match form.precision with
      | some count => text.take count
      | none => text
    let (left, right) := form.padding shown.length
    .ok (left ++ shown ++ right)

end Template

end StyleAudit
