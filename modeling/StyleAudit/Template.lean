import StyleAudit.Template.Number
import StyleAudit.Template.Piece
import StyleAudit.Value

/-!
Filling in templates.

A field names a parameter and, behind it, indices and attributes. Fields are filled in from left to
right, so that of several errors the first one counts. A form may hold fields itself, but these may
not hold any.
-/

set_option autoImplicit false

namespace StyleAudit.Template

/-- What a template is filled in with. -/
abbrev Parameters := List (String × Value)

/-! ### Names of fields -/

/-- What a field refers to by: a number or a name. -/
inductive Key where
  | number (value : Nat)
  | name (value : String)
deriving DecidableEq, Repr

/-- The key that a text spells. One that starts with too large a number is malformed. -/
def keyOf (text : List Char) : Except TemplateError Key :=
  match numberAhead text with
  | .error error => .error error
  | .ok (some number, []) => .ok (.number number)
  | .ok _ => .ok (.name (String.ofList text))

/-- The kind of a value as its class attribute shows it. -/
def kindText : Value → String
  | .null => "<class 'NoneType'>"
  | .boolean _ => "<class 'bool'>"
  | .integer _ => "<class 'int'>"
  | .real _ => "<class 'float'>"
  | .text _ | .moment _ => "<class 'str'>"
  | .list _ => "<class 'list'>"
  | .table _ => "<class 'dict'>"

/-- An attribute of a value. All values have a class; numbers have the parts of a complex number and
those of a quotient. -/
def attributeOf (name : String) (value : Value) : Except TemplateError Value :=
  if name = "__class__" then .ok (.text (kindText value))
  else numberAttribute value
where
  numberAttribute : Value → Except TemplateError Value
  | .integer number => ofInteger number
  | .boolean value => ofInteger (if value then 1 else 0)
  | .real number =>
    if name = "real" then .ok (.real number)
    else if name = "imag" then .ok (.real (.finite false 0 Decimal.Binary.leastExponent))
    else .error .unknownAttribute
  | _ => .error .unknownAttribute
  ofInteger (number : Int) : Except TemplateError Value :=
    if name = "real" || name = "numerator" then .ok (.integer number)
    else if name = "imag" then .ok (.integer 0)
    else if name = "denominator" then .ok (.integer 1)
    else .error .unknownAttribute

/-- An item, a character or a member of a value. -/
def itemOf (key : Key) (value : Value) : Except TemplateError Value :=
  match value, key with
  | .text text, .number index => found (text.toList[index]?.map fun c => .text (String.ofList [c]))
  | .list items, .number index => found items[index]?
  | .table members, .name name =>
    match members.lookup name with
    | some member => .ok member
    | none => .error .unknownName
  | .table _, .number _ => .error .unknownName
  | _, _ => .error .unsupported
where
  found : Option Value → Except TemplateError Value
    | some value => .ok value
    | none => .error .outOfRange

/-- Whether a character starts an index or an attribute. -/
def startsStep (character : Char) : Bool :=
  character == '.' || character == '['

/-- Follows the indices and attributes behind a name; `fuel` bounds their number. -/
def follow : (fuel : Nat) → Value → List Char → Except TemplateError Value
  | _, value, [] => .ok value
  | 0, _, _ => .error .malformed
  | fuel + 1, value, '.' :: rest => do
    let name := rest.takeWhile (!startsStep ·)
    if name.isEmpty then throw .malformed
    follow fuel (← attributeOf (String.ofList name) value) (rest.dropWhile (!startsStep ·))
  | fuel + 1, value, '[' :: rest => do
    let name := rest.takeWhile (· != ']')
    let key ← keyOf name
    match rest.dropWhile (· != ']') with
    | ']' :: after =>
      if name.isEmpty then throw .malformed
      follow fuel (← itemOf key value) after
    | _ => throw .malformed
  | _ + 1, _, _ => .error .malformed

/-- The parameter of a name. There are none that go by a number or by nothing. -/
def parameter (parameters : Parameters) (name : List Char) : Except TemplateError Value := do
  match ← keyOf name with
  | .number _ => throw .outOfRange
  | .name name =>
    if name.isEmpty then throw .outOfRange
    match parameters.lookup name with
    | some value => return value
    | none => throw .unknownName

/-- The value that a field names. -/
def valueOf (parameters : Parameters) (name : List Char) : Except TemplateError Value := do
  let first := name.takeWhile (!startsStep ·)
  follow name.length (← parameter parameters first) (name.drop first.length)

/-! ### Showing values -/

/-- A value as its conversion makes it. -/
def convert (conversion : Option Char) (value : Value) : Except TemplateError Value :=
  match conversion with
  | none => .ok value
  | some '\x00' => .ok value
  | some 's' => .ok (.text value.display)
  | some 'r' => .ok (.text value.nestedText)
  | some 'a' => .ok (.text (Text.escapeBeyondAscii value.nestedText))
  | some _ => .error .malformed

/-- Shows a value in a form. Without a form a value is shown as its text. -/
def showValue (form : List Char) (value : Value) : Except TemplateError (List Char) := do
  if form.isEmpty then return value.display.toList
  match value with
  | .text text => (← Form.parse (some 's') false form).showText text.toList
  | .integer number => (← Form.parse (some 'd') true form).showInteger number
  | .boolean value => (← Form.parse (some 'd') true form).showInteger (if value then 1 else 0)
  | .real number => (← Form.parse none true form).showReal number
  | _ => throw .unsupported

/-- Fills in pieces one after the other, forms with fields being filled in by `inner`. -/
def fillPieces (parameters : Parameters)
    (inner : List Char → Except TemplateError (List Char)) :
    List Piece → Except TemplateError (List Char)
  | [] => .ok []
  | .malformed :: _ => .error .malformed
  | .character value :: rest => do return value :: (← fillPieces parameters inner rest)
  | .field field :: rest => do
    let value ← convert field.conversion (← valueOf parameters field.name)
    let form ← if field.form.contains '\x7b' then inner field.form else pure field.form
    let shown ← showValue form value
    return shown ++ (← fillPieces parameters inner rest)

/-- Fills in a template; `depth` is the number of levels that are allowed. -/
def fillWithin (parameters : Parameters) :
    (depth : Nat) → List Char → Except TemplateError (List Char)
  | 0, _ => .error .malformed
  | depth + 1, text => fillPieces parameters (fillWithin parameters depth) (pieces text)

/-- Fills in a template. -/
def fill (template : String) (parameters : Parameters) : Except TemplateError String :=
  (fillWithin parameters 2 template.toList).map String.ofList

end StyleAudit.Template
