import StyleAudit.Decimal.Layout
import StyleAudit.Keyed
import StyleAudit.Text.Quoted

/-!
Data without a fixed shape, as configuration and message files hold it.

The text of a value shows texts as they are; inside lists and tables they are quoted.
-/

set_option autoImplicit false

namespace StyleAudit

/-- A piece of data. -/
inductive Value where
  | null
  | boolean (value : Bool)
  | integer (value : Int)
  | real (value : Decimal.Binary)
  | text (value : String)
  /-- A date, a time or both, as written. -/
  | moment (value : String)
  | list (items : List Value)
  /-- Members in order, each name once. -/
  | table (members : List (String × Value))
deriving Repr, Inhabited

namespace Value

/-- Puts a member among others; a name already there keeps its place. -/
def insertMember (name : String) (value : Value) (members : List (String × Value)) :
    List (String × Value) :=
  Keyed.put (·.1) (name, value) members

/-- The member of a table. -/
def member? (value : Value) (name : String) : Option Value :=
  match value with
  | table members => members.lookup name
  | _ => none

mutual

/-- The text of a value inside another one. -/
def nestedText : Value → String
  | null => "None"
  | boolean true => "True"
  | boolean false => "False"
  | integer value => toString value
  | real value => Decimal.standardLayout.text value
  | text value => Text.quote value
  | moment value => value
  | list items => "[" ++ ", ".intercalate (itemTexts items) ++ "]"
  | table members => "\x7b" ++ ", ".intercalate (memberTexts members) ++ "\x7d"

/-- The texts of the items of a list. -/
def itemTexts : List Value → List String
  | [] => []
  | item :: rest => item.nestedText :: itemTexts rest

/-- The texts of the members of a table. -/
def memberTexts : List (String × Value) → List String
  | [] => []
  | (name, value) :: rest => (Text.quote name ++ ": " ++ value.nestedText) :: memberTexts rest

end

/-- The text of a value. -/
def display : Value → String
  | text value => value
  | other => other.nestedText

/-- Whether a value says nothing: an empty text, list or table, a zero, or a plain no. -/
def isBlank : Value → Bool
  | null => true
  | boolean value => !value
  | integer value => value = 0
  | real value => value.isZero
  | text value => value.isEmpty
  | moment _ => false
  | list items => items.isEmpty
  | table members => members.isEmpty

end Value

end StyleAudit
