import StyleAudit.Text.Blank
import StyleAudit.Value

/-!
Addresses of messages.

An address is a sequence of names with points between them, such as `check.issue.unused`.
-/

set_option autoImplicit false

namespace StyleAudit

/-- The address of a message. -/
structure Address where
  path : String
deriving DecidableEq, Repr

namespace Address

/-- The address that all others go on from. -/
def root : Address :=
  ⟨""⟩

/-- The address of a name below another address. -/
def child (address : Address) (name : String) : Address :=
  ⟨if address.path.isEmpty then name else address.path ++ "." ++ name⟩

/-- A text without the points at its ends. -/
def trimPoints (text : String) : String :=
  String.ofList (Text.trimWhere (· = '.') text.toList)

/-- The address that a text leads to from another one. -/
def descend (address : Address) (text : String) : Address :=
  let suffix := trimPoints text
  if suffix.isEmpty then address else address.child suffix

/-- An address as it is shown to those who write code with it. -/
def shown (address : Address) : String :=
  if address.path.isEmpty then "<L: (root)>" else "<L: '" ++ address.path ++ "'>"

/-- Whether the text of a value spells an address. -/
def isSpelledBy (address : Address) (value : Value) : Bool :=
  value.display == address.path

end Address

end StyleAudit
