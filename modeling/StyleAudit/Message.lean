import StyleAudit.Template

/-!
Messages to the user.

A message has an address instead of a text. A template that is found under the address is filled in
with the message's parameters when somebody listens.
-/

set_option autoImplicit false

namespace StyleAudit

/-- How much a message matters. -/
inductive Level where
  | debug
  | info
  | success
  | warning
  | error
deriving DecidableEq, Repr

/-- Something to be told. -/
structure Message where
  level : Level
  /-- The address of the template. -/
  id : String
  parameters : Template.Parameters
deriving Repr

namespace Message

/-- The text of a template that asks for a parameter that it is not given. -/
def formattingError (id : String) : String :=
  "<formatting_error for '" ++ id ++ "'>"

/-- Fills in the template of a message. -/
def render (template id : String) (parameters : Template.Parameters) :
    Except TemplateError String :=
  match Template.fill template parameters with
  | .error .unknownName => .ok (formattingError id)
  | other => other

/-- The names that a message needs for itself. -/
def reservedNames : List String :=
  ["self", "msg_id"]

/-- Whether parameters leave some names alone. -/
def leavesAlone (names : List String) (parameters : Template.Parameters) : Bool :=
  parameters.all fun parameter => !names.contains parameter.1

/-- The text of a message by itself, its template being looked up by its address. -/
def string (templateOf : String → String) (id : String) (parameters : Template.Parameters) :
    Except TemplateError String :=
  if leavesAlone reservedNames parameters then render (templateOf id) id parameters
  else .error .unsupported

/-- What a message shows: nothing where nobody listens. -/
def send (templateOf : String → String) (listening : Bool) (message : Message) :
    Except TemplateError (List (Level × String)) :=
  if !leavesAlone ("level" :: reservedNames) message.parameters then .error .unsupported
  else if listening then
    (render (templateOf message.id) message.id message.parameters).map fun text =>
      [(message.level, text)]
  else .ok []

end Message

end StyleAudit
