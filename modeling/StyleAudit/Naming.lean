import StyleAudit.Query

/-!
What an object literal of a shared style file is called.

The parent decides: `key: {...}` by its key, `const name = {...}` by the name, `name.x = {...}` by
the object assigned into, `static name = {...}` by the field. Parentheses around the literal change
nothing. Under any other parent the literal is anonymous.
-/

set_option autoImplicit false

namespace StyleAudit

/-- The kind of binding that names an object literal. -/
inductive NamingKind where
  | property
  | declarator
  | assignment
  | classField
deriving DecidableEq, Repr

/-- What names an object literal: the kind of binding, and the node that stands for it. -/
structure NamingContext where
  kind : NamingKind
  /-- The pair, the declarator, the member access on the left, or the class field. -/
  anchor : Node

namespace NamingContext

/-- The name that a context gives, if it gives a static one. -/
def name? (source : List Char) (context : NamingContext) : Option String :=
  match context.kind with
  | .property => (context.anchor.child? "key").bind (Node.keyName? source)
  | .declarator => identifier? (context.anchor.child? "name")
  | .assignment => identifier? (context.anchor.child? "object")
  | .classField =>
    ((context.anchor.child? "property").or (context.anchor.child? "name")).bind
      (Node.keyName? source)
where
  /-- The text of a node that is an identifier. -/
  identifier? (node : Option Node) : Option String :=
    (node.filter (·.kind == "identifier")).map (Node.text source)

end NamingContext

/-- The naming context that a parent gives to the child at an index. -/
def Node.namingContext? (parent : Node) (index : Nat) : Option NamingContext :=
  let holdsAsValue := parent.fieldIndex? "value" == some index
  if parent.kind = "pair" ∧ holdsAsValue then
    some ⟨.property, parent⟩
  else if (parent.kind = "field_definition" ∨ parent.kind = "public_field_definition")
      ∧ holdsAsValue then
    some ⟨.classField, parent⟩
  else if parent.kind = "variable_declarator" then
    some ⟨.declarator, parent⟩
  else if parent.kind = "assignment_expression" then
    ((parent.child? "left").filter (·.kind == "member_expression")).map (⟨.assignment, ·⟩)
  else
    none

/-- The naming context of a site: that of its nearest ancestor which is no parenthesis. -/
def Site.namingContext? (site : Site) : Option NamingContext :=
  match climb "parenthesized_expression" site.above with
  | [] => none
  | step :: _ => step.parent.namingContext? step.index

end StyleAudit
