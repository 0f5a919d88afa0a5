import StyleAudit.Position
import StyleAudit.Tree.Site

/-!
Shapes in a syntax tree.

Each predicate looks at shape alone: no scope is resolved, so any object that is named like a
factory is taken for one. Every lookup may come back empty, since a tree need not be well formed.
-/

set_option autoImplicit false

namespace StyleAudit

namespace Node

/-- The source text of a node. -/
def text (source : List Char) (node : Node) : String :=
  String.ofList (cut source node.start node.stop)

/-- Where a node stands in its source. -/
def span (unit : ColumnUnit) (source : List Char) (node : Node) : Span :=
  spanBetween unit source node.start node.stop

/-- The line on which a node starts. -/
def line (source : List Char) (node : Node) : Int :=
  (positionAt .bytes source node.start).line

/-- The name that an object key spells out: an identifier, a string without its quotes, or a number
as written. A computed key has none. -/
def keyName? (source : List Char) (key : Node) : Option String :=
  if ["identifier", "property_identifier", "shorthand_property_identifier"].contains key.kind then
    some (key.text source)
  else if key.kind = "string" then
    some (String.ofList ((key.text source).toList.drop 1).dropLast)
  else if key.kind = "number" then
    some (key.text source)
  else
    none

/-- The first argument of a call, comments aside. -/
def firstArgument? (call : Node) : Option Node :=
  (call.child? "arguments").bind fun arguments =>
    arguments.namedChildren.find? (·.kind ≠ "comment")

/-- Whether a node is an object literal of which no pair holds another object literal directly. -/
def isLeafObject (node : Node) : Bool :=
  node.kind == "object" && node.namedChildren.all fun member =>
    member.kind != "pair" || (member.child? "value").all (·.kind != "object")

/-- Whether a node is an identifier with one of the given names. -/
def isIdentifierIn (source : List Char) (names : List String) (node : Node) : Bool :=
  node.kind == "identifier" && names.contains (node.text source)

end Node

/-- Which calls declare a style sheet: `name.method(...)` for an accepted name and method. -/
structure Factories where
  names : List String
  methods : List String
deriving Repr, DecidableEq

/-- The factories looked for when nothing is configured. -/
def Factories.standard : Factories :=
  ⟨["StyleSheet", "MediaQueryStyleSheet"], ["create"]⟩

/-- The names through which styles are read when nothing is configured. -/
def standardStylesNames : List String :=
  ["styles", "Styles"]

namespace Site

/-- Whether a site is a call of a factory method that is bound directly, as in
`const id = name.method()`. -/
def isCreationCall (factories : Factories) (source : List Char) (site : Site) : Bool :=
  site.node.kind == "call_expression" &&
  (match site.node.child? "function" with
    | none => false
    | some callee =>
      callee.kind == "member_expression" &&
      (callee.child? "object").any (Node.isIdentifierIn source factories.names) &&
      (callee.child? "property").any fun method =>
        factories.methods.contains (method.text source)) &&
  site.parent?.any (·.node.kind == "variable_declarator") && site.fills "value"

/-- Whether the outermost member access around a site is the name of an element: `<styles.Card />`
names a component and reads no style. -/
def namesElement (site : Site) : Bool :=
  match climb "member_expression" site.above with
  | [] => false
  | step :: _ =>
    ["jsx_opening_element", "jsx_closing_element", "jsx_self_closing_element"].contains
      step.parent.kind

/-- Whether a site reads a style: `styles.key`. An index (`styles[key]`) never does. -/
def isStylesAccess (stylesNames : List String) (source : List Char) (site : Site) : Bool :=
  site.node.kind == "member_expression" && !site.namesElement &&
  (site.node.child? "object").any (Node.isIdentifierIn source stylesNames) &&
  (site.node.child? "property").any (·.kind == "property_identifier")

end Site

end StyleAudit
