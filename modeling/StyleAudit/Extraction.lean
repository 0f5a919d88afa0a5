import StyleAudit.Naming
import StyleAudit.Parse
import StyleAudit.Sheet
import StyleAudit.Text.Lines

/-!
The style sheets that a source declares.

A component's own file declares one sheet per factory call that is bound to a name. A shared style
file is one sheet as a whole: every flat object literal in it is a style, under the name that its
surroundings give it.
-/

set_option autoImplicit false

namespace StyleAudit

/-- The name of the sheet that a shared style file makes up. -/
def sharedSheetName : String :=
  "global"

/-- Which sheets are looked for in a source. -/
inductive Scope where
  /-- The sheets bound to the results of factory calls. -/
  | declared (factories : Factories)
  /-- The flat objects of a shared style file. -/
  | shared

/-- The sheets of a source, and its lines. -/
structure Extraction where
  sheets : List Sheet
  lines : List String
deriving DecidableEq, Repr

/-- What a member of a style sheet's literal amounts to. -/
inductive MemberReading where
  | comment
  | declares (key : KeyDeclaration)
  | skipped (notice : Notice)

namespace MemberReading

/-- The declared key, if there is one. -/
def key? : MemberReading → Option KeyDeclaration
  | declares key => some key
  | _ => none

/-- The notice due, if there is one. -/
def notice? : MemberReading → Option Notice
  | skipped notice => some notice
  | _ => none

/-- Reads a member of the literal of a sheet. -/
def ofMember (path : String) (source : List Char) (sheet : String) (member : Node) :
    MemberReading :=
  if member.kind = "pair" then
    match (member.child? "key").bind (Node.keyName? source) with
    | some name => declares ⟨name, member.span .characters source⟩
    | none => skipped (.skippedComputedKey path (member.line source) sheet)
  else if member.kind = "comment" then
    comment
  else
    skipped (.skippedMember path (member.line source) member.kind sheet)

end MemberReading

/-- The refusal of a factory call that is not given an object literal. -/
def unsupportedCall (path : String) (source : List Char) (call : Node) : Failure :=
  let callee := ((call.child? "function").map (Node.text source)).getD ""
  .unsupported path s!"{callee}() on line {call.line source} is not given an object literal"

/-- The sheet that a factory call declares. -/
def sheetOfCall (path : String) (source : List Char) (call : Site) : Audit Sheet :=
  match call.node.firstArgument?.filter (·.kind == "object") with
  | none => .fail (unsupportedCall path source call.node)
  | some definition =>
    match call.parent?.bind (·.node.child? "name") with
    | none => .ofExcept (.error .unnamedBinding)
    | some binding => do
      let identifier := binding.text source
      let members := definition.namedChildren.map (.ofMember path source identifier)
      Audit.notify (members.filterMap MemberReading.notice?)
      return .ofDeclarations identifier (some (binding.span .characters source))
        (members.filterMap MemberReading.key?)

/-- The factory calls of a tree, in pre-order. -/
def creationCalls (factories : Factories) (source : List Char) (root : Node) : List Site :=
  root.namedSites.filter (Site.isCreationCall factories source)

/-- One sheet per factory call, in pre-order. -/
def declaredSheets (path : String) (source : List Char) (factories : Factories) (root : Node) :
    Audit (List Sheet) :=
  (creationCalls factories source root).mapM (sheetOfCall path source)

/-- The key that a flat object of a shared style file declares, at its anchor. -/
def sharedKey? (source : List Char) (object : Site) : Option KeyDeclaration :=
  object.namingContext?.bind fun context =>
    (context.name? source).map (⟨·, context.anchor.span .characters source⟩)

/-- The flat objects of a tree, in pre-order. -/
def leafObjects (root : Node) : List Site :=
  root.namedSites.filter (·.node.isLeafObject)

/-- The one sheet of a shared style file. -/
def sharedSheet (path : String) (source : List Char) (root : Node) : Audit Sheet := do
  let objects := leafObjects root
  let keys := objects.filterMap (sharedKey? source)
  Audit.notify <| (objects.filter fun object => (sharedKey? source object).isNone).map fun object =>
    .anonymousObject path (object.node.line source)
  if keys.isEmpty then Audit.notify [.noFlatObjects path]
  return .ofDeclarations sharedSheetName none keys

/-- The sheets that a source declares. -/
def extractSheets (source : Source) (scope : Scope) : Audit Extraction := do
  let characters := source.text.toList
  let sheets ← match scope with
    | .declared factories => declaredSheets source.path characters factories source.root
    | .shared => List.singleton <$> sharedSheet source.path characters source.root
  return ⟨sheets, Text.splitLines source.text⟩

end StyleAudit
