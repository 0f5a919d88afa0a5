import StyleAudit.Script.Statement

/-!
Reading whole scripts.

`Grammar.ofDepth` ties the productions together, `readScript` reads all statements of a text and
puts the comments into the tree. A text that is no script of the dialect gives a rejected tree
without nodes.
-/

set_option autoImplicit false

namespace StyleAudit

namespace Script

namespace Grammar

/-- The production that a goal stands for. -/
def production (g : Grammar) : Goal → Reader Nodes
  | .statement => g.statement
  | .expression annotated => g.expressionWith annotated
  | .sequence => g.sequence
  | .operand => g.operand true
  | .leftHand calls => g.leftHand calls
  | .pattern target => g.pattern target
  | .block => g.block
  | .element => g.element
  | .type => g.type
  | .typeOperand => g.typeOperand
  | .signature => g.signature

/-- The grammar of a dialect in which productions nest up to a depth. -/
def ofDepth (dialect : Dialect) (limit : Nat) : (depth : Nat) → Grammar
  | 0 => ⟨dialect, limit, fun _ => failure⟩
  | depth + 1 => ⟨dialect, limit, (ofDepth dialect limit depth).production⟩

end Grammar

/-- The line at the start of a text that names an interpreter. -/
def interpreterLine : Reader Nodes := do
  if ← startsWith "#!" then
    token "hash_bang_line" fun text => some (spanWhere (· != '\n') text).2
  else return []

/-- All statements of a text. -/
def program (g : Grammar) : Reader Nodes :=
  node "program" do
    let first ← interpreterLine
    let more : Reader Bool := do
      skipMarkup
      return !(← get).rest.isEmpty
    return first ++ (← repeatingWhile g.limit more (g.read .statement))

mutual

/-- A node with a comment put where it belongs: into the innermost node around it. -/
def adopt (remark : Node) : Node → Node
  | ⟨kind, named, erroneous, missing, field, start, stop, children⟩ =>
    ⟨kind, named, erroneous, missing, field, start, stop, adoptAmong remark children⟩

/-- Nodes with a comment put among them or into one of them. -/
def adoptAmong (remark : Node) : List Node → List Node
  | [] => [remark]
  | node :: rest =>
    if remark.stop ≤ node.start then remark :: node :: rest
    else if node.start ≤ remark.start && remark.stop ≤ node.stop then adopt remark node :: rest
    else node :: adoptAmong remark rest

end

/-- The tree of a text in a dialect. Each level of nesting consumes a character before long, so that
the text's length bounds the depth. -/
def readScript (dialect : Dialect) (text : String) : SyntaxTree :=
  let source := text.toList
  let limit := source.length + 8
  match program (Grammar.ofDepth dialect limit (8 * limit)) (Cursor.ofText source) with
  | some ([root], final) =>
    ⟨final.remarks.reverse.foldl (fun tree remark => adopt remark tree) root, false⟩
  | _ => ⟨leaf "program" 0 (byteLength source) [], true⟩

/-- How scripts are read. -/
def readers : Readers :=
  ⟨readScript .plain, readScript .typed⟩

end Script

end StyleAudit
