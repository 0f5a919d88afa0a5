/-!
Syntax trees.

A node has a kind, a byte range and children; some nodes are punctuation and carry no name, some
mark where a text could not be read. Its parent holds a child under at most one field name.
-/

set_option autoImplicit false

namespace StyleAudit

/-- A node of a syntax tree over a text, located by byte offsets. -/
structure Node where
  kind : String
  /-- Whether the node stands for more than punctuation. -/
  named : Bool
  /-- Whether the node covers text that could not be read. -/
  erroneous : Bool
  /-- Whether the node was inserted where the text lacks it. -/
  missing : Bool
  /-- The field under which the parent holds the node. -/
  field : Option String
  start : Nat
  stop : Nat
  children : List Node
deriving Inhabited

namespace Node

/-- Whether the text is wrong at this very node. -/
def faulty (node : Node) : Bool :=
  node.erroneous || node.missing

/-- The named children, in order. -/
def namedChildren (node : Node) : List Node :=
  node.children.filter (·.named)

/-- The index of the first child held under a field. -/
def fieldIndex? (node : Node) (name : String) : Option Nat :=
  node.children.findIdx? (·.field == some name)

/-- The first child held under a field. -/
def child? (node : Node) (name : String) : Option Node :=
  node.children.find? (·.field == some name)

mutual

/-- A node, then the listings of its children from left to right. -/
def preorder : Node → List Node
  | node@⟨_, _, _, _, _, _, _, children⟩ => node :: preorderAll children

/-- The listings of several trees, one after the other. -/
def preorderAll : List Node → List Node
  | [] => []
  | node :: rest => node.preorder ++ preorderAll rest

end

mutual

/-- The number of nodes of a tree. -/
def size : Node → Nat
  | ⟨_, _, _, _, _, _, _, children⟩ => 1 + sizeAll children

/-- The number of nodes of several trees. -/
def sizeAll : List Node → Nat
  | [] => 0
  | node :: rest => node.size + sizeAll rest

end

theorem size_eq (node : Node) : node.size = 1 + sizeAll node.children := by
  cases node
  rfl

theorem sizeAll_append (front back : List Node) :
    sizeAll (front ++ back) = sizeAll front + sizeAll back := by
  induction front with
  | nil => simp [sizeAll]
  | cons node rest ih => simp only [List.cons_append, sizeAll, ih, Nat.add_assoc]

end Node

/-- What reading a text yields: a tree, and whether the reader holds the text to be wrong even
where no node shows it. -/
structure SyntaxTree where
  root : Node
  rejected : Bool

namespace SyntaxTree

/-- Whether any part of the text could not be read. -/
def hasError (tree : SyntaxTree) : Bool :=
  tree.rejected || tree.root.preorder.any Node.faulty

end SyntaxTree

end StyleAudit
