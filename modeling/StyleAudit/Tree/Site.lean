import StyleAudit.Tree

/-!
Sites: nodes with their place in the tree.

Two nodes of one tree may look alike, so identity is the place: a site is a node together with the
steps that lead up to the root. `Site.traverse` visits a tree with an explicit stack, which no depth
of nesting exhausts; `Node.sites` is the same listing by recursion.
-/

set_option autoImplicit false

namespace StyleAudit

/-- One step up: the parent, and which of its children the node is. -/
structure Step where
  parent : Node
  index : Nat

/-- A node and the steps above it, the nearest first. -/
structure Site where
  node : Node
  above : List Step

namespace Site

/-- The root of a tree as a site. -/
def root (node : Node) : Site :=
  ⟨node, []⟩

/-- The sites of consecutive children of one parent, counted from `index`. -/
def below (above : List Step) (parent : Node) (index : Nat) : List Node → List Site
  | [] => []
  | child :: rest => ⟨child, ⟨parent, index⟩ :: above⟩ :: below above parent (index + 1) rest

/-- The children as sites, in order. -/
def children (site : Site) : List Site :=
  below site.above site.node 0 site.node.children

/-- The site of the parent. -/
def parent? (site : Site) : Option Site :=
  match site.above with
  | [] => none
  | step :: rest => some ⟨step.parent, rest⟩

/-- Whether the node is the one that its parent holds under a field. -/
def fills (site : Site) (name : String) : Bool :=
  match site.above with
  | [] => false
  | step :: _ => step.parent.fieldIndex? name == some step.index

/-- The nearest of the steps whose parent is not of the given kind. -/
def climb (kind : String) : List Step → List Step
  | [] => []
  | step :: rest => if step.parent.kind = kind then climb kind rest else step :: rest

/-- The number of nodes still to visit. -/
def pending (stack : List Site) : Nat :=
  Node.sizeAll (stack.map (·.node))

theorem below_nodes (above : List Step) (parent : Node) (index : Nat) (nodes : List Node) :
    (below above parent index nodes).map (·.node) = nodes := by
  induction nodes generalizing index with
  | nil => rfl
  | cons child rest ih => simp [below, ih]

theorem children_nodes (site : Site) : site.children.map (·.node) = site.node.children :=
  below_nodes site.above site.node 0 site.node.children

/-- Visits the sites on a stack: the top one, then its children before all that waits below. -/
def traverse : List Site → List Site
  | [] => []
  | site :: rest => site :: traverse (site.children ++ rest)
termination_by stack => pending stack
decreasing_by
  simp only [pending, List.map_append, List.map_cons, children_nodes, Node.sizeAll_append,
    Node.sizeAll, Node.size_eq]
  omega

end Site

namespace Node

mutual

/-- A node's site, then the sites of its children from left to right. -/
def sitesUnder (above : List Step) : Node → List Site
  | node@⟨_, _, _, _, _, _, _, children⟩ => ⟨node, above⟩ :: sitesOfAll above node 0 children

/-- The sites of consecutive children of one parent and of all below them. -/
def sitesOfAll (above : List Step) (parent : Node) (index : Nat) : List Node → List Site
  | [] => []
  | child :: rest =>
    child.sitesUnder (⟨parent, index⟩ :: above) ++ sitesOfAll above parent (index + 1) rest

end

/-- All sites of a tree in pre-order. -/
def sites (root : Node) : List Site :=
  root.sitesUnder []

/-- The named sites of a tree in the order of the traversal: what every analysis looks at. -/
def namedSites (root : Node) : List Site :=
  (Site.traverse [Site.root root]).filter (·.node.named)

end Node

end StyleAudit
