import StyleAudit.Tree.Site

/-!
The traversal of a tree.

The stack holds the trees that are still to be visited, one behind the other. Visiting lists them in
this order, each by recursion.
-/

set_option autoImplicit false

namespace StyleAudit

namespace Site

theorem sitesUnder_eq (site : Site) :
    site.node.sitesUnder site.above =
      site :: Node.sitesOfAll site.above site.node 0 site.node.children := by
  obtain ⟨⟨_, _, _, _, _, _, _, children⟩, above⟩ := site
  rfl

theorem sitesOfAll_eq_flatMap (above : List Step) (parent : Node) (index : Nat)
    (nodes : List Node) :
    Node.sitesOfAll above parent index nodes =
      (below above parent index nodes).flatMap fun site => site.node.sitesUnder site.above := by
  induction nodes generalizing index with
  | nil => rfl
  | cons child rest ih =>
      rw [Node.sitesOfAll, ih, below, List.flatMap_cons]

theorem sitesOfAll_append (above : List Step) (parent : Node) (index : Nat)
    (front back : List Node) :
    Node.sitesOfAll above parent index (front ++ back) =
      Node.sitesOfAll above parent index front ++
        Node.sitesOfAll above parent (index + front.length) back := by
  induction front generalizing index with
  | nil => rfl
  | cons child rest ih =>
      rw [List.cons_append, Node.sitesOfAll, ih, Node.sitesOfAll, List.append_assoc,
        List.length_cons, Nat.add_right_comm, Nat.add_assoc]

/-- The explicit stack gives the recursive listings of the sites that wait on it. -/
theorem traverse_eq_flatMap (stack : List Site) :
    traverse stack = stack.flatMap fun site => site.node.sitesUnder site.above := by
  induction stack using traverse.induct with
  | case1 => rw [traverse, List.flatMap_nil]
  | case2 site rest ih =>
      rw [traverse, ih, List.flatMap_append, List.flatMap_cons, sitesUnder_eq,
        sitesOfAll_eq_flatMap, List.cons_append]
      rfl

end Site

/-- What an analysis looks at is the named part of the recursive listing. -/
theorem Node.namedSites_eq (root : Node) : root.namedSites = root.sites.filter (·.node.named) := by
  rw [namedSites, Site.traverse_eq_flatMap, List.flatMap_singleton]
  rfl

end StyleAudit
