import Mathlib.Data.List.Basic
import StyleAudit.Proofs.Traversal

/-!
Places in a tree.

The listing of a site is the site itself and then the listings of its children. Every listed site is
led to by its steps, down from the root. What lies below a site is listed behind it.
-/

set_option autoImplicit false

namespace StyleAudit

namespace Node

theorem size_lt_of_mem {node child : Node} (member : child ∈ node.children) :
    child.size < node.size := by
  obtain ⟨before, after, split⟩ := List.append_of_mem member
  rw [size_eq node, split, sizeAll_append, sizeAll]
  omega

theorem preorder_eq (node : Node) : node.preorder = node :: node.children.flatMap preorder := by
  have rest : ∀ nodes : List Node, preorderAll nodes = nodes.flatMap preorder := by
    intro nodes
    induction nodes with
    | nil => rfl
    | cons first others ih => rw [preorderAll, ih, List.flatMap_cons]
  rw [← rest]
  cases node
  rfl

/-- The traversal with a stack lists the sites of a tree. -/
theorem traverse_root (root : Node) : Site.traverse [Site.root root] = root.sites := by
  rw [Site.traverse_eq_flatMap, List.flatMap_singleton]
  rfl

end Node

namespace Site

/-- A site and all sites below it, in pre-order. -/
def listing (site : Site) : List Site :=
  site.node.sitesUnder site.above

/-- Whether a site lies below another one: its steps lead through the other's node. -/
def IsBelow (site other : Site) : Prop :=
  ∃ inner index, site.above = inner ++ ⟨other.node, index⟩ :: other.above

/-- Whether steps lead from a root down to a node. -/
def Leads (root : Node) : Node → List Step → Prop
  | node, [] => node = root
  | node, step :: rest =>
    step.parent.children[step.index]? = some node ∧ Leads root step.parent rest

/-- The nearest step above a site whose parent is not of a kind. -/
def outside? (kind : String) (site : Site) : Option Step :=
  site.above.find? (·.parent.kind ≠ kind)

theorem listing_eq (site : Site) : site.listing = site :: site.children.flatMap listing := by
  rw [listing, sitesUnder_eq, sitesOfAll_eq_flatMap]
  rfl

/-! ### Ancestors -/

theorem climb_head? (kind : String) (above : List Step) :
    (climb kind above).head? = above.find? (·.parent.kind ≠ kind) := by
  induction above with
  | nil => rfl
  | cons step rest ih =>
      by_cases same : step.parent.kind = kind
      · simp only [climb, same, ↓reduceIte, ih, List.find?_cons, ne_eq, not_true_eq_false,
          decide_false]
      · simp [climb, same]

/-! ### Children -/

theorem below_eq_map (above : List Step) (parent : Node) (index : Nat) (nodes : List Node) :
    below above parent index nodes =
      (nodes.zipIdx index).map fun child => ⟨child.1, ⟨parent, child.2⟩ :: above⟩ := by
  induction nodes generalizing index with
  | nil => rfl
  | cons node rest ih => rw [below, ih, List.zipIdx_cons, List.map_cons]

theorem mem_children_iff (site child : Site) :
    child ∈ site.children ↔ ∃ index, site.node.children[index]? = some child.node ∧
      child.above = ⟨site.node, index⟩ :: site.above := by
  rw [children, below_eq_map, List.mem_map]
  constructor
  · rintro ⟨⟨node, index⟩, member, rfl⟩
    exact ⟨index, List.mem_zipIdx_iff_getElem?.mp member, rfl⟩
  · rintro ⟨index, found, above⟩
    refine ⟨(child.node, index), List.mem_zipIdx_iff_getElem?.mpr found, ?_⟩
    rw [← above]

/-- What passes from the children of a site to the site itself holds of every site. -/
theorem induction {motive : Site → Prop}
    (step : ∀ site, (∀ child ∈ site.children, motive child) → motive site) (site : Site) :
    motive site := by
  induction size : site.node.size using Nat.strongRecOn generalizing site with
  | ind size ih =>
      apply step
      intro child member
      obtain ⟨index, found, _⟩ := (mem_children_iff site child).mp member
      have smaller := Node.size_lt_of_mem (List.mem_of_getElem? found)
      exact ih child.node.size (size ▸ smaller) child rfl

theorem listing_nodes (site : Site) : site.listing.map (·.node) = site.node.preorder := by
  induction site using induction with
  | step site ih =>
      have below : (site.children.flatMap listing).map (·.node) =
          site.children.flatMap fun child => child.node.preorder := by
        rw [List.map_flatMap]
        exact List.flatMap_congr ih
      rw [listing_eq, List.map_cons, below, Node.preorder_eq, ← children_nodes, List.flatMap_map]

/-! ### Listed sites -/

theorem mem_listing_iff (site other : Site) :
    site ∈ other.listing ↔ site = other ∨ ∃ child ∈ other.children, site ∈ child.listing := by
  rw [listing_eq, List.mem_cons, List.mem_flatMap]

theorem mem_listing_self (site : Site) : site ∈ site.listing :=
  (mem_listing_iff site site).mpr (Or.inl rfl)

/-- A listing reaches down: the children of a listed site are listed. -/
theorem mem_listing_of_child (other : Site) {site child : Site} (listed : site ∈ other.listing)
    (member : child ∈ site.children) : child ∈ other.listing := by
  induction other using induction with
  | step other ih =>
      rw [mem_listing_iff]
      right
      rcases (mem_listing_iff site other).mp listed with rfl | ⟨between, inside, deeper⟩
      · exact ⟨child, member, mem_listing_self child⟩
      · exact ⟨between, inside, ih between inside deeper⟩

/-- What is listed is the site itself or lies below it. -/
theorem eq_or_isBelow_of_mem_listing {site other : Site} (listed : site ∈ other.listing) :
    site = other ∨ site.IsBelow other := by
  induction other using induction with
  | step other ih =>
      rcases (mem_listing_iff site other).mp listed with same | ⟨child, member, deeper⟩
      · exact Or.inl same
      · right
        obtain ⟨index, _, above⟩ := (mem_children_iff other child).mp member
        rcases ih child member deeper with rfl | ⟨inner, place, steps⟩
        · exact ⟨[], index, above⟩
        · refine ⟨inner ++ [⟨child.node, place⟩], index, ?_⟩
          rw [steps, above]
          simp

theorem leads_of_mem_listing {root : Node} (other : Site)
    (leads : Leads root other.node other.above) {site : Site} (listed : site ∈ other.listing) :
    Leads root site.node site.above := by
  induction other using induction with
  | step other ih =>
      rcases (mem_listing_iff site other).mp listed with rfl | ⟨child, member, deeper⟩
      · exact leads
      · obtain ⟨index, found, above⟩ := (mem_children_iff other child).mp member
        refine ih child member ?_ deeper
        rw [above]
        exact ⟨found, leads⟩

/-- The sites of a tree are the nodes to which steps lead down from its root. -/
theorem mem_sites_iff (root : Node) (site : Site) :
    site ∈ root.sites ↔ Leads root site.node site.above := by
  constructor
  · intro listed
    exact leads_of_mem_listing (Site.root root) rfl listed
  · obtain ⟨node, above⟩ := site
    induction above generalizing node with
    | nil =>
        rintro rfl
        exact mem_listing_self (Site.root node)
    | cons step rest ih =>
        rintro ⟨found, leads⟩
        have parent : (⟨step.parent, rest⟩ : Site) ∈ root.sites := ih step.parent leads
        exact mem_listing_of_child (Site.root root) parent
          ((mem_children_iff _ _).mpr ⟨step.index, found, rfl⟩)

/-! ### Order -/

theorem IsBelow.depth_lt {site other : Site} (below : site.IsBelow other) :
    other.above.length < site.above.length := by
  obtain ⟨inner, index, steps⟩ := below
  rw [steps, List.length_append, List.length_cons]
  omega

theorem exists_above_of_mem_listing {site other : Site} (listed : site ∈ other.listing) :
    ∃ inner, site.above = inner ++ other.above := by
  rcases eq_or_isBelow_of_mem_listing listed with rfl | ⟨inner, index, steps⟩
  · exact ⟨[], rfl⟩
  · refine ⟨inner ++ [⟨other.node, index⟩], ?_⟩
    rw [steps]
    simp

/-- What is listed under one child never lies below what is listed under another one. -/
theorem not_isBelow_of_siblings {parent : Node} {above : List Step} {index place : Nat}
    (different : index ≠ place) {first second site other : Site}
    (firstAbove : first.above = ⟨parent, index⟩ :: above)
    (secondAbove : second.above = ⟨parent, place⟩ :: above)
    (listed : site ∈ first.listing) (otherListed : other ∈ second.listing) :
    ¬ site.IsBelow other := by
  rintro ⟨inner, child, steps⟩
  obtain ⟨front, siteAbove⟩ := exists_above_of_mem_listing listed
  obtain ⟨back, otherAbove⟩ := exists_above_of_mem_listing otherListed
  have same : front ++ ⟨parent, index⟩ :: above =
      (inner ++ ⟨other.node, child⟩ :: back) ++ ⟨parent, place⟩ :: above := by
    rw [← firstAbove, ← siteAbove, steps, otherAbove, secondAbove]
    simp
  have ends := List.append_inj_right' same rfl
  injection ends with step
  injection step with _ equal
  exact different equal

theorem children_pairwise (site : Site) :
    site.children.Pairwise fun earlier later => ∃ index place, index < place ∧
      earlier.above = ⟨site.node, index⟩ :: site.above ∧
      later.above = ⟨site.node, place⟩ :: site.above := by
  rw [children, below_eq_map, List.pairwise_map]
  have ordered : ((site.node.children.zipIdx 0).map (·.2)).Pairwise (· < ·) := by
    rw [List.zipIdx_map_snd]
    exact List.pairwise_lt_range'
  rw [List.pairwise_map] at ordered
  exact ordered.imp fun less => ⟨_, _, less, rfl, rfl⟩

/-- A site is listed before all that lies below it. -/
theorem listing_pairwise (site : Site) :
    site.listing.Pairwise fun earlier later => ¬ earlier.IsBelow later := by
  induction site using induction with
  | step site ih =>
      rw [listing_eq, List.pairwise_cons, List.pairwise_flatMap]
      refine ⟨?_, ih, ?_⟩
      · intro later member upward
        obtain ⟨child, ofSite, listed⟩ := List.mem_flatMap.mp member
        obtain ⟨index, _, above⟩ := (mem_children_iff site child).mp ofSite
        obtain ⟨inner, steps⟩ := exists_above_of_mem_listing listed
        have deeper := upward.depth_lt
        rw [steps, above, List.length_append, List.length_cons] at deeper
        omega
      · refine (children_pairwise site).imp ?_
        rintro first second ⟨index, place, less, firstAbove, secondAbove⟩ earlier listed later
          laterListed
        exact not_isBelow_of_siblings (Nat.ne_of_lt less) firstAbove secondAbove listed laterListed

end Site

theorem Node.sites_nodes (root : Node) : root.sites.map (·.node) = root.preorder :=
  Site.listing_nodes (Site.root root)

/-- The sites of a tree are listed from the root downwards. -/
theorem Node.sites_pairwise (root : Node) :
    root.sites.Pairwise fun earlier later => ¬ earlier.IsBelow later :=
  Site.listing_pairwise (Site.root root)

end StyleAudit
