import Mathlib.Data.List.Lex
import StyleAudit.Extraction
import StyleAudit.Proofs.Audit
import StyleAudit.Proofs.Sites
import StyleAudit.References

/-!
The order in which a tree is visited.

A loop keeps the sites that still wait on a stack. Each round visits the one on top and puts its
children in its place. When the stack is empty, as many rounds have passed as the tree has nodes,
and the sites have been visited in the order of their addresses: every site behind its parent and in
front of its later siblings. Whatever an analysis takes from a tree is gathered by handlers that are
called along this order.
-/

set_option autoImplicit false

namespace StyleAudit

/-! ### The order of addresses -/

namespace Site

/-- Which child is taken at each step down from the root. -/
def address (site : Site) : List Nat :=
  (site.above.map (·.index)).reverse

theorem address_of_above {site other : Site} {index : Nat}
    (steps : site.above = ⟨other.node, index⟩ :: other.above) :
    site.address = other.address ++ [index] := by
  simp [address, steps]

theorem exists_address_of_mem_listing {site inner : Site} (listed : inner ∈ site.listing) :
    ∃ rest, inner.address = site.address ++ rest := by
  obtain ⟨front, steps⟩ := exists_above_of_mem_listing listed
  refine ⟨(front.map (·.index)).reverse, ?_⟩
  simp [address, steps]

theorem address_lt_of_branch (front : List Nat) {index place : Nat} (less : index < place)
    (rest others : List Nat) : front ++ [index] ++ rest < front ++ [place] ++ others := by
  have branch : index :: rest < place :: others := List.cons_lt_cons_iff.mpr (Or.inl less)
  have lifted : front ++ index :: rest < front ++ place :: others := List.append_left_lt branch
  simpa using lifted

theorem address_lt_of_below (front : List Nat) (index : Nat) (rest : List Nat) :
    front < front ++ [index] ++ rest := by
  have below : ([] : List Nat) < index :: rest := List.nil_lt_cons index rest
  have lifted : front ++ [] < front ++ index :: rest := List.append_left_lt below
  simpa using lifted

theorem address_lt_of_mem_children {site child : Site} (member : child ∈ site.children) :
    site.address < child.address := by
  obtain ⟨index, _, above⟩ := (mem_children_iff site child).mp member
  rw [address_of_above above]
  simpa using address_lt_of_below site.address index []

theorem children_addresses (site : Site) :
    site.children.Pairwise fun earlier later => earlier.address < later.address := by
  apply (children_pairwise site).imp
  intro earlier later apart
  obtain ⟨index, place, less, earlierAbove, laterAbove⟩ := apart
  rw [address_of_above earlierAbove, address_of_above laterAbove]
  simpa using address_lt_of_branch site.address less [] []

/-- Sites are listed in the order of their addresses. -/
theorem listing_addresses (site : Site) :
    site.listing.Pairwise fun earlier later => earlier.address < later.address := by
  induction site using induction with
  | step site ih =>
      rw [listing_eq, List.pairwise_cons, List.pairwise_flatMap]
      refine ⟨?_, ih, ?_⟩
      · intro later member
        obtain ⟨child, ofSite, listed⟩ := List.mem_flatMap.mp member
        obtain ⟨index, _, above⟩ := (mem_children_iff site child).mp ofSite
        obtain ⟨rest, further⟩ := exists_address_of_mem_listing listed
        rw [further, address_of_above above]
        exact address_lt_of_below site.address index rest
      · apply (children_pairwise site).imp
        intro first second apart earlier listed later laterListed
        obtain ⟨index, place, less, firstAbove, secondAbove⟩ := apart
        obtain ⟨rest, earlierAddress⟩ := exists_address_of_mem_listing listed
        obtain ⟨others, laterAddress⟩ := exists_address_of_mem_listing laterListed
        rw [earlierAddress, laterAddress, address_of_above firstAbove,
          address_of_above secondAbove]
        exact address_lt_of_branch site.address less rest others

theorem listing_nodup (site : Site) : site.listing.Nodup := by
  apply (listing_addresses site).imp
  rintro earlier _ less rfl
  exact lt_irrefl _ less

/-- Of two listed sites, the one with the lesser address stands first. -/
theorem sublist_sites_of_lt {tree : Node} {first second : Site} (listed : first ∈ tree.sites)
    (other : second ∈ tree.sites) (less : first.address < second.address) :
    [first, second].Sublist tree.sites := by
  have order : tree.sites.Pairwise fun earlier later => earlier.address < later.address :=
    listing_addresses (Site.root tree)
  obtain ⟨before, after, split⟩ := List.append_of_mem listed
  rw [split] at order other ⊢
  rw [List.pairwise_append, List.pairwise_cons] at order
  have behind : second ∈ after := by
    rcases List.mem_append.mp other with early | late
    · exact absurd (order.2.2 second early first List.mem_cons_self) (lt_asymm less)
    · rcases List.mem_cons.mp late with rfl | behind
      · exact absurd less (lt_irrefl _)
      · exact behind
  have pair : [first, second].Sublist (first :: after) :=
    (List.singleton_sublist.mpr behind).cons_cons first
  exact pair.trans (List.sublist_append_right before (first :: after))

end Site

/-! ### The loop -/

/-- A loop over a tree: the sites that it has visited, and the stack of those that wait, the next
one last. -/
structure Loop where
  visited : List Site
  waiting : List Site

namespace Loop

/-- The loop over a tree before its first round. -/
def start (root : Node) : Loop :=
  ⟨[], [Site.root root]⟩

/-- One round: the next site is visited, and its children wait in its place, the first one last. The
loop is over when nothing waits. -/
def round (loop : Loop) : Option Loop :=
  loop.waiting.getLast?.map fun site =>
    ⟨loop.visited ++ [site], loop.waiting.dropLast ++ site.children.reverse⟩

/-- What a loop has become after some rounds, if it lasts that long. -/
def after : Nat → Loop → Option Loop
  | 0, loop => some loop
  | rounds + 1, loop => loop.round.bind (after rounds)

/-- What a loop has visited, and then what is still to be visited in the order of the stack. -/
def all (loop : Loop) : List Site :=
  loop.visited ++ loop.waiting.reverse.flatMap Site.listing

theorem round_eq_none_iff (loop : Loop) : loop.round = none ↔ loop.waiting = [] := by
  simp [round]

theorem exists_round {loop next : Loop} (passed : loop.round = some next) :
    ∃ rest site, loop.waiting = rest ++ [site] ∧
      next = ⟨loop.visited ++ [site], rest ++ site.children.reverse⟩ := by
  obtain ⟨site, top, rfl⟩ := Option.map_eq_some_iff.mp passed
  obtain ⟨rest, split⟩ := List.getLast?_eq_some_iff.mp top
  refine ⟨rest, site, split, ?_⟩
  rw [split, List.dropLast_concat]

/-- A round changes nothing about what is visited in the end. -/
theorem round_all {loop next : Loop} (passed : loop.round = some next) : next.all = loop.all := by
  obtain ⟨rest, site, split, rfl⟩ := exists_round passed
  simp [all, split, Site.listing_eq site]

theorem sizeAll_reverse (nodes : List Node) : Node.sizeAll nodes.reverse = Node.sizeAll nodes := by
  induction nodes with
  | nil => rfl
  | cons node rest ih =>
      rw [List.reverse_cons, Node.sizeAll_append, ih]
      simp only [Node.sizeAll]
      omega

/-- A round leaves one node less to visit, however much the stack grows. -/
theorem round_pending {loop next : Loop} (passed : loop.round = some next) :
    Site.pending next.waiting + 1 = Site.pending loop.waiting := by
  obtain ⟨rest, site, split, rfl⟩ := exists_round passed
  have children := Site.children_nodes site
  have size := Node.size_eq site.node
  rw [split]
  simp only [Site.pending, List.map_append, List.map_reverse, children, Node.sizeAll_append,
    sizeAll_reverse, List.map_cons, List.map_nil, Node.sizeAll]
  omega

theorem pending_pos {waiting : List Site} (occupied : waiting ≠ []) :
    0 < Site.pending waiting := by
  obtain ⟨site, rest, rfl⟩ := List.exists_cons_of_ne_nil occupied
  have size := Node.size_eq site.node
  simp only [Site.pending, List.map_cons, Node.sizeAll]
  omega

/-- A loop is over after as many rounds as there were nodes to visit, and has then visited what was
to be visited. -/
theorem after_pending (loop : Loop) :
    loop.after (Site.pending loop.waiting) = some ⟨loop.all, []⟩ := by
  induction count : Site.pending loop.waiting generalizing loop with
  | zero =>
      have empty : loop.waiting = [] := by
        by_contra occupied
        have positive := pending_pos occupied
        omega
      obtain ⟨visited, waiting⟩ := loop
      subst empty
      simp [after, all]
  | succ count ih =>
      cases passed : loop.round with
      | none =>
          rw [(round_eq_none_iff loop).mp passed] at count
          simp [Site.pending, Node.sizeAll] at count
      | some next =>
          have fewer := round_pending passed
          rw [after, passed, Option.bind_some, ih next (by omega), round_all passed]

theorem start_all (root : Node) : (start root).all = root.sites := by
  simp [all, start, Node.sites, Site.listing, Site.root]

theorem start_pending (root : Node) : Site.pending (start root).waiting = root.size := by
  simp [start, Site.pending, Node.sizeAll, Site.root]

end Loop

/-! ### Handlers -/

/-- What is done with the named nodes of a kind; most kinds have no handler. -/
def Visitor (m : Type → Type) : Type :=
  String → Option (Site → m Unit)

namespace Visitor

variable {m : Type → Type}

/-- Whether a site is handed to a handler: its node is named, and the node's kind has one. -/
def handles (visitor : Visitor m) (site : Site) : Bool :=
  site.node.named && (visitor site.node.kind).isSome

/-- Hands a site to the handler of its kind, if there is one. -/
def call [Monad m] (visitor : Visitor m) (site : Site) : m Unit :=
  match visitor site.node.kind with
  | some handle => handle site
  | none => pure ()

/-- The sites of a tree that are handed to handlers, in pre-order. -/
def handled (visitor : Visitor m) (root : Node) : List Site :=
  root.sites.filter visitor.handles

theorem mem_handled_iff (visitor : Visitor m) (root : Node) (site : Site) :
    site ∈ visitor.handled root ↔ Site.Leads root site.node site.above ∧
      site.node.named = true ∧ ∃ handle, visitor site.node.kind = some handle := by
  rw [handled, List.mem_filter, Site.mem_sites_iff, handles, Bool.and_eq_true,
    Option.isSome_iff_exists]

end Visitor

/-- Goes through a tree and hands the named nodes to their handlers. -/
def Node.walk {m : Type → Type} [Monad m] (visitor : Visitor m) (root : Node) : m Unit :=
  forM (Site.traverse [Site.root root]) fun site =>
    if site.node.named then visitor.call site else pure ()

theorem forM_filter {m : Type → Type} [Monad m] [LawfulMonad m] {α : Type} (test : α → Bool)
    (step : α → m Unit) (items : List α) :
    (forM items fun item => if test item then step item else pure ()) =
      forM (items.filter test) step := by
  induction items with
  | nil => rfl
  | cons item rest ih =>
      cases passed : test item with
      | true => simp [List.forM_cons, passed, ih]
      | false => simp [List.forM_cons, passed, ih]

/-- The handlers are called for the sites that have one, in the order of the listing. -/
theorem Node.walk_eq {m : Type → Type} [Monad m] [LawfulMonad m] (visitor : Visitor m)
    (root : Node) : root.walk visitor = forM (visitor.handled root) visitor.call := by
  have step : (fun site : Site => if site.node.named then visitor.call site else pure ()) =
      fun site => if visitor.handles site then visitor.call site else pure () := by
    funext site
    unfold Visitor.handles Visitor.call
    cases visitor site.node.kind with
    | none => simp
    | some handle => simp
  rw [walk, traverse_root, step, forM_filter]
  rfl

/-! ### What handlers gather -/

/-- A visitor with one handler, which adds what it takes from a site to what was gathered. -/
def Visitor.gathering {α : Type} (kind : String) (take : Site → Audit (List α)) :
    Visitor (StateT (List α) Audit) := fun other =>
  if other = kind then some fun site => do
    let more ← take site
    modify (· ++ more)
  else none

/-- What the handlers of a visitor have gathered when a tree has been walked. -/
def Node.gathered {α : Type} (visitor : Visitor (StateT (List α) Audit)) (root : Node) :
    Audit (List α) := do
  let (_, items) ← (root.walk visitor).run []
  return items

theorem run_forM_gathering {α : Type} (kind : String) (take : Site → Audit (List α))
    (sites : List Site) (same : ∀ site ∈ sites, site.node.kind = kind) (items : List α) :
    (forM sites (Visitor.gathering kind take).call).run items = do
      let parts ← sites.mapM take
      return ((), items ++ parts.flatten) := by
  induction sites generalizing items with
  | nil => simp
  | cons site rest ih =>
      have own := same site List.mem_cons_self
      have others := ih fun later member => same later (List.mem_cons_of_mem site member)
      have called : (Visitor.gathering kind take).call site = (do
          let more ← take site
          modify (· ++ more)) := by
        simp [Visitor.call, Visitor.gathering, own]
      simp [List.forM_cons, called, others]

theorem Node.gathered_eq {α : Type} (kind : String) (take : Site → Audit (List α))
    (root : Node) :
    root.gathered (.gathering kind take) =
      List.flatten <$> (root.namedSites.filter (·.node.kind = kind)).mapM take := by
  have handled : (Visitor.gathering kind take).handled root =
      root.namedSites.filter (·.node.kind = kind) := by
    rw [namedSites_eq, List.filter_filter, Visitor.handled]
    apply List.filter_congr
    intro site _
    by_cases same : site.node.kind = kind
    · simp [Visitor.handles, Visitor.gathering, same]
    · simp [Visitor.handles, Visitor.gathering, same]
  rw [gathered, walk_eq, handled, run_forM_gathering]
  · simp
  · intro site member
    simpa using (List.mem_filter.mp member).2

/-! ### The analyses as handlers -/

/-- Takes the sheet of a factory call. -/
def sheetVisitor (path : String) (source : List Char) (factories : Factories) :
    Visitor (StateT (List Sheet) Audit) :=
  .gathering "call_expression" fun site =>
    if site.isCreationCall factories source then List.singleton <$> sheetOfCall path source site
    else return []

/-- Takes the reference of a style access. -/
def referenceVisitor (path : String) (stylesNames : List String) (source : List Char) :
    Visitor (StateT (List Reference) Audit) :=
  .gathering "member_expression" fun site =>
    if site.isStylesAccess stylesNames source then return [referenceAt path source site]
    else return []

/-- Takes the key of a flat object, and notices objects without a name. -/
def styleVisitor (path : String) (source : List Char) :
    Visitor (StateT (List KeyDeclaration) Audit) :=
  .gathering "object" fun site =>
    if site.node.isLeafObject then
      match sharedKey? source site with
      | some key => return [key]
      | none => do
        Audit.notify [.anonymousObject path (site.node.line source)]
        return []
    else return []

/-- The sheet that the keys of a shared style file make up. -/
def sheetOfStyles (path : String) (keys : List KeyDeclaration) : Audit Sheet := do
  if keys.isEmpty then Audit.notify [.noFlatObjects path]
  return .ofDeclarations sharedSheetName none keys

/-- Where only some sites give anything, only these count. -/
theorem flatten_mapM_filter {m : Type → Type} [Monad m] [LawfulMonad m] {α β : Type}
    (test : α → Bool) (step : α → m (List β)) (items : List α) :
    List.flatten <$> (items.mapM fun item => if test item then step item else return []) =
      List.flatten <$> (items.filter test).mapM step := by
  induction items with
  | nil => rfl
  | cons item rest ih =>
      have others : ∀ part : List β, (fun parts => part ++ List.flatten parts) <$>
          (rest.mapM fun item => if test item then step item else return []) =
          (fun parts => part ++ List.flatten parts) <$> (rest.filter test).mapM step := by
        intro part
        have joined := congrArg (fun parts => (part ++ ·) <$> parts) ih
        simpa using joined
      cases passed : test item with
      | true => simp [List.mapM_cons, passed, others]
      | false => simpa [List.mapM_cons, passed] using others []

theorem filter_kind_filter {kind : String} {test : Site → Bool}
    (needed : ∀ site, test site = true → site.node.kind = kind) (sites : List Site) :
    (sites.filter (·.node.kind = kind)).filter test = sites.filter test := by
  rw [List.filter_filter]
  apply List.filter_congr
  intro site _
  cases passed : test site with
  | true => simp [needed site passed]
  | false => simp

theorem gathered_filter {α : Type} {kind : String} {test : Site → Bool}
    (needed : ∀ site, test site = true → site.node.kind = kind)
    (take : Site → Audit (List α)) (root : Node) :
    root.gathered (.gathering kind fun site => if test site then take site else return []) =
      List.flatten <$> (root.namedSites.filter test).mapM take := by
  rw [Node.gathered_eq, flatten_mapM_filter, filter_kind_filter needed]

/-- The sheets that a source declares are those that a visitor of its calls gathers. -/
theorem declaredSheets_eq_gathered (path : String) (source : List Char) (factories : Factories)
    (root : Node) :
    declaredSheets path source factories root =
      root.gathered (sheetVisitor path source factories) := by
  have needed : ∀ site : Site, site.isCreationCall factories source = true →
      site.node.kind = "call_expression" := by
    intro site found
    simp only [Site.isCreationCall, Bool.and_eq_true, beq_iff_eq] at found
    exact found.1.1.1
  have single : ∀ calls : List Site,
      List.flatten <$> calls.mapM (fun site => List.singleton <$> sheetOfCall path source site) =
        calls.mapM (sheetOfCall path source) := by
    intro calls
    induction calls with
    | nil => rfl
    | cons call rest ih =>
        rw [List.mapM_cons, List.mapM_cons, ← ih]
        simp [List.singleton]
  rw [sheetVisitor, gathered_filter needed, single]
  rfl

/-- The references of a source are those that a visitor of its member accesses gathers. -/
theorem referencesIn_eq_gathered (path : String) (stylesNames : List String)
    (source : List Char) (root : Node) :
    pure (referencesIn path stylesNames source root) =
      root.gathered (referenceVisitor path stylesNames source) := by
  have needed : ∀ site : Site, site.isStylesAccess stylesNames source = true →
      site.node.kind = "member_expression" := by
    intro site found
    simp only [Site.isStylesAccess, Bool.and_eq_true, beq_iff_eq] at found
    exact found.1.1.1
  rw [referenceVisitor, gathered_filter needed, List.mapM_pure, map_pure, ← List.flatMap_def,
    ← List.map_eq_flatMap]
  rfl

theorem flatMap_ite_singleton {α β : Type} (test : α → Bool) (change : α → β) (items : List α) :
    items.flatMap (fun item => if test item then [change item] else []) =
      (items.filter test).map change := by
  induction items with
  | nil => rfl
  | cons item rest ih => cases passed : test item <;> simp [passed, ih]

/-- A visitor of the objects of a shared style file gathers the keys of flat objects, and notices
those that have no name. -/
theorem gathered_styleVisitor (path : String) (source : List Char) (root : Node) :
    root.gathered (styleVisitor path source) =
      ⟨((leafObjects root).filter fun object => (sharedKey? source object).isNone).map fun object =>
          .anonymousObject path (object.node.line source),
        .ok ((leafObjects root).filterMap (sharedKey? source))⟩ := by
  have needed : ∀ site : Site, site.node.isLeafObject = true → site.node.kind = "object" := by
    intro site found
    simp only [Node.isLeafObject, Bool.and_eq_true, beq_iff_eq] at found
    exact found.1
  have each : List.Forall₂ (fun site (part : List KeyDeclaration × List Notice) =>
      (match sharedKey? source site with
        | some key => return [key]
        | none => do
          Audit.notify [.anonymousObject path (site.node.line source)]
          return [] : Audit (List KeyDeclaration)) = ⟨part.2, .ok part.1⟩)
      (leafObjects root) ((leafObjects root).map fun site =>
        ((sharedKey? source site).toList, if (sharedKey? source site).isNone then
          [.anonymousObject path (site.node.line source)] else [])) := by
    rw [List.forall₂_map_right_iff, List.forall₂_same]
    intro site _
    cases sharedKey? source site <;> rfl
  have taken := Audit.mapM_eq_of_forall₂ each
  rw [List.map_map, List.flatMap_map, flatMap_ite_singleton] at taken
  rw [styleVisitor, gathered_filter needed, ← leafObjects, taken]
  show Audit.mk (_ ++ []) (.ok (List.flatten _)) = _
  rw [List.append_nil, List.filterMap_eq_flatMap_toList, List.flatMap_def]
  rfl

/-- The sheet of a shared style file is made of the keys that a visitor of its objects gathers. -/
theorem sharedSheet_eq_gathered (path : String) (source : List Char) (root : Node) :
    sharedSheet path source root =
      root.gathered (styleVisitor path source) >>= sheetOfStyles path := by
  rw [gathered_styleVisitor]
  rfl

/-! ### The visit -/

/-- A tree is visited in pre-order. The loop over its stack is over after one round for each node
and has then visited what the recursive listing lists: each place of the tree once, every site
behind its parent, and siblings from left to right. A walk with handlers calls one exactly for the
named sites whose kind has one, in this order, whatever lies above them; and the sheets, references
and styles of a source are what such walks gather. -/
theorem visited_in_preorder (root : Node) :
    ((Loop.start root).after root.size = some ⟨Site.traverse [Site.root root], []⟩ ∧
      (⟨Site.traverse [Site.root root], []⟩ : Loop).round = none) ∧
    (Site.traverse [Site.root root] = root.sites ∧
      (Site.traverse [Site.root root]).map (·.node) = root.preorder) ∧
    ((Site.traverse [Site.root root]).Nodup ∧
      ∀ site, site ∈ Site.traverse [Site.root root] ↔ Site.Leads root site.node site.above) ∧
    (∀ site ∈ Site.traverse [Site.root root],
      (∀ child ∈ site.children, [site, child].Sublist (Site.traverse [Site.root root])) ∧
      ∀ earlier later, [earlier, later].Sublist site.children →
        [earlier, later].Sublist (Site.traverse [Site.root root])) ∧
    (∀ (m : Type → Type) [Monad m] [LawfulMonad m] (visitor : Visitor m),
      root.walk visitor = forM (visitor.handled root) visitor.call ∧
      (visitor.handled root).Sublist (Site.traverse [Site.root root]) ∧
      ∀ site, site ∈ visitor.handled root ↔ Site.Leads root site.node site.above ∧
        site.node.named = true ∧ ∃ handle, visitor site.node.kind = some handle) ∧
    (∀ path source factories, declaredSheets path source factories root =
      root.gathered (sheetVisitor path source factories)) ∧
    (∀ path stylesNames source, pure (referencesIn path stylesNames source root) =
      root.gathered (referenceVisitor path stylesNames source)) ∧
    ∀ path source, sharedSheet path source root =
      root.gathered (styleVisitor path source) >>= sheetOfStyles path := by
  have ends := Loop.after_pending (Loop.start root)
  rw [Loop.start_pending, Loop.start_all] at ends
  rw [Node.traverse_root]
  refine ⟨⟨ends, rfl⟩, ⟨rfl, root.sites_nodes⟩, ⟨Site.listing_nodup (Site.root root),
    Site.mem_sites_iff root⟩, ?_, ?_, fun path source factories =>
      declaredSheets_eq_gathered path source factories root, fun path stylesNames source =>
      referencesIn_eq_gathered path stylesNames source root, fun path source =>
      sharedSheet_eq_gathered path source root⟩
  · intro site listed
    have below : ∀ child ∈ site.children, child ∈ root.sites := fun child member =>
      Site.mem_listing_of_child (Site.root root) listed member
    constructor
    · intro child member
      apply Site.sublist_sites_of_lt listed (below child member)
      exact Site.address_lt_of_mem_children member
    · intro earlier later pair
      have first := below earlier (pair.subset (by simp))
      have second := below later (pair.subset (by simp))
      apply Site.sublist_sites_of_lt first second
      exact List.pairwise_iff_forall_sublist.mp (Site.children_addresses site) pair
  · intro m _ _ visitor
    exact ⟨root.walk_eq visitor, List.filter_sublist, visitor.mem_handled_iff root⟩

namespace Sample

/-- A node without a text of its own. -/
def bareNode (kind : String) (named : Bool) (children : List Node) : Node :=
  ⟨kind, named, false, false, none, 0, 0, children⟩

/-- An unnamed node that holds a named one. -/
def openedNode : Node :=
  bareNode "(" false [bareNode "object" true [bareNode "pair" true []]]

/-- A tree with objects on different levels. -/
def mixedTree : Node :=
  bareNode "program" true [openedNode, bareNode "object" true []]

/-- The unnamed node in its place. -/
def opened : Site :=
  ⟨openedNode, [⟨mixedTree, 0⟩]⟩

/-- The object in the unnamed node. -/
def innerObject : Site :=
  ⟨bareNode "object" true [bareNode "pair" true []], [⟨openedNode, 0⟩, ⟨mixedTree, 0⟩]⟩

/-- Records where objects are. -/
def recorder : Visitor (StateM (List (List Nat))) := fun kind =>
  if kind = "object" then some fun site => modify (· ++ [site.address]) else none

end Sample

/-- The loop over the tree is over after five rounds. Both objects are handled, the one below the
unnamed node first. -/
theorem sample_visited :
    ((Loop.start Sample.mixedTree).after 5 =
        some ⟨Site.traverse [Site.root Sample.mixedTree], []⟩ ∧
      (Site.traverse [Site.root Sample.mixedTree]).map Site.address =
        [[], [0], [0, 0], [0, 0, 0], [1]]) ∧
    (Sample.opened ∈ Site.traverse [Site.root Sample.mixedTree] ∧
      Sample.innerObject ∈ Sample.opened.children ∧
      [Sample.opened, Sample.innerObject].Sublist
        (Site.traverse [Site.root Sample.mixedTree])) ∧
    (Sample.mixedTree.walk Sample.recorder).run [] = ((), [[0, 0], [1]]) := by
  obtain ⟨⟨ends, _⟩, ⟨same, _⟩, ⟨_, listed⟩, order, walks, _⟩ :=
    visited_in_preorder Sample.mixedTree
  have size : Sample.mixedTree.size = 5 := rfl
  rw [size] at ends
  have outer : Sample.opened ∈ Site.traverse [Site.root Sample.mixedTree] :=
    (listed Sample.opened).mpr ⟨rfl, rfl⟩
  have inner : Sample.innerObject ∈ Sample.opened.children := List.mem_cons_self
  refine ⟨⟨ends, ?_⟩, ⟨outer, inner, (order _ outer).1 _ inner⟩, ?_⟩
  · rw [same]
    decide
  · rw [(walks _ Sample.recorder).1]
    rfl

end StyleAudit
