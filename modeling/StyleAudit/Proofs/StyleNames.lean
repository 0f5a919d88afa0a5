import StyleAudit.Proofs.SharedStyles

/-!
The names of the styles of a shared file.

They are listed by one recursion, which takes down the name that the surroundings give to a node. Of
its children a parent sees an outline, and the name that it gives to each hangs on these alone.
-/

set_option autoImplicit false

namespace StyleAudit

/-! ### Names by recursion -/

namespace Node

/-- Whether a node is a style, if only it has a name. -/
def isStyle (node : Node) : Bool :=
  node.named && node.isLeafObject

/-- The name of the child at an index, where the parent itself is called by a name: parentheses pass
theirs on. -/
def passes? (source : List Char) (called : Option String) (parent : Node) (index : Nat) :
    Option String :=
  if parent.kind = "parenthesized_expression" then called
  else (parent.namingContext? index).bind (NamingContext.name? source)

mutual

/-- The names of the styles in a tree that is itself called by a name, in pre-order. -/
def styleNames (source : List Char) (called : Option String) : Node → List String
  | node@⟨_, _, _, _, _, _, _, children⟩ =>
    (if node.isStyle then called.toList else []) ++ styleNamesOfAll source called node 0 children

/-- The names of the styles in consecutive children of one parent. -/
def styleNamesOfAll (source : List Char) (called : Option String) (parent : Node) (index : Nat) :
    List Node → List String
  | [] => []
  | child :: rest =>
    child.styleNames source (parent.passes? source called index) ++
      styleNamesOfAll source called parent (index + 1) rest

end

theorem styleNames_eq (source : List Char) (called : Option String) (node : Node) :
    node.styleNames source called = (if node.isStyle then called.toList else []) ++
      styleNamesOfAll source called node 0 node.children := by
  cases node
  rfl

theorem styleNamesOfAll_append (source : List Char) (called : Option String) (parent : Node)
    (index : Nat) (front back : List Node) :
    styleNamesOfAll source called parent index (front ++ back) =
      styleNamesOfAll source called parent index front ++
        styleNamesOfAll source called parent (index + front.length) back := by
  induction front generalizing index with
  | nil => rfl
  | cons child rest ih =>
      rw [List.cons_append, styleNamesOfAll, ih, styleNamesOfAll, List.append_assoc,
        List.length_cons, Nat.add_right_comm, Nat.add_assoc]

theorem styleNamesOfAll_congr {source : List Char} {called : Option String} {parent twin : Node}
    (same : ∀ index, twin.passes? source called index = parent.passes? source called index)
    (index : Nat) (nodes : List Node) :
    styleNamesOfAll source called twin index nodes =
      styleNamesOfAll source called parent index nodes := by
  induction nodes generalizing index with
  | nil => rfl
  | cons child rest ih => rw [styleNamesOfAll, styleNamesOfAll, same, ih]

end Node

namespace Site

/-- The name that the steps above give to a node. -/
def called? (source : List Char) : List Step → Option String
  | [] => none
  | step :: rest => step.parent.passes? source (called? source rest) step.index

/-- The names of the styles among some sites. -/
def styleNames (source : List Char) (sites : List Site) : List String :=
  ((sites.filter (·.node.isStyle)).filterMap (sharedKey? source)).map (·.name)

theorem namingContext?_name (source : List Char) (site : Site) :
    site.namingContext?.bind (NamingContext.name? source) = called? source site.above := by
  rw [namingContext?_eq, outside?]
  induction site.above with
  | nil => rfl
  | cons step rest ih =>
      by_cases parenthesis : step.parent.kind = "parenthesized_expression"
      · simpa only [List.find?_cons, called?, Node.passes?, parenthesis, ne_eq, not_true_eq_false,
          decide_false, ↓reduceIte] using ih
      · simp only [List.find?_cons, called?, Node.passes?, parenthesis, ne_eq, not_false_eq_true,
          decide_true, ↓reduceIte, Option.bind_some]

theorem sharedKey?_name (source : List Char) (site : Site) :
    (sharedKey? source site).map (·.name) = called? source site.above := by
  rw [← namingContext?_name, sharedKey?]
  cases site.namingContext? with
  | none => rfl
  | some context => simp [Function.comp_def]

theorem styleNames_append (source : List Char) (front back : List Site) :
    styleNames source (front ++ back) = styleNames source front ++ styleNames source back := by
  simp only [styleNames, List.filter_append, List.filterMap_append, List.map_append]

theorem styleNames_cons (source : List Char) (site : Site) (rest : List Site) :
    styleNames source (site :: rest) =
      (if site.node.isStyle then (called? source site.above).toList else []) ++
        styleNames source rest := by
  rw [← sharedKey?_name]
  by_cases style : site.node.isStyle = true
  · cases found : sharedKey? source site with
    | none => simp [styleNames, style, found]
    | some key => simp [styleNames, style, found]
  · simp [styleNames, style]

mutual

/-- The names of the styles in a listing come by recursion over the tree that is listed. -/
theorem styleNames_sitesUnder (source : List Char) (above : List Step) : (node : Node) →
    styleNames source (node.sitesUnder above) = node.styleNames source (called? source above)
  | ⟨kind, named, erroneous, missing, field, start, stop, children⟩ => by
      rw [Node.sitesUnder, styleNames_cons, styleNames_sitesOfAll source above _ 0 children]
      rfl

theorem styleNames_sitesOfAll (source : List Char) (above : List Step) (parent : Node)
    (index : Nat) : (nodes : List Node) →
    styleNames source (Node.sitesOfAll above parent index nodes) =
      Node.styleNamesOfAll source (called? source above) parent index nodes
  | [] => rfl
  | node :: rest => by
      rw [Node.sitesOfAll, styleNames_append, styleNames_sitesUnder, Node.styleNamesOfAll,
        styleNames_sitesOfAll source above parent (index + 1) rest]
      rfl

end

end Site

/-- The key names of a shared style file are the names of the styles of its tree. -/
theorem Source.exists_shared_sheet (source : Source) : ∃ sheet,
    (extractSheets source .shared).result = .ok ⟨[sheet], Text.splitLines source.text⟩ ∧
      sheet.keyNames = (Site.styleNames source.text.toList source.root.sites).eraseDups := by
  have objects : leafObjects source.root = source.root.sites.filter (·.node.isStyle) := by
    rw [leafObjects, Node.namedSites_eq, List.filter_filter]
    apply List.filter_congr
    intro site _
    rw [Node.isStyle, Bool.and_comm]
  refine ⟨_, extractSheets_shared_result source, ?_⟩
  rw [(Sheet.ofDeclarations_merges _ _ _).names, objects]
  rfl

/-! ### Outlines -/

/-- What a parent sees of a child. -/
structure Outline where
  field : Option String
  /-- The name that the child spells out as a key. -/
  key : Option String
  /-- The name of the child, if that is an identifier. -/
  identifier : Option String
  /-- The identifier of which the child is a member. -/
  object : Option String

namespace Node

/-- The outline of a node. -/
def outline (source : List Char) (node : Node) : Outline where
  field := node.field
  key := node.keyName? source
  identifier := NamingContext.name?.identifier? source (some node)
  object :=
    if node.kind = "member_expression" then
      NamingContext.name?.identifier? source (node.child? "object")
    else none

/-- The outline of the child under a field. -/
def seen? (source : List Char) (node : Node) (name : String) : Option Outline :=
  (node.child? name).map (outline source)

theorem seen?_eq (source : List Char) (node : Node) (name : String) :
    node.seen? source name =
      (node.children.map (outline source)).find? (·.field == some name) := by
  rw [seen?, child?, List.find?_map]
  rfl

theorem fieldIndex?_eq (source : List Char) (node : Node) (name : String) :
    node.fieldIndex? name =
      (node.children.map (outline source)).findIdx? (·.field == some name) := by
  rw [fieldIndex?, List.findIdx?_map]
  rfl

theorem keyName?_child? (source : List Char) (node : Node) (name : String) :
    (node.child? name).bind (keyName? source) = (node.seen? source name).bind (·.key) := by
  rw [seen?, Option.bind_map]
  rfl

theorem identifier?_child? (source : List Char) (node : Node) (name : String) :
    NamingContext.name?.identifier? source (node.child? name) =
      (node.seen? source name).bind (·.identifier) := by
  rw [seen?, Option.bind_map]
  cases node.child? name <;> rfl

/-- The name that a parent gives, read off the outlines of its children. -/
theorem namingContext?_bind_name? (source : List Char) (parent : Node) (index : Nat) :
    (parent.namingContext? index).bind (NamingContext.name? source) =
      if parent.kind = "pair" ∧ parent.fieldIndex? "value" == some index then
        (parent.seen? source "key").bind (·.key)
      else if (parent.kind = "field_definition" ∨ parent.kind = "public_field_definition")
          ∧ parent.fieldIndex? "value" == some index then
        ((parent.seen? source "property").or (parent.seen? source "name")).bind (·.key)
      else if parent.kind = "variable_declarator" then
        (parent.seen? source "name").bind (·.identifier)
      else if parent.kind = "assignment_expression" then
        (parent.seen? source "left").bind (·.object)
      else none := by
  unfold namingContext?
  dsimp only
  split
  · exact keyName?_child? source parent "key"
  split
  · rw [seen?, seen?, ← Option.map_or, Option.bind_map]
    rfl
  split
  · exact identifier?_child? source parent "name"
  split
  · rw [seen?, Option.bind_map]
    cases parent.child? "left" with
    | none => rfl
    | some left =>
        by_cases member : left.kind = "member_expression"
        · simp [Option.filter, outline, member, NamingContext.name?]
        · simp [Option.filter, outline, member]
  · rfl

/-- Parents of one kind whose children look alike name them alike. -/
theorem passes?_congr {source other : List Char} {parent twin : Node}
    (kind : twin.kind = parent.kind)
    (outlines : twin.children.map (outline other) = parent.children.map (outline source))
    (called : Option String) (index : Nat) :
    twin.passes? other called index = parent.passes? source called index := by
  have seen (name : String) : twin.seen? other name = parent.seen? source name := by
    rw [seen?_eq, outlines, ← seen?_eq]
  have place : twin.fieldIndex? "value" = parent.fieldIndex? "value" := by
    rw [fieldIndex?_eq other, outlines, ← fieldIndex?_eq]
  simp only [passes?, namingContext?_bind_name?, seen, place, kind]

/-! ### Pairs that hold objects -/

/-- Whether a node is a pair whose value is an object literal. -/
def holdsObject (node : Node) : Bool :=
  node.named && node.kind == "pair" && (node.child? "value").any (·.kind == "object")

theorem isStyle_eq (node : Node) :
    node.isStyle = (node.named && (node.kind == "object" && !node.children.any holdsObject)) := by
  rw [isStyle, isLeafObject, namedChildren, List.all_filter, List.not_any_eq_all_not]
  congr 3
  funext member
  cases value : member.child? "value" with
  | none => simp [holdsObject, value]
  | some held =>
      simp only [holdsObject, value, Option.all_some, Option.any_some, bne]
      cases member.named <;> cases member.kind == "pair" <;> rfl

/-! ### Trees over two texts -/

/-- What a node says of itself. -/
structure Face where
  kind : String
  named : Bool
  field : Option String
  key : Option String
deriving DecidableEq

/-- The face of a node. -/
def face (source : List Char) (node : Node) : Face :=
  ⟨node.kind, node.named, node.field, node.keyName? source⟩

mutual

/-- Whether two trees, each over its text, are the same apart from the places of their nodes. -/
def alike (source other : List Char) : Node → Node → Bool
  | node@⟨_, _, _, _, _, _, _, children⟩, twin =>
    node.face source == twin.face other && alikeAll source other children twin.children

/-- Whether two lists of trees are pairwise the same apart from the places of their nodes. -/
def alikeAll (source other : List Char) : List Node → List Node → Bool
  | [], [] => true
  | node :: rest, twin :: others =>
    node.alike source other twin && alikeAll source other rest others
  | _, _ => false

end

theorem alike_iff (source other : List Char) (node twin : Node) :
    node.alike source other twin = true ↔ twin.face other = node.face source ∧
      alikeAll source other node.children twin.children = true := by
  cases node
  rw [alike, Bool.and_eq_true, beq_iff_eq, eq_comm]

section Alike

variable {source other : List Char} {node twin : Node}

theorem map_eq_of_alikeAll {α : Type} (view : List Char → Node → α)
    (each : ∀ node twin : Node, node.alike source other twin = true →
      view other twin = view source node) {nodes twins : List Node}
    (alike : alikeAll source other nodes twins = true) :
    twins.map (view other) = nodes.map (view source) := by
  induction nodes generalizing twins with
  | nil =>
      cases twins with
      | nil => rfl
      | cons twin others => cases alike
  | cons node rest ih =>
      cases twins with
      | nil => cases alike
      | cons twin others =>
          rw [alikeAll, Bool.and_eq_true] at alike
          rw [List.map_cons, List.map_cons, each node twin alike.1, ih alike.2]

theorem child?_face_of_alike (alike : node.alike source other twin = true) (name : String) :
    (twin.child? name).map (face other) = (node.child? name).map (face source) := by
  have faces := map_eq_of_alikeAll face
    (fun _ _ alike => ((alike_iff _ _ _ _).mp alike).1) ((alike_iff _ _ _ _).mp alike).2
  have seen (text : List Char) (parent : Node) : (parent.child? name).map (face text) =
      (parent.children.map (face text)).find? (·.field == some name) := by
    rw [child?, List.find?_map]
    rfl
  rw [seen, seen, faces]

theorem identifier?_eq_face (source : List Char) (node : Option Node) :
    NamingContext.name?.identifier? source node =
      (node.map (face source)).bind fun face =>
        if face.kind = "identifier" then face.key else none := by
  cases node with
  | none => rfl
  | some node =>
      by_cases plain : node.kind = "identifier"
      · simp [NamingContext.name?.identifier?, face, keyName?, plain]
      · simp [NamingContext.name?.identifier?, face, plain]

theorem outline_of_alike (alike : node.alike source other twin = true) :
    twin.outline other = node.outline source := by
  have same := ((alike_iff _ _ _ _).mp alike).1
  have kind : twin.kind = node.kind := congrArg Face.kind same
  have field : twin.field = node.field := congrArg Face.field same
  have key : twin.keyName? other = node.keyName? source := congrArg Face.key same
  simp only [outline, identifier?_eq_face, child?_face_of_alike alike, Option.map_some, same, kind,
    field, key]

theorem holdsObject_of_alike (alike : node.alike source other twin = true) :
    twin.holdsObject = node.holdsObject := by
  have same := ((alike_iff _ _ _ _).mp alike).1
  have kind : twin.kind = node.kind := congrArg Face.kind same
  have named : twin.named = node.named := congrArg Face.named same
  have value := congrArg (Option.any (·.kind == "object")) (child?_face_of_alike alike "value")
  rw [Option.any_map, Option.any_map] at value
  rw [holdsObject, holdsObject, kind, named]
  exact congrArg _ value

theorem isStyle_of_alike (alike : node.alike source other twin = true) :
    twin.isStyle = node.isStyle := by
  obtain ⟨same, children⟩ := (alike_iff _ _ _ _).mp alike
  have kind : twin.kind = node.kind := congrArg Face.kind same
  have named : twin.named = node.named := congrArg Face.named same
  have held := map_eq_of_alikeAll (fun _ node => node.holdsObject)
    (fun _ _ alike => holdsObject_of_alike alike) children
  have any := congrArg (List.any · id) held
  simp only [List.any_map, Function.id_comp] at any
  rw [isStyle_eq, isStyle_eq, kind, named]
  exact congrArg (fun found => node.named && (node.kind == "object" && !found)) any

theorem passes?_of_alike (alike : node.alike source other twin = true) (called : Option String)
    (index : Nat) : twin.passes? other called index = node.passes? source called index := by
  obtain ⟨same, children⟩ := (alike_iff _ _ _ _).mp alike
  apply passes?_congr (congrArg Face.kind same)
  exact map_eq_of_alikeAll outline (fun _ _ alike => outline_of_alike alike) children

end Alike

mutual

/-- Trees that are alike name their styles alike. -/
theorem styleNames_of_alike {source other : List Char} : (node twin : Node) →
    node.alike source other twin = true → ∀ called : Option String,
      twin.styleNames other called = node.styleNames source called
  | ⟨kind, named, erroneous, missing, field, start, stop, children⟩, twin, alike, called => by
      rw [styleNames_eq, styleNames_eq, isStyle_of_alike alike,
        styleNamesOfAll_of_alikeAll (passes?_of_alike alike called) children twin.children
          ((alike_iff _ _ _ _).mp alike).2]

theorem styleNamesOfAll_of_alikeAll {source other : List Char} {called : Option String}
    {parent double : Node}
    (passes : ∀ index, double.passes? other called index = parent.passes? source called index) :
    (nodes twins : List Node) → alikeAll source other nodes twins = true → ∀ index : Nat,
      styleNamesOfAll other called double index twins =
        styleNamesOfAll source called parent index nodes
  | [], [], _, _ => rfl
  | node :: rest, twin :: others, alike, index => by
      rw [alikeAll, Bool.and_eq_true] at alike
      rw [styleNamesOfAll, styleNamesOfAll, passes, styleNames_of_alike node twin alike.1,
        styleNamesOfAll_of_alikeAll passes rest others alike.2 (index + 1)]

end

end Node

end StyleAudit
