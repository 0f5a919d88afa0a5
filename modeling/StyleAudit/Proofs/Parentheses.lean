import StyleAudit.Proofs.Analysis
import StyleAudit.Proofs.StyleNames

/-!
Parentheses around the styles of a shared file.

An object keeps its name in parentheses, and all that stands around it keeps its own. But a pair
holds no object any more once the object stands in parentheses, so that the object to which the pair
belongs may become a style by them.
-/

set_option autoImplicit false

namespace StyleAudit

/-! ### Other children -/

namespace Node

/-- A node with another child at an index. -/
def withChild (parent : Node) (index : Nat) (child : Node) : Node :=
  { parent with children := parent.children.set index child }

section WithChild

variable {source : List Char} {parent node twin : Node} {index : Nat}

theorem exists_split (held : parent.children[index]? = some node) :
    ∃ before after, before.length = index ∧ parent.children = before ++ node :: after ∧
      ∀ twin, (parent.withChild index twin).children = before ++ twin :: after := by
  obtain ⟨inside, found⟩ := List.getElem?_eq_some_iff.mp held
  refine ⟨parent.children.take index, parent.children.drop (index + 1), ?_, ?_, ?_⟩
  · rw [List.length_take, Nat.min_eq_left (Nat.le_of_lt inside)]
  · rw [← found, ← List.drop_eq_getElem_cons inside, List.take_append_drop]
  · intro twin
    rw [withChild, List.set_eq_take_append_cons_drop]
    simp only [inside, ↓reduceIte]

theorem map_withChild {α : Type} (view : Node → α) (held : parent.children[index]? = some node)
    (same : view twin = view node) :
    (parent.withChild index twin).children.map view = parent.children.map view := by
  obtain ⟨before, after, _, split, replaced⟩ := exists_split held
  simp only [split, replaced, List.map_append, List.map_cons, same]

theorem outline_withChild (held : parent.children[index]? = some node)
    (same : twin.outline source = node.outline source) :
    (parent.withChild index twin).outline source = parent.outline source := by
  have seen : (parent.withChild index twin).seen? source "object" =
      parent.seen? source "object" := by
    rw [seen?_eq, map_withChild _ held same, ← seen?_eq]
  have identifier : NamingContext.name?.identifier? source (some (parent.withChild index twin)) =
      NamingContext.name?.identifier? source (some parent) := by
    rw [identifier?_eq_face, identifier?_eq_face]
    rfl
  rw [outline, identifier, identifier?_child?, seen, ← identifier?_child?]
  rfl

theorem passes?_withChild (held : parent.children[index]? = some node)
    (same : twin.outline source = node.outline source) (called : Option String) (place : Nat) :
    (parent.withChild index twin).passes? source called place =
      parent.passes? source called place := by
  apply passes?_congr
  · rfl
  · exact map_withChild _ held same

theorem getElem?_withChild (held : parent.children[index]? = some node) (place : Nat) :
    (parent.withChild index twin).children[place]? =
      if index = place then some twin else parent.children[place]? := by
  obtain ⟨inside, _⟩ := List.getElem?_eq_some_iff.mp held
  rw [withChild, List.getElem?_set]
  simp only [inside, ↓reduceIte]

theorem fieldIndex?_withChild (held : parent.children[index]? = some node)
    (field : twin.field = node.field) (name : String) :
    (parent.withChild index twin).fieldIndex? name = parent.fieldIndex? name := by
  have fields (other : Node) : other.fieldIndex? name =
      (other.children.map Node.field).findIdx? (· == some name) := by
    rw [fieldIndex?, List.findIdx?_map]
    rfl
  rw [fields, fields, map_withChild Node.field held field]

theorem child?_eq (node : Node) (name : String) :
    node.child? name = (node.fieldIndex? name).bind (node.children[·]?) :=
  List.find?_eq_bind_findIdx?_getElem?

theorem child?_withChild (held : parent.children[index]? = some node)
    (field : twin.field = node.field) (name : String) :
    (parent.withChild index twin).child? name =
      if parent.fieldIndex? name = some index then some twin else parent.child? name := by
  rw [child?_eq, fieldIndex?_withChild held field, child?_eq]
  cases parent.fieldIndex? name with
  | none => rfl
  | some first =>
      rw [Option.bind_some, Option.bind_some, getElem?_withChild held]
      simp only [Option.some.injEq, eq_comm]

theorem holdsObject_withChild (held : parent.children[index]? = some node)
    (field : twin.field = node.field)
    (literal : (twin.kind == "object") = (node.kind == "object")) :
    (parent.withChild index twin).holdsObject = parent.holdsObject := by
  have value : ((parent.withChild index twin).child? "value").any (·.kind == "object") =
      (parent.child? "value").any (·.kind == "object") := by
    rw [child?_withChild held field]
    split
    · rename_i place
      have old : parent.child? "value" = some node := by
        rw [child?_eq, place]
        exact held
      rw [old]
      exact literal
    · rfl
  rw [holdsObject, holdsObject, value]
  rfl

theorem isStyle_withChild (held : parent.children[index]? = some node)
    (holds : twin.holdsObject = node.holdsObject) :
    (parent.withChild index twin).isStyle = parent.isStyle := by
  have members := congrArg (List.any · id) (map_withChild holdsObject held holds)
  simp only [List.any_map, Function.id_comp] at members
  rw [isStyle_eq, isStyle_eq, members]
  rfl

/-- The names in the children of a parent, apart from those in one of them. -/
theorem styleNamesOfAll_split {before after : List Node}
    (split : parent.children = before ++ node :: after) (called : Option String) :
    styleNamesOfAll source called parent 0 parent.children =
      styleNamesOfAll source called parent 0 before ++
        (node.styleNames source (parent.passes? source called before.length) ++
          styleNamesOfAll source called parent (before.length + 1) after) := by
  rw [split, styleNamesOfAll_append, Nat.zero_add, styleNamesOfAll]

theorem styleNamesOfAll_withChild (held : parent.children[index]? = some node)
    (same : twin.outline source = node.outline source)
    (names : ∀ called, twin.styleNames source called = node.styleNames source called)
    (called : Option String) :
    styleNamesOfAll source called (parent.withChild index twin) 0
        (parent.withChild index twin).children =
      styleNamesOfAll source called parent 0 parent.children := by
  obtain ⟨before, after, _, split, replaced⟩ := exists_split held
  rw [styleNamesOfAll_congr (passes?_withChild held same called), replaced, split,
    styleNamesOfAll_append, styleNamesOfAll_append, styleNamesOfAll, styleNamesOfAll, names]

end WithChild

/-- Whether a node takes another one's place unnoticed: neither the names around it nor the styles
around it change. -/
structure Resembles (source : List Char) (twin node : Node) : Prop where
  outline : twin.outline source = node.outline source
  literal : (twin.kind == "object") = (node.kind == "object")
  holds : twin.holdsObject = node.holdsObject

/-- What takes the place of a child unnoticed changes nothing about the parent. -/
theorem Resembles.withChild {source : List Char} {parent node twin : Node} {index : Nat}
    (resembles : twin.Resembles source node) (held : parent.children[index]? = some node) :
    (parent.withChild index twin).Resembles source parent where
  outline := outline_withChild held resembles.outline
  literal := rfl
  holds := holdsObject_withChild held (congrArg Outline.field resembles.outline) resembles.literal

end Node

/-! ### Another node at a place -/

namespace Site

/-- The root over some steps, where another node stands below them. -/
def rebuild : List Step → Node → Node
  | [], node => node
  | step :: rest, node => rebuild rest (step.parent.withChild step.index node)

/-- The tree of a site with another node in its place. -/
def replace (site : Site) (node : Node) : Node :=
  rebuild site.above node

/-- All names of a tree are those before a place, those at it and those behind it, and only those at
it change with what stands there unnoticed. -/
theorem styleNames_rebuild (source : List Char) {root node : Node} {above : List Step}
    (leads : Leads root node above) :
    ∃ front back, root.sites = front ++ (node.sitesUnder above ++ back) ∧
      ∀ twin : Node, twin.Resembles source node →
        (rebuild above twin).styleNames source none = styleNames source front ++
          (twin.styleNames source (called? source above) ++ styleNames source back) := by
  -- The induction climbs: with the other child, the parent takes its own place unnoticed.
  induction above generalizing node with
  | nil =>
      obtain rfl := leads
      refine ⟨[], [], ?_, ?_⟩
      · rw [List.nil_append, List.append_nil, Node.sites]
      · intro twin _
        rw [styleNames, List.filter_nil, List.filterMap_nil, List.map_nil, List.nil_append,
          List.append_nil]
        rfl
  | cons step rest ih =>
      obtain ⟨parent, index⟩ := step
      obtain ⟨held, upward⟩ := leads
      obtain ⟨front, back, sites, names⟩ := ih upward
      obtain ⟨before, after, rfl, split, replaced⟩ := Node.exists_split held
      refine ⟨front ++ ⟨parent, rest⟩ :: Node.sitesOfAll rest parent 0 before,
        Node.sitesOfAll rest parent (before.length + 1) after ++ back, ?_, ?_⟩
      · rw [sites, sitesUnder_eq ⟨parent, rest⟩, split, sitesOfAll_append, Nat.zero_add,
          Node.sitesOfAll]
        simp only [List.cons_append, List.append_assoc]
      · intro twin resembles
        have passes := Node.passes?_withChild held resembles.outline (called? source rest)
        rw [rebuild, names _ (resembles.withChild held), Node.styleNames_eq,
          Node.isStyle_withChild held resembles.holds, Node.styleNamesOfAll_split (replaced twin),
          Node.styleNamesOfAll_congr passes, Node.styleNamesOfAll_congr passes, passes,
          styleNames_append, styleNames_cons, styleNames_append, styleNames_sitesOfAll,
          styleNames_sitesOfAll]
        simp only [called?, List.append_assoc]

/-- Where a node is replaced unnoticed by one that names the same styles, so does the whole tree. -/
theorem styleNames_rebuild_eq {source : List Char} {root node twin : Node} {above : List Step}
    (leads : Leads root node above) (resembles : twin.Resembles source node)
    (same : ∀ called, twin.styleNames source called = node.styleNames source called) :
    (rebuild above twin).styleNames source none = styleNames source root.sites := by
  obtain ⟨front, back, sites, names⟩ := styleNames_rebuild source leads
  rw [names twin resembles, same, sites, styleNames_append, styleNames_append,
    styleNames_sitesUnder]

end Site

/-! ### Parentheses -/

namespace Node

/-- Whether a node is another one in parentheses: the parent holds it under the field of the other,
and it holds the other, besides which it has punctuation alone. -/
structure Parenthesizes (wrapper object : Node) : Prop where
  kind : wrapper.kind = "parenthesized_expression"
  field : wrapper.field = object.field
  holds : ∃ before after inner, wrapper.children = before ++ { object with field := inner } :: after ∧
    ∀ mark ∈ before ++ after, mark.named = false ∧ mark.children = []

theorem styleNamesOfAll_marks (source : List Char) (called : Option String) (parent : Node)
    (index : Nat) {marks : List Node}
    (bare : ∀ mark ∈ marks, mark.named = false ∧ mark.children = []) :
    styleNamesOfAll source called parent index marks = [] := by
  induction marks generalizing index with
  | nil => rfl
  | cons mark rest ih =>
      obtain ⟨⟨unnamed, childless⟩, later⟩ := List.forall_mem_cons.mp bare
      rw [styleNamesOfAll, ih (index + 1) later, styleNames_eq, childless, isStyle, unnamed]
      rfl

theorem styleNames_withField (source : List Char) (called : Option String) (node : Node)
    (field : Option String) :
    styleNames source called { node with field := field } = node.styleNames source called := by
  have passes (index : Nat) : passes? source called { node with field := field } index =
      node.passes? source called index := by
    apply passes?_congr
    · rfl
    · rfl
  rw [styleNames_eq, styleNames_eq, styleNamesOfAll_congr passes]
  rfl

section Parenthesizes

variable {source : List Char} {wrapper object : Node}

/-- Parentheses pass their name on to the object, and name nothing themselves. -/
theorem Parenthesizes.styleNames (around : wrapper.Parenthesizes object) (called : Option String) :
    wrapper.styleNames source called = object.styleNames source called := by
  obtain ⟨before, after, inner, children, bare⟩ := around.holds
  have plain : wrapper.isStyle = false := by
    rw [isStyle_eq, around.kind]
    simp
  have passes : wrapper.passes? source called before.length = called := by
    rw [passes?, around.kind]
    simp
  rw [styleNames_eq, plain, styleNamesOfAll_split children, passes, styleNames_withField,
    styleNamesOfAll_marks source called wrapper 0 fun mark member =>
      bare mark (List.mem_append_left after member),
    styleNamesOfAll_marks source called wrapper _ fun mark member =>
      bare mark (List.mem_append_right before member)]
  simp

theorem Parenthesizes.outline (around : wrapper.Parenthesizes object)
    (literal : object.kind = "object") : wrapper.outline source = object.outline source := by
  simp [Node.outline, keyName?, NamingContext.name?.identifier?, Option.filter, around.kind,
    around.field, literal]

theorem Parenthesizes.holdsObject (around : wrapper.Parenthesizes object)
    (literal : object.kind = "object") : wrapper.holdsObject = object.holdsObject := by
  simp [Node.holdsObject, around.kind, literal]

variable {parent : Node} {index : Nat}

theorem Parenthesizes.parent_styleNames (around : wrapper.Parenthesizes object)
    (literal : object.kind = "object") (held : parent.children[index]? = some object)
    (called : Option String) :
    (parent.withChild index wrapper).styleNames source called =
      parent.styleNames source called := by
  rw [styleNames_eq, styleNames_eq, isStyle_withChild held (around.holdsObject literal),
    styleNamesOfAll_withChild held (around.outline literal) around.styleNames]

/-- Whether a node is a pair with the child at an index as its value. -/
structure IsPairOf (pair : Node) (index : Nat) : Prop where
  named : pair.named = true
  kind : pair.kind = "pair"
  value : pair.fieldIndex? "value" = some index

theorem IsPairOf.holdsObject (pair : parent.IsPairOf index)
    (held : parent.children[index]? = some object) :
    parent.holdsObject = (object.kind == "object") := by
  have value : parent.child? "value" = some object := by
    rw [child?_eq, pair.value]
    exact held
  simp [Node.holdsObject, pair.named, pair.kind, value]

/-- Parentheses change whether a parent holds an object only if it is a pair and has the object as its
value. -/
theorem Parenthesizes.parent_holdsObject (around : wrapper.Parenthesizes object)
    (held : parent.children[index]? = some object)
    (different : (parent.withChild index wrapper).holdsObject ≠ parent.holdsObject) :
    parent.IsPairOf index := by
  have value : parent.fieldIndex? "value" = some index := by
    by_contra elsewhere
    apply different
    rw [Node.holdsObject, Node.holdsObject, child?_withChild held around.field]
    simp only [elsewhere, ↓reduceIte]
    rfl
  have pair : (parent.named && parent.kind == "pair") = true := by
    by_contra other
    apply different
    have none : (parent.named && parent.kind == "pair") = false := Bool.not_eq_true _ ▸ other
    rw [Node.holdsObject, Node.holdsObject, none, Bool.false_and]
    exact congrArg (· && _) none
  rw [Bool.and_eq_true, beq_iff_eq] at pair
  exact ⟨pair.1, pair.2, value⟩

end Parenthesizes

end Node

/-! ### Objects without other objects -/

namespace Node

theorem isStyle_iff (node : Node) : node.isStyle = true ↔
    node.named = true ∧ node.kind = "object" ∧ node.children.countP holdsObject = 0 := by
  simp only [isStyle_eq, Bool.and_eq_true, beq_iff_eq, Bool.not_eq_true', List.any_eq_false,
    List.countP_eq_zero]

/-- Whether one pair of an object holds an object, and this is the child at an index of that pair. -/
structure HoldsOnly (outer pair : Node) (index : Nat) : Prop where
  named : outer.named = true
  literal : outer.kind = "object"
  count : outer.children.countP holdsObject = 1
  pair : pair.IsPairOf index

instance (outer pair : Node) (index : Nat) : Decidable (outer.HoldsOnly pair index) :=
  decidable_of_iff (outer.named = true ∧ outer.kind = "object" ∧
      outer.children.countP holdsObject = 1 ∧
      pair.named = true ∧ pair.kind = "pair" ∧ pair.fieldIndex? "value" = some index)
    ⟨fun ⟨named, literal, count, pair⟩ => ⟨named, literal, count, pair.1, pair.2.1, pair.2.2⟩,
      fun only => ⟨only.named, only.literal, only.count, only.pair.named, only.pair.kind,
        only.pair.value⟩⟩

section HoldsOnly

variable {outer pair object wrapper : Node} {place index : Nat}

/-- Once a pair holds its object in parentheses, one pair less of the outer object holds an object. -/
theorem Parenthesizes.countP_holdsObject (around : wrapper.Parenthesizes object)
    (literal : object.kind = "object") (member : outer.children[place]? = some pair)
    (held : pair.children[index]? = some object) (isPair : pair.IsPairOf index) :
    (outer.withChild place (pair.withChild index wrapper)).children.countP Node.holdsObject + 1 =
      outer.children.countP Node.holdsObject := by
  have holds : pair.holdsObject = true := by
    rw [isPair.holdsObject held, literal]
    rfl
  have still : (pair.withChild index wrapper).IsPairOf index :=
    ⟨isPair.named, isPair.kind, (fieldIndex?_withChild held around.field _).trans isPair.value⟩
  have within : (pair.withChild index wrapper).children[index]? = some wrapper := by
    rw [getElem?_withChild held]
    simp only [↓reduceIte]
  have holdsNone : (pair.withChild index wrapper).holdsObject = false := by
    rw [still.holdsObject within, around.kind]
    rfl
  obtain ⟨before, after, _, split, replaced⟩ := exists_split member
  rw [split, replaced, List.countP_append, List.countP_append, List.countP_cons_of_pos holds,
    List.countP_cons_of_neg (Bool.eq_false_iff.mp holdsNone), Nat.add_assoc]

/-- An object of which one pair alone holds an object becomes a style by parentheses there. -/
theorem HoldsOnly.isStyle_withChild (only : outer.HoldsOnly pair index)
    (around : wrapper.Parenthesizes object) (literal : object.kind = "object")
    (member : outer.children[place]? = some pair) (held : pair.children[index]? = some object) :
    outer.isStyle = false ∧
      (outer.withChild place (pair.withChild index wrapper)).isStyle = true := by
  have count := around.countP_holdsObject literal member held only.pair
  rw [only.count] at count
  constructor
  · by_contra style
    rw [Bool.not_eq_false, isStyle_iff, only.count] at style
    exact absurd style.2.2 Nat.one_ne_zero
  · rw [isStyle_iff]
    exact ⟨only.named, only.literal, Nat.succ.inj count⟩

/-- Parentheses change nothing else about whether an object is a style. -/
theorem Parenthesizes.holdsOnly (around : wrapper.Parenthesizes object)
    (literal : object.kind = "object") (member : outer.children[place]? = some pair)
    (held : pair.children[index]? = some object)
    (different : (outer.withChild place (pair.withChild index wrapper)).isStyle ≠ outer.isStyle) :
    outer.HoldsOnly pair index := by
  have isPair : pair.IsPairOf index := by
    apply around.parent_holdsObject held
    intro same
    exact different (Node.isStyle_withChild member same)
  have count := around.countP_holdsObject literal member held isPair
  have before : outer.isStyle = false := by
    by_contra style
    rw [Bool.not_eq_false, isStyle_iff] at style
    omega
  rw [before, ne_eq, Bool.not_eq_false, isStyle_iff] at different
  obtain ⟨named, outerLiteral, none⟩ := different
  rw [none] at count
  exact ⟨named, outerLiteral, count.symm, isPair⟩

end HoldsOnly

end Node

/-! ### The names of a file with parentheses -/

namespace Node

section Outer

variable {source : List Char} {outer pair object wrapper : Node} {place index : Nat}

theorem Parenthesizes.outer_resembles (around : wrapper.Parenthesizes object)
    (literal : object.kind = "object") (member : outer.children[place]? = some pair)
    (held : pair.children[index]? = some object) :
    (outer.withChild place (pair.withChild index wrapper)).Resembles source outer where
  outline := outline_withChild member (outline_withChild held (around.outline literal))
  literal := rfl
  holds := holdsObject_withChild member rfl rfl

theorem Parenthesizes.outer_styleNames (around : wrapper.Parenthesizes object)
    (literal : object.kind = "object") (member : outer.children[place]? = some pair)
    (held : pair.children[index]? = some object) (called : Option String) :
    (outer.withChild place (pair.withChild index wrapper)).styleNames source called =
      (if (outer.withChild place (pair.withChild index wrapper)).isStyle then called.toList
        else []) ++ styleNamesOfAll source called outer 0 outer.children := by
  rw [styleNames_eq, styleNamesOfAll_withChild member
    (outline_withChild held (around.outline literal)) (around.parent_styleNames literal held)]

end Outer

end Node

namespace Site

/-- The object of which one pair alone holds an object, namely this one. -/
def onlyHolder? (object : Site) : Option Site :=
  match object.above with
  | ⟨pair, index⟩ :: ⟨outer, _⟩ :: rest =>
    if outer.HoldsOnly pair index then some ⟨outer, rest⟩ else none
  | _ => none

section Replace

variable {root wrapper : Node} {object : Site}

theorem styleNames_replace (source : List Char) (listed : object ∈ root.sites)
    (literal : object.node.kind = "object") (around : wrapper.Parenthesizes object.node)
    (holder : object.onlyHolder? = none) :
    (object.replace wrapper).styleNames source none = styleNames source root.sites := by
  have leads := (mem_sites_iff root object).mp listed
  obtain ⟨node, above⟩ := object
  rcases above with _ | ⟨⟨pair, index⟩, _ | ⟨⟨outer, place⟩, rest⟩⟩
  · obtain rfl : node = root := leads
    rw [Node.sites, styleNames_sitesUnder]
    exact around.styleNames none
  · obtain ⟨held, top⟩ := leads
    obtain rfl : pair = root := top
    rw [Node.sites, styleNames_sitesUnder]
    exact around.parent_styleNames literal held none
  · obtain ⟨held, member, upward⟩ := leads
    have style : (outer.withChild place (pair.withChild index wrapper)).isStyle =
        outer.isStyle := by
      by_contra different
      simp [onlyHolder?, around.holdsOnly literal member held different] at holder
    apply styleNames_rebuild_eq upward (around.outer_resembles literal member held)
    intro called
    rw [around.outer_styleNames literal member held, style, ← Node.styleNames_eq]

theorem styleNames_replace_of_onlyHolder (source : List Char) (listed : object ∈ root.sites)
    (literal : object.node.kind = "object") (around : wrapper.Parenthesizes object.node)
    {outer : Site} (holder : object.onlyHolder? = some outer) :
    ∃ front back, root.sites = front ++ outer :: back ∧ outer.node.isStyle = false ∧
      (object.replace wrapper).styleNames source none = styleNames source front ++
        ((called? source outer.above).toList ++ styleNames source back) := by
  have leads := (mem_sites_iff root object).mp listed
  obtain ⟨node, above⟩ := object
  rcases above with _ | ⟨⟨pair, index⟩, _ | ⟨⟨outer, place⟩, rest⟩⟩
  · cases holder
  · cases holder
  · obtain ⟨only, same⟩ := Option.ite_none_right_eq_some.mp holder
    obtain rfl := Option.some.inj same
    obtain ⟨held, member, upward⟩ := leads
    obtain ⟨front, back, sites, names⟩ := styleNames_rebuild source upward
    obtain ⟨before, after⟩ := only.isStyle_withChild around literal member held
    refine ⟨front, Node.sitesOfAll rest outer 0 outer.children ++ back, ?_, before, ?_⟩
    · rw [sites, sitesUnder_eq ⟨outer, rest⟩, List.cons_append]
    · rw [replace, rebuild, rebuild, names _ (around.outer_resembles literal member held),
        around.outer_styleNames literal member held, after, styleNames_append,
        styleNames_sitesOfAll, if_pos rfl, List.append_assoc]

end Replace

end Site

/-- Parentheses around an object of a shared style file, which leave the rest of the text as it reads,
change no key, unless the object is the only one that the pairs of another object hold: in this case
that other object becomes a style too, in its place among the others. -/
theorem parentheses_around_object (source twin : Source) (object : Site) (wrapper : Node)
    (listed : object ∈ source.root.sites) (literal : object.node.kind = "object")
    (around : wrapper.Parenthesizes object.node)
    (alike : (object.replace wrapper).alike source.text.toList twin.text.toList twin.root = true) :
    ∃ sheet other,
      (extractSheets source .shared).result = .ok ⟨[sheet], Text.splitLines source.text⟩ ∧
      (extractSheets twin .shared).result = .ok ⟨[other], Text.splitLines twin.text⟩ ∧
      (object.onlyHolder? = none → other.keyNames = sheet.keyNames) ∧
      ∀ outer, object.onlyHolder? = some outer → ∃ front back,
        source.root.sites = front ++ outer :: back ∧
        sheet.keyNames = (Site.styleNames source.text.toList (front ++ back)).eraseDups ∧
        other.keyNames = (Site.styleNames source.text.toList front ++
          ((sharedKey? source.text.toList outer).map (·.name)).toList ++
          Site.styleNames source.text.toList back).eraseDups := by
  obtain ⟨sheet, extracted, names⟩ := source.exists_shared_sheet
  obtain ⟨other, twinExtracted, twinNames⟩ := twin.exists_shared_sheet
  have same : Site.styleNames twin.text.toList twin.root.sites =
      (object.replace wrapper).styleNames source.text.toList none := by
    rw [Node.sites, Site.styleNames_sitesUnder]
    exact Node.styleNames_of_alike _ _ alike none
  rw [same] at twinNames
  refine ⟨sheet, other, extracted, twinExtracted, ?_, ?_⟩
  · intro holder
    rw [names, twinNames, Site.styleNames_replace _ listed literal around holder]
  · intro outer holder
    obtain ⟨front, back, sites, plain, freed⟩ :=
      Site.styleNames_replace_of_onlyHolder source.text.toList listed literal around holder
    refine ⟨front, back, sites, ?_, ?_⟩
    · rw [names, sites, Site.styleNames_append, Site.styleNames_cons, plain, Site.styleNames_append]
      rfl
    · rw [twinNames, freed, Site.sharedKey?_name, List.append_assoc]

namespace Sample

/-- A node in parentheses of which the reader leaves no marks. -/
def inParentheses (object : Node) : Node where
  kind := "parenthesized_expression"
  named := true
  erroneous := false
  missing := false
  field := object.field
  start := object.start
  stop := object.stop
  children := [{ object with field := none }]

theorem inParentheses_parenthesizes (object : Node) :
    (inParentheses object).Parenthesizes object where
  kind := rfl
  field := rfl
  holds := ⟨[], [], none, rfl, fun _ absent => absurd absent List.not_mem_nil⟩

/-- A shared style file with two objects in an object. -/
def twoInner : Source :=
  sourceOf "theme.js" "const g = { a: {}, b: {} };"

/-- The same file with parentheses around the first of them. -/
def twoInnerParenthesized : Source :=
  sourceOf "theme.js" "const g = { a: ({}), b: {} };"

/-- A shared style file with a single object in an object. -/
def oneInner : Source :=
  sourceOf "theme.js" "const theme = { a: { x: 1 } };"

/-- The same file with parentheses around it. -/
def oneInnerParenthesized : Source :=
  sourceOf "theme.js" "const theme = { a: ({ x: 1 }) };"

/-- The second object literal of a source, in pre-order. -/
def secondObject? (source : Source) : Option Site :=
  (source.root.sites.filter (·.node.kind == "object"))[1]?

/-- Whether a source reads as another one whose second object stands in parentheses. -/
def readsParenthesized (source twin : Source) : Bool :=
  (secondObject? source).any fun object =>
    (object.replace (inParentheses object.node)).alike source.text.toList twin.text.toList twin.root

/-- The key names of a source as a shared style file. -/
def sharedKeyNames (source : Source) : Option (List (List String)) :=
  (extractSheets source .shared).result.toOption.map fun extraction =>
    extraction.sheets.map (·.keyNames)

theorem exists_of_readsParenthesized {source twin : Source}
    (reads : readsParenthesized source twin = true) :
    ∃ object, secondObject? source = some object ∧ object ∈ source.root.sites ∧
      object.node.kind = "object" ∧
      (object.replace (inParentheses object.node)).alike source.text.toList twin.text.toList
        twin.root = true := by
  obtain ⟨object, found, alike⟩ := (Option.any_eq_true _ _).mp reads
  obtain ⟨listed, literal⟩ := List.mem_filter.mp (List.mem_of_getElem? found)
  exact ⟨object, found, listed, beq_iff_eq.mp literal, alike⟩

theorem twoInner_reads : readsParenthesized twoInner twoInnerParenthesized = true ∧
    (secondObject? twoInner).all (·.onlyHolder?.isNone) = true ∧
    sharedKeyNames twoInnerParenthesized = some [["a", "b"]] := by
  decide +kernel

theorem oneInner_reads : readsParenthesized oneInner oneInnerParenthesized = true ∧
    (secondObject? oneInner).all (·.onlyHolder?.isSome) = true ∧
    sharedKeyNames oneInner = some [["a"]] ∧
    sharedKeyNames oneInnerParenthesized = some [["theme", "a"]] := by
  decide +kernel

end Sample

/-- In the first file the object is one of two, and the keys stay. In the second one it is the only
one, and the object around it gives its name too. -/
theorem sample_parentheses :
    (∃ object ∈ Sample.twoInner.root.sites, object.node.kind = "object" ∧
      (Sample.inParentheses object.node).Parenthesizes object.node ∧
      (object.replace (Sample.inParentheses object.node)).alike Sample.twoInner.text.toList
        Sample.twoInnerParenthesized.text.toList Sample.twoInnerParenthesized.root = true ∧
      object.onlyHolder? = none ∧ Sample.sharedKeyNames Sample.twoInner = some [["a", "b"]]) ∧
    ∃ object ∈ Sample.oneInner.root.sites, object.node.kind = "object" ∧
      (Sample.inParentheses object.node).Parenthesizes object.node ∧
      (object.replace (Sample.inParentheses object.node)).alike Sample.oneInner.text.toList
        Sample.oneInnerParenthesized.text.toList Sample.oneInnerParenthesized.root = true ∧
      ∃ outer front back, object.onlyHolder? = some outer ∧
        Sample.oneInner.root.sites = front ++ outer :: back ∧
        (Site.styleNames Sample.oneInner.text.toList (front ++ back)).eraseDups = ["a"] ∧
        (Site.styleNames Sample.oneInner.text.toList front ++
          ((sharedKey? Sample.oneInner.text.toList outer).map (·.name)).toList ++
          Site.styleNames Sample.oneInner.text.toList back).eraseDups = ["theme", "a"] := by
  obtain ⟨twoRead, twoHolder, twoNames⟩ := Sample.twoInner_reads
  obtain ⟨oneRead, oneHolder, oneNames, oneTwinNames⟩ := Sample.oneInner_reads
  constructor
  · obtain ⟨object, found, listed, literal, alike⟩ := Sample.exists_of_readsParenthesized twoRead
    obtain ⟨sheet, other, extracted, twinExtracted, kept, _⟩ := parentheses_around_object
      Sample.twoInner Sample.twoInnerParenthesized object (Sample.inParentheses object.node) listed
      literal (Sample.inParentheses_parenthesizes object.node) alike
    rw [found, Option.all_some, Option.isNone_iff_eq_none] at twoHolder
    refine ⟨object, listed, literal, Sample.inParentheses_parenthesizes object.node, alike,
      twoHolder, ?_⟩
    rw [← twoNames, Sample.sharedKeyNames, Sample.sharedKeyNames, extracted, twinExtracted]
    simp only [Except.toOption, Option.map_some, List.map_cons, List.map_nil, kept twoHolder]
  · obtain ⟨object, found, listed, literal, alike⟩ := Sample.exists_of_readsParenthesized oneRead
    obtain ⟨sheet, other, extracted, twinExtracted, _, freed⟩ := parentheses_around_object
      Sample.oneInner Sample.oneInnerParenthesized object (Sample.inParentheses object.node) listed
      literal (Sample.inParentheses_parenthesizes object.node) alike
    rw [found, Option.all_some, Option.isSome_iff_exists] at oneHolder
    obtain ⟨outer, holder⟩ := oneHolder
    obtain ⟨front, back, sites, names, twinNames⟩ := freed outer holder
    rw [Sample.sharedKeyNames, extracted] at oneNames
    rw [Sample.sharedKeyNames, twinExtracted] at oneTwinNames
    simp only [Except.toOption, Option.map_some, List.map_cons, List.map_nil, Option.some.injEq,
      List.cons.injEq, and_true] at oneNames oneTwinNames
    refine ⟨object, listed, literal, Sample.inParentheses_parenthesizes object.node, alike, outer,
      front, back, holder, sites, ?_, ?_⟩
    · rw [← names, oneNames]
    · rw [← twinNames, oneTwinNames]

/-- Parentheses around the value of a pair can add a key. -/
theorem parentheses_add_key :
    ∃ object ∈ Sample.oneInner.root.sites, object.node.kind = "object" ∧
      (Sample.inParentheses object.node).Parenthesizes object.node ∧
      (object.replace (Sample.inParentheses object.node)).alike Sample.oneInner.text.toList
        Sample.oneInnerParenthesized.text.toList Sample.oneInnerParenthesized.root = true ∧
      Sample.sharedKeyNames Sample.oneInner = some [["a"]] ∧
      Sample.sharedKeyNames Sample.oneInnerParenthesized = some [["theme", "a"]] := by
  obtain ⟨reads, _, names, twinNames⟩ := Sample.oneInner_reads
  obtain ⟨object, _, listed, literal, alike⟩ := Sample.exists_of_readsParenthesized reads
  exact ⟨object, listed, literal, Sample.inParentheses_parenthesizes object.node, alike, names,
    twinNames⟩

end StyleAudit
