import StyleAudit.Proofs.Extraction
import StyleAudit.Proofs.Sites

/-!
The styles of a shared style file.

Every flat object literal is a style. What surrounds it outside of parentheses names it, or leaves it
anonymous; the named ones make up the one sheet of the file, and each anonymous one is noted.
-/

set_option autoImplicit false

namespace StyleAudit

/-! ### Flat objects -/

namespace Node

/-- Whether a node is an object literal of which no pair holds another object literal. -/
def IsFlat (node : Node) : Prop :=
  node.kind = "object" ∧ ∀ member ∈ node.children, member.named = true → member.kind = "pair" →
    ∀ value, member.child? "value" = some value → value.kind ≠ "object"

theorem isLeafObject_iff (node : Node) : node.isLeafObject = true ↔ node.IsFlat := by
  simp only [isLeafObject, namedChildren, Bool.and_eq_true, beq_iff_eq, List.all_eq_true,
    List.mem_filter, Bool.or_eq_true, bne_iff_ne, Option.all_eq_true, IsFlat]
  constructor
  · rintro ⟨object, flat⟩
    refine ⟨object, fun member inside named pair value held => ?_⟩
    rcases flat member ⟨inside, named⟩ with other | flatValue
    · exact absurd pair other
    · exact flatValue value held
  · rintro ⟨object, flat⟩
    refine ⟨object, fun member inside => ?_⟩
    by_cases pair : member.kind = "pair"
    · exact Or.inr (flat member inside.1 inside.2 pair)
    · exact Or.inl pair

instance (node : Node) : Decidable node.IsFlat :=
  decidable_of_iff _ node.isLeafObject_iff

/-! ### Names -/

/-- How a parent names what its child of an index holds: the name, and the node that stands for
it. -/
inductive Names (source : List Char) (parent : Node) (index : Nat) : String → Node → Prop
  | property {key : Node} {name : String} (kind : parent.kind = "pair")
      (value : parent.fieldIndex? "value" = some index) (held : parent.child? "key" = some key)
      (static : key.keyName? source = some name) : Names source parent index name parent
  | classField {key : Node} {name : String}
      (kind : parent.kind = "field_definition" ∨ parent.kind = "public_field_definition")
      (value : parent.fieldIndex? "value" = some index)
      (held : parent.child? "property" = some key ∨
        parent.child? "property" = none ∧ parent.child? "name" = some key)
      (static : key.keyName? source = some name) : Names source parent index name parent
  | declarator {identifier : Node} (kind : parent.kind = "variable_declarator")
      (held : parent.child? "name" = some identifier) (plain : identifier.kind = "identifier") :
      Names source parent index (identifier.text source) parent
  | assignment {left object : Node} (kind : parent.kind = "assignment_expression")
      (held : parent.child? "left" = some left) (member : left.kind = "member_expression")
      (ofObject : left.child? "object" = some object) (plain : object.kind = "identifier") :
      Names source parent index (object.text source) left

end Node

theorem NamingContext.identifier?_eq_some_iff (source : List Char) (node : Option Node)
    (name : String) :
    name?.identifier? source node = some name ↔
      ∃ identifier, node = some identifier ∧ identifier.kind = "identifier" ∧
        identifier.text source = name := by
  cases node with
  | none => simp [name?.identifier?]
  | some identifier =>
      by_cases plain : identifier.kind = "identifier"
      · simp [name?.identifier?, plain]
      · simp [name?.identifier?, plain]

namespace Node

theorem Names.exists_context {source : List Char} {parent : Node} {index : Nat} {name : String}
    {anchor : Node} (names : parent.Names source index name anchor) :
    ∃ context, parent.namingContext? index = some context ∧ context.anchor = anchor ∧
      context.name? source = some name := by
  cases names with
  | property kind value held static =>
      refine ⟨⟨.property, parent⟩, ?_, rfl, ?_⟩
      · simp [namingContext?, kind, value]
      · simp [NamingContext.name?, held, static]
  | classField kind value held static =>
      refine ⟨⟨.classField, parent⟩, ?_, rfl, ?_⟩
      · rcases kind with kind | kind
        · simp [namingContext?, kind, value]
        · simp [namingContext?, kind, value]
      · rcases held with held | ⟨absent, held⟩
        · simp [NamingContext.name?, held, static]
        · simp [NamingContext.name?, absent, held, static]
  | declarator kind held plain =>
      refine ⟨⟨.declarator, parent⟩, ?_, rfl, ?_⟩
      · simp [namingContext?, kind]
      · exact (NamingContext.identifier?_eq_some_iff source _ _).mpr ⟨_, held, plain, rfl⟩
  | assignment kind held member ofObject plain =>
      refine ⟨⟨.assignment, anchor⟩, ?_, rfl, ?_⟩
      · simp [namingContext?, kind, held, member]
      · exact (NamingContext.identifier?_eq_some_iff source _ _).mpr ⟨_, ofObject, plain, rfl⟩

theorem Names.of_context {source : List Char} {parent : Node} {index : Nat} {name : String}
    {context : NamingContext} (found : parent.namingContext? index = some context)
    (named : context.name? source = some name) :
    parent.Names source index name context.anchor := by
  unfold namingContext? at found
  dsimp only at found
  split at found
  · rename_i held
    cases found
    obtain ⟨key, ofPair, static⟩ := Option.bind_eq_some_iff.mp named
    exact .property held.1 (beq_iff_eq.mp held.2) ofPair static
  split at found
  · rename_i held
    cases found
    obtain ⟨key, ofField, static⟩ := Option.bind_eq_some_iff.mp named
    exact .classField held.1 (beq_iff_eq.mp held.2) (Option.or_eq_some_iff.mp ofField) static
  split at found
  · rename_i kind
    cases found
    obtain ⟨identifier, held, plain, rfl⟩ :=
      (NamingContext.identifier?_eq_some_iff source _ name).mp named
    exact .declarator kind held plain
  split at found
  · rename_i kind
    obtain ⟨left, kept, rfl⟩ := Option.map_eq_some_iff.mp found
    obtain ⟨held, member⟩ := Option.filter_eq_some_iff.mp kept
    obtain ⟨object, ofObject, plain, rfl⟩ :=
      (NamingContext.identifier?_eq_some_iff source _ name).mp named
    exact .assignment kind held (beq_iff_eq.mp member) ofObject plain
  · cases found

end Node

/-! ### Styles -/

/-- Whether an object is called by a name at a node: by the nearest node around it that is no
parenthesis. -/
def Site.IsCalled (source : List Char) (object : Site) (name : String) (anchor : Node) : Prop :=
  ∃ step, object.outside? "parenthesized_expression" = some step ∧
    step.parent.Names source step.index name anchor

/-- Whether nothing names an object. -/
def Site.IsAnonymous (source : List Char) (object : Site) : Prop :=
  ¬ ∃ name anchor, object.IsCalled source name anchor

theorem Site.namingContext?_eq (object : Site) :
    object.namingContext? = (object.outside? "parenthesized_expression").bind fun step =>
      step.parent.namingContext? step.index := by
  rw [outside?, ← climb_head?, namingContext?]
  cases climb "parenthesized_expression" object.above <;> rfl

theorem sharedKey?_eq_some_iff (source : List Char) (object : Site) (key : KeyDeclaration) :
    sharedKey? source object = some key ↔
      ∃ anchor, object.IsCalled source key.name anchor ∧
        key.span = anchor.span .characters source := by
  simp only [sharedKey?, Site.namingContext?_eq, Option.bind_eq_some_iff, Option.map_eq_some_iff]
  constructor
  · rintro ⟨context, ⟨step, outside, found⟩, name, named, rfl⟩
    exact ⟨context.anchor, ⟨step, outside, .of_context found named⟩, rfl⟩
  · rintro ⟨anchor, ⟨step, outside, names⟩, span⟩
    obtain ⟨context, found, rfl, named⟩ := names.exists_context
    refine ⟨context, ⟨step, outside, found⟩, key.name, named, ?_⟩
    rw [← span]

theorem Site.isAnonymous_iff (source : List Char) (object : Site) :
    (sharedKey? source object).isNone = true ↔ object.IsAnonymous source := by
  rw [Option.isNone_iff_eq_none, Option.eq_none_iff_forall_ne_some]
  constructor
  · rintro none ⟨name, anchor, called⟩
    exact none ⟨name, anchor.span .characters source⟩
      ((sharedKey?_eq_some_iff source object _).mpr ⟨anchor, called, rfl⟩)
  · intro anonymous key found
    obtain ⟨anchor, called, _⟩ := (sharedKey?_eq_some_iff source object key).mp found
    exact anonymous ⟨key.name, anchor, called⟩

instance (source : List Char) (object : Site) : Decidable (object.IsAnonymous source) :=
  decidable_of_iff _ (object.isAnonymous_iff source)

namespace Source

/-- The flat objects of a source, in pre-order. -/
def flatObjects (source : Source) : List Site :=
  source.root.sites.filter fun site => site.node.named ∧ site.node.IsFlat

/-- Whether a key stands for an object: by the name and at the node by which it is called. -/
def Styles (source : Source) (object : Site) (key : KeyDeclaration) : Prop :=
  ∃ anchor, object.IsCalled source.text.toList key.name anchor ∧
    key.span = anchor.span .characters source.text.toList

/-- What is noted about an anonymous object. -/
def anonymousNotice (source : Source) (object : Site) : Notice :=
  .anonymousObject source.path (object.node.span .characters source.text.toList).start.line

theorem leafObjects_eq (source : Source) : leafObjects source.root = source.flatObjects := by
  rw [leafObjects, Node.namedSites_eq, List.filter_filter, flatObjects]
  apply List.filter_congr
  intro site _
  rw [Bool.eq_iff_iff, Bool.and_eq_true, decide_eq_true_eq, Node.isLeafObject_iff, and_comm]

/-- The keys of objects are those of the named ones among them, one each, in order. -/
theorem filterMap_sharedKey?_styles (source : Source) (objects : List Site) :
    List.Forall₂ source.Styles
      (objects.filter fun object => ¬ object.IsAnonymous source.text.toList)
      (objects.filterMap (sharedKey? source.text.toList)) := by
  induction objects with
  | nil => exact .nil
  | cons object rest ih =>
      have anonymous := object.isAnonymous_iff source.text.toList
      cases found : sharedKey? source.text.toList object with
      | none =>
          rw [found] at anonymous
          rw [List.filterMap_cons_none found,
            List.filter_cons_of_neg (by simp [← anonymous])]
          exact ih
      | some key =>
          rw [found] at anonymous
          rw [List.filterMap_cons_some found,
            List.filter_cons_of_pos (by simp [← anonymous])]
          exact .cons ((sharedKey?_eq_some_iff _ object key).mp found) ih

theorem sharedSheet_eq (source : Source) :
    sharedSheet source.path source.text.toList source.root =
      ⟨(source.flatObjects.filter (Site.IsAnonymous source.text.toList)).map
          source.anonymousNotice ++
        if source.flatObjects.filterMap (sharedKey? source.text.toList) = []
        then [.noFlatObjects source.path] else [],
      .ok (.ofDeclarations sharedSheetName none
        (source.flatObjects.filterMap (sharedKey? source.text.toList)))⟩ := by
  have anonymous : (source.flatObjects.filter fun object =>
      (sharedKey? source.text.toList object).isNone) =
        source.flatObjects.filter (Site.IsAnonymous source.text.toList) := by
    apply List.filter_congr
    intro object _
    rw [Bool.eq_iff_iff, Site.isAnonymous_iff, decide_eq_true_eq]
  have notices : ((leafObjects source.root).filter fun object =>
      (sharedKey? source.text.toList object).isNone).map (fun object =>
        Notice.anonymousObject source.path (object.node.line source.text.toList)) =
      (source.flatObjects.filter (Site.IsAnonymous source.text.toList)).map
        source.anonymousNotice := by
    rw [leafObjects_eq, anonymous]
    apply List.map_congr_left
    intro object _
    rw [Node.line_eq]
    rfl
  simp only [sharedSheet, notices]
  rw [leafObjects_eq]
  by_cases empty : source.flatObjects.filterMap (sharedKey? source.text.toList) = []
  · simp only [empty, List.isEmpty_nil, ↓reduceIte]
    rfl
  · have filled : (source.flatObjects.filterMap
        (sharedKey? source.text.toList)).isEmpty = false := by
      rw [List.isEmpty_eq_false_iff]
      exact empty
    simp only [empty, filled, Bool.false_eq_true, ↓reduceIte]
    rfl

/-- A shared style file is one sheet without a place, named the same for every file. Its keys are the
named ones among the flat objects; each of the others is noted, and so is a file without keys. -/
theorem shared_extraction_exact (source : Source) :
    ∃ sheet declarations,
      List.Forall₂ source.Styles
        (source.flatObjects.filter fun object => ¬ object.IsAnonymous source.text.toList)
        declarations ∧
      sheet.identifier = "global" ∧ sheet.span = none ∧ sheet.Merges declarations ∧
      extractSheets source .shared =
        ⟨(source.flatObjects.filter (Site.IsAnonymous source.text.toList)).map
            source.anonymousNotice ++
          if sheet.keys = [] then [.noFlatObjects source.path] else [],
        .ok ⟨[sheet], Text.splitLines source.text⟩⟩ := by
  have merges := Sheet.ofDeclarations_merges sharedSheetName none
    (source.flatObjects.filterMap (sharedKey? source.text.toList))
  refine ⟨.ofDeclarations sharedSheetName none
      (source.flatObjects.filterMap (sharedKey? source.text.toList)), _,
    source.filterMap_sharedKey?_styles source.flatObjects,
    Sheet.ofDeclarations_identifier _ _ _, Sheet.ofDeclarations_span _ _ _, merges, ?_⟩
  simp only [extractSheets, sharedSheet_eq, merges.keys_eq_nil_iff]
  show Audit.mk ((_ ++ []) ++ []) _ = _
  rw [List.append_nil, List.append_nil]
  rfl

end Source

end StyleAudit
