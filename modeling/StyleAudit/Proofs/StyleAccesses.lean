import StyleAudit.Proofs.Location
import StyleAudit.Proofs.References
import StyleAudit.Proofs.Sites
import StyleAudit.Script.Program

/-!
The references that a group of files makes.

A file refers to a style at each member access on an accepted name, unless the access is, or begins,
the name of an element. Every reference lies within the lines that are recorded of its file.
-/

set_option autoImplicit false

namespace StyleAudit

/-! ### Style accesses -/

/-- Whether a site reads a style: it is a member access on one of the given names, and around it the
nearest thing that is no member access is no element, of which it would be the name. -/
structure Site.ReadsStyle (stylesNames : List String) (source : List Char) (site : Site) :
    Prop where
  named : site.node.named = true
  kind : site.node.kind = "member_expression"
  object : ∃ object, site.node.child? "object" = some object ∧ object.kind = "identifier" ∧
    object.text source ∈ stylesNames
  property : ∃ property, site.node.child? "property" = some property ∧
    property.kind = "property_identifier"
  unlessName : ∀ step, site.outside? "member_expression" = some step →
    step.parent.kind ∉
      ["jsx_opening_element", "jsx_closing_element", "jsx_self_closing_element"]

namespace Site

theorem namesElement_eq_false_iff (site : Site) :
    site.namesElement = false ↔ ∀ step, site.outside? "member_expression" = some step →
      step.parent.kind ∉
        ["jsx_opening_element", "jsx_closing_element", "jsx_self_closing_element"] := by
  rw [outside?, ← climb_head?, namesElement]
  cases climb "member_expression" site.above with
  | nil => simp
  | cons step rest => simp

theorem isStylesAccess_iff (stylesNames : List String) (source : List Char) (site : Site) :
    (site.isStylesAccess stylesNames source && site.node.named) = true ↔
      site.ReadsStyle stylesNames source := by
  simp only [isStylesAccess, Bool.and_eq_true, beq_iff_eq, Bool.not_eq_true',
    namesElement_eq_false_iff, Option.any_eq_true, Node.isIdentifierIn, List.contains_iff_mem]
  constructor
  · rintro ⟨⟨⟨⟨kind, unlessName⟩, object⟩, property⟩, named⟩
    exact ⟨named, kind, object, property, unlessName⟩
  · rintro ⟨named, kind, object, property, unlessName⟩
    exact ⟨⟨⟨⟨kind, unlessName⟩, object⟩, property⟩, named⟩

instance (stylesNames : List String) (source : List Char) (site : Site) :
    Decidable (site.ReadsStyle stylesNames source) :=
  decidable_of_iff _ (isStylesAccess_iff stylesNames source site)

end Site

namespace Source

/-- The sites of a source that read a style, in pre-order. -/
def accesses (stylesNames : List String) (source : Source) : List Site :=
  source.root.sites.filter (Site.ReadsStyle stylesNames source.text.toList)

/-- Whether a reference records an access: the property read, in this file, at the access. -/
structure Records (source : Source) (access : Site) (reference : Reference) : Prop where
  file : reference.file = source.path
  key : ∃ property, access.node.child? "property" = some property ∧
    reference.key = property.text source.text.toList
  span : reference.span = access.node.span .characters source.text.toList

theorem accesses_eq (stylesNames : List String) (source : Source) :
    stylesAccesses stylesNames source.text.toList source.root = source.accesses stylesNames := by
  rw [stylesAccesses, Node.namedSites_eq, List.filter_filter, accesses]
  apply List.filter_congr
  intro site _
  rw [Bool.eq_iff_iff, Site.isStylesAccess_iff, decide_eq_true_eq]

theorem references_records (stylesNames : List String) (source : Source) :
    List.Forall₂ source.Records (source.accesses stylesNames)
      (source.references stylesNames) := by
  rw [references, referencesIn, accesses_eq, List.forall₂_map_right_iff, List.forall₂_same]
  intro access member
  have reads := of_decide_eq_true (List.mem_filter.mp member).2
  obtain ⟨property, held, _⟩ := reads.property
  refine ⟨rfl, ⟨property, held, ?_⟩, rfl⟩
  simp only [referenceAt, held, Option.map_some, Option.getD_some]

end Source

/-! ### Collections -/

/-- Sources that are all there are collected. -/
theorem collectReferences_ok (stylesNames : List String) (sources : List Source) :
    collectReferences stylesNames (sources.map .ok) = .ok (.ofSources stylesNames sources) := by
  have read : sources.mapM (Except.ok : Source → Except Failure Source) = .ok (sources.map id) :=
    mapM_eq_ok_of_forall _ id sources fun _ _ => rfl
  rw [collectReferences_map, read, List.map_id]
  rfl

/-- A reference in a tree whose nodes lie between characters spans lines of its file. -/
theorem Source.references_within {stylesNames : List String} {source : Source}
    (placed : ∀ site ∈ source.root.sites, site.node.LiesIn source.text) {reference : Reference}
    (member : reference ∈ source.references stylesNames) :
    1 ≤ reference.span.start.line ∧ reference.span.start.line ≤ reference.span.stop.line ∧
      reference.span.stop.line ≤ source.lines.length := by
  obtain ⟨access, found, rfl⟩ := List.mem_map.mp member
  rw [Source.accesses_eq] at found
  have lies := placed access (List.mem_filter.mp found).1
  obtain ⟨front, piece, back, text, start, stop⟩ := lies.exists_parts
  have located := spanBetween_locates front piece back
  rw [← text, ← start, ← stop] at located
  exact ⟨located.first, located.ordered, located.last⟩

/-- A collection has one reference for each access of the given files, file by file and within a
file in pre-order, and the lines of exactly these files, among which those of every reference are. -/
theorem collected_references_exact (stylesNames : List String) (sources : List Source)
    (apart : (sources.map (·.path)).Nodup)
    (placed : ∀ source ∈ sources, ∀ site ∈ source.root.sites, site.node.LiesIn source.text) :
    ∃ collection, collectReferences stylesNames (sources.map .ok) = .ok collection ∧
      List.Forall₂ (fun visited reference => visited.1.Records visited.2 reference)
        (sources.flatMap fun source => (source.accesses stylesNames).map (source, ·))
        collection.references ∧
      collection.files = sources.map (fun source =>
        (source.path, (source.text.toList.splitOn '\n').map String.ofList)) ∧
      ∀ reference ∈ collection.references, ∃ lines,
        collection.lines? reference.file = some lines ∧
        1 ≤ reference.span.start.line ∧ reference.span.start.line ≤ reference.span.stop.line ∧
        reference.span.stop.line ≤ lines.length := by
  refine ⟨_, collectReferences_ok stylesNames sources, ?_, ?_, ?_⟩
  · rw [ReferenceCollection.ofSources_references]
    have same : List.Forall₂ Eq sources sources := List.forall₂_refl sources
    apply List.rel_flatMap same
    rintro source _ rfl
    rw [List.forall₂_map_left_iff]
    exact source.references_records stylesNames
  · rw [ReferenceCollection.ofSources_files stylesNames apart]
    simp only [Source.lines, Text.splitLines_eq_splitOn]
  · intro reference member
    rw [ReferenceCollection.ofSources_references] at member
    obtain ⟨source, visited, listed⟩ := List.mem_flatMap.mp member
    refine ⟨source.lines, ?_, Source.references_within (placed source visited) listed⟩
    rw [Source.references_file listed]
    exact ReferenceCollection.ofSources_lines? stylesNames apart visited

namespace Sample

/-- A file that reads a style inside an element, whose name looks like an access too. -/
def badge : Source :=
  ⟨"Badge.js", "<s.A.B x={s.é.b}/>;", (Script.readScript .plain "<s.A.B x={s.é.b}/>;").root⟩

/-- A file that reads two styles. -/
def menu : Source :=
  ⟨"Menu.js", "s.x;\ns.y;", (Script.readScript .plain "s.x;\ns.y;").root⟩

theorem liesIn_of_isValid {text : String} {node : Node}
    (valid : (String.Pos.Raw.isValid text ⟨node.start⟩ && String.Pos.Raw.isValid text ⟨node.stop⟩ &&
      decide (node.start ≤ node.stop)) = true) : node.LiesIn text := by
  simp only [Bool.and_eq_true, String.Pos.Raw.isValid_eq_true_iff, decide_eq_true_eq] at valid
  exact ⟨valid.1.1, valid.1.2, valid.2⟩

theorem badge_menu_placed : ∀ source ∈ [badge, menu], ∀ site ∈ source.root.sites,
    site.node.LiesIn source.text := by
  have valid : ∀ source ∈ [badge, menu], ∀ site ∈ source.root.sites,
      (String.Pos.Raw.isValid source.text ⟨site.node.start⟩ &&
        String.Pos.Raw.isValid source.text ⟨site.node.stop⟩ &&
        decide (site.node.start ≤ site.node.stop)) = true := by
    decide +kernel
  intro source visited site listed
  exact liesIn_of_isValid (valid source visited site listed)

end Sample

/-- Inside the element one style is read; its name counts for none. -/
theorem sample_collected_references :
    ([Sample.badge, Sample.menu].map (·.path)).Nodup ∧
    (∀ source ∈ [Sample.badge, Sample.menu], ∀ site ∈ source.root.sites,
      site.node.LiesIn source.text) ∧
    ∃ collection,
      collectReferences ["s"] ([Sample.badge, Sample.menu].map .ok) = .ok collection ∧
      collection.keys = ["é", "x", "y"] ∧
      List.Forall₂ (fun visited reference => visited.1.Records visited.2 reference)
        ([Sample.badge, Sample.menu].flatMap fun source =>
          (source.accesses ["s"]).map (source, ·)) collection.references ∧
      collection.files = [("Badge.js", ["<s.A.B x={s.é.b}/>;"]), ("Menu.js", ["s.x;", "s.y;"])] ∧
      ∀ reference ∈ collection.references, ∃ lines,
        collection.lines? reference.file = some lines ∧
        1 ≤ reference.span.start.line ∧ reference.span.start.line ≤ reference.span.stop.line ∧
        reference.span.stop.line ≤ lines.length := by
  have apart : ([Sample.badge, Sample.menu].map (·.path)).Nodup := by decide
  obtain ⟨collection, collected, records, files, within⟩ := collected_references_exact ["s"]
    [Sample.badge, Sample.menu] apart Sample.badge_menu_placed
  have keys : (collectReferences ["s"] ([Sample.badge, Sample.menu].map .ok)).toOption.map
      ReferenceCollection.keys = some ["é", "x", "y"] := by
    decide +kernel
  rw [collected] at keys
  refine ⟨apart, Sample.badge_menu_placed, collection, collected, Option.some.inj keys, records,
    ?_, within⟩
  rw [files]
  decide +kernel

end StyleAudit
