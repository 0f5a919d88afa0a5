import StyleAudit.Proofs.Audit
import StyleAudit.Proofs.Keyed
import StyleAudit.Proofs.Position
import StyleAudit.References

/-!
What a collection of references holds.

Files are visited one after the other, and each visit adds the references of its file behind those
of the files before. As long as the paths differ, the lines of every visited file stay known, so
every reference lies in a file whose lines are known.
-/

set_option autoImplicit false

namespace StyleAudit

/-- The references of a source, in pre-order. -/
def Source.references (stylesNames : List String) (source : Source) : List Reference :=
  referencesIn source.path stylesNames source.text.toList source.root

/-- The lines of a source. -/
def Source.lines (source : Source) : List String :=
  Text.splitLines source.text

theorem Source.references_file {stylesNames : List String} {source : Source}
    {reference : Reference} (member : reference ∈ source.references stylesNames) :
    reference.file = source.path := by
  obtain ⟨access, _, rfl⟩ := List.mem_map.mp member
  rfl

theorem Source.references_onLines {stylesNames : List String} {source : Source}
    {reference : Reference} (member : reference ∈ source.references stylesNames) :
    reference.span.OnLines := by
  obtain ⟨access, _, rfl⟩ := List.mem_map.mp member
  exact spanBetween_onLines _ _ _ _

/-- Only which names are accepted matters, not their order or repetition. -/
theorem isStylesAccess_congr {names others : List String}
    (same : ∀ name, name ∈ names ↔ name ∈ others) (source : List Char) :
    Site.isStylesAccess names source = Site.isStylesAccess others source := by
  have accepted : Node.isIdentifierIn source names = Node.isIdentifierIn source others := by
    funext node
    have contained : names.contains (node.text source) = others.contains (node.text source) := by
      rw [Bool.eq_iff_iff, List.contains_iff_mem, List.contains_iff_mem]
      exact same _
    simp only [Node.isIdentifierIn, contained]
  funext site
  simp only [Site.isStylesAccess, accepted]

theorem Source.references_congr {names others : List String}
    (same : ∀ name, name ∈ names ↔ name ∈ others) (source : Source) :
    source.references names = source.references others := by
  simp only [Source.references, referencesIn, stylesAccesses, isStylesAccess_congr same]

namespace ReferenceCollection

/-- What is collected when sources are visited in the given order. -/
def ofSources (stylesNames : List String) (sources : List Source) : ReferenceCollection :=
  sources.foldl (fun collection source => collection.visit stylesNames source) .empty

theorem visit_lines?_self (collection : ReferenceCollection) (stylesNames : List String)
    (source : Source) :
    (collection.visit stylesNames source).lines? source.path = some source.lines :=
  Keyed.lookup_put_self _ _ _

theorem visit_lines?_other (collection : ReferenceCollection) (stylesNames : List String)
    (source : Source) {path : String} (different : path ≠ source.path) :
    (collection.visit stylesNames source).lines? path = collection.lines? path :=
  Keyed.lookup_put_other different _ _

theorem foldl_visit_references (stylesNames : List String) (sources : List Source)
    (collection : ReferenceCollection) :
    (sources.foldl (fun collection source => collection.visit stylesNames source)
      collection).references =
      collection.references ++ sources.flatMap (Source.references stylesNames) := by
  induction sources generalizing collection with
  | nil => simp
  | cons source rest ih =>
      rw [List.foldl_cons, ih, List.flatMap_cons, ← List.append_assoc]
      rfl

theorem foldl_visit_lines?_other (stylesNames : List String) (sources : List Source)
    (collection : ReferenceCollection) {path : String}
    (different : path ∉ sources.map (·.path)) :
    (sources.foldl (fun collection source => collection.visit stylesNames source)
      collection).lines? path = collection.lines? path := by
  induction sources generalizing collection with
  | nil => rfl
  | cons source rest ih =>
      simp only [List.map_cons, List.mem_cons, not_or] at different
      rw [List.foldl_cons, ih _ different.2, visit_lines?_other _ _ _ different.1]

/-- A visited file keeps its lines while files of other paths are visited. -/
theorem foldl_visit_lines?_of_mem (stylesNames : List String) (sources : List Source)
    (collection : ReferenceCollection) (apart : (sources.map (·.path)).Nodup) (source : Source)
    (visited : source ∈ sources) :
    (sources.foldl (fun collection source => collection.visit stylesNames source)
      collection).lines? source.path = some source.lines := by
  induction sources generalizing collection with
  | nil => cases visited
  | cons first rest ih =>
      rw [List.map_cons, List.nodup_cons] at apart
      rw [List.foldl_cons]
      rcases List.mem_cons.mp visited with rfl | later
      · rw [foldl_visit_lines?_other _ _ _ apart.1, visit_lines?_self]
      · exact ih _ apart.2 later

theorem ofSources_references (stylesNames : List String) (sources : List Source) :
    (ofSources stylesNames sources).references =
      sources.flatMap (Source.references stylesNames) := by
  rw [ofSources, foldl_visit_references]
  rfl

theorem ofSources_lines? (stylesNames : List String) {sources : List Source}
    (apart : (sources.map (·.path)).Nodup) {source : Source} (visited : source ∈ sources) :
    (ofSources stylesNames sources).lines? source.path = some source.lines :=
  foldl_visit_lines?_of_mem stylesNames sources .empty apart source visited

/-- Files of different paths are recorded one behind the other. -/
theorem foldl_visit_files (stylesNames : List String) (sources : List Source)
    (collection : ReferenceCollection)
    (apart : (collection.files.map (·.1) ++ sources.map (·.path)).Nodup) :
    (sources.foldl (fun collection source => collection.visit stylesNames source)
      collection).files =
      collection.files ++ sources.map fun source => (source.path, source.lines) := by
  induction sources generalizing collection with
  | nil => simp
  | cons source rest ih =>
      have unknown : source.path ∉ collection.files.map (·.1) := by
        intro known
        exact (List.nodup_append.mp apart).2.2 source.path known source.path
          List.mem_cons_self rfl
      have files : (collection.visit stylesNames source).files =
          collection.files ++ [(source.path, source.lines)] :=
        Keyed.put_of_not_mem Prod.fst (source.path, source.lines) collection.files unknown
      rw [List.foldl_cons, ih, files, List.map_cons, List.append_assoc, List.singleton_append]
      rw [files, List.map_append, List.append_assoc]
      exact apart

theorem ofSources_files (stylesNames : List String) {sources : List Source}
    (apart : (sources.map (·.path)).Nodup) :
    (ofSources stylesNames sources).files =
      sources.map fun source => (source.path, source.lines) := by
  rw [ofSources, foldl_visit_files stylesNames sources .empty apart]
  rfl

theorem ofSources_congr {names others : List String}
    (same : ∀ name, name ∈ names ↔ name ∈ others) (sources : List Source) :
    ofSources names sources = ofSources others sources := by
  have step : (fun (collection : ReferenceCollection) source => collection.visit names source) =
      fun collection source => collection.visit others source := by
    funext collection source
    have equal := Source.references_congr same source
    simp only [Source.references] at equal
    simp only [visit, equal]
  rw [ofSources, ofSources, step]

end ReferenceCollection

theorem foldlM_visit {ε α : Type} (stylesNames : List String) (read : α → Except ε Source)
    (items : List α) (collection : ReferenceCollection) :
    (items.map read).foldlM
        (fun collection source => return collection.visit stylesNames (← source)) collection =
      (items.mapM read).map fun sources =>
        sources.foldl (fun collection source => collection.visit stylesNames source) collection := by
  induction items generalizing collection with
  | nil => rfl
  | cons item rest ih =>
      rw [List.map_cons, List.foldlM_cons, List.mapM_cons]
      cases read item with
      | error cause => rfl
      | ok source =>
          show List.foldlM _ (collection.visit stylesNames source) (rest.map read) = _
          rw [ih]
          cases rest.mapM read <;> rfl

/-- Collecting is reading all files and then visiting them in order. -/
theorem collectReferences_map {α : Type} (stylesNames : List String)
    (read : α → Except Failure Source) (items : List α) :
    collectReferences stylesNames (items.map read) =
      (items.mapM read).map (.ofSources stylesNames) :=
  foldlM_visit stylesNames read items .empty

end StyleAudit
