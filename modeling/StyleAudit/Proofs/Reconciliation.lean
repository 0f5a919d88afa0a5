import StyleAudit.Proofs.References
import StyleAudit.Proofs.Sheet
import StyleAudit.Reconciliation

/-!
Reports on sources.

Compared with references to sources of different paths, a sheet always gets its report: no
reference lies in a file whose lines are unknown. What is missing is found source by source.
-/

set_option autoImplicit false

namespace StyleAudit

/-- The finding that a missing reference of a source is. -/
def Source.findingAt (source : Source) (reference : Reference) : Finding :=
  ⟨reference.key, reference.span, sliceLines source.lines reference.span, some source.path⟩

/-- The references of a source to keys that are declared nowhere. -/
def Source.missing (sheet : Sheet) (sharedKeys stylesNames : List String) (source : Source) :
    List Finding :=
  ((source.references stylesNames).filter (isMissing sheet sharedKeys)).map source.findingAt

/-- The report of a sheet in a file of the given lines, compared with sources. -/
def reportOn (lines stylesNames : List String) (sources : List Source) (sharedKeys : List String)
    (sheet : Sheet) : SheetReport where
  identifier := sheet.identifier
  span := sheet.span
  code := (sheet.span.map (sliceLines lines)).getD ""
  unused := findUnused sheet lines (.ofSources stylesNames sources)
  missing := sources.flatMap (Source.missing sheet sharedKeys stylesNames)

theorem missingFinding_ofSources (stylesNames : List String) {sources : List Source}
    (apart : (sources.map (·.path)).Nodup) {source : Source} (visited : source ∈ sources)
    {reference : Reference} (member : reference ∈ source.references stylesNames) :
    missingFinding (.ofSources stylesNames sources) reference =
      .ok (source.findingAt reference) := by
  have place := Source.references_file member
  simp only [missingFinding, place,
    ReferenceCollection.ofSources_lines? stylesNames apart visited, Source.findingAt]

theorem mapM_missingFinding (stylesNames : List String) (keep : Reference → Bool)
    (all sources : List Source) (apart : (all.map (·.path)).Nodup)
    (visited : ∀ source ∈ sources, source ∈ all) :
    ((sources.flatMap (Source.references stylesNames)).filter keep).mapM
        (missingFinding (.ofSources stylesNames all)) =
      .ok (sources.flatMap fun source =>
        ((source.references stylesNames).filter keep).map source.findingAt) := by
  induction sources with
  | nil => rfl
  | cons source rest ih =>
      have first : ((source.references stylesNames).filter keep).mapM
          (missingFinding (.ofSources stylesNames all)) =
          .ok (((source.references stylesNames).filter keep).map source.findingAt) := by
        apply mapM_eq_ok_of_forall
        intro reference member
        exact missingFinding_ofSources stylesNames apart (visited source List.mem_cons_self)
          (List.mem_filter.mp member).1
      have others := ih fun other member => visited other (List.mem_cons_of_mem _ member)
      rw [List.flatMap_cons, List.filter_append, List.mapM_append, first, others,
        List.flatMap_cons]
      rfl

/-- A sheet compared with sources of different paths always gets its report. -/
theorem reconcile_ofSources (sheet : Sheet) (lines stylesNames : List String)
    {sources : List Source} (apart : (sources.map (·.path)).Nodup) (sharedKeys : List String) :
    reconcile sheet lines (.ofSources stylesNames sources) sharedKeys =
      .ok (reportOn lines stylesNames sources sharedKeys sheet) := by
  have found : findMissing sheet (.ofSources stylesNames sources) sharedKeys =
      .ok (sources.flatMap (Source.missing sheet sharedKeys stylesNames)) := by
    rw [findMissing, ReferenceCollection.ofSources_references]
    exact mapM_missingFinding stylesNames _ sources sources apart fun _ member => member
  rw [reconcile, found]
  rfl

theorem reportOn_congr (lines : List String) {names others : List String}
    (same : ∀ name, name ∈ names ↔ name ∈ others) (sources : List Source)
    (sharedKeys : List String) (sheet : Sheet) :
    reportOn lines names sources sharedKeys sheet =
      reportOn lines others sources sharedKeys sheet := by
  have missing : Source.missing sheet sharedKeys names =
      Source.missing sheet sharedKeys others := by
    funext source
    simp only [Source.missing, Source.references_congr same source]
  simp only [reportOn, ReferenceCollection.ofSources_congr same, missing]

theorem isMissing_iff (sheet : Sheet) (sharedKeys : List String) (reference : Reference) :
    isMissing sheet sharedKeys reference = true ↔
      reference.key ∉ sheet.keyNames ∧ reference.key ∉ sharedKeys := by
  simp only [isMissing, Bool.and_eq_true, Bool.not_eq_true', ← Bool.not_eq_true,
    Sheet.declares_iff, List.contains_iff_mem]

/-- Missing findings are the missing references, file by file. -/
theorem reportOn_missing (lines stylesNames : List String) (sources : List Source)
    (sharedKeys : List String) (sheet : Sheet) :
    (reportOn lines stylesNames sources sharedKeys sheet).missing.map
        (fun finding => (finding.file, finding.key, finding.span)) =
      ((ReferenceCollection.ofSources stylesNames sources).references.filter
        (isMissing sheet sharedKeys)).map
        fun reference => (some reference.file, reference.key, reference.span) := by
  rw [ReferenceCollection.ofSources_references, List.filter_flatMap, List.map_flatMap]
  show (sources.flatMap (Source.missing sheet sharedKeys stylesNames)).map _ = _
  rw [List.map_flatMap]
  congr 1
  funext source
  rw [Source.missing, List.map_map]
  apply List.map_congr_left
  intro reference member
  have place := Source.references_file (List.mem_filter.mp member).1
  simp only [Function.comp_apply, Source.findingAt, place]

theorem mem_reportOn_missing {lines stylesNames : List String} {sources : List Source}
    {sharedKeys : List String} {sheet : Sheet} {finding : Finding}
    (member : finding ∈ (reportOn lines stylesNames sources sharedKeys sheet).missing) :
    ∃ source ∈ sources, ∃ reference ∈ source.references stylesNames,
      isMissing sheet sharedKeys reference = true ∧ source.findingAt reference = finding := by
  obtain ⟨source, visited, found⟩ := List.mem_flatMap.mp member
  obtain ⟨reference, kept, rfl⟩ := List.mem_map.mp found
  obtain ⟨listed, missing⟩ := List.mem_filter.mp kept
  exact ⟨source, visited, reference, listed, missing, rfl⟩

theorem findUnused_eq (sheet : Sheet) (lines : List String) (collection : ReferenceCollection) :
    findUnused sheet lines collection =
      (sheet.keys.filter fun key => key.name ∉ collection.keys).map fun key =>
        ⟨key.name, key.span, sliceLines lines key.span, none⟩ := by
  simp [findUnused]

end StyleAudit
