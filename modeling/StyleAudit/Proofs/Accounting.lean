import StyleAudit.Proofs.Analysis

/-!
Reports account for their sheets.

Whenever an analysis ends in a result, each report says of its sheet exactly which keys nothing
reads and which references ask for keys that are declared nowhere, and quotes whole lines of the
file that a finding is about.
-/

set_option autoImplicit false

namespace StyleAudit

/-- The whole lines of a file from a span's first to its last. -/
def quoteLines (lines : List String) (span : Span) : String :=
  "\n".intercalate (numberedLines lines span.start.line span.stop.line)

/-- Whether a file that can be read has the given lines. -/
def Reading.HasLines (reading : Reading) (path : Path) (lines : List String) : Prop :=
  ∃ text, readSource reading.store path = .ok text ∧ Text.splitLines text = lines

/-- Whether a path beside a target has the given text and lines. -/
def Reading.SiblingHasLines (reading : Reading) (target : Path) (file : String)
    (lines : List String) : Prop :=
  ∃ files path, siblings reading.store target = .ok files ∧ path ∈ files ∧ path.text = file ∧
    reading.HasLines path lines

/-- What a report on a sheet owes to the references of the siblings and to the shared keys. The
target has the given lines; `quotable` says which lines the other files have. -/
structure SheetReport.Accounts (lines : List String) (quotable : String → List String → Prop)
    (references : List Reference) (sharedKeys : List String) (sheet : Sheet)
    (report : SheetReport) : Prop where
  identifier : report.identifier = sheet.identifier
  span : report.span = sheet.span
  /-- Unused are the declared keys that no reference reads, in order of declaration. -/
  unused : report.unused.map (fun finding => (finding.key, finding.span)) =
    (sheet.keys.filter fun key => key.name ∉ references.map (·.key)).map fun key =>
      (key.name, key.span)
  unused_once : (report.unused.map (·.key)).Nodup
  /-- Missing are the references to keys declared nowhere, each of them, in order. -/
  missing : report.missing.map (fun finding => (finding.file, finding.key, finding.span)) =
    (references.filter fun reference =>
      reference.key ∉ sheet.keyNames ∧ reference.key ∉ sharedKeys).map fun reference =>
      (some reference.file, reference.key, reference.span)
  unused_unread : ∀ finding ∈ report.unused, finding.key ∉ references.map (·.key)
  unused_not_missing : ∀ finding ∈ report.unused, finding.key ∉ report.missing.map (·.key)
  read_or_unused : ∀ name ∈ sheet.keyNames,
    name ∈ references.map (·.key) ∨ name ∈ report.unused.map (·.key)
  unused_code : ∀ finding ∈ report.unused,
    finding.file = none ∧ finding.code = quoteLines lines finding.span
  missing_code : ∀ finding ∈ report.missing, ∃ file fileLines, finding.file = some file ∧
    quotable file fileLines ∧ finding.code = quoteLines fileLines finding.span

theorem reportOn_unused (lines stylesNames : List String) (sources : List Source)
    (sharedKeys : List String) (sheet : Sheet) :
    (reportOn lines stylesNames sources sharedKeys sheet).unused =
      (sheet.keys.filter fun key =>
        key.name ∉ (ReferenceCollection.ofSources stylesNames sources).references.map (·.key)).map
        fun key => ⟨key.name, key.span, sliceLines lines key.span, none⟩ :=
  findUnused_eq sheet lines _

theorem reportOn_unused_keys (lines stylesNames : List String) (sources : List Source)
    (sharedKeys : List String) (sheet : Sheet) :
    (reportOn lines stylesNames sources sharedKeys sheet).unused.map (·.key) =
      sheet.keyNames.filter fun name =>
        name ∉ (ReferenceCollection.ofSources stylesNames sources).references.map (·.key) := by
  rw [reportOn_unused, List.map_map, Sheet.keyNames, List.filter_map]
  rfl

theorem reportOn_missing_keys (lines stylesNames : List String) (sources : List Source)
    (sharedKeys : List String) (sheet : Sheet) :
    (reportOn lines stylesNames sources sharedKeys sheet).missing.map (·.key) =
      ((ReferenceCollection.ofSources stylesNames sources).references.filter
        (isMissing sheet sharedKeys)).map (·.key) := by
  have triples := congrArg (List.map fun triple : Option String × String × Span => triple.2.1)
    (reportOn_missing lines stylesNames sources sharedKeys sheet)
  rw [List.map_map, List.map_map] at triples
  exact triples

/-- A report on sources accounts for its sheet, when the sheet is well placed and the lines of the
sources are known. -/
theorem reportOn_accounts (lines stylesNames : List String) (sources : List Source)
    (sharedKeys : List String) (sheet : Sheet) (placed : sheet.WellPlaced)
    (quotable : String → List String → Prop)
    (known : ∀ source ∈ sources, quotable source.path source.lines) :
    (reportOn lines stylesNames sources sharedKeys sheet).Accounts lines quotable
      (ReferenceCollection.ofSources stylesNames sources).references sharedKeys sheet := by
  have unread : ∀ finding ∈ (reportOn lines stylesNames sources sharedKeys sheet).unused,
      finding.key ∉ (ReferenceCollection.ofSources stylesNames sources).references.map (·.key) := by
    intro finding member
    have key := List.mem_map_of_mem (f := (·.key)) member
    rw [reportOn_unused_keys, List.mem_filter, decide_eq_true_eq] at key
    exact key.2
  refine ⟨rfl, rfl, ?_, ?_, ?_, unread, ?_, ?_, ?_, ?_⟩
  · rw [reportOn_unused, List.map_map]
    rfl
  · rw [reportOn_unused_keys]
    exact placed.apart.filter _
  · rw [reportOn_missing]
    congr 1
    apply List.filter_congr
    intro reference _
    rw [Bool.eq_iff_iff, isMissing_iff, decide_eq_true_eq]
  · intro finding member missing
    rw [reportOn_missing_keys] at missing
    obtain ⟨reference, kept, same⟩ := List.mem_map.mp missing
    exact unread finding member (same ▸ List.mem_map_of_mem (List.mem_filter.mp kept).1)
  · intro name declared
    by_cases read : name ∈
        (ReferenceCollection.ofSources stylesNames sources).references.map (·.key)
    · exact Or.inl read
    · right
      rw [reportOn_unused_keys, List.mem_filter, decide_eq_true_eq]
      exact ⟨declared, read⟩
  · intro finding member
    rw [reportOn_unused] at member
    obtain ⟨key, kept, rfl⟩ := List.mem_map.mp member
    exact ⟨rfl, sliceLines_eq_numberedLines lines key.span
      (placed.keys key (List.mem_filter.mp kept).1)⟩
  · intro finding member
    obtain ⟨source, visited, reference, listed, _, rfl⟩ := mem_reportOn_missing member
    exact ⟨source.path, source.lines, rfl, known source visited,
      sliceLines_eq_numberedLines source.lines reference.span (Source.references_onLines listed)⟩

namespace Reading

variable {reading : Reading}

theorem hasLines_of_source {path : Path} {source : Source}
    (success : reading.source path = .ok source) : reading.HasLines path source.lines := by
  obtain ⟨text, root, read, _, rfl⟩ := (source_eq_ok_iff reading path source).mp success
  exact ⟨text, read, rfl⟩

theorem declaredSheets_hasLines {settings : Settings} {target : Path} {extraction : Extraction}
    (success : (reading.declaredSheets settings target).result = .ok extraction) :
    reading.HasLines target extraction.lines := by
  obtain ⟨source, _, _, read, _, _, rfl⟩ :=
    (declaredSheets_eq_ok_iff reading settings target extraction).mp success
  exact hasLines_of_source read

theorem siblingSources_hasLines {target : Path} {sources : List Source}
    (success : reading.siblingSources target = .ok sources) :
    ∀ source ∈ sources, reading.SiblingHasLines target source.path source.lines := by
  obtain ⟨files, listed, read⟩ := (siblingSources_eq_ok_iff reading target sources).mp success
  intro source visited
  obtain ⟨index, inside, rfl⟩ := List.mem_iff_getElem.mp visited
  have position : index < files.length := read.length_eq ▸ inside
  have found := read.get position inside
  exact ⟨files, files[index], listed, List.getElem_mem position, (source_path found).symm,
    hasLines_of_source found⟩

end Reading

/-- A result has one report for each sheet of the target, in order, and each of them accounts for
its sheet, whatever the references of the siblings and the shared keys are. -/
theorem analyze_accounts (reading : Reading) (settings : Settings) (target : Path)
    (shared : Option Path) (result : AnalysisResult)
    (success : (analyze reading settings target shared).result = .ok result) :
    ∃ extraction sharedKeys configured collection,
      (reading.declaredSheets settings target).result = .ok extraction ∧
      (reading.sharedKeys shared).result = .ok sharedKeys ∧
      settings.stylesNames.get = .ok configured ∧
      reading.siblingReferences target
        (configured ++ extraction.sheets.map Sheet.identifier) = .ok collection ∧
      reading.HasLines target result.lines ∧
      List.Forall₂ (SheetReport.Accounts result.lines (reading.SiblingHasLines target)
        collection.references sharedKeys) extraction.sheets result.sheets := by
  obtain ⟨extraction, sharedKeys, configured, sources, declared, found, listed, read, rfl⟩ :=
    (analyze_eq_ok_iff reading settings target shared result).mp success
  refine ⟨extraction, sharedKeys, configured,
    .ofSources (configured ++ extraction.sheets.map Sheet.identifier) sources, declared, found,
    listed, ?_, Reading.declaredSheets_hasLines declared, ?_⟩
  · rw [Reading.siblingReferences_eq, read]
    rfl
  · rw [List.forall₂_map_right_iff, List.forall₂_same]
    intro sheet member
    exact reportOn_accounts _ _ _ _ _ (Reading.declaredSheets_wellPlaced declared sheet member) _
      (Reading.siblingSources_hasLines read)

theorem sample_accounts :
    ∃ result, (analyze Sample.reading .standard Sample.card (some Sample.theme)).result =
        .ok result ∧
      Sample.missingKeys result = [["x", "x", "y"], ["x", "a", "x", "y"]] ∧
      ∃ extraction sharedKeys configured collection,
        (Sample.reading.declaredSheets .standard Sample.card).result = .ok extraction ∧
        (Sample.reading.sharedKeys (some Sample.theme)).result = .ok sharedKeys ∧
        Settings.standard.stylesNames.get = .ok configured ∧
        Sample.reading.siblingReferences Sample.card
          (configured ++ extraction.sheets.map Sheet.identifier) = .ok collection ∧
        Sample.reading.HasLines Sample.card result.lines ∧
        List.Forall₂ (SheetReport.Accounts result.lines
          (Sample.reading.SiblingHasLines Sample.card) collection.references sharedKeys)
          extraction.sheets result.sheets := by
  obtain ⟨result, success, keys⟩ := Sample.analyze_card_theme
  exact ⟨result, success, keys, analyze_accounts _ _ _ _ result success⟩

/-- A missing finding does not quote the target: its span lies in the file that asks for the
key. -/
theorem missing_code_not_of_target :
    ∃ result, (analyze Sample.reading .standard Sample.card none).result = .ok result ∧
      ∃ report ∈ result.sheets, ∃ finding ∈ report.missing,
        finding.code ≠ quoteLines result.lines finding.span := by
  have seen : (analyze Sample.reading .standard Sample.card none).result.toOption.map
      (fun result => result.sheets.any fun report => report.missing.any fun finding =>
        finding.code != quoteLines result.lines finding.span) = some true := by
    rw [analyze_result, Sample.declaredSheets_card, Reading.sharedKeys_none_result,
      Sample.siblingSources_card]
    decide +kernel
  obtain ⟨result, success, different⟩ := exists_ok_of_toOption_map seen
  refine ⟨result, success, ?_⟩
  simpa only [List.any_eq_true, bne_iff_ne] using different

end StyleAudit
