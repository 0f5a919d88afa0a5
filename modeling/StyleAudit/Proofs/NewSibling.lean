import StyleAudit.Proofs.Accounting

/-!
What one more sibling changes.

A new file beside the target is read between two of the old siblings, and all else is read as
before. Its references make their keys used, and those to keys declared nowhere are missing in
addition; nothing else in the result moves.
-/

set_option autoImplicit false

namespace StyleAudit

/-- A reading of the same store with a file written to it. -/
def Reading.write (reading : Reading) (path : Path) (bytes : List UInt8) : Reading :=
  { reading with store := reading.store.write path bytes }

/-- What a report becomes when one more file is read, whose references have the given keys. -/
structure SheetReport.Extends (file : String) (keys : List String)
    (before after : SheetReport) : Prop where
  identifier : after.identifier = before.identifier
  span : after.span = before.span
  code : after.code = before.code
  /-- Exactly the keys that the new file reads are unused no more. -/
  unused : after.unused = before.unused.filter fun finding => finding.key ∉ keys
  /-- All that is new are the missing findings in the new file. -/
  missing : (after.missing.filter fun finding => finding.file ≠ some file) = before.missing

/-! ### Reports -/

theorem reportOn_unused_insert (lines stylesNames : List String) (front back : List Source)
    (source : Source) (sharedKeys : List String) (sheet : Sheet) :
    (reportOn lines stylesNames (front ++ source :: back) sharedKeys sheet).unused =
      (reportOn lines stylesNames (front ++ back) sharedKeys sheet).unused.filter fun finding =>
        finding.key ∉ (source.references stylesNames).map (·.key) := by
  rw [reportOn_unused, reportOn_unused, List.filter_map, List.filter_filter]
  congr 1
  apply List.filter_congr
  intro key _
  simp only [ReferenceCollection.ofSources_references, List.flatMap_append, List.flatMap_cons,
    List.map_append, List.mem_append, Function.comp_apply, ← Bool.decide_and, decide_eq_decide]
  tauto

theorem filter_missing_self (sheet : Sheet) (sharedKeys stylesNames : List String)
    (source : Source) :
    ((source.missing sheet sharedKeys stylesNames).filter fun finding =>
      finding.file ≠ some source.path) = [] := by
  rw [List.filter_eq_nil_iff]
  intro finding member
  obtain ⟨reference, _, rfl⟩ := List.mem_map.mp member
  simp [Source.findingAt]

theorem filter_missing_other (sheet : Sheet) (sharedKeys stylesNames : List String)
    (sources : List Source) (file : String) (apart : file ∉ sources.map (·.path)) :
    ((sources.flatMap (Source.missing sheet sharedKeys stylesNames)).filter fun finding =>
      finding.file ≠ some file) = sources.flatMap (Source.missing sheet sharedKeys stylesNames) := by
  rw [List.filter_eq_self]
  intro finding member
  obtain ⟨source, visited, found⟩ := List.mem_flatMap.mp member
  obtain ⟨reference, _, rfl⟩ := List.mem_map.mp found
  have different : source.path ≠ file := by
    rintro rfl
    exact apart (List.mem_map_of_mem visited)
  simp [Source.findingAt, different]

/-- A source of a new path, wherever it is read, only adds its own findings. -/
theorem reportOn_extends (lines stylesNames : List String) (front back : List Source)
    (source : Source) (apart : source.path ∉ (front ++ back).map (·.path))
    (sharedKeys : List String) (sheet : Sheet) :
    SheetReport.Extends source.path ((source.references stylesNames).map (·.key))
      (reportOn lines stylesNames (front ++ back) sharedKeys sheet)
      (reportOn lines stylesNames (front ++ source :: back) sharedKeys sheet) where
  identifier := rfl
  span := rfl
  code := rfl
  unused := reportOn_unused_insert lines stylesNames front back source sharedKeys sheet
  missing := by
    rw [List.map_append, List.mem_append, not_or] at apart
    show ((front ++ source :: back).flatMap _).filter _ = (front ++ back).flatMap _
    rw [List.flatMap_append, List.flatMap_cons, List.filter_append, List.filter_append,
      filter_missing_self, filter_missing_other _ _ _ _ _ apart.1,
      filter_missing_other _ _ _ _ _ apart.2, List.flatMap_append]
    rfl

/-! ### Reading with the new file -/

theorem filter_ne_middle {path : Path} {front back : List Path}
    (apart : (front ++ path :: back).Nodup) :
    (front ++ path :: back).filter (· ≠ path) = front ++ back := by
  rw [List.nodup_middle, List.nodup_cons] at apart
  rw [List.filter_append, List.filter_cons_of_neg (by simp), ← List.filter_append,
    List.filter_eq_self]
  intro other member
  have different : other ≠ path := by
    rintro rfl
    exact apart.1 member
  simpa using different

namespace Reading

variable {reading : Reading} {path : Path}

/-- What could be read before is read as before. -/
theorem write_source_of_ok (vacant : reading.store.Vacant path) (bytes : List UInt8) {other : Path}
    {source : Source} (success : reading.source other = .ok source) :
    (reading.write path bytes).source other = .ok source := by
  obtain ⟨content, found⟩ := exists_bytes_of_source success
  have found' : (reading.write path bytes).store.bytes other = .ok content :=
    vacant.write_bytes_of_ok bytes found
  rw [source_of_bytes reading found] at success
  rw [source_of_bytes _ found']
  exact success

theorem write_declaredSheets_of_ok (vacant : reading.store.Vacant path) (bytes : List UInt8)
    {settings : Settings} {target : Path} {extraction : Extraction}
    (success : (reading.declaredSheets settings target).result = .ok extraction) :
    ((reading.write path bytes).declaredSheets settings target).result = .ok extraction := by
  obtain ⟨source, factories, sheets, read, listed, found, rfl⟩ :=
    (declaredSheets_eq_ok_iff reading settings target extraction).mp success
  exact (declaredSheets_eq_ok_iff _ settings target _).mpr
    ⟨source, factories, sheets, write_source_of_ok vacant bytes read, listed, found, rfl⟩

theorem write_sharedKeys_of_ok (vacant : reading.store.Vacant path) (bytes : List UInt8)
    {shared : Option Path} {sharedKeys : List String}
    (success : (reading.sharedKeys shared).result = .ok sharedKeys) :
    ((reading.write path bytes).sharedKeys shared).result = .ok sharedKeys := by
  cases shared with
  | none => exact success
  | some file =>
      obtain ⟨source, sheet, read, extracted, global, rfl⟩ :=
        (sharedKeys_some_eq_ok_iff reading file sharedKeys).mp success
      exact (sharedKeys_some_eq_ok_iff _ file _).mpr
        ⟨source, sheet, write_source_of_ok vacant bytes read, extracted, global, rfl⟩

/-- The new sibling is read between the old ones, which are read as before. -/
theorem write_siblingSources {bytes : List UInt8} {target : Path} {sources : List Source}
    {files : List Path} {source : Source} (success : reading.siblingSources target = .ok sources)
    (vacant : reading.store.Vacant path)
    (after : siblings (reading.write path bytes).store target = .ok files) (listed : path ∈ files)
    (read : (reading.write path bytes).source path = .ok source) :
    ∃ front back, sources = front ++ back ∧
      (reading.write path bytes).siblingSources target = .ok (front ++ source :: back) := by
  obtain ⟨old, before, all⟩ := (siblingSources_eq_ok_iff reading target sources).mp success
  have same := siblings_write before after listed vacant.empty
  obtain ⟨front, back, rfl⟩ := List.append_of_mem listed
  rw [filter_ne_middle (siblings_nodup after)] at same
  subst same
  rw [← mapM_eq_ok_iff, List.mapM_append] at all
  obtain ⟨first, frontRead, last, backRead, rfl⟩ := by
    simpa only [bind_eq_ok_iff, pure, Except.pure, Except.ok.injEq] using all
  refine ⟨first, last, rfl, (siblingSources_eq_ok_iff _ target _).mpr ⟨_, after, ?_⟩⟩
  have preserved : ∀ other found, reading.source other = .ok found →
      (reading.write path bytes).source other = .ok found :=
    fun other found => write_source_of_ok vacant bytes
  exact List.rel_append (((mapM_eq_ok_iff _ _ _).mp frontRead).imp preserved)
    (.cons read (((mapM_eq_ok_iff _ _ _).mp backRead).imp preserved))

end Reading

/-- When a new file is listed beside the target and can be read, an analysis that ended in a result
still does, and each report extends the old one by what the new file has to say. -/
theorem analyze_new_sibling (reading : Reading) (settings : Settings) (target : Path)
    (shared : Option Path) (result : AnalysisResult) (path : Path) (bytes : List UInt8)
    (files : List Path) (source : Source)
    (success : (analyze reading settings target shared).result = .ok result)
    (new : reading.store.entry? (path.resolveFrom reading.store.current) = none)
    (after : siblings (reading.write path bytes).store target = .ok files) (listed : path ∈ files)
    (read : (reading.write path bytes).source path = .ok source) :
    ∃ configured extended, settings.stylesNames.get = .ok configured ∧
      (analyze (reading.write path bytes) settings target shared).result = .ok extended ∧
      extended.lines = result.lines ∧
      List.Forall₂ (SheetReport.Extends path.text
        ((source.references (configured ++ result.sheets.map (·.identifier))).map (·.key)))
        result.sheets extended.sheets := by
  obtain ⟨extraction, sharedKeys, configured, sources, declared, found, names, visited, rfl⟩ :=
    (analyze_eq_ok_iff reading settings target shared result).mp success
  obtain ⟨old, before, _⟩ := (Reading.siblingSources_eq_ok_iff reading target sources).mp visited
  have vacant : reading.store.Vacant path := by
    obtain ⟨directory, _⟩ := (siblings_eq_ok_iff _ target old).mp before
    obtain ⟨name, rfl⟩ := exists_child_of_mem_siblings after listed
    exact (vacant_child name directory new).1
  obtain ⟨front, back, rfl, visited'⟩ :=
    Reading.write_siblingSources visited vacant after listed read
  have apart := Reading.siblingSources_paths_nodup visited'
  rw [List.map_append, List.map_cons, List.nodup_middle, List.nodup_cons,
    ← List.map_append] at apart
  refine ⟨configured, _, names, (analyze_eq_ok_iff _ settings target shared _).mpr
    ⟨extraction, sharedKeys, configured, _, Reading.write_declaredSheets_of_ok vacant bytes declared,
      Reading.write_sharedKeys_of_ok vacant bytes found, names, visited', rfl⟩, rfl, ?_⟩
  rw [List.forall₂_map_left_iff, List.forall₂_map_right_iff, List.forall₂_same]
  intro sheet _
  rw [List.map_map, ← Reading.source_path read]
  exact reportOn_extends extraction.lines _ front back source apart.1 sharedKeys sheet

namespace Sample

/-- A file that is read after `Menu.js` and before `View.js`. -/
def nav : Path :=
  ⟨.here, ["Nav.js"]⟩

def navText : String :=
  "s.b; s.z;"

theorem siblings_card_nav : siblings (reading.write nav navText.toUTF8.toList).store card =
    .ok [⟨.here, ["Menu.js"]⟩, nav, ⟨.here, ["View.js"]⟩] := by
  rw [siblings_eq_ok_iff]
  exact ⟨by decide +kernel, suffixPattern, by decide +kernel,
    Path.sort_eq_of_perm (by decide +kernel) (by decide +kernel)⟩

theorem source_nav : (reading.write nav navText.toUTF8.toList).source nav =
    .ok (sourceOf nav.text navText) :=
  source_plain (by decide +kernel) (by decide +kernel)

end Sample

theorem sample_new_sibling :
    ∃ result configured extended,
      (analyze Sample.reading .standard Sample.card none).result = .ok result ∧
      Sample.missingKeys result = [["x", "g", "x", "y"], ["x", "g", "a", "x", "y"]] ∧
      Settings.standard.stylesNames.get = .ok configured ∧
      (analyze (Sample.reading.write Sample.nav Sample.navText.toUTF8.toList) .standard Sample.card
        none).result = .ok extended ∧
      extended.lines = result.lines ∧
      List.Forall₂ (SheetReport.Extends Sample.nav.text
        (((Sample.sourceOf Sample.nav.text Sample.navText).references
          (configured ++ result.sheets.map (·.identifier))).map (·.key)))
        result.sheets extended.sheets := by
  obtain ⟨result, success, keys⟩ := Sample.analyze_card
  obtain ⟨configured, extended, names, extending⟩ := analyze_new_sibling Sample.reading .standard
    Sample.card none result Sample.nav Sample.navText.toUTF8.toList _ _ success
    (by decide +kernel) Sample.siblings_card_nav (by decide) Sample.source_nav
  exact ⟨result, configured, extended, success, keys, names, extending⟩

end StyleAudit
