import StyleAudit.Analysis
import StyleAudit.Proofs.Extraction
import StyleAudit.Proofs.Reconciliation
import StyleAudit.Proofs.Siblings
import StyleAudit.Script.Program

/-!
What an analysis yields.

The outcome of an analysis is that of reading the target's sheets, the shared keys, the configured
names and the siblings in this order. Once these are read nothing can fail, and each sheet has its
report on the siblings' sources.
-/

set_option autoImplicit false

namespace StyleAudit

/-! ### Accepted names -/

theorem mem_acceptedNames_iff (configured : List String) (sheets : List Sheet) (name : String) :
    name ∈ acceptedNames configured sheets ↔
      name ∈ configured ++ sheets.map Sheet.identifier := by
  induction sheets generalizing configured with
  | nil => simp [acceptedNames]
  | cons sheet rest ih =>
      have step : acceptedNames configured (sheet :: rest) =
          acceptedNames (if configured.contains sheet.identifier then configured
            else configured ++ [sheet.identifier]) rest := rfl
      rw [step, ih]
      split
      · rename_i known
        rw [List.contains_iff_mem] at known
        simp only [List.map_cons, List.mem_append, List.mem_cons]
        constructor
        · exact Or.imp_right Or.inr
        · rintro (configured | rfl | later)
          · exact Or.inl configured
          · exact Or.inl known
          · exact Or.inr later
      · simp only [List.map_cons, List.append_assoc, List.cons_append, List.nil_append]

/-! ### Sources -/

namespace Reading

variable {reading : Reading}

/-- Reading a source parses the text of a file that can be opened. -/
theorem source_of_bytes (reading : Reading) {path : Path} {bytes : List UInt8}
    (found : reading.store.bytes path = .ok bytes) :
    reading.source path = reading.parse.source path.text (sourceText bytes) := by
  simp only [source, readSource, found]
  rfl

theorem source_of_unreadable (reading : Reading) {path : Path} {cause : AccessError}
    (found : reading.store.bytes path = .error cause) :
    reading.source path = .error (.unreadable path.text (accessReason cause path)) := by
  simp only [source, readSource, found]
  rfl

theorem exists_bytes_of_source {path : Path} {source : Source}
    (success : reading.source path = .ok source) :
    ∃ bytes, reading.store.bytes path = .ok bytes := by
  cases found : reading.store.bytes path with
  | error cause =>
      rw [source_of_unreadable reading found] at success
      cases success
  | ok bytes => exact ⟨bytes, rfl⟩

theorem source_eq_ok_iff (reading : Reading) (path : Path) (source : Source) :
    reading.source path = .ok source ↔
      ∃ text root, readSource reading.store path = .ok text ∧
        reading.parse text path.text = .ok root ∧ source = ⟨path.text, text, root⟩ := by
  simp only [Reading.source, bind_eq_ok_iff, Parse.source, map_eq_ok_iff]
  constructor
  · rintro ⟨text, read, root, parsed, rfl⟩
    exact ⟨text, root, read, parsed, rfl⟩
  · rintro ⟨text, root, read, parsed, rfl⟩
    exact ⟨text, read, root, parsed, rfl⟩

theorem source_path {path : Path} {source : Source} (success : reading.source path = .ok source) :
    source.path = path.text := by
  obtain ⟨_, _, _, _, rfl⟩ := (source_eq_ok_iff reading path source).mp success
  rfl

/-- The sources beside a target, in order. -/
def siblingSources (reading : Reading) (target : Path) : Except Fault (List Source) := do
  let files ← siblings reading.store target
  (files.mapM reading.source).mapError .failure

theorem siblingReferences_eq (reading : Reading) (target : Path) (stylesNames : List String) :
    reading.siblingReferences target stylesNames =
      (reading.siblingSources target).map (.ofSources stylesNames) := by
  rw [siblingReferences, siblingSources]
  cases siblings reading.store target with
  | error fault => rfl
  | ok files =>
      show (collectReferences stylesNames (files.map reading.source)).mapError Fault.failure =
        ((files.mapM reading.source).mapError Fault.failure).map _
      rw [collectReferences_map]
      cases files.mapM reading.source <;> rfl

theorem siblingSources_eq_ok_iff (reading : Reading) (target : Path) (sources : List Source) :
    reading.siblingSources target = .ok sources ↔
      ∃ files, siblings reading.store target = .ok files ∧
        List.Forall₂ (fun path source => reading.source path = .ok source) files sources := by
  rw [siblingSources, bind_eq_ok_iff]
  simp only [mapError_eq_ok_iff, mapM_eq_ok_iff]

theorem sources_paths {files : List Path} {sources : List Source}
    (read : List.Forall₂ (fun path source => reading.source path = .ok source) files sources) :
    sources.map (·.path) = files.map Path.text := by
  induction read with
  | nil => rfl
  | cons first rest ih => rw [List.map_cons, List.map_cons, source_path first, ih]

theorem siblingSources_paths_nodup {target : Path} {sources : List Source}
    (success : reading.siblingSources target = .ok sources) :
    (sources.map (·.path)).Nodup := by
  obtain ⟨files, listed, read⟩ := (siblingSources_eq_ok_iff reading target sources).mp success
  rw [sources_paths read]
  exact siblings_texts_nodup listed

/-! ### Sheets and shared keys -/

theorem declaredSheets_eq_ok_iff (reading : Reading) (settings : Settings) (target : Path)
    (extraction : Extraction) :
    (reading.declaredSheets settings target).result = .ok extraction ↔
      ∃ source factories sheets, reading.source target = .ok source ∧
        settings.factories = .ok factories ∧
        (StyleAudit.declaredSheets source.path source.text.toList factories source.root).result =
          .ok sheets ∧ extraction = ⟨sheets, source.lines⟩ := by
  simp only [Reading.declaredSheets, Audit.bind_eq_ok_iff, Audit.ofFailing_result,
    Audit.ofExcept_result, mapError_eq_ok_iff, extractSheets_declared_result, map_eq_ok_iff]
  constructor
  · rintro ⟨source, read, factories, listed, sheets, found, rfl⟩
    exact ⟨source, factories, sheets, read, listed, found, rfl⟩
  · rintro ⟨source, factories, sheets, read, listed, found, rfl⟩
    exact ⟨source, read, factories, listed, sheets, found, rfl⟩

theorem declaredSheets_wellPlaced {settings : Settings} {target : Path} {extraction : Extraction}
    (success : (reading.declaredSheets settings target).result = .ok extraction) :
    ∀ sheet ∈ extraction.sheets, sheet.WellPlaced := by
  obtain ⟨source, factories, sheets, _, _, found, rfl⟩ :=
    (declaredSheets_eq_ok_iff reading settings target extraction).mp success
  exact StyleAudit.declaredSheets_wellPlaced found

theorem sharedKeys_none_result (reading : Reading) :
    (reading.sharedKeys none).result = .ok [] := rfl

/-- The keys of a shared file are those of its one sheet. -/
theorem sharedKeys_some_eq_ok_iff (reading : Reading) (path : Path) (sharedKeys : List String) :
    (reading.sharedKeys (some path)).result = .ok sharedKeys ↔
      ∃ source sheet, reading.source path = .ok source ∧
        (extractSheets source .shared).result = .ok ⟨[sheet], source.lines⟩ ∧
        sheet.identifier = sharedSheetName ∧ sharedKeys = sheet.keyNames := by
  simp only [Reading.sharedKeys, Audit.bind_eq_ok_iff, Audit.ofFailing_result,
    mapError_eq_ok_iff, extractSheets_shared_result, Audit.pure_result, Except.ok.injEq]
  constructor
  · rintro ⟨source, read, extraction, rfl, rfl⟩
    exact ⟨source, _, read, rfl, Sheet.ofDeclarations_identifier _ _ _, by simp⟩
  · rintro ⟨source, sheet, read, found, _, rfl⟩
    exact ⟨source, read, _, found, by simp⟩

end Reading

/-! ### The analysis -/

/-- The outcome of an analysis, comparing included, is that of reading its inputs in order. -/
theorem analyze_result (reading : Reading) (settings : Settings) (target : Path)
    (shared : Option Path) :
    (analyze reading settings target shared).result = (do
      let extraction ← (reading.declaredSheets settings target).result
      let sharedKeys ← (reading.sharedKeys shared).result
      let configured ← settings.stylesNames.get
      let sources ← reading.siblingSources target
      return ⟨extraction.sheets.map (reportOn extraction.lines
        (configured ++ extraction.sheets.map Sheet.identifier) sources sharedKeys),
        extraction.lines⟩) := by
  simp only [analyze, Audit.bind_result, Audit.ofExcept_result, Audit.pure_result,
    Reading.siblingReferences_eq]
  cases (reading.declaredSheets settings target).result with
  | error fault => rfl
  | ok extraction =>
      cases (reading.sharedKeys shared).result with
      | error fault => rfl
      | ok sharedKeys =>
          cases settings.stylesNames.get with
          | error fault => rfl
          | ok configured =>
              cases found : reading.siblingSources target with
              | error fault => rfl
              | ok sources =>
                  have compared : (extraction.sheets.mapM fun sheet =>
                      reconcile sheet extraction.lines (.ofSources
                        (acceptedNames configured extraction.sheets) sources) sharedKeys) =
                      .ok (extraction.sheets.map (reportOn extraction.lines
                        (configured ++ extraction.sheets.map Sheet.identifier) sources
                        sharedKeys)) := by
                    apply mapM_eq_ok_of_forall
                    intro sheet _
                    rw [reconcile_ofSources _ _ _ (Reading.siblingSources_paths_nodup found),
                      reportOn_congr _ (mem_acceptedNames_iff configured extraction.sheets)]
                  show Except.bind (extraction.sheets.mapM fun sheet =>
                    reconcile sheet extraction.lines (.ofSources
                      (acceptedNames configured extraction.sheets) sources) sharedKeys) _ = _
                  rw [compared]
                  rfl

theorem analyze_eq_ok_iff (reading : Reading) (settings : Settings) (target : Path)
    (shared : Option Path) (result : AnalysisResult) :
    (analyze reading settings target shared).result = .ok result ↔
      ∃ extraction sharedKeys configured sources,
        (reading.declaredSheets settings target).result = .ok extraction ∧
        (reading.sharedKeys shared).result = .ok sharedKeys ∧
        settings.stylesNames.get = .ok configured ∧
        reading.siblingSources target = .ok sources ∧
        result = ⟨extraction.sheets.map (reportOn extraction.lines
          (configured ++ extraction.sheets.map Sheet.identifier) sources sharedKeys),
          extraction.lines⟩ := by
  rw [analyze_result]
  simp only [bind_eq_ok_iff, pure, Except.pure, Except.ok.injEq]
  constructor
  · rintro ⟨extraction, declared, sharedKeys, found, configured, listed, sources, read, rfl⟩
    exact ⟨extraction, sharedKeys, configured, sources, declared, found, listed, read, rfl⟩
  · rintro ⟨extraction, sharedKeys, configured, sources, declared, found, listed, read, rfl⟩
    exact ⟨extraction, declared, sharedKeys, found, configured, listed, sources, read, rfl⟩

/-! ### A project to look at -/

namespace Sample

def cardText : String :=
  "const s = StyleSheet.create({ a: {}, b: {} }), t = StyleSheet.create({});"

def menuText : String :=
  "s.x; s.g;"

def viewText : String :=
  "s.a;\ns.x; t.y;"

def themeText : String :=
  "const g = {};"

/-- A component that declares two sheets, two files beside it, and a shared style file. -/
def store : FileStore :=
  ⟨[(["Card.js"], cardText.toUTF8.toList), (["View.js"], viewText.toUTF8.toList),
    (["Menu.js"], menuText.toUTF8.toList), (["shared", "theme.js"], themeText.toUTF8.toList)],
    [], []⟩

def card : Path :=
  ⟨.here, ["Card.js"]⟩

def theme : Path :=
  ⟨.here, ["shared", "theme.js"]⟩

/-- The project as the script grammars read it. -/
def reading : Reading :=
  ⟨store, Script.readers.parse⟩

/-- A file as the grammar without types reads it. -/
def sourceOf (path text : String) : Source :=
  ⟨path, text, (Script.readScript .plain text).root⟩

/-- The sheets of the component: `s` with two keys, and `t` with none. -/
def cardExtraction : Extraction :=
  ⟨[⟨"s", some ⟨⟨1, 6⟩, ⟨1, 7⟩⟩,
      [⟨"a", ⟨⟨1, 30⟩, ⟨1, 35⟩⟩⟩, ⟨"b", ⟨⟨1, 37⟩, ⟨1, 42⟩⟩⟩]⟩,
    ⟨"t", some ⟨⟨1, 47⟩, ⟨1, 48⟩⟩, []⟩], [cardText]⟩

theorem declaredSheets_card :
    (reading.declaredSheets .standard card).result = .ok cardExtraction := by
  decide +kernel

theorem sharedKeys_theme : (reading.sharedKeys (some theme)).result = .ok ["g"] := by
  decide +kernel

/-- Names that end in the component's suffix. -/
def suffixPattern : Pattern :=
  ⟨[.anything, .exactly '.', .exactly 'j', .exactly 's']⟩

theorem siblings_card : siblings store card =
    .ok [⟨.here, ["Menu.js"]⟩, ⟨.here, ["View.js"]⟩] := by
  rw [siblings_eq_ok_iff]
  exact ⟨by decide +kernel, suffixPattern, by decide +kernel,
    Path.sort_eq_of_perm (by decide +kernel) (by decide +kernel)⟩

/-- A file that the grammar without types can read is parsed as that grammar reads it. -/
theorem source_plain {store : FileStore} {path : Path} {text : String}
    (read : readSource store path = .ok text)
    (accepted : (Script.readScript .plain text).hasError = false) :
    Reading.source ⟨store, Script.readers.parse⟩ path = .ok (sourceOf path.text text) := by
  have plain : Script.readers.read text path.text =
      .ok (.plain, (Script.readScript .plain text).root) :=
    Readers.read_of_plain path.text accepted
  rw [Reading.source_eq_ok_iff]
  refine ⟨text, _, read, ?_, rfl⟩
  show (Script.readers.read text path.text).map (·.2) = _
  rw [plain]
  rfl

theorem siblingSources_card : reading.siblingSources card =
    .ok [sourceOf "Menu.js" menuText, sourceOf "View.js" viewText] := by
  rw [Reading.siblingSources_eq_ok_iff]
  refine ⟨_, siblings_card, .cons ?_ (.cons ?_ .nil)⟩
  · exact source_plain (by decide +kernel) (by decide +kernel)
  · exact source_plain (by decide +kernel) (by decide +kernel)

/-- The keys that are missing in each sheet. -/
def missingKeys (result : AnalysisResult) : List (List String) :=
  result.sheets.map fun report => report.missing.map (·.key)

theorem analyze_card : ∃ result, (analyze reading .standard card none).result = .ok result ∧
    missingKeys result = [["x", "g", "x", "y"], ["x", "g", "a", "x", "y"]] := by
  apply exists_ok_of_toOption_map
  rw [analyze_result, declaredSheets_card, Reading.sharedKeys_none_result, siblingSources_card]
  decide +kernel

theorem analyze_card_theme :
    ∃ result, (analyze reading .standard card (some theme)).result = .ok result ∧
      missingKeys result = [["x", "x", "y"], ["x", "a", "x", "y"]] := by
  apply exists_ok_of_toOption_map
  rw [analyze_result, declaredSheets_card, sharedKeys_theme, siblingSources_card]
  decide +kernel

end Sample

end StyleAudit
