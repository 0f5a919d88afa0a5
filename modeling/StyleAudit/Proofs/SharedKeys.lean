import StyleAudit.Proofs.Analysis

/-!
What a shared style file changes.

Without it the analysis has the same result, except that references to the shared keys are missing
as well. In particular a shared key never marks a declared key as used.
-/

set_option autoImplicit false

namespace StyleAudit

/-- A report without the missing findings of some keys. All else is kept. -/
def SheetReport.suppress (keys : List String) (report : SheetReport) : SheetReport :=
  { report with missing := report.missing.filter fun finding => finding.key ∉ keys }

/-- A result without the missing findings of some keys. -/
def AnalysisResult.suppress (keys : List String) (result : AnalysisResult) : AnalysisResult :=
  { result with sheets := result.sheets.map (SheetReport.suppress keys) }

theorem isMissing_shared (sheet : Sheet) (sharedKeys : List String) (reference : Reference) :
    isMissing sheet sharedKeys reference =
      (decide (reference.key ∉ sharedKeys) && isMissing sheet [] reference) := by
  rw [Bool.eq_iff_iff, Bool.and_eq_true, decide_eq_true_eq, isMissing_iff, isMissing_iff]
  constructor
  · rintro ⟨undeclared, unshared⟩
    exact ⟨unshared, undeclared, List.not_mem_nil⟩
  · rintro ⟨unshared, undeclared, _⟩
    exact ⟨undeclared, unshared⟩

theorem Source.missing_shared (sheet : Sheet) (sharedKeys stylesNames : List String)
    (source : Source) :
    source.missing sheet sharedKeys stylesNames =
      (source.missing sheet [] stylesNames).filter fun finding => finding.key ∉ sharedKeys := by
  have keep : isMissing sheet sharedKeys = fun reference =>
      decide (reference.key ∉ sharedKeys) && isMissing sheet [] reference :=
    funext (isMissing_shared sheet sharedKeys)
  rw [Source.missing, Source.missing, keep, ← List.filter_filter, List.filter_map]
  rfl

theorem reportOn_shared (lines stylesNames : List String) (sources : List Source)
    (sharedKeys : List String) (sheet : Sheet) :
    reportOn lines stylesNames sources sharedKeys sheet =
      (reportOn lines stylesNames sources [] sheet).suppress sharedKeys := by
  have missing : sources.flatMap (Source.missing sheet sharedKeys stylesNames) =
      (sources.flatMap (Source.missing sheet [] stylesNames)).filter
        fun finding => finding.key ∉ sharedKeys := by
    rw [List.filter_flatMap]
    congr 1
    funext source
    exact Source.missing_shared sheet sharedKeys stylesNames source
  rw [reportOn, missing]
  rfl

/-- An analysis with a shared style file is the one without it, less the missing findings of the
keys that the sheet of this file declares. -/
theorem analyze_shared (reading : Reading) (settings : Settings) (target shared : Path)
    (result : AnalysisResult)
    (success : (analyze reading settings target (some shared)).result = .ok result) :
    ∃ source sheet plain, reading.source shared = .ok source ∧
      (extractSheets source .shared).result = .ok ⟨[sheet], source.lines⟩ ∧
      sheet.identifier = sharedSheetName ∧
      (analyze reading settings target none).result = .ok plain ∧
      result = plain.suppress sheet.keyNames := by
  obtain ⟨extraction, sharedKeys, configured, sources, declared, found, listed, read, rfl⟩ :=
    (analyze_eq_ok_iff reading settings target (some shared) result).mp success
  obtain ⟨source, sheet, parsed, extracted, global, rfl⟩ :=
    (Reading.sharedKeys_some_eq_ok_iff reading shared sharedKeys).mp found
  have unshared := (analyze_eq_ok_iff reading settings target none _).mpr
    ⟨extraction, [], configured, sources, declared, Reading.sharedKeys_none_result reading, listed,
      read, rfl⟩
  refine ⟨source, sheet, _, parsed, extracted, global, unshared, ?_⟩
  rw [AnalysisResult.suppress, List.map_map]
  congr 1
  apply List.map_congr_left
  intro declaring _
  exact reportOn_shared _ _ _ _ declaring

/-- The shared key `g` is missing no more, and nothing else changes. -/
theorem sample_shared :
    ∃ result, (analyze Sample.reading .standard Sample.card (some Sample.theme)).result =
        .ok result ∧
      Sample.missingKeys result = [["x", "x", "y"], ["x", "a", "x", "y"]] ∧
      ∃ source sheet plain, Sample.reading.source Sample.theme = .ok source ∧
        (extractSheets source .shared).result = .ok ⟨[sheet], source.lines⟩ ∧
        sheet.identifier = sharedSheetName ∧
        (analyze Sample.reading .standard Sample.card none).result = .ok plain ∧
        result = plain.suppress sheet.keyNames := by
  obtain ⟨result, success, keys⟩ := Sample.analyze_card_theme
  exact ⟨result, success, keys, analyze_shared _ _ _ _ result success⟩

end StyleAudit
