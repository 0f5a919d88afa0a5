import StyleAudit.CommandLine.Payload
import StyleAudit.Proofs.Report

/-!
Reading the JSON payload.

Whoever reads the payload from front to back, target by target and sheet by sheet, meets the issues
of the results in the order in which the report tells them.
-/

set_option autoImplicit false

namespace StyleAudit

namespace Json.Document

/-- The member of an object. -/
def member? (name : String) : Document → Option Document
  | object members => members.lookup name
  | _ => none

/-- The members of an object, in order. -/
def members? : Document → Option (List (String × Document))
  | object members => some members
  | _ => none

/-- The items of the list that is a member of an object. -/
def itemsIn? (name : String) (document : Document) : Option (List Document) :=
  match document.member? name with
  | some (list items) => some items
  | _ => none

/-- The text that is a member of an object. -/
def textIn? (name : String) (document : Document) : Option String :=
  match document.member? name with
  | some (text value) => some value
  | _ => none

/-- The number that is a member of an object. -/
def integerIn? (name : String) (document : Document) : Option Int :=
  match document.member? name with
  | some (integer value) => some value
  | _ => none

end Json.Document

open Json (Document)

namespace Payload

/-- Reads a finding. An unused key lies in the target, a missing one in the file that is named. -/
def readIssue (viewpoint : Viewpoint) (target : String) (kind : IssueKind) (finding : Document) :
    Option Issue := do
  let key ← finding.textIn? "key"
  let place ← (← finding.member? "loc").member? "start"
  let line ← place.integerIn? "line"
  let file ← match kind with
    | .unused => some target
    | .missing => finding.textIn? "file"
  return ⟨kind, key, viewpoint.display file, line⟩

/-- Reads the findings of a sheet, the unused ones first. -/
def readSheet (viewpoint : Viewpoint) (target : String) (sheet : Document) :
    Option (List Issue) := do
  let unused ← (← sheet.itemsIn? "unused").mapM (readIssue viewpoint target .unused)
  let missing ← (← sheet.itemsIn? "missing").mapM (readIssue viewpoint target .missing)
  return unused ++ missing

/-- Reads the findings of a target. -/
def readResult (viewpoint : Viewpoint) (target : String) (result : Document) :
    Option (List Issue) := do
  let sheets ← (← result.itemsIn? "sheets").mapM (readSheet viewpoint target)
  return sheets.flatten

/-- Reads the findings of a payload. -/
def readIssues (viewpoint : Viewpoint) (payload : Document) : Option (List Issue) := do
  let targets ← (← payload.members?).mapM fun (target, result) => readResult viewpoint target result
  return targets.flatten

theorem mapM_map_eq_some {α β γ : Type} (write : α → β) (step : β → Option γ) (value : α → γ)
    (items : List α) (each : ∀ item ∈ items, step (write item) = some (value item)) :
    (items.map write).mapM step = some (items.map value) := by
  induction items with
  | nil => rfl
  | cons item rest ih =>
      rw [List.map_cons, List.mapM_cons, each item List.mem_cons_self,
        ih fun other member => each other (List.mem_cons_of_mem item member)]
      rfl

theorem readIssue_unused (viewpoint : Viewpoint) (target : String) (finding : Finding) :
    readIssue viewpoint target .unused finding.document =
      some (finding.unusedIssue (viewpoint.display target)) := by
  obtain ⟨key, span, code, file⟩ := finding
  cases file <;> rfl

theorem readIssue_missing (viewpoint : Viewpoint) (target : String) {finding : Finding}
    (placed : ∃ file, finding.file = some file) :
    readIssue viewpoint target .missing finding.document =
      some (finding.missingIssue viewpoint) := by
  obtain ⟨file, place⟩ := placed
  obtain ⟨key, span, code, other⟩ := finding
  cases place
  rfl

theorem readSheet_document (viewpoint : Viewpoint) (target : String) {sheet : SheetReport}
    (placed : ∀ finding ∈ sheet.missing, ∃ file, finding.file = some file) :
    readSheet viewpoint target sheet.document =
      some (sheet.issues viewpoint (viewpoint.display target)) := by
  have unused := mapM_map_eq_some Finding.document (readIssue viewpoint target .unused) _
    sheet.unused fun finding _ => readIssue_unused viewpoint target finding
  have missing := mapM_map_eq_some Finding.document (readIssue viewpoint target .missing) _
    sheet.missing fun finding member => readIssue_missing viewpoint target (placed finding member)
  show (do
    let unused ← (sheet.unused.map Finding.document).mapM (readIssue viewpoint target .unused)
    let missing ← (sheet.missing.map Finding.document).mapM (readIssue viewpoint target .missing)
    return unused ++ missing : Option (List Issue)) = _
  rw [unused, missing]
  rfl

theorem readResult_document (viewpoint : Viewpoint) (file : Path) {result : AnalysisResult}
    (placed : result.Placed) :
    readResult viewpoint file.text result.document = some (result.issues viewpoint file) := by
  have sheets := mapM_map_eq_some SheetReport.document (readSheet viewpoint file.text) _
    result.sheets fun sheet member => readSheet_document viewpoint file.text (placed sheet member)
  show (do
    let sheets ← (result.sheets.map SheetReport.document).mapM (readSheet viewpoint file.text)
    return sheets.flatten : Option (List Issue)) = _
  rw [sheets, AnalysisResult.issues, List.flatMap_def]
  rfl

/-- The findings of a payload are the issues of its results. -/
theorem readIssues_document (viewpoint : Viewpoint) {results : Results} (placed : results.Placed) :
    readIssues viewpoint results.document = some (results.issues viewpoint) := by
  have targets := mapM_map_eq_some
    (fun entry : Path × AnalysisResult => (entry.1.text, entry.2.document))
    (fun entry => readResult viewpoint entry.1 entry.2) _ results
    fun entry member => readResult_document viewpoint entry.1 (placed entry member)
  show (do
    let targets ← (results.map fun entry : Path × AnalysisResult =>
      (entry.1.text, entry.2.document)).mapM fun entry => readResult viewpoint entry.1 entry.2
    return targets.flatten : Option (List Issue)) = _
  rw [targets, Results.issues, List.flatMap_def]
  rfl

end Payload

end StyleAudit
