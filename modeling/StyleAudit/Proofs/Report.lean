import StyleAudit.Proofs.Analysis
import StyleAudit.Proofs.Rendering
import StyleAudit.Report

/-!
What a report tells.

Results whose missing findings carry their files are always reported, and every message is a
packaged one. The messages about findings are the findings of the results, one by one and in order.
-/

set_option autoImplicit false

namespace StyleAudit

/-! ### Issues -/

/-- What kind of finding a message is about. -/
inductive IssueKind where
  | unused
  | missing
deriving DecidableEq, Repr

/-- The address of the messages about a kind of finding. -/
def IssueKind.address : IssueKind → String
  | unused => "check.issue.unused"
  | missing => "check.issue.missing"

/-- A finding as it is told, with the shown path of the file that it lies in. -/
structure Issue where
  kind : IssueKind
  key : String
  path : String
  line : Int
deriving DecidableEq, Repr

/-- The message that tells an issue. -/
def Issue.message (issue : Issue) : Message :=
  ⟨.warning, issue.kind.address,
    [("key", .text issue.key), ("path", .text issue.path), ("line", .integer issue.line)]⟩

/-- Whether a message tells an issue. -/
def Message.isIssue (message : Message) : Bool :=
  message.id == IssueKind.unused.address || message.id == IssueKind.missing.address

/-- An unused key of a file that is shown by a path. -/
def Finding.unusedIssue (path : String) (finding : Finding) : Issue :=
  ⟨.unused, finding.key, path, finding.span.start.line⟩

/-- A missing key. It lies in the file that asks for it. -/
def Finding.missingIssue (viewpoint : Viewpoint) (finding : Finding) : Issue :=
  ⟨.missing, finding.key, viewpoint.display (finding.file.getD ""), finding.span.start.line⟩

/-- The issues of a sheet, the unused ones first. -/
def SheetReport.issues (viewpoint : Viewpoint) (path : String) (sheet : SheetReport) :
    List Issue :=
  sheet.unused.map (Finding.unusedIssue path) ++ sheet.missing.map (Finding.missingIssue viewpoint)

/-- The issues of a file, sheet by sheet. -/
def AnalysisResult.issues (viewpoint : Viewpoint) (file : Path) (result : AnalysisResult) :
    List Issue :=
  result.sheets.flatMap (SheetReport.issues viewpoint (viewpoint.display file.text))

/-- The issues of results, file by file. -/
def Results.issues (viewpoint : Viewpoint) (results : Results) : List Issue :=
  results.flatMap fun (file, result) => result.issues viewpoint file

/-! ### Placed findings -/

/-- Whether every missing finding says which file asks for the key. -/
def AnalysisResult.Placed (result : AnalysisResult) : Prop :=
  ∀ sheet ∈ result.sheets, ∀ finding ∈ sheet.missing, ∃ file, finding.file = some file

def Results.Placed (results : Results) : Prop :=
  ∀ entry ∈ results, entry.2.Placed

theorem analyze_placed {reading : Reading} {settings : Settings} {target : Path}
    {shared : Option Path} {result : AnalysisResult}
    (success : (analyze reading settings target shared).result = .ok result) : result.Placed := by
  obtain ⟨extraction, sharedKeys, configured, sources, _, _, _, _, rfl⟩ :=
    (analyze_eq_ok_iff reading settings target shared result).mp success
  intro report member finding missing
  obtain ⟨sheet, _, rfl⟩ := List.mem_map.mp member
  obtain ⟨source, _, reference, _, _, rfl⟩ := mem_reportOn_missing missing
  exact ⟨source.path, rfl⟩

/-! ### Findings and success -/

theorem SheetReport.isClean_iff (sheet : SheetReport) :
    sheet.isClean = true ↔ sheet.findings = [] := by
  rw [isClean, findings, Bool.and_eq_true, List.isEmpty_iff, List.isEmpty_iff,
    List.append_eq_nil_iff]

theorem AnalysisResult.isClean_iff (result : AnalysisResult) :
    result.isClean = true ↔ result.findings = [] := by
  rw [isClean, findings, List.all_eq_true, List.flatMap_eq_nil_iff]
  simp only [SheetReport.isClean_iff]

theorem Results.areClean_iff (results : Results) :
    results.areClean = true ↔ results.findings = [] := by
  rw [areClean, findings, List.all_eq_true, List.flatMap_eq_nil_iff]
  simp only [AnalysisResult.isClean_iff]

/-- A report is a success exactly when every result is clean by itself. -/
theorem isSuccess_eq_areClean (results : Results) :
    Report.isSuccess results = results.areClean := by
  rw [Bool.eq_iff_iff, Results.areClean_iff, Report.isSuccess, Results.findingCount,
    decide_eq_true_eq, List.length_eq_zero_iff]

/-! ### Messages -/

namespace Report

/-- What is told about a finding, its issue first. -/
def issueTold (finding : Finding) (issue : Issue) : List Message :=
  [issue.message, ⟨.debug, "check.issue.code", [("code", .text (Text.trim finding.code))]⟩]

theorem missingMessages_eq (viewpoint : Viewpoint) {finding : Finding}
    (placed : ∃ file, finding.file = some file) :
    missingMessages viewpoint finding =
      .ok (issueTold finding (finding.missingIssue viewpoint)) := by
  obtain ⟨file, place⟩ := placed
  rw [missingMessages, Finding.missingIssue, place]
  rfl

/-- What is told about a sheet. -/
def sheetTold (viewpoint : Viewpoint) (path : String) (sheet : SheetReport) : List Message :=
  if sheet.isClean then
    [⟨.success, "check.sheet.clean", [("path", .text path), ("name", .text sheet.identifier)]⟩]
  else
    ⟨.warning, "check.sheet.header", [("path", .text path), ("line", .integer (sheetLine sheet)),
      ("name", .text sheet.identifier)]⟩ ::
    (sheet.unused.flatMap fun finding => issueTold finding (finding.unusedIssue path)) ++
      sheet.missing.flatMap fun finding => issueTold finding (finding.missingIssue viewpoint)

theorem sheetMessages_eq (viewpoint : Viewpoint) (path : String) {sheet : SheetReport}
    (placed : ∀ finding ∈ sheet.missing, ∃ file, finding.file = some file) :
    sheetMessages viewpoint path sheet = .ok (sheetTold viewpoint path sheet) := by
  have missing := mapM_eq_ok_of_forall (missingMessages viewpoint)
    (fun finding => issueTold finding (finding.missingIssue viewpoint)) sheet.missing
    fun finding member => missingMessages_eq viewpoint (placed finding member)
  rw [sheetMessages, sheetTold, missing]
  cases sheet.isClean with
  | true => rfl
  | false =>
      simp only [Bool.false_eq_true, ↓reduceIte, List.flatMap_def, bind, Except.bind, pure,
        Except.pure, List.cons_append]
      rfl

/-- What is told about a file. -/
def fileTold (viewpoint : Viewpoint) (file : Path) (result : AnalysisResult) : List Message :=
  if result.sheets.isEmpty then
    [⟨.info, "check.file.no_sheets", [("path", .text (viewpoint.display file.text))]⟩]
  else
    result.sheets.flatMap (sheetTold viewpoint (viewpoint.display file.text)) ++
      countMessages (viewpoint.display file.text) result

theorem fileMessages_eq (viewpoint : Viewpoint) (file : Path) {result : AnalysisResult}
    (placed : result.Placed) :
    fileMessages viewpoint file result = .ok (fileTold viewpoint file result) := by
  have sheets := mapM_eq_ok_of_forall (sheetMessages viewpoint (viewpoint.display file.text))
    (sheetTold viewpoint (viewpoint.display file.text)) result.sheets
    fun sheet member => sheetMessages_eq viewpoint _ (placed sheet member)
  rw [fileMessages, fileTold, sheets]
  cases result.sheets.isEmpty with
  | true => rfl
  | false => simp only [Bool.false_eq_true, ↓reduceIte, List.flatMap_def, bind, Except.bind, pure,
      Except.pure]

/-- What is told about results. -/
def told (viewpoint : Viewpoint) (results : Results) : List Message :=
  (results.flatMap fun (file, result) => fileTold viewpoint file result) ++ [runMessage results]

/-- Placed results are reported without a fault. -/
theorem messages_eq (viewpoint : Viewpoint) {results : Results} (placed : results.Placed) :
    messages viewpoint results = .ok (told viewpoint results) := by
  have files := mapM_eq_ok_of_forall
    (fun entry : Path × AnalysisResult => fileMessages viewpoint entry.1 entry.2)
    (fun entry => fileTold viewpoint entry.1 entry.2) results
    fun entry member => fileMessages_eq viewpoint entry.1 (placed entry member)
  rw [messages, told]
  show (do
    let files ← results.mapM fun entry : Path × AnalysisResult =>
      fileMessages viewpoint entry.1 entry.2
    pure (files.flatten ++ [runMessage results]) : Except Fault (List Message)) = _
  rw [files, List.flatMap_def]
  rfl

/-! ### The issues among the messages -/

theorem filter_flatMap_issueTold (findings : List Finding) (issue : Finding → Issue) :
    (findings.flatMap fun finding => issueTold finding (issue finding)).filter Message.isIssue =
      (findings.map issue).map Issue.message := by
  rw [List.filter_flatMap, List.map_map, List.map_eq_flatMap]
  congr 1
  funext finding
  have told : (issue finding).message.isIssue = true := by
    cases kind : (issue finding).kind <;> simp [Message.isIssue, Issue.message, kind]
  have code : Message.isIssue ⟨.debug, "check.issue.code",
      [("code", .text (Text.trim finding.code))]⟩ = false := by
    simp [Message.isIssue, IssueKind.address]
  simp only [issueTold, List.filter_cons, told, code, ↓reduceIte, Bool.false_eq_true,
    List.filter_nil, Function.comp_apply]

theorem filter_sheetTold (viewpoint : Viewpoint) (path : String) (sheet : SheetReport) :
    (sheetTold viewpoint path sheet).filter Message.isIssue =
      (sheet.issues viewpoint path).map Issue.message := by
  rw [sheetTold, SheetReport.issues]
  split
  · rename_i clean
    rw [SheetReport.isClean, Bool.and_eq_true, List.isEmpty_iff, List.isEmpty_iff] at clean
    rw [clean.1, clean.2]
    simp [Message.isIssue, IssueKind.address]
  · rw [List.cons_append, List.filter_cons_of_neg (by simp [Message.isIssue, IssueKind.address]),
      List.filter_append, filter_flatMap_issueTold, filter_flatMap_issueTold, List.map_append]

theorem filter_fileTold (viewpoint : Viewpoint) (file : Path) (result : AnalysisResult) :
    (fileTold viewpoint file result).filter Message.isIssue =
      (result.issues viewpoint file).map Issue.message := by
  rw [fileTold, AnalysisResult.issues]
  split
  · rename_i bare
    rw [List.isEmpty_iff.mp bare]
    simp [Message.isIssue, IssueKind.address]
  · have counted : (countMessages (viewpoint.display file.text) result).filter Message.isIssue =
        [] := by
      unfold countMessages
      split <;> simp [Message.isIssue, IssueKind.address]
    rw [List.filter_append, counted, List.append_nil, List.filter_flatMap, List.map_flatMap]
    simp only [filter_sheetTold]

/-- The messages about findings tell the issues of the results, one by one and in order. -/
theorem filter_told (viewpoint : Viewpoint) (results : Results) :
    (told viewpoint results).filter Message.isIssue =
      (results.issues viewpoint).map Issue.message := by
  have final : [runMessage results].filter Message.isIssue = [] := by
    unfold runMessage
    split <;> simp [Message.isIssue, IssueKind.address]
  rw [told, Results.issues, List.filter_append, final, List.append_nil, List.filter_flatMap,
    List.map_flatMap]
  simp only [filter_fileTold]

/-! ### Packaged messages -/

theorem issueTold_packaged (finding : Finding) (issue : Issue) :
    ∀ message ∈ issueTold finding issue, message.IsPackaged := by
  intro message member
  rw [issueTold, List.mem_cons, List.mem_singleton] at member
  rcases member with rfl | rfl
  · cases kind : issue.kind <;> simp [Message.IsPackaged, Issue.message, kind, Packaged.sent,
      IssueKind.address]
  · simp [Message.IsPackaged, Packaged.sent]

theorem sheetTold_packaged (viewpoint : Viewpoint) (path : String) (sheet : SheetReport) :
    ∀ message ∈ sheetTold viewpoint path sheet, message.IsPackaged := by
  intro message member
  unfold sheetTold at member
  split at member
  · rw [List.mem_singleton] at member
    subst member
    simp [Message.IsPackaged, Packaged.sent]
  · rw [List.cons_append, List.mem_cons, List.mem_append] at member
    rcases member with rfl | unused | missing
    · simp [Message.IsPackaged, Packaged.sent]
    · obtain ⟨finding, _, inside⟩ := List.mem_flatMap.mp unused
      exact issueTold_packaged _ _ message inside
    · obtain ⟨finding, _, inside⟩ := List.mem_flatMap.mp missing
      exact issueTold_packaged _ _ message inside

theorem fileTold_packaged (viewpoint : Viewpoint) (file : Path) (result : AnalysisResult) :
    ∀ message ∈ fileTold viewpoint file result, message.IsPackaged := by
  intro message member
  unfold fileTold at member
  split at member
  · rw [List.mem_singleton] at member
    subst member
    simp [Message.IsPackaged, Packaged.sent]
  · rcases List.mem_append.mp member with sheets | counted
    · obtain ⟨sheet, _, inside⟩ := List.mem_flatMap.mp sheets
      exact sheetTold_packaged _ _ sheet message inside
    · unfold countMessages at counted
      split at counted
      · cases counted
      · rw [List.mem_singleton] at counted
        subst counted
        simp [Message.IsPackaged, Packaged.sent]

theorem told_packaged (viewpoint : Viewpoint) (results : Results) :
    ∀ message ∈ told viewpoint results, message.IsPackaged := by
  intro message member
  rcases List.mem_append.mp member with files | final
  · obtain ⟨entry, _, inside⟩ := List.mem_flatMap.mp files
    exact fileTold_packaged _ _ _ message inside
  · rw [List.mem_singleton] at final
    subst final
    unfold runMessage
    split <;> simp [Message.IsPackaged, Packaged.sent]

/-! ### Reports that break off -/

/-- What is sent about a missing key, unless the file that asks for it is not known. -/
def missingSteps (viewpoint : Viewpoint) (finding : Finding) : List (Except Fault Message) :=
  match finding.file with
  | some file => (findingMessages "check.issue.missing" (viewpoint.display file) finding).map .ok
  | none => [.error (.unplacedFinding finding.key)]

/-- What is sent about a sheet, one by one. -/
def sheetSteps (viewpoint : Viewpoint) (path : String) (sheet : SheetReport) :
    List (Except Fault Message) :=
  if sheet.isClean then
    [.ok ⟨.success, "check.sheet.clean",
      [("path", .text path), ("name", .text sheet.identifier)]⟩]
  else
    .ok ⟨.warning, "check.sheet.header",
      [("path", .text path), ("line", .integer (sheetLine sheet)),
        ("name", .text sheet.identifier)]⟩ ::
    (sheet.unused.flatMap (unusedMessages path)).map .ok ++
      sheet.missing.flatMap (missingSteps viewpoint)

/-- What is sent about a file, one by one. -/
def fileSteps (viewpoint : Viewpoint) (file : Path) (result : AnalysisResult) :
    List (Except Fault Message) :=
  if result.sheets.isEmpty then
    [.ok ⟨.info, "check.file.no_sheets", [("path", .text (viewpoint.display file.text))]⟩]
  else
    result.sheets.flatMap (sheetSteps viewpoint (viewpoint.display file.text)) ++
      (countMessages (viewpoint.display file.text) result).map .ok

/-- What is sent about results, one by one. A missing key without its file stands where a report
breaks off. -/
def steps (viewpoint : Viewpoint) (results : Results) : List (Except Fault Message) :=
  (results.flatMap fun (file, result) => fileSteps viewpoint file result) ++
    [.ok (runMessage results)]

/-- The messages in front of the first fault. -/
def beforeFault : List (Except Fault Message) → List Message
  | .ok message :: rest => message :: beforeFault rest
  | _ => []

/-- The messages about results that are sent, whether or not the report comes to its end. -/
def sent (viewpoint : Viewpoint) (results : Results) : List Message :=
  beforeFault (steps viewpoint results)

theorem mem_of_mem_beforeFault {steps : List (Except Fault Message)} {message : Message}
    (member : message ∈ beforeFault steps) : .ok message ∈ steps := by
  induction steps with
  | nil => cases member
  | cons step rest ih =>
      cases step with
      | error fault => cases member
      | ok first =>
          rcases List.mem_cons.mp member with rfl | later
          · exact List.mem_cons_self
          · exact List.mem_cons_of_mem _ (ih later)

theorem mapM_id_map_ok (messages : List Message) :
    (messages.map (.ok : Message → Except Fault Message)).mapM id = .ok messages := by
  induction messages with
  | nil => rfl
  | cons message rest ih =>
      rw [List.map_cons, List.mapM_cons, ih]
      rfl

/-- Of messages without a fault among them all are sent. -/
theorem beforeFault_of_ok {steps : List (Except Fault Message)} {messages : List Message}
    (whole : steps.mapM id = .ok messages) : beforeFault steps = messages := by
  have each := (mapM_eq_ok_iff id steps messages).mp whole
  clear whole
  induction each with
  | nil => rfl
  | cons same _ ih =>
      cases same
      rw [beforeFault, ih]

theorem mapM_id_flatMap {α : Type} (step : α → List (Except Fault Message)) (items : List α) :
    (items.flatMap step).mapM id =
      (items.mapM fun item => (step item).mapM id).map List.flatten := by
  induction items with
  | nil => rfl
  | cons item rest ih =>
      rw [List.flatMap_cons, List.mapM_append, ih, List.mapM_cons]
      cases (step item).mapM id with
      | error fault => rfl
      | ok first => cases rest.mapM fun item => (step item).mapM id <;> rfl

theorem missingMessages_eq_steps (viewpoint : Viewpoint) (finding : Finding) :
    missingMessages viewpoint finding = (missingSteps viewpoint finding).mapM id := by
  unfold missingMessages missingSteps
  cases finding.file with
  | some file => exact (mapM_id_map_ok _).symm
  | none => rfl

theorem sheetMessages_eq_steps (viewpoint : Viewpoint) (path : String) (sheet : SheetReport) :
    sheetMessages viewpoint path sheet = (sheetSteps viewpoint path sheet).mapM id := by
  unfold sheetMessages sheetSteps
  split
  · rfl
  · rw [List.cons_append, List.mapM_cons, List.mapM_append, mapM_id_map_ok, mapM_id_flatMap]
    simp only [← missingMessages_eq_steps]
    cases sheet.missing.mapM (missingMessages viewpoint) <;> rfl

theorem fileMessages_eq_steps (viewpoint : Viewpoint) (file : Path) (result : AnalysisResult) :
    fileMessages viewpoint file result = (fileSteps viewpoint file result).mapM id := by
  unfold fileMessages fileSteps
  dsimp only
  split
  · rfl
  · rw [List.mapM_append, mapM_id_map_ok, mapM_id_flatMap]
    simp only [← sheetMessages_eq_steps]
    cases result.sheets.mapM (sheetMessages viewpoint (viewpoint.display file.text)) <;> rfl

/-- A report is what is sent, one by one, unless it breaks off. -/
theorem messages_eq_steps (viewpoint : Viewpoint) (results : Results) :
    messages viewpoint results = (steps viewpoint results).mapM id := by
  unfold messages steps
  rw [List.mapM_append, mapM_id_flatMap]
  simp only [← fileMessages_eq_steps]
  cases results.mapM fun entry : Path × AnalysisResult =>
    fileMessages viewpoint entry.1 entry.2 <;> rfl

theorem sent_of_messages {viewpoint : Viewpoint} {results : Results} {all : List Message}
    (whole : messages viewpoint results = .ok all) : sent viewpoint results = all :=
  beforeFault_of_ok ((messages_eq_steps viewpoint results).symm.trans whole)

theorem mem_issueTold {viewpoint : Viewpoint} {finding : Finding} {message : Message}
    (member : .ok message ∈ missingSteps viewpoint finding) :
    message ∈ issueTold finding (finding.missingIssue viewpoint) := by
  unfold missingSteps at member
  split at member
  · rename_i file placed
    obtain ⟨other, told, same⟩ := List.mem_map.mp member
    cases same
    rw [Finding.missingIssue, placed]
    exact told
  · cases List.mem_singleton.mp member

theorem mem_sheetTold {viewpoint : Viewpoint} {path : String} {sheet : SheetReport}
    {message : Message} (member : .ok message ∈ sheetSteps viewpoint path sheet) :
    message ∈ sheetTold viewpoint path sheet := by
  unfold sheetSteps at member
  unfold sheetTold
  split at member
  · rename_i clean
    cases List.mem_singleton.mp member
    rw [if_pos clean]
    exact List.mem_cons_self
  · rename_i dirty
    rw [if_neg dirty, List.cons_append, List.mem_cons, List.mem_append]
    rw [List.cons_append, List.mem_cons, List.mem_append] at member
    rcases member with header | unused | missing
    · cases header
      exact Or.inl rfl
    · obtain ⟨other, told, same⟩ := List.mem_map.mp unused
      cases same
      exact Or.inr (Or.inl told)
    · obtain ⟨finding, listed, inside⟩ := List.mem_flatMap.mp missing
      exact Or.inr (Or.inr (List.mem_flatMap.mpr ⟨finding, listed, mem_issueTold inside⟩))

theorem mem_fileTold {viewpoint : Viewpoint} {file : Path} {result : AnalysisResult}
    {message : Message} (member : .ok message ∈ fileSteps viewpoint file result) :
    message ∈ fileTold viewpoint file result := by
  unfold fileSteps at member
  unfold fileTold
  split at member
  · rename_i bare
    cases List.mem_singleton.mp member
    rw [if_pos bare]
    exact List.mem_cons_self
  · rename_i some_sheet
    rw [if_neg some_sheet, List.mem_append]
    rcases List.mem_append.mp member with sheets | counted
    · obtain ⟨sheet, listed, inside⟩ := List.mem_flatMap.mp sheets
      exact Or.inl (List.mem_flatMap.mpr ⟨sheet, listed, mem_sheetTold inside⟩)
    · obtain ⟨other, told, same⟩ := List.mem_map.mp counted
      cases same
      exact Or.inr told

/-- Whatever is sent is among what is told, also where the report breaks off. -/
theorem mem_told_of_mem_sent {viewpoint : Viewpoint} {results : Results} {message : Message}
    (member : message ∈ sent viewpoint results) : message ∈ told viewpoint results := by
  rw [told, List.mem_append]
  rcases List.mem_append.mp (mem_of_mem_beforeFault member) with files | final
  · obtain ⟨entry, listed, inside⟩ := List.mem_flatMap.mp files
    exact Or.inl (List.mem_flatMap.mpr ⟨entry, listed, mem_fileTold inside⟩)
  · cases List.mem_singleton.mp final
    exact Or.inr List.mem_cons_self

end Report

end StyleAudit
