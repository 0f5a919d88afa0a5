import Mathlib.Algebra.GroupWithZero.Nat
import StyleAudit.Proofs.Report

/-!
What a report conserves.

The messages about findings are the findings themselves: each is told once, in order, with its code
right behind it, and no other message looks like one. The counts that the report gives for a file
and for the whole run are the numbers of the messages that were told.
-/

set_option autoImplicit false

namespace StyleAudit

/-! ### Kinds of messages -/

/-- The message with the code of a finding. -/
def Finding.codeMessage (finding : Finding) : Message :=
  ⟨.debug, "check.issue.code", [("code", .text (Text.trim finding.code))]⟩

namespace Message

/-- Whether a message shows the code of a finding. -/
def isCode (message : Message) : Bool :=
  message.id == "check.issue.code"

/-- Whether a message opens what is told about a sheet. -/
def isSheet (message : Message) : Bool :=
  message.id == "check.sheet.clean" || message.id == "check.sheet.header"

/-- Whether a message says that a file declares no sheets. -/
def isBare (message : Message) : Bool :=
  message.id == "check.file.no_sheets"

/-- Whether a message counts the findings of a file. -/
def isCount (message : Message) : Bool :=
  message.id == "check.file.warn"

/-- Whether a message ends a report. -/
def isEnd (message : Message) : Bool :=
  message.id == "check.run.success" || message.id == "check.run.fail"

end Message

/-! ### Findings among messages -/

/-- Messages that tell issues and the findings behind them, one by one and in order. The message
of an issue is followed at once by the code of its finding, and no further message is of either
kind. -/
inductive TellsFindings : List Issue → List Finding → List Message → Prop where
  | nil : TellsFindings [] [] []
  | finding {issues : List Issue} {findings : List Finding} {messages : List Message}
      (issue : Issue) (finding : Finding) (rest : TellsFindings issues findings messages) :
      TellsFindings (issue :: issues) (finding :: findings)
        (issue.message :: finding.codeMessage :: messages)
  | other {issues : List Issue} {findings : List Finding} {messages : List Message}
      (message : Message) (noIssue : message.isIssue = false) (noCode : message.isCode = false)
      (rest : TellsFindings issues findings messages) :
      TellsFindings issues findings (message :: messages)

theorem Issue.message_isIssue (issue : Issue) : issue.message.isIssue = true := by
  cases kind : issue.kind <;> simp [Message.isIssue, Issue.message, kind]

theorem Finding.codeMessage_isIssue (finding : Finding) : finding.codeMessage.isIssue = false := by
  simp [Message.isIssue, Finding.codeMessage, IssueKind.address]

namespace TellsFindings

variable {issues others : List Issue} {findings more : List Finding}
  {messages rest : List Message}

theorem append (first : TellsFindings issues findings messages)
    (second : TellsFindings others more rest) :
    TellsFindings (issues ++ others) (findings ++ more) (messages ++ rest) := by
  induction first with
  | nil => exact second
  | finding issue finding _ ih => exact .finding issue finding ih
  | other message noIssue noCode _ ih => exact .other message noIssue noCode ih

theorem single {message : Message} (noIssue : message.isIssue = false)
    (noCode : message.isCode = false) : TellsFindings [] [] [message] :=
  .other message noIssue noCode .nil

/-- What is told item by item is told of all items. -/
theorem flatMap {α : Type} {items : List α} {issues : α → List Issue}
    {findings : α → List Finding} {messages : α → List Message}
    (each : ∀ item, TellsFindings (issues item) (findings item) (messages item)) :
    TellsFindings (items.flatMap issues) (items.flatMap findings) (items.flatMap messages) := by
  induction items with
  | nil => exact .nil
  | cons item rest ih =>
      rw [List.flatMap_cons, List.flatMap_cons, List.flatMap_cons]
      exact (each item).append ih

/-- There are as many messages about issues as findings. -/
theorem countP_isIssue (told : TellsFindings issues findings messages) :
    messages.countP Message.isIssue = findings.length := by
  induction told with
  | nil => rfl
  | finding issue finding _ ih =>
      rw [List.countP_cons_of_pos issue.message_isIssue,
        List.countP_cons_of_neg (by simp [finding.codeMessage_isIssue]), ih, List.length_cons]
  | other message noIssue _ _ ih =>
      rw [List.countP_cons_of_neg (by simp [noIssue]), ih]

end TellsFindings

/-! ### Sheets -/

/-- The message that says whether a sheet is clean. -/
def SheetReport.opening (path : String) (sheet : SheetReport) : Message :=
  if sheet.findings = [] then
    ⟨.success, "check.sheet.clean", [("path", .text path), ("name", .text sheet.identifier)]⟩
  else
    ⟨.warning, "check.sheet.header", [("path", .text path),
      ("line", .integer (Report.sheetLine sheet)), ("name", .text sheet.identifier)]⟩

/-- Whether messages tell of a sheet: first whether it is clean, and behind this, without another
such message, its findings. -/
def SheetReport.ToldBy (viewpoint : Viewpoint) (path : String) (sheet : SheetReport)
    (messages : List Message) : Prop :=
  ∃ rest, messages = sheet.opening path :: rest ∧ (∀ message ∈ rest, message.isSheet = false) ∧
    TellsFindings (sheet.issues viewpoint path) sheet.findings rest

/-- The addresses of the messages about a sheet. -/
def sheetAddresses : List String :=
  ["check.sheet.clean", "check.sheet.header", "check.issue.unused", "check.issue.missing",
    "check.issue.code"]

namespace Report

theorem issueTold_id {finding : Finding} {issue : Issue} {message : Message}
    (member : message ∈ issueTold finding issue) :
    message.id ∈ ["check.issue.unused", "check.issue.missing", "check.issue.code"] := by
  rw [issueTold, List.mem_cons, List.mem_singleton] at member
  rcases member with rfl | rfl
  · cases kind : issue.kind <;> simp [Issue.message, kind, IssueKind.address]
  · simp

/-- The findings of a sheet as they are told. -/
def findingsTold (viewpoint : Viewpoint) (path : String) (sheet : SheetReport) : List Message :=
  (sheet.unused.flatMap fun finding => issueTold finding (finding.unusedIssue path)) ++
    sheet.missing.flatMap fun finding => issueTold finding (finding.missingIssue viewpoint)

theorem findingsTold_tells (viewpoint : Viewpoint) (path : String) (sheet : SheetReport) :
    TellsFindings (sheet.issues viewpoint path) sheet.findings
      (findingsTold viewpoint path sheet) := by
  have each : ∀ (issue : Finding → Issue) (findings : List Finding),
      TellsFindings (findings.map issue) findings
        (findings.flatMap fun finding => issueTold finding (issue finding)) := by
    intro issue findings
    have told : TellsFindings (findings.flatMap fun finding => [issue finding])
        (findings.flatMap fun finding => [finding])
        (findings.flatMap fun finding => issueTold finding (issue finding)) :=
      .flatMap fun finding => .finding (issue finding) finding .nil
    rw [← List.map_eq_flatMap, List.flatMap_singleton'] at told
    exact told
  exact (each _ sheet.unused).append (each _ sheet.missing)

theorem findingsTold_id {viewpoint : Viewpoint} {path : String} {sheet : SheetReport}
    {message : Message} (member : message ∈ findingsTold viewpoint path sheet) :
    message.id ∈ ["check.issue.unused", "check.issue.missing", "check.issue.code"] := by
  rcases List.mem_append.mp member with unused | missing
  · obtain ⟨finding, _, inside⟩ := List.mem_flatMap.mp unused
    exact issueTold_id inside
  · obtain ⟨finding, _, inside⟩ := List.mem_flatMap.mp missing
    exact issueTold_id inside

theorem sheetTold_eq (viewpoint : Viewpoint) (path : String) (sheet : SheetReport) :
    sheetTold viewpoint path sheet = sheet.opening path :: findingsTold viewpoint path sheet := by
  by_cases nothing : sheet.findings = []
  · have both : sheet.unused = [] ∧ sheet.missing = [] := by
      simpa [SheetReport.findings] using nothing
    rw [sheetTold, if_pos (sheet.isClean_iff.mpr nothing), SheetReport.opening, if_pos nothing,
      findingsTold, both.1, both.2]
    rfl
  · rw [sheetTold, if_neg (mt sheet.isClean_iff.mp nothing), SheetReport.opening, if_neg nothing]
    rfl

theorem sheetTold_toldBy (viewpoint : Viewpoint) (path : String) (sheet : SheetReport) :
    sheet.ToldBy viewpoint path (sheetTold viewpoint path sheet) := by
  refine ⟨findingsTold viewpoint path sheet, sheetTold_eq viewpoint path sheet, ?_,
    findingsTold_tells viewpoint path sheet⟩
  intro message member
  have known := findingsTold_id member
  simp only [List.mem_cons, List.not_mem_nil, or_false] at known
  rcases known with named | named | named <;> simp [Message.isSheet, named]

theorem sheetTold_tells (viewpoint : Viewpoint) (path : String) (sheet : SheetReport) :
    TellsFindings (sheet.issues viewpoint path) sheet.findings
      (sheetTold viewpoint path sheet) := by
  rw [sheetTold_eq]
  refine .other _ ?_ ?_ (findingsTold_tells viewpoint path sheet)
  · unfold SheetReport.opening
    split <;> simp [Message.isIssue, IssueKind.address]
  · unfold SheetReport.opening
    split <;> simp [Message.isCode]

theorem sheetTold_id {viewpoint : Viewpoint} {path : String} {sheet : SheetReport}
    {message : Message} (member : message ∈ sheetTold viewpoint path sheet) :
    message.id ∈ sheetAddresses := by
  rw [sheetTold_eq, List.mem_cons] at member
  rcases member with rfl | finding
  · unfold SheetReport.opening
    split <;> simp [sheetAddresses]
  · exact List.mem_cons_of_mem _ (List.mem_cons_of_mem _ (findingsTold_id finding))

end Report

/-! ### Files -/

/-- What the messages about a file amount to. -/
structure AnalysisResult.Account (viewpoint : Viewpoint) (file : Path) (result : AnalysisResult)
    (messages : List Message) : Prop where
  findings : TellsFindings (result.issues viewpoint file) result.findings messages
  /-- Every sheet is told of in its place. -/
  sheets : ∃ parts rest, messages = parts.flatten ++ rest ∧
    List.Forall₂ (SheetReport.ToldBy viewpoint (viewpoint.display file.text)) result.sheets parts ∧
    ∀ message ∈ rest, message.isSheet = false
  /-- That there are no sheets is told once, and only where it is so. -/
  bare : messages.filter Message.isBare = if result.sheets = [] then
    [⟨.info, "check.file.no_sheets", [("path", .text (viewpoint.display file.text))]⟩] else []
  /-- The number of issues is told once, and only where there are any. -/
  counted : messages.filter Message.isCount = if result.findings = [] then [] else
    [⟨.warning, "check.file.warn", [("path", .text (viewpoint.display file.text)),
      ("count", Report.count (messages.countP Message.isIssue))]⟩]
  unended : ∀ message ∈ messages, message.isEnd = false

namespace Report

theorem sheetAddresses_apart {message : Message} (known : message.id ∈ sheetAddresses) :
    message.isBare = false ∧ message.isCount = false ∧ message.isEnd = false := by
  simp only [sheetAddresses, List.mem_cons, List.not_mem_nil, or_false] at known
  rcases known with named | named | named | named | named <;>
    simp [Message.isBare, Message.isCount, Message.isEnd, named]

theorem sheetsTold_apart {viewpoint : Viewpoint} {path : String} {sheets : List SheetReport}
    {message : Message} (member : message ∈ sheets.flatMap (sheetTold viewpoint path)) :
    message.isBare = false ∧ message.isCount = false ∧ message.isEnd = false := by
  obtain ⟨sheet, _, inside⟩ := List.mem_flatMap.mp member
  exact sheetAddresses_apart (sheetTold_id inside)

theorem countMessages_id {path : String} {result : AnalysisResult} {message : Message}
    (member : message ∈ countMessages path result) : message.id = "check.file.warn" := by
  unfold countMessages at member
  split at member
  · cases member
  · rw [List.mem_singleton] at member
    rw [member]

theorem countMessages_tells (path : String) (result : AnalysisResult) :
    TellsFindings [] [] (countMessages path result) := by
  unfold countMessages
  split
  · exact .nil
  · exact .single (by simp [Message.isIssue, IssueKind.address]) (by simp [Message.isCode])

theorem bareTold_account (viewpoint : Viewpoint) (file : Path) {result : AnalysisResult}
    (bare : result.sheets = []) :
    result.Account viewpoint file (fileTold viewpoint file result) := by
  have nothing : result.findings = [] := by rw [AnalysisResult.findings, bare, List.flatMap_nil]
  have noIssues : result.issues viewpoint file = [] := by
    rw [AnalysisResult.issues, bare, List.flatMap_nil]
  have told : fileTold viewpoint file result =
      [⟨.info, "check.file.no_sheets", [("path", .text (viewpoint.display file.text))]⟩] := by
    rw [fileTold, bare]
    rfl
  rw [told]
  exact {
    findings := by
      rw [noIssues, nothing]
      exact .single (by simp [Message.isIssue, IssueKind.address]) (by simp [Message.isCode])
    sheets := ⟨[], _, rfl, by rw [bare]; exact .nil, by simp [Message.isSheet]⟩
    bare := by
      rw [if_pos bare]
      rfl
    counted := by
      rw [if_pos nothing]
      rfl
    unended := by simp [Message.isEnd] }

theorem sheetsTold_account (viewpoint : Viewpoint) (file : Path) {result : AnalysisResult}
    (declared : result.sheets ≠ []) :
    result.Account viewpoint file (fileTold viewpoint file result) := by
  have told : fileTold viewpoint file result =
      result.sheets.flatMap (sheetTold viewpoint (viewpoint.display file.text)) ++
        countMessages (viewpoint.display file.text) result := by
    rw [fileTold, if_neg (by simpa using declared)]
  have tells : TellsFindings (result.issues viewpoint file) result.findings
      (fileTold viewpoint file result) := by
    have sheets : TellsFindings (result.issues viewpoint file) result.findings
        (result.sheets.flatMap (sheetTold viewpoint (viewpoint.display file.text))) :=
      .flatMap fun sheet => sheetTold_tells viewpoint _ sheet
    have both := sheets.append (countMessages_tells (viewpoint.display file.text) result)
    rw [List.append_nil, List.append_nil, ← told] at both
    exact both
  have issues := tells.countP_isIssue
  rw [told] at tells issues ⊢
  refine ⟨tells, ⟨_, _, by rw [List.flatMap_def], ?_, ?_⟩, ?_, ?_, ?_⟩
  · rw [List.forall₂_map_right_iff, List.forall₂_same]
    exact fun sheet _ => sheetTold_toldBy viewpoint _ sheet
  · intro message member
    simp [Message.isSheet, countMessages_id member]
  · rw [if_neg declared, List.filter_eq_nil_iff]
    intro message member
    rcases List.mem_append.mp member with sheets | counted
    · simp [(sheetsTold_apart sheets).1]
    · simp [Message.isBare, countMessages_id counted]
  · have without : (result.sheets.flatMap
        (sheetTold viewpoint (viewpoint.display file.text))).filter Message.isCount = [] := by
      rw [List.filter_eq_nil_iff]
      intro message member
      simp [(sheetsTold_apart member).2.1]
    rw [List.filter_append, without, List.nil_append, issues, countMessages,
      AnalysisResult.findingCount]
    by_cases nothing : result.findings = []
    · simp [nothing]
    · simp [nothing, Message.isCount]
  · intro message member
    rcases List.mem_append.mp member with sheets | counted
    · exact (sheetsTold_apart sheets).2.2
    · simp [Message.isEnd, countMessages_id counted]

theorem fileTold_account (viewpoint : Viewpoint) (file : Path) (result : AnalysisResult) :
    result.Account viewpoint file (fileTold viewpoint file result) := by
  by_cases bare : result.sheets = []
  · exact bareTold_account viewpoint file bare
  · exact sheetsTold_account viewpoint file bare

end Report

/-! ### The report -/

namespace Report

/-- What the messages of a report amount to. -/
structure Account (viewpoint : Viewpoint) (results : Results) (messages : List Message) :
    Prop where
  /-- As many issues are told as there are findings in the results. -/
  total : messages.countP Message.isIssue =
    (results.map fun entry => entry.2.findingCount).sum
  findings : TellsFindings (results.issues viewpoint) results.findings messages
  /-- Every file is told of in its place, and the last message alone ends the report. -/
  files : ∃ parts ending, messages = parts.flatten ++ [ending] ∧
    List.Forall₂ (fun entry part => entry.2.Account viewpoint entry.1 part) results parts ∧
    (∀ message ∈ parts.flatten, message.isEnd = false) ∧
    ending = (if messages.countP Message.isIssue = 0 then ⟨.success, "check.run.success", []⟩
      else ⟨.error, "check.run.fail", [("count", count (messages.countP Message.isIssue)),
        ("files", count (messages.countP Message.isCount))]⟩) ∧
    (isSuccess results = true ↔ ending.id = "check.run.success")
  clean : isSuccess results = true ↔ ∀ entry ∈ results, entry.2.isClean = true

theorem runMessage_apart (results : Results) :
    (runMessage results).isIssue = false ∧ (runMessage results).isCode = false ∧
      (runMessage results).isCount = false := by
  unfold runMessage
  split <;> simp [Message.isIssue, Message.isCode, Message.isCount, IssueKind.address]

theorem told_tells (viewpoint : Viewpoint) (results : Results) :
    TellsFindings (results.issues viewpoint) results.findings (told viewpoint results) := by
  have files : TellsFindings (results.issues viewpoint) results.findings
      (results.flatMap fun entry => fileTold viewpoint entry.1 entry.2) :=
    .flatMap fun entry => (fileTold_account viewpoint entry.1 entry.2).findings
  have final := TellsFindings.single (runMessage_apart results).1 (runMessage_apart results).2.1
  have whole := files.append final
  rw [List.append_nil, List.append_nil] at whole
  exact whole

/-- The files with findings are those for which a count is told. -/
theorem countP_isCount_told (viewpoint : Viewpoint) (results : Results) :
    (told viewpoint results).countP Message.isCount = results.failedCount := by
  have files : (results.flatMap fun entry => fileTold viewpoint entry.1 entry.2).countP
      Message.isCount = results.failedCount := by
    induction results with
    | nil => rfl
    | cons entry rest ih =>
        have counted := (fileTold_account viewpoint entry.1 entry.2).counted
        rw [List.flatMap_cons, List.countP_append, ih, List.countP_eq_length_filter, counted,
          Results.failedCount, Results.failedCount, List.countP_cons, Nat.add_comm]
        by_cases nothing : entry.2.findings = [] <;>
          simp [nothing, AnalysisResult.findingCount]
  have final : [runMessage results].countP Message.isCount = 0 := by
    simp [(runMessage_apart results).2.2]
  have split : told viewpoint results =
      (results.flatMap fun entry => fileTold viewpoint entry.1 entry.2) ++ [runMessage results] :=
    rfl
  rw [split, List.countP_append, files, final, Nat.add_zero]

theorem told_account (viewpoint : Viewpoint) (results : Results) :
    Account viewpoint results (told viewpoint results) := by
  have tells := told_tells viewpoint results
  have issues : (told viewpoint results).countP Message.isIssue = results.findingCount :=
    tells.countP_isIssue
  refine ⟨?_, tells, ⟨results.map fun entry => fileTold viewpoint entry.1 entry.2,
    runMessage results, ?_, ?_, ?_, ?_, ?_⟩, ?_⟩
  · rw [issues, Results.findingCount, Results.findings, List.length_flatMap]
    rfl
  · rw [← List.flatMap_def]
    rfl
  · rw [List.forall₂_map_right_iff, List.forall₂_same]
    exact fun entry _ => fileTold_account viewpoint entry.1 entry.2
  · intro message member
    rw [← List.flatMap_def] at member
    obtain ⟨entry, _, inside⟩ := List.mem_flatMap.mp member
    exact (fileTold_account viewpoint entry.1 entry.2).unended message inside
  · rw [issues, countP_isCount_told, runMessage]
  · rw [isSuccess, runMessage, decide_eq_true_eq]
    split <;> simp_all
  · rw [isSuccess_eq_areClean, Results.areClean, List.all_eq_true]

end Report

/-- Results whose missing findings carry their files are always reported. Every finding is told once
and in order, with its code right behind it; every file and every sheet is told of in its place,
with the counts of what is told; and the last message says how many issues there were in how many
files, or that all results are clean. -/
theorem report_account (viewpoint : Viewpoint) (results : Results) (placed : results.Placed) :
    ∃ messages, Report.messages viewpoint results = .ok messages ∧
      Report.Account viewpoint results messages :=
  ⟨Report.told viewpoint results, Report.messages_eq viewpoint placed,
    Report.told_account viewpoint results⟩

namespace Sample

/-- What is found about a component with two sheets, the second one clean, and about a file without
sheets. -/
def found : Results :=
  [(card, ⟨[⟨"s", some ⟨⟨1, 6⟩, ⟨1, 7⟩⟩, cardText, [⟨"b", ⟨⟨1, 37⟩, ⟨1, 42⟩⟩, cardText, none⟩],
      [⟨"x", ⟨⟨1, 0⟩, ⟨1, 3⟩⟩, menuText, some "Menu.js"⟩]⟩, ⟨"t", none, "", [], []⟩], [cardText]⟩),
    (theme, ⟨[], [themeText]⟩)]

end Sample

/-- Both findings of the component are told and counted. -/
theorem sample_report_account :
    Sample.found.Placed ∧
    ∃ messages, Report.messages ⟨[], Path.current⟩ Sample.found = .ok messages ∧
      Report.Account ⟨[], Path.current⟩ Sample.found messages ∧
      messages.countP Message.isIssue = 2 := by
  have placed : Sample.found.Placed := by
    simp [Results.Placed, AnalysisResult.Placed, Sample.found]
  obtain ⟨messages, told, account⟩ := report_account ⟨[], Path.current⟩ Sample.found placed
  exact ⟨placed, messages, told, account, account.total⟩

end StyleAudit
