import StyleAudit.Failure
import StyleAudit.Keyed
import StyleAudit.Message
import StyleAudit.Path
import StyleAudit.Sheet
import StyleAudit.Text.Blank

/-!
Reporting results to the user.

Every sheet gives one message that says whether it is clean, every finding one that names it and one
with its code, every file with findings one that counts them, and the whole report ends in one that
says whether there were any.
-/

set_option autoImplicit false

namespace StyleAudit

/-- Results of files, each file once. -/
abbrev Results := List (Path × AnalysisResult)

namespace Results

/-- Puts a result among others; a file already there keeps its place. -/
def insert (file : Path) (result : AnalysisResult) (results : Results) : Results :=
  Keyed.put (·.1) (file, result) results

/-- Results in the order in which their files are first named. -/
def ofList (results : List (Path × AnalysisResult)) : Results :=
  results.foldl (fun all (file, result) => all.insert file result) []

/-- The findings in all files, in order. -/
def findings (results : Results) : List Finding :=
  results.flatMap fun (_, result) => result.findings

/-- How many findings there are. -/
def findingCount (results : Results) : Nat :=
  results.findings.length

/-- How many files have findings. -/
def failedCount (results : Results) : Nat :=
  results.countP fun (_, result) => result.findingCount != 0

/-- Whether no file has findings. -/
def areClean (results : Results) : Bool :=
  results.all fun (_, result) => result.isClean

end Results

/-- What paths are seen from: the current directory, and the one that shown paths start from. -/
structure Viewpoint where
  current : List String
  root : Path
deriving DecidableEq, Repr

/-- A path as it is shown: from the root where it lies below it, and else as it is given. -/
def Viewpoint.display (viewpoint : Viewpoint) (path : String) : String :=
  let file := (Path.ofText path).resolve viewpoint.current
  match file.relativeTo? (viewpoint.root.resolve viewpoint.current) with
  | some inside => inside.text
  | none => path

namespace Report

/-- A count as a parameter. -/
def count (number : Nat) : Value :=
  .integer number

/-- The messages about a finding: what it is, and its code. -/
def findingMessages (id path : String) (finding : Finding) : List Message :=
  [⟨.warning, id,
      [("key", .text finding.key), ("path", .text path),
        ("line", .integer finding.span.start.line)]⟩,
    ⟨.debug, "check.issue.code", [("code", .text (Text.trim finding.code))]⟩]

/-- The messages about an unused key. -/
def unusedMessages (path : String) (finding : Finding) : List Message :=
  findingMessages "check.issue.unused" path finding

/-- The messages about a missing key, which lies in the file that asks for it. -/
def missingMessages (viewpoint : Viewpoint) (finding : Finding) : Except Fault (List Message) :=
  match finding.file with
  | some file => .ok (findingMessages "check.issue.missing" (viewpoint.display file) finding)
  | none => .error (.unplacedFinding finding.key)

/-- The line that a sheet starts in; zero where it is unknown. -/
def sheetLine (sheet : SheetReport) : Int :=
  match sheet.span with
  | some span => span.start.line
  | none => 0

/-- The messages about a sheet. -/
def sheetMessages (viewpoint : Viewpoint) (path : String) (sheet : SheetReport) :
    Except Fault (List Message) := do
  if sheet.isClean then
    return [⟨.success, "check.sheet.clean",
      [("path", .text path), ("name", .text sheet.identifier)]⟩]
  else
    let header : Message := ⟨.warning, "check.sheet.header",
      [("path", .text path), ("line", .integer (sheetLine sheet)),
        ("name", .text sheet.identifier)]⟩
    let missing ← sheet.missing.mapM (missingMessages viewpoint)
    return header :: sheet.unused.flatMap (unusedMessages path) ++ missing.flatten

/-- The message that counts the findings of a file, if there are any. -/
def countMessages (path : String) (result : AnalysisResult) : List Message :=
  if result.findingCount = 0 then []
  else [⟨.warning, "check.file.warn",
    [("path", .text path), ("count", count result.findingCount)]⟩]

/-- The messages about a file. -/
def fileMessages (viewpoint : Viewpoint) (file : Path) (result : AnalysisResult) :
    Except Fault (List Message) := do
  let path := viewpoint.display file.text
  if result.sheets.isEmpty then
    return [⟨.info, "check.file.no_sheets", [("path", .text path)]⟩]
  else
    let sheets ← result.sheets.mapM (sheetMessages viewpoint path)
    return sheets.flatten ++ countMessages path result

/-- The message about the whole run. -/
def runMessage (results : Results) : Message :=
  if results.findingCount = 0 then ⟨.success, "check.run.success", []⟩
  else ⟨.error, "check.run.fail",
    [("count", count results.findingCount), ("files", count results.failedCount)]⟩

/-- The messages about results. -/
def messages (viewpoint : Viewpoint) (results : Results) : Except Fault (List Message) := do
  let files ← results.mapM fun (file, result) => fileMessages viewpoint file result
  return files.flatten ++ [runMessage results]

/-- Whether a report tells of no findings. -/
def isSuccess (results : Results) : Bool :=
  results.findingCount = 0

end Report

end StyleAudit
