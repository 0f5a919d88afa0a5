import StyleAudit.Json.Writer
import StyleAudit.Report

/-!
Results as a JSON document.
-/

set_option autoImplicit false

namespace StyleAudit

open Json (Document)

/-- A position in a document. -/
def Position.document (position : Position) : Document :=
  .object [("line", .integer position.line), ("column", .integer position.column)]

/-- A span in a document. -/
def Span.document (span : Span) : Document :=
  .object [("start", span.start.document), ("end", span.stop.document)]

/-- A finding in a document. -/
def Finding.document (finding : Finding) : Document :=
  let file := match finding.file with
    | some file => [("file", .text file)]
    | none => []
  .object ([("key", .text finding.key), ("loc", finding.span.document),
    ("code", .text finding.code)] ++ file)

/-- A report on a sheet in a document. Reports have no warnings. -/
def SheetReport.document (report : SheetReport) : Document :=
  let span := match report.span with
    | some span => span.document
    | none => .null
  .object [("id", .text report.identifier), ("loc", span), ("code", .text report.code),
    ("warnings", .list []), ("unused", .list (report.unused.map Finding.document)),
    ("missing", .list (report.missing.map Finding.document))]

/-- A result in a document. -/
def AnalysisResult.document (result : AnalysisResult) : Document :=
  .object [("sheets", .list (result.sheets.map SheetReport.document)),
    ("lines", .list (result.lines.map .text))]

/-- Results in a document, by their files. -/
def Results.document (results : Results) : Document :=
  .object (results.map fun (file, result) => (file.text, result.document))

end StyleAudit
