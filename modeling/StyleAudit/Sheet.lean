import StyleAudit.Keyed
import StyleAudit.Position

/-!
Style sheets, references to their keys, and what is found when the two are compared.
-/

set_option autoImplicit false

namespace StyleAudit

/-- A key that a sheet declares, and where. -/
structure KeyDeclaration where
  name : String
  span : Span
deriving DecidableEq, Repr

/-- A declared style sheet. A shared style file as a whole is a sheet without a place. -/
structure Sheet where
  identifier : String
  span : Option Span
  /-- The declared keys in order, each name once. -/
  keys : List KeyDeclaration
deriving DecidableEq, Repr

namespace Sheet

/-- The names of the declared keys, in order. -/
def keyNames (sheet : Sheet) : List String :=
  sheet.keys.map (·.name)

/-- Whether a sheet declares a key. -/
def declares (sheet : Sheet) (name : String) : Bool :=
  sheet.keyNames.contains name

/-- Declares a key: a name already there keeps its place and takes the new span. -/
def declare (sheet : Sheet) (declaration : KeyDeclaration) : Sheet :=
  { sheet with keys := Keyed.put (·.name) declaration sheet.keys }

/-- A sheet that declares the given keys one after the other. -/
def ofDeclarations (identifier : String) (span : Option Span)
    (declarations : List KeyDeclaration) : Sheet :=
  declarations.foldl declare ⟨identifier, span, []⟩

end Sheet

/-- A place where a file reads a key of a style sheet. -/
structure Reference where
  file : String
  key : String
  span : Span
deriving DecidableEq, Repr

/-- The references of a group of files, with the lines of each file that was visited. -/
structure ReferenceCollection where
  references : List Reference
  /-- The visited files in order, each path once. -/
  files : List (String × List String)
deriving DecidableEq, Repr

namespace ReferenceCollection

/-- No file visited yet. -/
def empty : ReferenceCollection :=
  ⟨[], []⟩

/-- The keys referred to, in order and with repetitions. -/
def keys (collection : ReferenceCollection) : List String :=
  collection.references.map (·.key)

/-- The lines of a visited file. -/
def lines? (collection : ReferenceCollection) (file : String) : Option (List String) :=
  collection.files.lookup file

/-- Records the lines of a file; a path already there keeps its place. -/
def insertFile (path : String) (lines : List String) (files : List (String × List String)) :
    List (String × List String) :=
  Keyed.put (·.1) (path, lines) files

end ReferenceCollection

/-- A key that is declared and not referred to, or referred to and not declared. -/
structure Finding where
  key : String
  span : Span
  code : String
  /-- The file of a missing key; the target itself for an unused one. -/
  file : Option String
deriving DecidableEq, Repr

/-- What was found about one sheet. -/
structure SheetReport where
  identifier : String
  span : Option Span
  code : String
  unused : List Finding
  missing : List Finding
deriving DecidableEq, Repr

namespace SheetReport

/-- Whether nothing was found. -/
def isClean (report : SheetReport) : Bool :=
  report.unused.isEmpty && report.missing.isEmpty

/-- The findings in the order in which they are reported. -/
def findings (report : SheetReport) : List Finding :=
  report.unused ++ report.missing

end SheetReport

/-- What was found about one file. -/
structure AnalysisResult where
  sheets : List SheetReport
  lines : List String
deriving DecidableEq, Repr

namespace AnalysisResult

/-- The findings of all reports, in order. -/
def findings (result : AnalysisResult) : List Finding :=
  result.sheets.flatMap SheetReport.findings

/-- How many findings the reports hold together. -/
def findingCount (result : AnalysisResult) : Nat :=
  result.findings.length

/-- Whether every report is clean. -/
def isClean (result : AnalysisResult) : Bool :=
  result.sheets.all (·.isClean)

end AnalysisResult

end StyleAudit
