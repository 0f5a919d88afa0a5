import StyleAudit.Extraction
import StyleAudit.Reconciliation
import StyleAudit.References
import StyleAudit.Settings
import StyleAudit.Sources

/-!
Analyzing one file.

A file's own sheets are compared with the references that its siblings make. Whatever is to be read
is read in a fixed order (the target, the shared style file, the siblings in order), and the first
file that cannot be read, or is not what it should be, ends the analysis without a result.
-/

set_option autoImplicit false

namespace StyleAudit

/-- How sources are taken from a file store and parsed. -/
structure Reading where
  store : FileStore
  parse : Parse

namespace Reading

/-- Reads and parses a source. -/
def source (reading : Reading) (path : Path) : Except Failure Source := do
  reading.parse.source path.text (← readSource reading.store path)

/-- The sheets that a component's own file declares. -/
def declaredSheets (reading : Reading) (settings : Settings) (target : Path) :
    Audit Extraction := do
  let source ← Audit.ofFailing (reading.source target)
  let factories ← Audit.ofExcept settings.factories
  extractSheets source (.declared factories)

/-- The keys that a shared style file declares; none where there is no such file. -/
def sharedKeys (reading : Reading) (shared : Option Path) : Audit (List String) := do
  match shared with
  | none => return []
  | some path =>
    let source ← Audit.ofFailing (reading.source path)
    let extraction ← extractSheets source .shared
    return extraction.sheets.flatMap Sheet.keyNames

/-- The references that the siblings of a target make. -/
def siblingReferences (reading : Reading) (target : Path) (stylesNames : List String) :
    Except Fault ReferenceCollection := do
  let files ← siblings reading.store target
  (collectReferences stylesNames (files.map reading.source)).mapError .failure

end Reading

/-- The names through which the styles of some sheets are read: the configured ones, and then the
sheets' own. -/
def acceptedNames (configured : List String) (sheets : List Sheet) : List String :=
  sheets.foldl (fun names sheet =>
    if names.contains sheet.identifier then names else names ++ [sheet.identifier]) configured

/-- Finds the unused and the missing keys of every sheet of a target. -/
def analyze (reading : Reading) (settings : Settings) (target : Path) (shared : Option Path) :
    Audit AnalysisResult := do
  let extraction ← reading.declaredSheets settings target
  let sharedKeys ← reading.sharedKeys shared
  let configured ← Audit.ofExcept settings.stylesNames.get
  let collection ← Audit.ofExcept <|
    reading.siblingReferences target (acceptedNames configured extraction.sheets)
  let sheets ← Audit.ofExcept <| extraction.sheets.mapM fun sheet =>
    reconcile sheet extraction.lines collection sharedKeys
  return ⟨sheets, extraction.lines⟩

end StyleAudit
