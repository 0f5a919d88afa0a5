import StyleAudit.Failure
import StyleAudit.Sheet

/-!
Comparing a sheet with the references to it.

Each sheet is compared on its own with all references: a key that only another sheet of the same
file declares is still missing here. A shared key is never missing, and never marks a declared key
as used.
-/

set_option autoImplicit false

namespace StyleAudit

/-- The declared keys that no reference reads, in order of declaration. -/
def findUnused (sheet : Sheet) (targetLines : List String) (collection : ReferenceCollection) :
    List Finding :=
  let referenced := collection.keys
  (sheet.keys.filter fun key => !referenced.contains key.name).map fun key =>
    ⟨key.name, key.span, sliceLines targetLines key.span, none⟩

/-- Whether a reference reads a key that neither the sheet nor the shared file declares. -/
def isMissing (sheet : Sheet) (sharedKeys : List String) (reference : Reference) : Bool :=
  !sheet.declares reference.key && !sharedKeys.contains reference.key

/-- The finding that a missing reference is. The lines of its file have to be known. -/
def missingFinding (collection : ReferenceCollection) (reference : Reference) :
    Except Fault Finding :=
  match collection.lines? reference.file with
  | none => .error (.unknownLines reference.file)
  | some lines =>
    .ok ⟨reference.key, reference.span, sliceLines lines reference.span, some reference.file⟩

/-- The references to keys that are declared nowhere, in order of reference. -/
def findMissing (sheet : Sheet) (collection : ReferenceCollection) (sharedKeys : List String) :
    Except Fault (List Finding) :=
  (collection.references.filter (isMissing sheet sharedKeys)).mapM (missingFinding collection)

/-- The report of one sheet. -/
def reconcile (sheet : Sheet) (targetLines : List String) (collection : ReferenceCollection)
    (sharedKeys : List String) : Except Fault SheetReport := do
  let missing ← findMissing sheet collection sharedKeys
  return {
    identifier := sheet.identifier
    span := sheet.span
    code := (sheet.span.map (sliceLines targetLines)).getD ""
    unused := findUnused sheet targetLines collection
    missing }

end StyleAudit
