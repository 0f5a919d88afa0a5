import StyleAudit.Parse
import StyleAudit.Query
import StyleAudit.Sheet
import StyleAudit.Text.Lines

/-!
The references that a source makes to style sheets.
-/

set_option autoImplicit false

namespace StyleAudit

/-- The reference that a style access is. -/
def referenceAt (path : String) (source : List Char) (access : Site) : Reference :=
  ⟨path, ((access.node.child? "property").map (Node.text source)).getD "",
    access.node.span .characters source⟩

/-- The style accesses of a tree, in pre-order. -/
def stylesAccesses (stylesNames : List String) (source : List Char) (root : Node) : List Site :=
  root.namedSites.filter (Site.isStylesAccess stylesNames source)

/-- The references of a tree, in pre-order. -/
def referencesIn (path : String) (stylesNames : List String) (source : List Char) (root : Node) :
    List Reference :=
  (stylesAccesses stylesNames source root).map (referenceAt path source)

namespace ReferenceCollection

/-- Adds the references and the lines of one more file. -/
def visit (collection : ReferenceCollection) (stylesNames : List String) (source : Source) :
    ReferenceCollection :=
  ⟨collection.references ++
      referencesIn source.path stylesNames source.text.toList source.root,
    insertFile source.path (Text.splitLines source.text) collection.files⟩

end ReferenceCollection

/-- Collects the references of files in the given order. The first file that could not be read, or
is no program, ends the collection. -/
def collectReferences (stylesNames : List String) (sources : List (Except Failure Source)) :
    Except Failure ReferenceCollection :=
  sources.foldlM (fun collection source => return collection.visit stylesNames (← source)) .empty

end StyleAudit
