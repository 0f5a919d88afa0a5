import StyleAudit.Project
import StyleAudit.Text.Indentation
import StyleAudit.Toml.Writer

/-!
Laying out a project: its file, if it has a configuration, and its sources.

Sources are given with the indentation of the place where they are quoted, and written without it.
-/

set_option autoImplicit false

namespace StyleAudit

/-- What a project is laid out from. -/
structure Workspace where
  /-- The table of the project file that configures the tool. -/
  configuration : Option Toml.Members
  /-- Paths with what is quoted for them; later sources replace earlier ones. -/
  sources : List (Path × String)
deriving Repr

/-- Why a project cannot be laid out. -/
inductive LayoutError where
  /-- The configuration holds something that has no text. -/
  | unwritable
  /-- A file lies where a directory is needed. -/
  | fileInTheWay
  | cannotOpen (cause : AccessError)
deriving DecidableEq, Repr

namespace Workspace

/-- One thing said about a project before it is laid out. -/
inductive Call where
  /-- The table that configures the tool, in place of one given before. -/
  | configure (table : Toml.Members)
  | addSource (path quoted : String)
deriving Repr

/-- A project of which nothing has been said. -/
def blank : Workspace :=
  ⟨none, []⟩

/-- A project of which one more thing has been said. -/
def add (workspace : Workspace) : Call → Workspace
  | .configure table => { workspace with configuration := some table }
  | .addSource path quoted =>
    { workspace with sources := workspace.sources ++ [(Path.ofText path, quoted)] }

/-- The project of which some things have been said, one after the other. -/
def ofCalls (calls : List Call) : Workspace :=
  calls.foldl add blank

/-- A source as it is written. -/
def sourceContent (quoted : String) : String :=
  Text.dropLeadingBreaks (Text.dedent quoted)

/-- The text of the project file for a configuration. -/
def projectText (configuration : Toml.Members) : Option String :=
  Toml.write [("tool", .table [("sheetcheck", .table configuration)])]

/-- The bytes of a text. -/
def bytesOf (text : String) : List UInt8 :=
  text.toUTF8.toList

/-- Makes the directories that are missing on the way along some components. -/
def makeDirectories (store : FileStore) :
    (made : List String) → List String → Except LayoutError FileStore
  | _, [] => .ok store
  | here, component :: rest =>
    let next := Path.step here component
    match store.entry? next with
    | some (.file _) => .error (if rest.isEmpty then .fileInTheWay else .cannotOpen .notDirectory)
    | some .directory => makeDirectories store next rest
    | none => makeDirectories (store.makeDirectory ⟨.root, next⟩) next rest

/-- Writes a file into a directory that is there. -/
def createFile (store : FileStore) (path : Path) (text : String) : Except LayoutError FileStore :=
  match store.find path.parent with
  | .error cause => .error (.cannotOpen cause)
  | .ok (_, .file _) => .error (.cannotOpen .notDirectory)
  | .ok (_, .directory) =>
    if store.isDirectory path then .error (.cannotOpen .isDirectory)
    else .ok (store.write path (bytesOf text))

/-- Writes a file, after making the directories that it lies in. -/
def writeFile (store : FileStore) (path : Path) (text : String) :
    Except LayoutError FileStore := do
  let start := if path.isAbsolute then [] else store.current
  let store ← makeDirectories store start path.parent.components
  createFile store path text

/-- Lays out a project in a directory that is there. -/
def build (workspace : Workspace) (store : FileStore) (root : Path) :
    Except LayoutError FileStore := do
  let store ← match workspace.configuration with
    | none => pure store
    | some table =>
      match projectText table with
      | none => throw .unwritable
      | some text => createFile store (root.child Project.fileName) text
  workspace.sources.foldlM (fun store (path, quoted) =>
    writeFile store (root.join path) (sourceContent quoted)) store

end Workspace

end StyleAudit
