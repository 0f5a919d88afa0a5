import StyleAudit.Keyed
import StyleAudit.Path

/-!
Files and directories.

A file store holds regular files with their bytes, and directories; nothing in it is a link. A path
is walked component by component, so that a missing directory is noticed even where a later `..`
leaves it again.
-/

set_option autoImplicit false

namespace StyleAudit

/-- Files and directories, each by its components from the root, and the current directory. -/
structure FileStore where
  files : List (List String × List UInt8)
  directories : List (List String)
  current : List String
deriving DecidableEq, Repr

/-- Why a path cannot be opened. -/
inductive AccessError where
  | notFound
  | notDirectory
  | isDirectory
deriving DecidableEq, Repr

/-- The text of a cause. -/
def AccessError.message : AccessError → String
  | notFound => "[Errno 2] No such file or directory"
  | notDirectory => "[Errno 20] Not a directory"
  | isDirectory => "[Errno 21] Is a directory"

/-- What a path leads to. -/
inductive Entry where
  | file (bytes : List UInt8)
  | directory
deriving DecidableEq, Repr

namespace FileStore

/-- A store that holds nothing but a current directory. -/
def empty (current : List String) : FileStore :=
  ⟨[], [], current⟩

/-- Whether components start with others. -/
def isWithin (outer inner : List String) : Bool :=
  outer.isPrefixOf inner

/-- Whether there is a directory with the given components: one that was made, the current one, or
one that something lies in. -/
def hasDirectory (store : FileStore) (components : List String) : Bool :=
  isWithin components store.current ||
    store.directories.any (isWithin components) ||
    store.files.any fun file => isWithin components file.1 && file.1 != components

/-- What lies at the given components. -/
def entry? (store : FileStore) (components : List String) : Option Entry :=
  match store.files.lookup components with
  | some bytes => some (.file bytes)
  | none => if store.hasDirectory components then some .directory else none

/-- Walks components from a directory. -/
def walk (store : FileStore) : (here : List String) → List String →
    Except AccessError (List String × Entry)
  | here, [] =>
    match store.entry? here with
    | some entry => .ok (here, entry)
    | none => .error .notFound
  | here, component :: rest =>
    match store.entry? here with
    | some .directory => walk store (Path.step here component) rest
    | some (.file _) => .error .notDirectory
    | none => .error .notFound

/-- What a path leads to, with its components from the root. -/
def find (store : FileStore) (path : Path) : Except AccessError (List String × Entry) :=
  store.walk (if path.isAbsolute then [] else store.current) path.components

/-- The bytes of the file that a path leads to. -/
def bytes (store : FileStore) (path : Path) : Except AccessError (List UInt8) := do
  match ← store.find path with
  | (_, .file bytes) => return bytes
  | (_, .directory) => throw .isDirectory

/-- Whether a path leads to a regular file. -/
def isFile (store : FileStore) (path : Path) : Bool :=
  match store.find path with
  | .ok (_, .file _) => true
  | _ => false

/-- Whether a path leads to a directory. -/
def isDirectory (store : FileStore) (path : Path) : Bool :=
  match store.find path with
  | .ok (_, .directory) => true
  | _ => false

/-- The name of what is directly inside a directory, on the way to the given components. -/
def nameInside? (directory inner : List String) : Option String :=
  (Path.afterComponents? directory inner).bind (·.head?)

/-- The names directly inside a directory, each once. -/
def names (store : FileStore) (directory : List String) : List String :=
  let all := store.files.map (·.1) ++ store.directories ++ [store.current]
  (all.filterMap (nameInside? directory)).eraseDups

/-- The paths directly inside the directory that a path leads to, in no particular order. -/
def children (store : FileStore) (path : Path) : List Path :=
  match store.find path with
  | .ok (components, .directory) => (store.names components).map path.child
  | _ => []

/-- All paths inside a directory, at any depth up to the given one. -/
def descendants (store : FileStore) : (depth : Nat) → Path → List Path
  | 0, _ => []
  | depth + 1, path =>
    (store.children path).flatMap fun child => child :: descendants store depth child

/-- The number of components of the deepest file or directory. -/
def depth (store : FileStore) : Nat :=
  ((store.files.map (·.1) ++ store.directories ++ [store.current]).map List.length).foldl max 0

/-- All paths inside a directory. -/
def allInside (store : FileStore) (path : Path) : List Path :=
  store.descendants store.depth path

/-- A store with a file written to it, in place of one that was there. -/
def write (store : FileStore) (path : Path) (bytes : List UInt8) : FileStore :=
  { store with files := Keyed.put (·.1) (path.resolveFrom store.current, bytes) store.files }

/-- A store with a directory made in it. -/
def makeDirectory (store : FileStore) (path : Path) : FileStore :=
  { store with directories := path.resolveFrom store.current :: store.directories }

end FileStore

end StyleAudit
