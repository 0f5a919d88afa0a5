import StyleAudit.FileStore

/-!
Finding the project that a path belongs to.

A project is the nearest directory, on the way up, that says so by what it holds. The root of the
file system is never a project.
-/

set_option autoImplicit false

namespace StyleAudit

namespace Project

/-- The name of the file that describes a project. -/
def fileName : String :=
  "pyproject.toml"

/-- The name of the directory in which a repository keeps its history. -/
def historyName : String :=
  ".git"

/-- A directory and those that it lies in, from the inside out, without the root. -/
def upwards (components : List String) : List (List String) :=
  (List.range components.length).map fun count => components.take (components.length - count)

/-- The directories from the one that a path names upwards, without the root. -/
def candidates (store : FileStore) (start : Path) : List Path :=
  (upwards (start.resolveFrom store.current)).map fun components => ⟨.root, components⟩

/-- Whether a directory holds a file that describes a project. -/
def holdsFile (store : FileStore) (directory : Path) : Bool :=
  store.isFile (directory.child fileName)

/-- Whether a directory is a project. -/
def isProject (store : FileStore) (directory : Path) : Bool :=
  holdsFile store directory || store.isDirectory (directory.child historyName)

/-- The nearest directory with a file that describes a project. -/
def described? (store : FileStore) (start : Path) : Option Path :=
  (candidates store start).find? (holdsFile store)

/-- The nearest project; the start itself where there is none. -/
def root (store : FileStore) (start : Path) : Path :=
  ((candidates store start).find? (isProject store)).getD (start.resolve store.current)

end Project

end StyleAudit
