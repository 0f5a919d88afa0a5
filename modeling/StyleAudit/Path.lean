import StyleAudit.Text.Lines

/-!
File paths.

A path is an anchor and the components behind it. Reading a path drops empty components and `.`,
keeps `..`, and so gives equal paths for all spellings that differ in these only. `Path.resolve`
says which file a path names as seen from a directory, where no directory is a link.
-/

set_option autoImplicit false

namespace StyleAudit

/-- What a path starts from. -/
inductive Anchor where
  /-- The current directory. -/
  | here
  | root
  /-- Two slashes, which are kept apart from one. -/
  | doubleRoot
deriving DecidableEq, Repr

/-- A file path without empty components and without `.`. -/
structure Path where
  anchor : Anchor
  components : List String
deriving DecidableEq, Repr

namespace Path

/-- The current directory. -/
def current : Path :=
  ⟨.here, []⟩

/-- The anchor of a path's text. -/
def anchorOf : List Char → Anchor
  | '/' :: '/' :: '/' :: _ => .root
  | '/' :: '/' :: _ => .doubleRoot
  | '/' :: _ => .root
  | _ => .here

/-- Whether a component takes a path anywhere. -/
def isComponent (component : String) : Bool :=
  component != "" && component != "."

/-- The path that a text spells. -/
def ofText (text : String) : Path :=
  ⟨anchorOf text.toList,
    ((Text.splitWhere (· = '/') text.toList).map String.ofList).filter isComponent⟩

/-- The text of an anchor. -/
def anchorText : Anchor → String
  | .here => ""
  | .root => "/"
  | .doubleRoot => "//"

/-- The text of a path; the current directory is a dot. -/
def text (path : Path) : String :=
  match path with
  | ⟨.here, []⟩ => "."
  | ⟨anchor, components⟩ => anchorText anchor ++ "/".intercalate components

/-- Whether a path does not depend on the current directory. -/
def isAbsolute (path : Path) : Bool :=
  path.anchor != .here

/-- The last component. -/
def name (path : Path) : String :=
  path.components.getLast?.getD ""

/-- The directory that a path lies in; an anchor and the current directory lie in themselves. -/
def parent (path : Path) : Path :=
  { path with components := path.components.dropLast }

/-- A path inside a directory. -/
def child (directory : Path) (name : String) : Path :=
  { directory with components := directory.components ++ [name] }

/-- A path as seen from a directory: an absolute path stays as it is. -/
def join (directory path : Path) : Path :=
  if path.isAbsolute then path
  else { directory with components := directory.components ++ path.components }

/-- A name cut before its last dot, the dot going with the back. -/
def cutAtLastDot : List Char → Option (List Char × List Char)
  | [] => none
  | character :: rest =>
    match cutAtLastDot rest with
    | some (front, back) => some (character :: front, back)
    | none => if character = '.' then some ([], '.' :: rest) else none

/-- A name's stem and suffix. A dot in front of a name, or behind it, starts no suffix. -/
def stemAndSuffix (name : String) : String × String :=
  match cutAtLastDot name.toList with
  | some (first :: front, dot :: second :: back) =>
    (String.ofList (first :: front), String.ofList (dot :: second :: back))
  | _ => (name, "")

/-- The name without its suffix. -/
def stem (path : Path) : String :=
  (stemAndSuffix path.name).1

/-- What follows the last dot of the name, with the dot. -/
def suffix (path : Path) : String :=
  (stemAndSuffix path.name).2

/-- Goes into a component from a directory given by its components; `..` goes back. -/
def step (directory : List String) (component : String) : List String :=
  if component = ".." then directory.dropLast else directory ++ [component]

/-- The components from the root of the file that a path names, seen from a directory. -/
def resolveFrom (directory : List String) (path : Path) : List String :=
  path.components.foldl step (if path.isAbsolute then [] else directory)

/-- The absolute path, free of `..`, of the file that a path names. -/
def resolve (directory : List String) (path : Path) : Path :=
  ⟨.root, resolveFrom directory path⟩

/-- What follows a directory's components, when a path lies in it or is it. -/
def afterComponents? : List String → List String → Option (List String)
  | [], rest => some rest
  | _ :: _, [] => none
  | expected :: others, component :: rest =>
    if expected = component then afterComponents? others rest else none

/-- A path as seen from a directory that it lies in. -/
def relativeTo? (path directory : Path) : Option Path :=
  if path.anchor = directory.anchor then
    (afterComponents? directory.components path.components).map (⟨.here, ·⟩)
  else none

/-- A list of components comes before another one where the first difference, or the shorter
length, says so. -/
def before : List String → List String → Bool
  | [], [] => false
  | [], _ :: _ => true
  | _ :: _, [] => false
  | first :: rest, other :: others =>
    if first = other then before rest others else decide (first < other)

/-- The components by which paths are ordered, the anchor being the first. -/
def sortKey (path : Path) : List String :=
  if path.isAbsolute then anchorText path.anchor :: path.components else path.components

/-- Whether a path comes no later than another one. -/
def notAfter (path other : Path) : Bool :=
  !before other.sortKey path.sortKey

/-- Paths in order. -/
def sort (paths : List Path) : List Path :=
  paths.mergeSort notAfter

end Path

end StyleAudit
