import StyleAudit.Json.Reader
import StyleAudit.Message.Packaged
import StyleAudit.Project
import StyleAudit.Text.Utf8

/-!
Catalogues of messages.

A catalogue looks for messages in its roots, each of which has a directory for each language; later
roots come before earlier ones. Languages are loaded when they are first asked for. A message that a
language does not have is taken from the standard language, and one that this does not have either
is its own text.
-/

set_option autoImplicit false

namespace StyleAudit

/-! ### Message files -/

/-- A message file that is passed over, and why. -/
structure SkippedFile where
  path : Path
  reason : String
deriving DecidableEq, Repr

/-- What a message file holds. -/
inductive MessageFile where
  | messages (found : Messages)
  | skipped (reason : String)
  /-- The file holds a value that is no table. -/
  | notTable
deriving DecidableEq, Repr

namespace MessageFile

/-- Reads a text. -/
def ofText (text : String) : MessageFile :=
  match Json.parse text with
  | .error error => skipped (error.message text)
  | .ok (.table members) => messages (members.map fun (key, value) => (key, value.display))
  | .ok _ => notTable

/-- Reads bytes. -/
def ofBytes (bytes : List UInt8) : MessageFile :=
  match Text.Utf8.damage? bytes with
  | some damage => skipped damage.text
  | none => ofText (String.ofList (Text.normalizeNewlines (Text.Utf8.decode bytes)))

/-- Reads a file. -/
def read (store : FileStore) (path : Path) : MessageFile :=
  match store.bytes path with
  | .ok bytes => ofBytes bytes
  | .error error => skipped (error.message ++ ": " ++ Text.quote path.text)

end MessageFile

/-- What came of loading some files: those passed over, and the messages of the others, unless one
of them held something other than a table. -/
structure Loading where
  skipped : List SkippedFile
  messages : Option Messages
deriving DecidableEq, Repr

namespace Loading

/-- Nothing loaded. -/
def empty : Loading :=
  ⟨[], some []⟩

/-- Two loads one after the other; messages of the second one come before those of the first. -/
def append (first second : Loading) : Loading :=
  match first.messages with
  | none => first
  | some base =>
    ⟨first.skipped ++ second.skipped, second.messages.map fun later => later ++ base⟩

/-- Loads a file. -/
def ofFile (store : FileStore) (path : Path) : Loading :=
  match MessageFile.read store path with
  | .messages found => ⟨[], some found⟩
  | .skipped reason => ⟨[⟨path, reason⟩], some []⟩
  | .notTable => ⟨[], none⟩

/-- Whether a file name says that the file holds messages. -/
def isMessageName (path : Path) : Bool :=
  path.suffix.toLower == ".json"

/-- Loads the message files inside a directory, in order. -/
def ofDirectory (store : FileStore) (directory : Path) : Loading :=
  let files := (store.allInside directory).filter fun path =>
    store.isFile path && isMessageName path
  ((Path.sort files).map (ofFile store)).foldl append empty

end Loading

/-! ### Catalogues -/

/-- A place that has messages. -/
inductive MessageRoot where
  /-- The messages that come with the program. -/
  | packaged
  | directory (path : Path)
deriving DecidableEq, Repr

namespace MessageRoot

/-- Loads the messages of a language from the two directories that a directory has for it. -/
def loadDirectory (store : FileStore) (directory language : Path) : Loading :=
  (Loading.ofDirectory store ((directory.child "needle").join language)).append
    (Loading.ofDirectory store (((directory.child ".sheetcheck").child "needle").join language))

/-- Loads the messages of a language from a root. A language that is an absolute path is the same
directory for all roots. -/
def load (store : FileStore) (language : String) (root : MessageRoot) : Loading :=
  let language := Path.ofText language
  match root with
  | directory path => loadDirectory store path language
  | packaged =>
    if language.isAbsolute then loadDirectory store language language
    else ⟨[], some (Packaged.messages language)⟩

end MessageRoot

/-- Roots, the most important one last, and the languages loaded from them so far. -/
structure Catalogue where
  roots : List MessageRoot
  loaded : List (String × Messages)
deriving Repr

/-- What came of looking for a message: there is no text where a message file was no table. -/
structure Lookup where
  catalogue : Catalogue
  skipped : List SkippedFile
  text : Option String

namespace Catalogue

/-- The language that has all messages. -/
def standardLanguage : String :=
  "en"

/-- A catalogue of some roots; without any, of the project that the current directory belongs
to. -/
def ofRoots (store : FileStore) (roots : List MessageRoot) : Catalogue :=
  ⟨if roots.isEmpty then [.directory (Project.root store Path.current)] else roots, []⟩

/-- Adds a root in front of the others, where it is the least important one. All languages are
loaded again when they are next asked for. -/
def addRoot (catalogue : Catalogue) (root : MessageRoot) : Catalogue :=
  if catalogue.roots.contains root then catalogue else ⟨root :: catalogue.roots, []⟩

/-- Loads the messages of a language from all roots. -/
def loadRoots (store : FileStore) (roots : List MessageRoot) (language : String) : Loading :=
  (roots.map (MessageRoot.load store language)).foldl Loading.append Loading.empty

/-- The messages of a language, which is loaded where that has not been done. -/
def ensure (store : FileStore) (catalogue : Catalogue) (language : String) :
    Catalogue × Loading :=
  match catalogue.loaded.lookup language with
  | some messages => (catalogue, ⟨[], some messages⟩)
  | none =>
    let loading := loadRoots store catalogue.roots language
    match loading.messages with
    | some messages =>
      ({ catalogue with loaded := (language, messages) :: catalogue.loaded }, loading)
    | none => (catalogue, loading)

/-- The language to look in: the one asked for, else that of the environment. -/
def languageOf (environment asked : Option String) : String :=
  match asked with
  | some language => if language.isEmpty then environment.getD standardLanguage else language
  | none => environment.getD standardLanguage

/-- Looks for a message in the standard language. -/
def getStandard (store : FileStore) (catalogue : Catalogue) (skipped : List SkippedFile)
    (key : String) : Lookup :=
  let (catalogue, loading) := catalogue.ensure store standardLanguage
  ⟨catalogue, skipped ++ loading.skipped,
    loading.messages.map fun messages => (messages.lookup key).getD key⟩

/-- Looks for a message in a language. -/
def get (store : FileStore) (catalogue : Catalogue) (language : String) (key : String) : Lookup :=
  let (catalogue, loading) := catalogue.ensure store language
  match loading.messages with
  | none => ⟨catalogue, loading.skipped, none⟩
  | some messages =>
    match messages.lookup key with
    | some text => ⟨catalogue, loading.skipped, some text⟩
    | none =>
      if language = standardLanguage then ⟨catalogue, loading.skipped, some key⟩
      else getStandard store catalogue loading.skipped key

end Catalogue

end StyleAudit
