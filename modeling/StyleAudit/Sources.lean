import StyleAudit.Failure
import StyleAudit.FileStore
import StyleAudit.Path.Pattern
import StyleAudit.Text.Lines
import StyleAudit.Text.Quoted
import StyleAudit.Text.Utf8

/-!
The sources that an analysis reads: the text of a file, and the files beside a target.
-/

set_option autoImplicit false

namespace StyleAudit

/-- The text that the bytes of a source stand for. Bytes that are no UTF-8 are replaced, and every
line ends with a line feed. -/
def sourceText (bytes : List UInt8) : String :=
  String.ofList (Text.normalizeNewlines (Text.Utf8.decode bytes))

/-- The text of a cause for which a path cannot be opened. -/
def accessReason (error : AccessError) (path : Path) : String :=
  error.message ++ ": " ++ Text.quote path.text

/-- Reads a source. -/
def readSource (store : FileStore) (path : Path) : Except Failure String :=
  match store.bytes path with
  | .ok bytes => .ok (sourceText bytes)
  | .error error => .error (.unreadable path.text (accessReason error path))

/-- Whether a path next to a target is one of its siblings: a regular file whose name matches and
that is not another form of the target itself. -/
def isSibling (store : FileStore) (target : Path) (pattern : Pattern) (path : Path) : Bool :=
  pattern.accepts path.name && store.isFile path && path.stem != target.stem

/-- The files next to a target that share its suffix, in order. -/
def siblings (store : FileStore) (target : Path) : Except Fault (List Path) :=
  let directory := target.parent
  if !store.isDirectory directory then
    .error (.failure (.unreadable directory.text "directory not found"))
  else
    match Pattern.ofText? ("*" ++ target.suffix) with
    | none => .error .unusablePattern
    | some pattern =>
      .ok (Path.sort ((store.children directory).filter (isSibling store target pattern)))

end StyleAudit
