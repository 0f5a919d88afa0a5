import StyleAudit.CommandLine
import StyleAudit.Script.Program

/-!
The program: gathers the files that a run may look at, runs it on them, and writes what it says.
-/

set_option autoImplicit false

namespace StyleAudit.Program

/-- Adds a file to a store, if it is there. -/
def addFile (store : FileStore) (path : Path) : IO FileStore := do
  try
    let bytes ← IO.FS.readBinFile path.text
    return store.write path bytes.toList
  catch _ => return store

/-- Adds a directory and the files directly in it to a store, if it is there; `depth` is the number
of levels of directories inside it that are added too. -/
def addDirectory (depth : Nat) (store : FileStore) (path : Path) : IO FileStore := do
  let here ← IO.currentDir
  let place := here / path.text
  unless ← place.isDir do return store
  let mut store := store.makeDirectory path
  for entry in ← place.readDir do
    let inside := path.child entry.fileName
    if ← entry.path.isDir then
      match depth with
      | 0 => store := store.makeDirectory inside
      | depth + 1 => store ← addDirectory depth store inside
    else store ← addFile store inside
  return store

/-- The depth to which directories of messages are read. -/
def messageDepth : Nat :=
  32

/-- Adds what says where a project is. -/
def addMarks (store : FileStore) : IO FileStore :=
  (Project.candidates store Path.current).foldlM (fun store directory => do
    let store ← addFile store (directory.child Project.fileName)
    let here ← IO.currentDir
    if ← (here / (directory.child Project.historyName).text).isDir then
      return store.makeDirectory (directory.child Project.historyName)
    else return store) store

/-- Adds what the arguments and the configuration name. -/
def addNamed (arguments : List String) (store : FileStore) : IO FileStore := do
  let configured := match Configuration.find store Path.current with
    | .ok configuration => configuration.sharedFile.toList
    | .error _ => []
  let (targets, shared) := match CommandLine.readInvocation false arguments with
    | some invocation => (invocation.request.targets, invocation.request.shared.toList)
    | none => ([], [])
  let paths := (targets ++ shared).map Path.ofText ++ configured
  paths.foldlM (fun store path => do
    addDirectory 0 (← addDirectory 0 (← addFile store path) path.parent) path) store

/-- Gathers the files that a run may look at. -/
def gather (arguments : List String) : IO FileStore := do
  let here := Path.ofText (← IO.currentDir).toString
  let store ← addMarks (.empty here.components)
  let root := Project.root store Path.current
  let store ← addDirectory messageDepth store (root.child "needle")
  let store ← addDirectory messageDepth store ((root.child ".sheetcheck").child "needle")
  addNamed arguments store

/-- The text that explains the arguments. -/
def usage : String :=
  "Usage: sheetcheck [-v] check [--global FILE] [--format text|json] TARGETS..."

/-- The exit code of an ending, and what is to be said about it. -/
def finish : Ending → UInt32 × Option String
  | .exit code => (code.toUInt32, none)
  | .usage => (2, some usage)
  | .escaped _ => (1, some "The check broke off.")

end StyleAudit.Program

/-- Checks the files that the arguments name. -/
def main (arguments : List String) : IO UInt32 := do
  let output ← IO.getStdout
  let environment : StyleAudit.Environment := {
    store := ← StyleAudit.Program.gather arguments
    language := ← IO.getEnv "SHEETCHECK_LANG"
    colored := ← output.isTty }
  let run := StyleAudit.CommandLine.run environment StyleAudit.Script.readers.parse arguments
  IO.print (StyleAudit.CommandLine.textOf run.output)
  IO.eprint (StyleAudit.CommandLine.textOf run.errors)
  let (code, remark) := StyleAudit.Program.finish run.ending
  if let some text := remark then IO.eprintln text
  return code
