import StyleAudit.Checker
import StyleAudit.CommandLine.Invocation
import StyleAudit.CommandLine.Payload
import StyleAudit.CommandLine.Session

/-!
The command line.

A check ends with code 0 where there are no findings, with code 1 where there are some, and with
code 2 where it tells that it cannot be made.
-/

set_option autoImplicit false

namespace StyleAudit

namespace CommandLine

/-- The code of a check without findings. -/
def cleanCode : Nat := 0

/-- The code of a check with findings. -/
def findingsCode : Nat := 1

/-- The code of a check that cannot be made. -/
def failureCode : Nat := 2

/-- The address of the message about a failure. -/
def failureAddress : Failure → String
  | .syntaxError _ _ => "error.parse"
  | .unreadable _ _ => "error.missing_file"
  | .unsupported _ _ => "error.structure"

/-- The message about a failure. -/
def failureMessage (failure : Failure) : Message :=
  ⟨.error, failureAddress failure,
    [("path", .text failure.path), ("detail", .text failure.detail)]⟩

/-- The message about an output format that there is not. -/
def formatMessage (format : String) : Message :=
  ⟨.error, "cli.error.bad_format", [("value", .text format)]⟩

/-- The formats of the output. -/
inductive OutputFormat where
  | text
  | json
deriving DecidableEq, Repr

/-- The format of a name. -/
def outputFormat? : String → Option OutputFormat
  | "text" => some .text
  | "json" => some .json
  | _ => none

/-- The code of a check whose results are clean or not. -/
def resultCode (clean : Bool) : Nat :=
  if clean then cleanCode else findingsCode

/-- Shows results as messages. -/
def showMessages (environment : Environment) (verbose : Bool) (checker : Checker)
    (results : Results) : Session Nat := do
  match Report.messages checker.viewpoint results with
  | .error fault => Session.escape (.fault fault)
  | .ok messages =>
    messages.forM (Session.say environment verbose)
    return resultCode (Report.isSuccess results)

/-- Shows results as a document. -/
def showDocument (results : Results) : Session Nat := do
  Session.writeOutput results.document.render
  return resultCode results.areClean

/-- Shows results. -/
def showResults (environment : Environment) (verbose : Bool) (format : OutputFormat)
    (checker : Checker) (results : Results) : Session Nat :=
  match format with
  | .text => showMessages environment verbose checker results
  | .json => showDocument results

/-- Checks files with a checker. -/
def checkWith (environment : Environment) (verbose : Bool) (format : OutputFormat)
    (request : CheckRequest) (checker : Checker) : Session Nat := do
  let targets := request.targets.map Path.ofText
  let outcome := checker.analyzeAll (request.shared.map Path.ofText) targets
  Session.log verbose outcome.notices
  match outcome.result with
  | .ok results => showResults environment verbose format checker results
  | .error (.failure failure) =>
    Session.say environment verbose (failureMessage failure)
    return failureCode
  | .error fault => Session.escape (.fault fault)

/-- Checks files. -/
def check (environment : Environment) (parse : Parse) (invocation : Invocation) :
    Session Nat := do
  let request := invocation.request
  let verbose := invocation.verbose
  match outputFormat? request.format with
  | none =>
    Session.say environment verbose (formatMessage request.format)
    return failureCode
  | some format =>
    let store := environment.store
    match Checker.ofProject ⟨store, parse⟩ ⟨.root, store.current⟩ with
    | .error cause => Session.escape (.configuration cause)
    | .ok checker => checkWith environment verbose format request checker

/-- Whether a target is a directory. -/
def isDirectoryTarget (store : FileStore) (target : String) : Bool :=
  !target.isEmpty && store.isDirectory (Path.ofText target)

/-- The addresses of the texts that explain the program. They are looked for in every run. -/
def helpAddresses : List String :=
  ["cli.option.global_file.help", "cli.option.format.help", "cli.app.description",
    "cli.option.verbose.help", "cli.command.check.help"]

/-- A whole run. -/
def session (environment : Environment) (parse : Parse) (arguments : List String) :
    Session Nat := do
  helpAddresses.forM fun id => do
    let _ ← Session.template environment false id
  match readInvocation false arguments with
  | none => throw .usage
  | some invocation =>
    if invocation.request.targets.any (isDirectoryTarget environment.store) then throw .usage
    check environment parse invocation

/-- The messages that a run knows: those that come with the program, and over them those of the
project. -/
def catalogueOf (store : FileStore) : Catalogue :=
  ⟨[.packaged, .directory (Project.root store Path.current)], []⟩

/-- What a run leaves behind. -/
structure Run where
  output : List String
  errors : List String
  ending : Ending
deriving DecidableEq, Repr

/-- Runs the program. -/
def run (environment : Environment) (parse : Parse) (arguments : List String) : Run :=
  let start : Terminal := ⟨catalogueOf environment.store, [], []⟩
  let (result, terminal) := ((session environment parse arguments).run start).run
  { output := terminal.output.reverse
    errors := terminal.errors.reverse
    ending := match result with
      | .ok code => .exit code
      | .error ending => ending }

/-- The text that lines make up. -/
def textOf (lines : List String) : String :=
  String.join (lines.map (· ++ "\n"))

end CommandLine

end StyleAudit
