import StyleAudit.Configuration
import StyleAudit.Message
import StyleAudit.Message.Catalogue
import StyleAudit.Text.Style

/-!
A run of the program as the terminal sees it.

What has been written stays written, whatever happens afterwards.
-/

set_option autoImplicit false

namespace StyleAudit

/-- What a run finds when it starts. -/
structure Environment where
  store : FileStore
  /-- The language that the user prefers. -/
  language : Option String
  /-- Whether the terminal shows colors. -/
  colored : Bool

/-- A cause for which a run breaks off without telling the user. -/
inductive Escape where
  | configuration (cause : ConfigurationError)
  | fault (cause : Fault)
  | template (cause : TemplateError)
  /-- A message file is no table. -/
  | messageFile
deriving DecidableEq, Repr

/-- How a run ends. -/
inductive Ending where
  | exit (code : Nat)
  /-- The arguments are not well formed. -/
  | usage
  | escaped (cause : Escape)
deriving DecidableEq, Repr

/-- What has been written, the last line first, and the messages known so far. -/
structure Terminal where
  catalogue : Catalogue
  output : List String
  errors : List String

/-- A part of a run, which may end it. -/
abbrev Session := ExceptT Ending (StateM Terminal)

namespace Session

/-- Writes a line to the standard output. -/
def writeOutput (line : String) : Session Unit :=
  modify fun terminal => { terminal with output := line :: terminal.output }

/-- Writes a line to the standard error. -/
def writeError (line : String) : Session Unit :=
  modify fun terminal => { terminal with errors := line :: terminal.errors }

/-- Ends the run for a cause that the user is not told. -/
def escape {α : Type} (cause : Escape) : Session α :=
  throw (.escaped cause)

/-- A line of the log. -/
def logLine (level origin text : String) : String :=
  level ++ " " ++ origin ++ ": " ++ text

/-- The line of the log about a message file. Until the log is set up, its lines are written without
their origin. -/
def skippedLine (logReady : Bool) (file : SkippedFile) : String :=
  let text := "Skipping unreadable message file " ++ file.path.text ++ ": " ++ file.reason
  if logReady then logLine "WARNING" "sheetcheck.needle.loader" text else text

/-- Looks for a template, logging the message files that are passed over on the way. -/
def template (environment : Environment) (logReady : Bool) (id : String) : Session String := do
  let terminal ← get
  let language := Catalogue.languageOf environment.language none
  let found := terminal.catalogue.get environment.store language id
  set { terminal with catalogue := found.catalogue }
  found.skipped.forM fun file => writeError (skippedLine logReady file)
  match found.text with
  | some text => return text
  | none => escape .messageFile

/-- The color of a level. -/
def colorOf : Level → Option Text.Color
  | .debug => some .gray
  | .info => none
  | .success => some .green
  | .warning => some .yellow
  | .error => some .red

/-- A text as the terminal shows it. -/
def shown (environment : Environment) (level : Level) (text : String) : String :=
  if environment.colored then Text.colored (colorOf level) text else Text.plain text

/-- Writes a text of a level: errors to the standard error, and traces only where all is to be
told. -/
def writeShown (environment : Environment) (verbose : Bool) (level : Level) (text : String) :
    Session Unit :=
  match level with
  | .error => writeError (shown environment level text)
  | .debug => if verbose then writeOutput (shown environment level text) else pure ()
  | _ => writeOutput (shown environment level text)

/-- Tells a message. It is filled in even where it is not shown. -/
def say (environment : Environment) (verbose : Bool) (message : Message) : Session Unit := do
  let template ← template environment true message.id
  match Message.render template message.id message.parameters with
  | .ok text => writeShown environment verbose message.level text
  | .error cause => escape (.template cause)

/-- The part of the program that notices something. -/
def originOf : Notice → String
  | .noFlatObjects _ => "sheetcheck.analysis.extractor"
  | _ => "sheetcheck.lang.javascript.visitors"

/-- The line of the log about a notice. Traces are logged only where all is to be told. -/
def noticeLine? (verbose : Bool) (notice : Notice) : Option String :=
  if notice.isWarning then some (logLine "WARNING" (originOf notice) notice.message)
  else if verbose then some (logLine "DEBUG" (originOf notice) notice.message)
  else none

/-- Logs notices. -/
def log (verbose : Bool) (notices : List Notice) : Session Unit :=
  (notices.filterMap (noticeLine? verbose)).forM writeError

end Session

end StyleAudit
