/-!
What is asked for on the command line.

There is one command. Options in front of it are its own; those behind it may stand between the
targets, and two dashes end them.
-/

set_option autoImplicit false

namespace StyleAudit

/-- What a check is asked for. The last value of an option counts. -/
structure CheckRequest where
  targets : List String
  shared : Option String
  format : String
deriving DecidableEq, Repr

/-- What the program is asked for. -/
structure Invocation where
  verbose : Bool
  request : CheckRequest
deriving DecidableEq, Repr

namespace CommandLine

/-- An option of the command, each of which takes a value. -/
inductive CheckOption where
  | shared
  | format
deriving DecidableEq, Repr

/-- The option that a letter stands for. -/
def optionOfLetter? : Char → Option CheckOption
  | 'g' => some .shared
  | 'f' => some .format
  | _ => none

/-- The option of a long name. -/
def optionOfName? : String → Option CheckOption
  | "--global" => some .shared
  | "--format" => some .format
  | _ => none

/-- Gives an option a value. -/
def CheckOption.set (option : CheckOption) (value : String) (request : CheckRequest) :
    CheckRequest :=
  match option with
  | shared => { request with shared := some value }
  | format => { request with format := value }

/-- Whether an argument looks like an option. -/
def isOption (argument : String) : Bool :=
  match argument.toList with
  | '-' :: _ :: _ => true
  | _ => false

/-- What stands in front of an equals sign, and what behind it, if there is one. -/
def splitValue (argument : String) : String × Option String :=
  let characters := argument.toList
  let name := String.ofList (characters.takeWhile (· ≠ '='))
  match characters.dropWhile (· ≠ '=') with
  | [] => (name, none)
  | _ :: value => (name, some (String.ofList value))

/-- Reads an option, with the value that is written with it, if there is one. -/
def readOption (argument : String) : Option (CheckOption × Option String) :=
  match argument.toList with
  | '-' :: '-' :: _ =>
    let (name, value) := splitValue argument
    (optionOfName? name).map fun option => (option, value)
  | '-' :: letter :: value =>
    (optionOfLetter? letter).map fun option =>
      (option, if value.isEmpty then none else some (String.ofList value))
  | _ => none

/-- The request without anything. -/
def emptyRequest : CheckRequest :=
  ⟨[], none, "text"⟩

/-- Adds targets to a request. -/
def addTargets (targets : List String) (request : CheckRequest) : CheckRequest :=
  { request with targets := request.targets ++ targets }

/-- Reads the arguments of the command, `waiting` being the option whose value comes next. -/
def readArguments (waiting : Option CheckOption) (request : CheckRequest) :
    List String → Option CheckRequest
  | [] => if waiting.isSome then none else some request
  | argument :: rest =>
    match waiting with
    | some option => readArguments none (option.set argument request) rest
    | none =>
      if argument = "--" then some (addTargets rest request)
      else if isOption argument then
        match readOption argument with
        | none => none
        | some (option, some value) => readArguments none (option.set value request) rest
        | some (option, none) => readArguments (some option) request rest
      else readArguments none (addTargets [argument] request) rest

/-- Reads the request of the command; it has at least one target. -/
def readRequest (arguments : List String) : Option CheckRequest :=
  match readArguments none emptyRequest arguments with
  | some request => if request.targets.isEmpty then none else some request
  | none => none

/-- Whether an argument asks for all that can be told. -/
def isVerbose (argument : String) : Bool :=
  match argument.toList with
  | '-' :: 'v' :: letters => letters.all (· = 'v')
  | _ => argument = "--verbose"

/-- Reads the command. -/
def readCommand (verbose : Bool) : List String → Option Invocation
  | "check" :: rest => (readRequest rest).map fun request => ⟨verbose, request⟩
  | _ => none

/-- Reads all arguments; there is no result where they are not well formed. -/
def readInvocation (verbose : Bool) : List String → Option Invocation
  | [] => none
  | argument :: rest =>
    if argument = "--" then readCommand verbose rest
    else if isVerbose argument then readInvocation true rest
    else readCommand verbose (argument :: rest)

end CommandLine

end StyleAudit
