import StyleAudit.Project
import StyleAudit.Settings
import StyleAudit.Text.Utf8
import StyleAudit.Toml.Reader

/-!
The configuration of a project.

It is taken from one table of the nearest project file. Lists of names are kept as they are given,
whatever they are; only an analysis needs them to be lists.
-/

set_option autoImplicit false

namespace StyleAudit

/-- What a project configures. -/
structure Configuration where
  factoryNames : Value
  factoryMethods : Value
  stylesNames : Value
  /-- The shared style file. -/
  sharedFile : Option Path
deriving Repr

/-- Why a project file gives no configuration. -/
inductive ConfigurationError where
  /-- The file is not UTF-8. -/
  | undecodable
  | malformed
  | tooManyDigits
  /-- A value stands where the tool's table belongs. -/
  | notTable
  /-- The shared style file is given by something other than a text. -/
  | notPath
  | unreadable (cause : AccessError)
deriving DecidableEq, Repr

namespace Configuration

/-- The value of a list of names. -/
def listOf (names : List String) : Value :=
  .list (names.map .text)

/-- The configuration of a project that says nothing. -/
def standard : Configuration :=
  ⟨listOf Factories.standard.names, listOf Factories.standard.methods, listOf standardStylesNames,
    none⟩

/-- The member of a table that is a table itself; the empty one where there is no such member. -/
def tableIn (name : String) (members : Toml.Members) : Except ConfigurationError Toml.Members :=
  match members.lookup name with
  | none => .ok []
  | some (.table inner) => .ok inner
  | some _ => .error .notTable

/-- The path that a value gives, as seen from a directory; a blank value gives none. -/
def pathFrom (directory : Path) (value : Value) : Except ConfigurationError (Option Path) :=
  if value.isBlank then .ok none
  else
    match value with
    | .text text => .ok (some (directory.join (Path.ofText text)))
    | _ => .error .notPath

/-- The configuration that a table gives to the project in a directory. -/
def ofTable (directory : Path) (table : Toml.Members) :
    Except ConfigurationError Configuration := do
  let value (name : String) (standard : Value) : Value := (table.lookup name).getD standard
  return {
    factoryNames := value "factory_names" standard.factoryNames
    factoryMethods := value "factory_methods" standard.factoryMethods
    stylesNames := value "styles_names" standard.stylesNames
    sharedFile := ← pathFrom directory (value "global_style_file" .null) }

/-- The document that bytes hold. -/
def document (bytes : List UInt8) : Except ConfigurationError Toml.Members :=
  match Text.Utf8.decode? bytes with
  | none => .error .undecodable
  | some text =>
    match Toml.parse (String.ofList text) with
    | .ok members => .ok members
    | .error .malformed => .error .malformed
    | .error .tooManyDigits => .error .tooManyDigits

/-- The configuration of the project whose file lies in a directory. -/
def read (store : FileStore) (directory : Path) : Except ConfigurationError Configuration := do
  let bytes ← (store.bytes (directory.child Project.fileName)).mapError .unreadable
  let tools ← tableIn "tool" (← document bytes)
  ofTable directory (← tableIn "sheetcheck" tools)

/-- The configuration that applies to a path. -/
def find (store : FileStore) (search : Path) : Except ConfigurationError Configuration :=
  match Project.described? store search with
  | none => .ok standard
  | some directory => read store directory

/-- The names that a value lists: the texts of a list, the names in a table, the characters of a
text. -/
def names : Value → Names
  | .list items => .listed (items.filterMap fun
    | .text name => some name
    | _ => none)
  | .table members => .listed (members.map (·.1))
  | .text text => .listed (text.toList.map fun character => String.ofList [character])
  | _ => .unlistable

/-- The settings of an analysis. -/
def settings (configuration : Configuration) : Settings :=
  ⟨names configuration.factoryNames, names configuration.factoryMethods,
    names configuration.stylesNames⟩

end Configuration

end StyleAudit
