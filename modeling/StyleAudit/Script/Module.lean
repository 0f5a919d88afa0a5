import StyleAudit.Script.Declaration

/-!
What a script takes from other files and gives to them.
-/

set_option autoImplicit false

namespace StyleAudit.Script.Grammar

variable (g : Grammar)

/-- The file that names come from. -/
def source : Reader Nodes := do
  keyword "from"
  field "source" string

/-- A name as it is known outside its file. -/
def outerName : Reader Nodes := do
  match ← nextChar? with
  | some '"' => string
  | some '\'' => string
  | _ =>
    if ← keyword? "default" then return []
    else g.identifier

/-- The word that marks a name as a type, if it does: another name has to come next. -/
def typeMark : Reader Unit := do
  let marked ← ahead do
    if !g.typed then failure
    keyword "type" <|> keyword "typeof"
    match ← nextWord? with
    | some "as" =>
      keyword "as"
      if (← nextWord?) = some "as" then return () else failure
    | some _ => return ()
    | none => let _ ← string
  if marked then let _ ← word

/-- A name taken from a file, perhaps under another one. -/
def importSpecifier : Reader Nodes :=
  node "import_specifier" do
    g.typeMark
    let inside ← nextIsOwnName
    let name ← field "name" g.outerName
    if ← keyword? "as" then return name ++ (← field "alias" g.identifier)
    else if inside then return name
    else failure
where
  /-- Whether the next name may stand for itself. -/
  nextIsOwnName : Reader Bool := do
    match ← nextWord? with
    | some name => return name != "default"
    | none => return false

/-- Names taken from a file. -/
def namedImports : Reader Nodes :=
  node "named_imports" do
    symbol "\x7b"
    enclosing true (listed g.limit "\x7d" g.importSpecifier)

/-- All of a file under one name. -/
def namespaceImport : Reader Nodes :=
  node "namespace_import" do
    symbol "*"
    keyword "as"
    g.identifier

/-- Names in braces, or all of a file under one name. -/
def importedNames : Reader Nodes := do
  if ← startsWith "*" then g.namespaceImport else g.namedImports

/-- What is taken from a file. -/
def importClause : Reader Nodes :=
  node "import_clause" do
    if (← startsWith "*") || (← startsWith "\x7b") then g.importedNames
    else
      let name ← g.identifier
      if ← symbol? "," then return name ++ (← g.importedNames)
      else return name

/-- What is said about a file beside its name. -/
def importAttribute : Reader Nodes :=
  node "import_attribute" do
    keyword "with"
    g.object

/-- A statement that takes names from a file, or runs it. -/
def importStatement : Reader Nodes :=
  node "import_statement" do
    keyword "import"
    let typeOnly ← ahead do
      if !g.typed then failure
      keyword "type" <|> keyword "typeof"
      if (← startsWith "*") || (← startsWith "\x7b") then return ()
      match ← nextWord? with
      | some "from" =>
        keyword "from"
        keyword "from"
      | some _ => return ()
      | none => failure
    if typeOnly then let _ ← word
    let taken ← match ← nextChar? with
      | some '"' => field "source" string
      | some '\'' => field "source" string
      | _ =>
        if g.typed && (← ahead (do let _ ← word; symbol "=")) then
          node "import_require_clause" do
            let name ← g.identifier
            symbol "="
            keyword "require"
            symbol "("
            let file ← field "source" string
            symbol ")"
            return name ++ file
        else
          let clause ← g.importClause
          pure (clause ++ (← source))
    let about ← if (← nextWord?) = some "with" then g.importAttribute else pure []
    g.terminator false
    return taken ++ about

/-- A name given to other files, perhaps under another one. -/
def exportSpecifier : Reader Nodes :=
  node "export_specifier" do
    g.typeMark
    let name ← field "name" g.outerName
    if ← keyword? "as" then return name ++ (← field "alias" g.outerName)
    else return name

/-- Names in braces that are given to other files. -/
def exportClause : Reader Nodes :=
  node "export_clause" do
    symbol "\x7b"
    enclosing true (listed g.limit "\x7d" g.exportSpecifier)

/-- A name given to other files for what is named by itself. -/
def exportedDefault : Reader Nodes := do
  keyword "default"
  let declared ← match ← nextWord? with
    | some introduction => g.declarationAhead introduction
    | none => pure false
  if ← startsWith "@" then field "declaration" g.decoratedClass
  else if declared then
    field "declaration" (g.declaration ((← nextWord?).getD ""))
  else
    let value ← field "value" g.expression
    g.terminator true
    return value

/-- What follows the word `export` of a statement that declares nothing. -/
def exported : Reader Nodes := do
  match ← nextChar? with
  | some '*' =>
    let renamed ← if ← ahead (do symbol "*"; keyword "as") then
        node "namespace_export" do
          symbol "*"
          keyword "as"
          g.outerName
      else do
        symbol "*"
        pure []
    let file ← source
    g.terminator false
    return renamed ++ file
  | some '\x7b' =>
    let names ← g.exportClause
    let file ← if (← nextWord?) = some "from" then source else pure []
    g.terminator false
    return names ++ file
  | some '=' =>
    if !g.typed then failure
    symbol "="
    let value ← g.expression
    g.terminator true
    return value
  | some '@' => field "declaration" g.decoratedClass
  | _ =>
    match ← nextWord? with
    | some "default" => g.exportedDefault
    | some "import" => if g.typed then g.importAlias else failure
    | some "as" =>
      if !g.typed then failure
      keyword "as"
      keyword "namespace"
      let name ← g.identifier
      g.terminator false
      return name
    | some "type" =>
      if g.typed && (← ahead (do keyword "type"; symbol "\x7b")) then
        keyword "type"
        let names ← g.exportClause
        let file ← if (← nextWord?) = some "from" then source else pure []
        g.terminator false
        return names ++ file
      else declared "type"
    | some introduction => declared introduction
    | none => failure
where
  /-- A declaration given to other files. -/
  declared (introduction : String) : Reader Nodes := do
    if ← g.declarationAhead introduction then
      field "declaration" (g.declaration introduction)
    else failure

/-- A statement that gives something to other files, behind the decorators of a class. -/
def exportStatement : Reader Nodes :=
  node "export_statement" do
    let marks ← g.decorators
    keyword "export"
    return marks ++ (← g.exported)

end StyleAudit.Script.Grammar
