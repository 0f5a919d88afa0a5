import StyleAudit.Value

/-!
A TOML document while it is read.

Beside its members, a document remembers what must not happen to them any more: a table is declared
once, and what a value brings along is closed to later statements.
-/

set_option autoImplicit false

namespace StyleAudit.Toml

/-- The members of a table. -/
abbrev Members := List (String × Value)

/-- Changes the table at a path, after making the tables that are missing on the way. A list stands
for its last item where `throughLists` says so. There is no result where the way is blocked. -/
def changeAt (throughLists : Bool) (change : Members → Option Members) :
    List String → Members → Option Members
  | [], members => change members
  | name :: rest, members =>
    match members.lookup name with
    | none => (changeAt throughLists change rest []).map fun inner =>
      Value.insertMember name (.table inner) members
    | some (.table inner) => (changeAt throughLists change rest inner).map fun inner =>
      Value.insertMember name (.table inner) members
    | some (.list items) =>
      match throughLists, items.getLast? with
      | true, some (.table inner) => (changeAt throughLists change rest inner).map fun inner =>
        Value.insertMember name (.list (items.dropLast ++ [.table inner])) members
      | _, _ => none
    | some _ => none

/-- Puts a new member into a table. -/
def putNew (name : String) (value : Value) (members : Members) : Option Members :=
  match members.lookup name with
  | none => some (Value.insertMember name value members)
  | some _ => none

/-- Puts an empty table behind the others of a list of tables. -/
def appendTable (name : String) (members : Members) : Option Members :=
  match members.lookup name with
  | none => some (Value.insertMember name (.list [.table []]) members)
  | some (.list items) => some (Value.insertMember name (.list (items ++ [.table []])) members)
  | some _ => none

/-- Puts a value at a path of a table. -/
def putAt (throughLists : Bool) (path : List String) (value : Value) (members : Members) :
    Option Members :=
  match path.getLast? with
  | some name => changeAt throughLists (putNew name value) path.dropLast members
  | none => none

/-- Whether a value is a list or a table. -/
def isContainer : Value → Bool
  | .list _ => true
  | .table _ => true
  | _ => false

/-- Whether one of some paths leads to a path or on the way to it. -/
def leadsTo (closed : List (List String)) (path : List String) : Bool :=
  closed.any (·.isPrefixOf path)

/-- A document being read. -/
structure Document where
  members : Members
  /-- The paths at which, and below which, nothing may be put. -/
  closed : List (List String)
  /-- The paths that must not be declared as tables. -/
  declared : List (List String)
  /-- The paths that must not be declared as tables once the current table has ended. -/
  pending : List (List String)
deriving Repr

namespace Document

/-- The document without members. -/
def empty : Document :=
  ⟨[], [], [], []⟩

/-- Ends the current table. -/
def endTable (document : Document) : Document :=
  { document with declared := document.pending ++ document.declared, pending := [] }

/-- Declares a table. -/
def declareTable (document : Document) (path : List String) : Option Document :=
  if document.declared.contains path || leadsTo document.closed path then none
  else do
    let members ← changeAt true some path document.members
    return { document with members, declared := path :: document.declared }

/-- Declares one more table of a list of tables. What was remembered of the tables before is
forgotten. -/
def declareItem (document : Document) (path : List String) : Option Document :=
  if leadsTo document.closed path then none
  else do
    let name ← path.getLast?
    let members ← changeAt true (appendTable name) path.dropLast document.members
    let outside (other : List String) : Bool := !path.isPrefixOf other
    return { document with
      members
      closed := document.closed.filter outside
      declared := path :: document.declared.filter outside }

/-- The paths of the tables that a key opens on the way to its last part. -/
def opened (header key : List String) : List (List String) :=
  (List.range (key.length - 1)).map fun index => header ++ key.take (index + 1)

/-- Puts a value at a key of the table that a header names. -/
def put (document : Document) (header key : List String) (value : Value) : Option Document :=
  let opened := opened header key
  let path := header ++ key
  if opened.any document.declared.contains || leadsTo document.closed path.dropLast then none
  else do
    let members ← putAt true path value document.members
    return { document with
      members
      closed := if isContainer value then path :: document.closed else document.closed
      pending := opened ++ document.pending }

end Document

end StyleAudit.Toml
