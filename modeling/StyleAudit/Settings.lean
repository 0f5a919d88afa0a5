import StyleAudit.Failure
import StyleAudit.Query

/-!
What an analysis looks for.
-/

set_option autoImplicit false

namespace StyleAudit

/-- A setting that should list names. It may have been given a value that lists nothing. -/
inductive Names where
  | listed (names : List String)
  | unlistable
deriving DecidableEq, Repr

namespace Names

/-- The names of a setting; a value that lists nothing is a fault when the names are needed. -/
def get : Names → Except Fault (List String)
  | listed names => .ok names
  | unlistable => .error .unlistableNames

end Names

/-- The names by which sheets and their uses are recognized. -/
structure Settings where
  factoryNames : Names
  factoryMethods : Names
  /-- The names through which styles are read. -/
  stylesNames : Names
deriving DecidableEq, Repr

namespace Settings

/-- The settings of a project that has none of its own. -/
def standard : Settings :=
  ⟨.listed Factories.standard.names, .listed Factories.standard.methods,
    .listed standardStylesNames⟩

/-- The factories that declare sheets. -/
def factories (settings : Settings) : Except Fault Factories := do
  return ⟨← settings.factoryNames.get, ← settings.factoryMethods.get⟩

end Settings

end StyleAudit
