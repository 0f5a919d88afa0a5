import StyleAudit.Analysis
import StyleAudit.Configuration
import StyleAudit.Report

/-!
Checking files of a project.

A check of several files gives the results of all of them or none: the first file that cannot be
analyzed ends it.
-/

set_option autoImplicit false

namespace StyleAudit

/-- What files are checked with. -/
structure Checker where
  reading : Reading
  root : Path
  configuration : Configuration

namespace Checker

/-- The checker of the project that a directory belongs to. -/
def ofProject (reading : Reading) (root : Path) : Except ConfigurationError Checker := do
  return ⟨reading, root, ← Configuration.find reading.store root⟩

/-- The shared style file: the one given for a check, else the configured one. -/
def sharedFile (checker : Checker) (given : Option Path) : Option Path :=
  given.or checker.configuration.sharedFile

/-- Analyzes one file. -/
def analyzeOne (checker : Checker) (given : Option Path) (target : Path) : Audit AnalysisResult :=
  analyze checker.reading checker.configuration.settings target (checker.sharedFile given)

/-- Analyzes files. -/
def analyzeAll (checker : Checker) (given : Option Path) (targets : List Path) :
    Audit Results := do
  let results ← targets.mapM fun target => do
    return (target, ← checker.analyzeOne given target)
  return .ofList results

/-- From where a checker shows paths. -/
def viewpoint (checker : Checker) : Viewpoint :=
  ⟨checker.reading.store.current, checker.root⟩

/-- Checks files: whether they are free of findings, and what is to be told. -/
def run (checker : Checker) (given : Option Path) (targets : List Path) :
    Audit (Bool × List Message) := do
  let results ← checker.analyzeAll given targets
  let messages ← Audit.ofExcept (Report.messages checker.viewpoint results)
  return (Report.isSuccess results, messages)

end Checker

end StyleAudit
