import StyleAudit.FileStore

/-!
The messages that come with the program.

They are English, and lie where a project's own messages would lie, so that a language is found
among them by the same rules.
-/

set_option autoImplicit false

namespace StyleAudit

/-- Templates by their addresses. -/
abbrev Messages := List (String × String)

namespace Packaged

/-- The messages about style sheets. -/
def checkMessages : Messages :=
  [("check.sheet.header", "\x7bpath\x7d:\x7bline\x7d  style sheet '\x7bname\x7d'"),
    ("check.sheet.clean", "\x7bpath\x7d: style sheet '\x7bname\x7d' is clean."),
    ("check.issue.unused", "  - [UNUSED]   '\x7bkey\x7d' (\x7bpath\x7d:\x7bline\x7d)"),
    ("check.issue.missing", "  - [MISSING]  '\x7bkey\x7d' (\x7bpath\x7d:\x7bline\x7d)"),
    ("check.issue.code", "      \x7bcode\x7d"),
    ("check.file.no_sheets", "\x7bpath\x7d: no style sheets declared."),
    ("check.file.warn", "\x7bpath\x7d: \x7bcount\x7d finding(s)."),
    ("check.run.success", "No unused or missing style keys found."),
    ("check.run.fail", "Found \x7bcount\x7d finding(s) in \x7bfiles\x7d file(s).")]

/-- The messages about failures. -/
def errorMessages : Messages :=
  [("error.parse", "Could not parse \x7bpath\x7d: \x7bdetail\x7d"),
    ("error.missing_file", "Could not read \x7bpath\x7d: \x7bdetail\x7d"),
    ("error.structure", "Unsupported style construct in \x7bpath\x7d: \x7bdetail\x7d"),
    ("error.generic", "Analysis failed: \x7bdetail\x7d")]

/-- The messages of the command line. -/
def commandMessages : Messages :=
  [("cli.app.description", "Find unused and missing CSS-in-JS style-sheet keys."),
    ("cli.command.check.help", "Check the style sheets declared in the given files."),
    ("cli.option.verbose.help", "Enable debug output."),
    ("cli.option.global_file.help",
      "Shared style file whose flat style objects count as declared everywhere."),
    ("cli.option.format.help", "Output format: 'text' or 'json'."),
    ("cli.error.bad_format", "Unknown output format '\x7bvalue\x7d'. Use 'text' or 'json'.")]

/-- All English messages. -/
def english : Messages :=
  checkMessages ++ errorMessages ++ commandMessages

/-- The directories in which the messages lie. -/
def directories : FileStore :=
  ⟨[], [["assets", "needle", "en"]], []⟩

/-- The messages of a language: those below the directory of its name. -/
def messages (language : Path) : Messages :=
  if directories.isDirectory ((Path.ofText "/assets/needle").join language) then english else []

end Packaged

end StyleAudit
