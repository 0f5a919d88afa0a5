import StyleAudit.Analysis
import StyleAudit.Checker
import StyleAudit.CommandLine
import StyleAudit.CommandLine.Invocation
import StyleAudit.CommandLine.Payload
import StyleAudit.CommandLine.Session
import StyleAudit.Configuration
import StyleAudit.Decimal.Binary
import StyleAudit.Decimal.Digits
import StyleAudit.Decimal.Layout
import StyleAudit.Decimal.Rounded
import StyleAudit.Decimal.Rounding
import StyleAudit.Decimal.Shortest
import StyleAudit.Extraction
import StyleAudit.Failure
import StyleAudit.FileStore
import StyleAudit.Json.Reader
import StyleAudit.Json.Writer
import StyleAudit.Keyed
import StyleAudit.Main
import StyleAudit.Message
import StyleAudit.Message.Address
import StyleAudit.Message.Catalogue
import StyleAudit.Message.Packaged
import StyleAudit.Naming
import StyleAudit.Parse
import StyleAudit.Path
import StyleAudit.Path.Pattern
import StyleAudit.Position
import StyleAudit.Project
import StyleAudit.Proofs.AcceptedNames
import StyleAudit.Proofs.Accounting
import StyleAudit.Proofs.Analysis
import StyleAudit.Proofs.Audit
import StyleAudit.Proofs.Batch
import StyleAudit.Proofs.Catalogue
import StyleAudit.Proofs.Conservation
import StyleAudit.Proofs.Damage
import StyleAudit.Proofs.DeclaredSheets
import StyleAudit.Proofs.Decoding
import StyleAudit.Proofs.Display
import StyleAudit.Proofs.Encoding
import StyleAudit.Proofs.Ends
import StyleAudit.Proofs.ExitCodes
import StyleAudit.Proofs.Extraction
import StyleAudit.Proofs.FileStore
import StyleAudit.Proofs.Inside
import StyleAudit.Proofs.Keyed
import StyleAudit.Proofs.Layout
import StyleAudit.Proofs.LineEndings
import StyleAudit.Proofs.Lines
import StyleAudit.Proofs.Listing
import StyleAudit.Proofs.Location
import StyleAudit.Proofs.MessageFiles
import StyleAudit.Proofs.NearestProject
import StyleAudit.Proofs.NewSibling
import StyleAudit.Proofs.OtherFiles
import StyleAudit.Proofs.OutputModes
import StyleAudit.Proofs.Parentheses
import StyleAudit.Proofs.Path
import StyleAudit.Proofs.Payload
import StyleAudit.Proofs.Position
import StyleAudit.Proofs.Precedence
import StyleAudit.Proofs.Preorder
import StyleAudit.Proofs.Reconciliation
import StyleAudit.Proofs.References
import StyleAudit.Proofs.Rendering
import StyleAudit.Proofs.Report
import StyleAudit.Proofs.Requirements
import StyleAudit.Proofs.Session
import StyleAudit.Proofs.SharedKeys
import StyleAudit.Proofs.SharedStyles
import StyleAudit.Proofs.Sheet
import StyleAudit.Proofs.Siblings
import StyleAudit.Proofs.Sites
import StyleAudit.Proofs.StyleAccesses
import StyleAudit.Proofs.StyleNames
import StyleAudit.Proofs.Suffix
import StyleAudit.Proofs.SyntaxErrors
import StyleAudit.Proofs.TemplateFailures
import StyleAudit.Proofs.TomlDocument
import StyleAudit.Proofs.TomlText
import StyleAudit.Proofs.Traversal
import StyleAudit.Proofs.Verbatim
import StyleAudit.Query
import StyleAudit.Reconciliation
import StyleAudit.References
import StyleAudit.Report
import StyleAudit.Script.Arguments
import StyleAudit.Script.Character
import StyleAudit.Script.Class
import StyleAudit.Script.Cursor
import StyleAudit.Script.Declaration
import StyleAudit.Script.Element
import StyleAudit.Script.Expression
import StyleAudit.Script.Function
import StyleAudit.Script.Grammar
import StyleAudit.Script.Literal
import StyleAudit.Script.Module
import StyleAudit.Script.Name
import StyleAudit.Script.Object
import StyleAudit.Script.Pattern
import StyleAudit.Script.Program
import StyleAudit.Script.Semicolon
import StyleAudit.Script.Statement
import StyleAudit.Script.Type
import StyleAudit.Settings
import StyleAudit.Sheet
import StyleAudit.Sources
import StyleAudit.Template
import StyleAudit.Template.Form
import StyleAudit.Template.Number
import StyleAudit.Template.Piece
import StyleAudit.Text.Blank
import StyleAudit.Text.DecimalDigit
import StyleAudit.Text.Hexadecimal
import StyleAudit.Text.Indentation
import StyleAudit.Text.Lines
import StyleAudit.Text.Printable
import StyleAudit.Text.Quoted
import StyleAudit.Text.Style
import StyleAudit.Text.Utf8
import StyleAudit.Toml.Document
import StyleAudit.Toml.Moment
import StyleAudit.Toml.Number
import StyleAudit.Toml.Reader
import StyleAudit.Toml.Text
import StyleAudit.Toml.Writer
import StyleAudit.Tree
import StyleAudit.Tree.Site
import StyleAudit.Value
import StyleAudit.Workspace
