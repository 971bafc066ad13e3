import Scriptwright.Text.Quoted
import Scriptwright.Text.Search
import Scriptwright.Text.Words
import Scriptwright.Text.Case
import Scriptwright.Pattern.Search
import Scriptwright.Value.Printer
import Scriptwright.Document.Json
import Scriptwright.Language
import Scriptwright.Analysis
import Scriptwright.Vocabulary
import Scriptwright.Description.Analyzer
import Scriptwright.Markup.Reader
import Scriptwright.Markup.Render
import Scriptwright.Template.Builtin
import Scriptwright.GenerationError
import Scriptwright.Health
import Scriptwright.Template.Header
import Scriptwright.Template.Engine
import Scriptwright.Storage.FileTree
import Scriptwright.Document.Yaml.Token
import Scriptwright.Document.Yaml.Event
import Scriptwright.Document.Yaml.Reader
import Scriptwright.Template.Definition
import Scriptwright.Validation.Validator
import Scriptwright.Validation.ProcessChecker
import Scriptwright.Shell.System
import Scriptwright.Generator
import Scriptwright.Logging
import Scriptwright.CommandLine.Run
import Scriptwright.Main
import Scriptwright.Proofs.Pattern.Leads
import Scriptwright.Proofs.Template.Coverage
import Scriptwright.Proofs.Text.Lines
import Scriptwright.Proofs.Pattern.Window
import Scriptwright.Proofs.Pattern.Form
import Scriptwright.Proofs.Validation.Security
import Scriptwright.Proofs.Markup.Outline
import Scriptwright.Proofs.Script.Snippets
import Scriptwright.Proofs.Markup.Rendering
import Scriptwright.Proofs.Markup.Slot
import Scriptwright.Proofs.Template.Rendering
import Scriptwright.Proofs.Template.Builtin
import Scriptwright.Proofs.Generation.Draft
import Scriptwright.Proofs.Generation.KdeConnect
import Scriptwright.Proofs.Generation.Success
import Scriptwright.Proofs.Template.Declaration
import Scriptwright.Proofs.Template.Standard
import Scriptwright.Proofs.Template.Header
import Scriptwright.Proofs.Generation.Outcome
import Scriptwright.Proofs.Pattern.Searching
import Scriptwright.Proofs.Template.Registration
import Scriptwright.Proofs.Description.NormalForm
import Scriptwright.Proofs.Pattern.Joining
import Scriptwright.Proofs.Description.Monotone
import Scriptwright.Proofs.Text.Runs
import Scriptwright.Proofs.Pattern.Scanning
import Scriptwright.Proofs.Description.EntityScan
import Scriptwright.Proofs.Template.WellKinded
import Scriptwright.Proofs.Generation.Clock
import Scriptwright.Proofs.Generation.Protocol
import Scriptwright.Proofs.Description.Complexity
import Scriptwright.Proofs.Description.FileManager
import Scriptwright.Proofs.Text.Rows
import Scriptwright.Proofs.Companion.ActionFile
import Scriptwright.Proofs.Generation.NemoAction
import Scriptwright.Proofs.Script.ClassName
import Scriptwright.Proofs.Script.ShellWords
import Scriptwright.Proofs.Script.StringLiteral
import Scriptwright.Proofs.Script.Indentation
import Scriptwright.Proofs.Template.Window
import Scriptwright.Proofs.Template.Missing
import Scriptwright.Proofs.Text.Order
import Scriptwright.Proofs.Template.History
import Scriptwright.Proofs.Template.Layers
import Scriptwright.Proofs.Storage.Path
import Scriptwright.Proofs.Storage.Listing
import Scriptwright.Proofs.Template.Directory
import Scriptwright.Proofs.Pattern.WholeWord
import Scriptwright.Proofs.Description.WordScan
import Scriptwright.Proofs.Rounding.Error
import Scriptwright.Proofs.Description.ExactScore
import Scriptwright.Proofs.Document.Records
import Scriptwright.Proofs.Template.Definition
import Scriptwright.Proofs.CommandLine.SavedFile
import Scriptwright.Proofs.Generation.Health
import Scriptwright.Proofs.Generation.Advice
