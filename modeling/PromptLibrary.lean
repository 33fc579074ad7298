import PromptLibrary.Backup
import PromptLibrary.CommandLine.Command
import PromptLibrary.CommandLine.Execute
import PromptLibrary.CommandLine.Grammar
import PromptLibrary.Config
import PromptLibrary.Decimal.Binary64
import PromptLibrary.Decimal.Shortest
import PromptLibrary.Entries
import PromptLibrary.Error
import PromptLibrary.Form
import PromptLibrary.Form.Keys
import PromptLibrary.Json.Basic
import PromptLibrary.Json.Decode
import PromptLibrary.Json.Document
import PromptLibrary.Json.Number
import PromptLibrary.Json.Printer
import PromptLibrary.Library.Answer
import PromptLibrary.Library.Basic
import PromptLibrary.Library.File
import PromptLibrary.Loader
import PromptLibrary.Main
import PromptLibrary.Models
import PromptLibrary.Path
import PromptLibrary.Placeholder.Basic
import PromptLibrary.Placeholder.Fill
import PromptLibrary.Placeholder.Pattern
import PromptLibrary.Placeholder.Scan
import PromptLibrary.Placeholder.Values
import PromptLibrary.Proofs.Backup
import PromptLibrary.Proofs.Backup.History
import PromptLibrary.Proofs.Backup.OwnSlot
import PromptLibrary.Proofs.Backup.Refusal
import PromptLibrary.Proofs.Entries
import PromptLibrary.Proofs.Entries.Order
import PromptLibrary.Proofs.Form
import PromptLibrary.Proofs.Json.Lexeme
import PromptLibrary.Proofs.Json.Nesting
import PromptLibrary.Proofs.Json.RoundTrip
import PromptLibrary.Proofs.Json.WellFormed
import PromptLibrary.Proofs.Library.Answer
import PromptLibrary.Proofs.Library.Change
import PromptLibrary.Proofs.Library.Nesting
import PromptLibrary.Proofs.Library.Operation
import PromptLibrary.Proofs.Library.OutputSchema
import PromptLibrary.Proofs.Library.Required
import PromptLibrary.Proofs.Library.ResponseFormat
import PromptLibrary.Proofs.Library.RoundTrip
import PromptLibrary.Proofs.Library.WellFormed
import PromptLibrary.Proofs.Loader
import PromptLibrary.Proofs.Models
import PromptLibrary.Proofs.Models.Layout
import PromptLibrary.Proofs.Path
import PromptLibrary.Proofs.Placeholder.Apart
import PromptLibrary.Proofs.Placeholder.Canonical
import PromptLibrary.Proofs.Placeholder.Enclosure
import PromptLibrary.Proofs.Placeholder.Exact
import PromptLibrary.Proofs.Placeholder.Grammar
import PromptLibrary.Proofs.Placeholder.Hole
import PromptLibrary.Proofs.Placeholder.Mark
import PromptLibrary.Proofs.Placeholder.Outline
import PromptLibrary.Proofs.Placeholder.Pairing
import PromptLibrary.Proofs.Placeholder.Pattern
import PromptLibrary.Proofs.Placeholder.Seam
import PromptLibrary.Proofs.Placeholder.Search
import PromptLibrary.Proofs.Placeholder.Span
import PromptLibrary.Proofs.Placeholder.Strip
import PromptLibrary.Proofs.Run
import PromptLibrary.Proofs.Run.Asking
import PromptLibrary.Proofs.Run.Format
import PromptLibrary.Proofs.Run.SystemPrompt
import PromptLibrary.Proofs.Schema
import PromptLibrary.Proofs.Schema.NormalForm
import PromptLibrary.Proofs.Session
import PromptLibrary.Proofs.Session.Atomicity
import PromptLibrary.Proofs.Session.Header
import PromptLibrary.Proofs.Session.Persistence
import PromptLibrary.Proofs.Session.ResponseFormat
import PromptLibrary.Proofs.Store.Memory
import PromptLibrary.Proofs.Template.AttributeOrder
import PromptLibrary.Proofs.Text.Case
import PromptLibrary.Run
import PromptLibrary.Schema.Edit
import PromptLibrary.Schema.Field
import PromptLibrary.Schema.Format
import PromptLibrary.Store.Basic
import PromptLibrary.Store.Memory
import PromptLibrary.Store.System
import PromptLibrary.Store.Tree
import PromptLibrary.Template
import PromptLibrary.Text.Blank
import PromptLibrary.Text.Case
import PromptLibrary.Text.CaseTable
import PromptLibrary.Text.EscapeTable
import PromptLibrary.Text.Quoted
import PromptLibrary.Text.Split
import PromptLibrary.Text.Word
import PromptLibrary.Text.WordTable
import PromptLibrary.Toml.Basic
import PromptLibrary.Toml.Reader
import PromptLibrary.Workspace
