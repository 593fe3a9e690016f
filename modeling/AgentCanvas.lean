import AgentCanvas.Graph.Attributes
import AgentCanvas.Graph.Connections
import AgentCanvas.Graph.Diagnostics
import AgentCanvas.Graph.Document
import AgentCanvas.Graph.Edit
import AgentCanvas.Graph.File
import AgentCanvas.Graph.Kind
import AgentCanvas.Graph.Workflow
import AgentCanvas.Json.Basic
import AgentCanvas.Json.Display
import AgentCanvas.Json.Fault
import AgentCanvas.Json.Printer
import AgentCanvas.Json.Reader
import AgentCanvas.Number.Binary64
import AgentCanvas.Number.Numeral
import AgentCanvas.Number.Shortest
import AgentCanvas.Program.Blueprint
import AgentCanvas.Program.Declarations
import AgentCanvas.Program.Defaults
import AgentCanvas.Program.EntryPoint
import AgentCanvas.Program.Generation
import AgentCanvas.Program.Listing
import AgentCanvas.Program.Name
import AgentCanvas.Proofs.ForStd.Except
import AgentCanvas.Proofs.ForStd.List
import AgentCanvas.Proofs.Graph.Admission
import AgentCanvas.Proofs.Graph.Alike
import AgentCanvas.Proofs.Graph.Connections
import AgentCanvas.Proofs.Graph.Diagnostics
import AgentCanvas.Proofs.Graph.Document
import AgentCanvas.Proofs.Graph.Drawn
import AgentCanvas.Proofs.Graph.Emptied
import AgentCanvas.Proofs.Graph.File
import AgentCanvas.Proofs.Graph.Loading
import AgentCanvas.Proofs.Graph.Loss
import AgentCanvas.Proofs.Graph.Order
import AgentCanvas.Proofs.Graph.Places
import AgentCanvas.Proofs.Graph.Reading
import AgentCanvas.Proofs.Graph.Repetition
import AgentCanvas.Proofs.Graph.Roles
import AgentCanvas.Proofs.Graph.Session
import AgentCanvas.Proofs.Graph.Stored
import AgentCanvas.Proofs.Graph.Wiring
import AgentCanvas.Proofs.Json.Finite
import AgentCanvas.Proofs.Json.Limits
import AgentCanvas.Proofs.Json.Outline
import AgentCanvas.Proofs.Json.Readers
import AgentCanvas.Proofs.Program.Anonymity
import AgentCanvas.Proofs.Program.Assembly
import AgentCanvas.Proofs.Program.Blanks
import AgentCanvas.Proofs.Program.Blueprint
import AgentCanvas.Proofs.Program.Body
import AgentCanvas.Proofs.Program.Closed
import AgentCanvas.Proofs.Program.Emptied
import AgentCanvas.Proofs.Program.EntryPoint
import AgentCanvas.Proofs.Program.Failure
import AgentCanvas.Proofs.Program.FreeText
import AgentCanvas.Proofs.Program.Indentation
import AgentCanvas.Proofs.Program.Layout
import AgentCanvas.Proofs.Program.Listing
import AgentCanvas.Proofs.Program.Lossless
import AgentCanvas.Proofs.Program.Name
import AgentCanvas.Proofs.Program.Nulls
import AgentCanvas.Proofs.Program.ReadsAs
import AgentCanvas.Proofs.Program.References
import AgentCanvas.Proofs.Program.Reload
import AgentCanvas.Proofs.Program.Rendering
import AgentCanvas.Proofs.Program.Sealed
import AgentCanvas.Proofs.Program.Sections
import AgentCanvas.Proofs.Program.Shadowing
import AgentCanvas.Proofs.Program.Slug
import AgentCanvas.Proofs.Program.Tools
import AgentCanvas.Proofs.Program.Unread
import AgentCanvas.Proofs.Schema.Alike
import AgentCanvas.Proofs.Schema.Checked
import AgentCanvas.Proofs.Schema.Loss
import AgentCanvas.Proofs.Service.Agreement
import AgentCanvas.Proofs.Settings.Origins
import AgentCanvas.Proofs.Text.Binding
import AgentCanvas.Proofs.Text.Framed
import AgentCanvas.Proofs.Text.Lines
import AgentCanvas.Proofs.Text.Literal
import AgentCanvas.Proofs.Text.Mentions
import AgentCanvas.Proofs.Text.Quoted
import AgentCanvas.Proofs.Text.Sealed
import AgentCanvas.Proofs.Text.Spacing
import AgentCanvas.Proofs.Text.Trim
import AgentCanvas.Proofs.Text.Utf8
import AgentCanvas.Schema.Checked
import AgentCanvas.Schema.Field
import AgentCanvas.Schema.Issue
import AgentCanvas.Service.Request
import AgentCanvas.Service.Response
import AgentCanvas.Settings.Basic
import AgentCanvas.Settings.EnvFile
import AgentCanvas.Text.Blank
import AgentCanvas.Text.Case
import AgentCanvas.Text.CaseTable
import AgentCanvas.Text.CodeRange
import AgentCanvas.Text.Identifier
import AgentCanvas.Text.IdentifierTable
import AgentCanvas.Text.Lines
import AgentCanvas.Text.PrintableTable
import AgentCanvas.Text.Quoted
import AgentCanvas.Text.Utf8
