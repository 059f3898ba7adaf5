import TypedClient.Charset.Basic
import TypedClient.Charset.Decode
import TypedClient.Charset.Japanese
import TypedClient.Charset.Korean
import TypedClient.Charset.OneByte
import TypedClient.Charset.SimplifiedChinese
import TypedClient.Charset.Table
import TypedClient.Charset.TraditionalChinese
import TypedClient.Client.Basic
import TypedClient.Client.Generate
import TypedClient.Client.Module
import TypedClient.Client.Options
import TypedClient.Client.Output
import TypedClient.Command.Arguments
import TypedClient.Command.Program
import TypedClient.Command.Run
import TypedClient.Disk.Basic
import TypedClient.Disk.Path
import TypedClient.Document.Basic
import TypedClient.Document.Method
import TypedClient.Document.Read
import TypedClient.Json.Double
import TypedClient.Json.Fault
import TypedClient.Json.Literal
import TypedClient.Json.Number
import TypedClient.Json.Position
import TypedClient.Json.Read
import TypedClient.Json.Tree
import TypedClient.Json.Value
import TypedClient.Json.Write
import TypedClient.Keyed
import TypedClient.Log.Event
import TypedClient.Log.Filter
import TypedClient.Main
import TypedClient.Naming
import TypedClient.Proofs.Script.Literal
import TypedClient.Proofs.Script.TypeText
import TypedClient.Run.Basic
import TypedClient.Schema.Basic
import TypedClient.Schema.Read
import TypedClient.Schema.TypeExpr
import TypedClient.Script.Expr
import TypedClient.Script.Lexeme
import TypedClient.Script.Module
import TypedClient.Script.TypeExpr
import TypedClient.Service.ContentType
import TypedClient.Service.Endpoint
import TypedClient.Service.Fetch
import TypedClient.Service.Status
import TypedClient.Settings.Basic
import TypedClient.Settings.Export
import TypedClient.Settings.File
import TypedClient.Settings.Interview
import TypedClient.Text.Alphanumeric
import TypedClient.Text.Blank
import TypedClient.Text.CodePoints
import TypedClient.Text.Pieces
import TypedClient.Text.Printable
import TypedClient.Text.Quoted
import TypedClient.Text.Uppercase
import TypedClient.Text.Utf8
import TypedClient.Url.Address
import TypedClient.Url.Basic
import TypedClient.Url.Domain.Basic
import TypedClient.Url.Domain.Composition
import TypedClient.Url.Domain.Direction
import TypedClient.Url.Domain.Joining
import TypedClient.Url.Domain.Punycode
import TypedClient.Url.Domain.Replacement
import TypedClient.Url.Parse
import TypedClient.Url.Percent
import TypedClient.Proofs.Schema.References
import TypedClient.Proofs.Client.TypeNames
import TypedClient.Proofs.Document.Written
import TypedClient.Proofs.Client.Callables
import TypedClient.Proofs.Json.Printing
import TypedClient.Proofs.Json.Positions
import TypedClient.Proofs.Json.Spans
import TypedClient.Proofs.Json.Denoted
import TypedClient.Proofs.Settings.Text
import TypedClient.Proofs.Settings.Validation
import TypedClient.Proofs.Disk.Writing
import TypedClient.Proofs.Settings.Persistence
import TypedClient.Proofs.Client.Failure
import TypedClient.Proofs.Client.BesideReferences
import TypedClient.Proofs.Document.Fields
import TypedClient.Proofs.Document.Decided
import TypedClient.Proofs.Document.Shape
import TypedClient.Proofs.Client.Styles
import TypedClient.Proofs.Client.Bindings
import TypedClient.Proofs.Client.Header
import TypedClient.Proofs.Client.Owners
import TypedClient.Proofs.Client.Signatures
import TypedClient.Proofs.Document.Joined
import TypedClient.Proofs.Client.Independence
import TypedClient.Proofs.Client.Fetching
import TypedClient.Proofs.Command.Completion
import TypedClient.Proofs.Text.Blank
import TypedClient.Proofs.Text.CodePoints
import TypedClient.Proofs.Disk.Replacing
import TypedClient.Proofs.Run.Effects
import TypedClient.Proofs.Settings.Setup
import TypedClient.Proofs.Settings.Dialogue
import TypedClient.Proofs.Command.Effects
import TypedClient.Proofs.Client.Sections
import TypedClient.Proofs.Schema.Written
import TypedClient.Proofs.Schema.Marks
import TypedClient.Proofs.Service.Reply
import TypedClient.Proofs.Service.Endpoint
import TypedClient.Proofs.Command.Endings
import TypedClient.Proofs.Command.Agreement
import TypedClient.Proofs.Disk.SideBySide
import TypedClient.Proofs.Run.SideBySide
import TypedClient.Proofs.Command.Secrecy
import TypedClient.Proofs.Script.StringValue
import TypedClient.Proofs.Script.Comment
import TypedClient.Proofs.Client.FunctionText
import TypedClient.Proofs.Client.OperationNames
import TypedClient.Proofs.Client.SharedNames
import TypedClient.Proofs.Text.Identifiers
import TypedClient.Proofs.Naming.Identifiers
import TypedClient.Proofs.Settings.Conversation
import TypedClient.Proofs.Settings.AllOrNothing
import TypedClient.Proofs.Command.Rerunning
import TypedClient.Proofs.Disk.Receiving
import TypedClient.Proofs.Client.Delivery
import TypedClient.Proofs.Naming.Words
import TypedClient.Proofs.Client.Exports
import TypedClient.Proofs.Client.Choices
import TypedClient.Proofs.Schema.Keys
import TypedClient.Proofs.Client.Keys
import TypedClient.Proofs.Json.Ends
import TypedClient.Proofs.Json.Remarks
import TypedClient.Proofs.Document.Remarks
import TypedClient.Proofs.Client.Events
import TypedClient.Proofs.Json.Telling
import TypedClient.Proofs.Json.Form
import TypedClient.Proofs.Settings.Forms
import TypedClient.Proofs.Settings.Overlay
import TypedClient.Proofs.Client.Refitting
import TypedClient.Proofs.Client.Places
import TypedClient.Proofs.Text.Margins
import TypedClient.Proofs.Script.Nesting
