import ServiceBindings.Bindings.Body
import ServiceBindings.Bindings.Client
import ServiceBindings.Bindings.Types
import ServiceBindings.Bindings.Values
import ServiceBindings.Call.Builder
import ServiceBindings.Call.Describe
import ServiceBindings.Call.Error
import ServiceBindings.Call.Exchange
import ServiceBindings.Call.Http
import ServiceBindings.Call.Run
import ServiceBindings.Call.SegmentValue
import ServiceBindings.Call.Session
import ServiceBindings.Call.Settings
import ServiceBindings.Call.Status
import ServiceBindings.Code.Ident
import ServiceBindings.Code.Layout
import ServiceBindings.Code.Printer
import ServiceBindings.Code.Reader
import ServiceBindings.Code.Syntax
import ServiceBindings.Code.Tokens
import ServiceBindings.CommandLine.Arguments
import ServiceBindings.CommandLine.Run
import ServiceBindings.Decimal.Binary
import ServiceBindings.Decimal.Notation
import ServiceBindings.Decimal.Shortest
import ServiceBindings.Files.Error
import ServiceBindings.Files.Output
import ServiceBindings.Files.Path
import ServiceBindings.Files.Tree
import ServiceBindings.Generate.Binding
import ServiceBindings.Generate.Client
import ServiceBindings.Generate.Crate
import ServiceBindings.Generate.Enumeration
import ServiceBindings.Generate.Error
import ServiceBindings.Generate.Manifest
import ServiceBindings.Generate.Message
import ServiceBindings.Generate.Names
import ServiceBindings.Generate.Service
import ServiceBindings.Generate.Types
import ServiceBindings.Json.Accept
import ServiceBindings.Json.Basic
import ServiceBindings.Json.Fault
import ServiceBindings.Json.Reader
import ServiceBindings.Json.Scan
import ServiceBindings.Json.Shape
import ServiceBindings.Json.Writer
import ServiceBindings.Main
import ServiceBindings.Naming
import ServiceBindings.Schema.Basic
import ServiceBindings.Schema.BuilderSpec
import ServiceBindings.Schema.Builtin
import ServiceBindings.Schema.Encoding
import ServiceBindings.Schema.Error
import ServiceBindings.Schema.Profile
import ServiceBindings.Schema.Validation
import ServiceBindings.Text.Blank
import ServiceBindings.Text.Case
import ServiceBindings.Text.CaseTable
import ServiceBindings.Text.Identifier
import ServiceBindings.Text.IdentifierTable
import ServiceBindings.Text.LetterTable
import ServiceBindings.Text.PrintableTable
import ServiceBindings.Text.Quoted
import ServiceBindings.Text.Run
import ServiceBindings.Text.Utf8
import ServiceBindings.Toml.Reader
import ServiceBindings.Url.Address
import ServiceBindings.Url.Basic
import ServiceBindings.Url.Error
import ServiceBindings.Url.Host
import ServiceBindings.Url.Path
import ServiceBindings.Url.Percent
import ServiceBindings.Url.Punycode
import ServiceBindings.Url.Reader
import ServiceBindings.Proofs.Bindings.Call
import ServiceBindings.Proofs.Bindings.Codec
import ServiceBindings.Proofs.Bindings.Imports
import ServiceBindings.Proofs.Bindings.Plan
import ServiceBindings.Proofs.Bindings.Responses
import ServiceBindings.Proofs.Bindings.RoundTrip
import ServiceBindings.Proofs.Bindings.Sizes
import ServiceBindings.Proofs.Bindings.Sound
import ServiceBindings.Proofs.Bindings.Types
import ServiceBindings.Proofs.Bindings.Values
import ServiceBindings.Proofs.Call.Parts
import ServiceBindings.Proofs.Code.Documentation
import ServiceBindings.Proofs.Code.Writing
import ServiceBindings.Proofs.Decimal.Notation
import ServiceBindings.Proofs.Decimal.Rounding
import ServiceBindings.Proofs.Decimal.Shortest
import ServiceBindings.Proofs.Files.Location
import ServiceBindings.Proofs.Files.Output
import ServiceBindings.Proofs.Files.Replacing
import ServiceBindings.Proofs.Files.Residue
import ServiceBindings.Proofs.Files.Temporary
import ServiceBindings.Proofs.Files.Tree
import ServiceBindings.Proofs.Files.WellFormed
import ServiceBindings.Proofs.Generate.Boxing
import ServiceBindings.Proofs.Generate.Capture
import ServiceBindings.Proofs.Generate.Descriptions
import ServiceBindings.Proofs.Generate.Distinct
import ServiceBindings.Proofs.Generate.Extension
import ServiceBindings.Proofs.Generate.Fitting
import ServiceBindings.Proofs.Generate.Imports
import ServiceBindings.Proofs.Generate.Layout
import ServiceBindings.Proofs.Generate.Manifest
import ServiceBindings.Proofs.Generate.Modules
import ServiceBindings.Proofs.Generate.Prelude
import ServiceBindings.Proofs.Generate.Refusal
import ServiceBindings.Proofs.Generate.Results
import ServiceBindings.Proofs.Generate.Scopes
import ServiceBindings.Proofs.Generate.Specification
import ServiceBindings.Proofs.Json.Normal
import ServiceBindings.Proofs.Json.Numbers
import ServiceBindings.Proofs.Json.Reading
import ServiceBindings.Proofs.Lookup
import ServiceBindings.Proofs.Naming
import ServiceBindings.Proofs.Naming.Cuts
import ServiceBindings.Proofs.Naming.Repeated
import ServiceBindings.Proofs.Schema.Descriptions
import ServiceBindings.Proofs.Schema.Encoding
import ServiceBindings.Proofs.Schema.References
import ServiceBindings.Proofs.Schema.Segments
import ServiceBindings.Proofs.Schema.Validation
import ServiceBindings.Proofs.Sequence
import ServiceBindings.Proofs.Session.BaseAddress
import ServiceBindings.Proofs.Session.Callback
import ServiceBindings.Proofs.Session.Completion
import ServiceBindings.Proofs.Session.Exchange
import ServiceBindings.Proofs.Session.Frame
import ServiceBindings.Proofs.Session.Local
import ServiceBindings.Proofs.Session.Ownership
import ServiceBindings.Proofs.Session.Reference
import ServiceBindings.Proofs.Session.Stage
import ServiceBindings.Proofs.Session.Transition
import ServiceBindings.Proofs.Text.Letters
import ServiceBindings.Proofs.Text.Lowercase
import ServiceBindings.Proofs.Text.Utf8
import ServiceBindings.Proofs.Url.Extension
import ServiceBindings.Proofs.Url.Ordinary
import ServiceBindings.Proofs.Url.Segments
