import ServiceContract.Codec.Agreement
import ServiceContract.Codec.Configuration
import ServiceContract.Codec.Fault
import ServiceContract.Codec.Payload
import ServiceContract.Codec.Quantity
import ServiceContract.Codec.Record
import ServiceContract.Codec.Reliability
import ServiceContract.Codec.Specification
import ServiceContract.CommandLine
import ServiceContract.CommandLine.Arguments
import ServiceContract.Configuration
import ServiceContract.Configuration.Reading
import ServiceContract.Document.Agreement
import ServiceContract.Document.Bundle
import ServiceContract.Document.Contract
import ServiceContract.Document.Reliability
import ServiceContract.Error
import ServiceContract.Finding
import ServiceContract.Folder
import ServiceContract.Folder.Path
import ServiceContract.Folder.Step
import ServiceContract.Generation.Artifact
import ServiceContract.Generation.Build
import ServiceContract.Generation.Output
import ServiceContract.Input
import ServiceContract.Interface
import ServiceContract.Json.Printer
import ServiceContract.Json.Reader
import ServiceContract.Json.Token
import ServiceContract.Main
import ServiceContract.Numeral.Binary64
import ServiceContract.Numeral.Layout
import ServiceContract.Numeral.Shortest
import ServiceContract.Numeral.Width
import ServiceContract.Proofs.Agreement.Faithfulness
import ServiceContract.Proofs.Agreement.Labels
import ServiceContract.Proofs.Codec.Agreement
import ServiceContract.Proofs.Codec.Payload
import ServiceContract.Proofs.Codec.Record
import ServiceContract.Proofs.Codec.Reliability
import ServiceContract.Proofs.Codec.Specification
import ServiceContract.Proofs.Contract.Appending
import ServiceContract.Proofs.Contract.Fields
import ServiceContract.Proofs.Contract.Layout
import ServiceContract.Proofs.Contract.Paths
import ServiceContract.Proofs.Contract.Presence
import ServiceContract.Proofs.Contract.References
import ServiceContract.Proofs.Contract.Rendering
import ServiceContract.Proofs.Contract.SchemaReferences
import ServiceContract.Proofs.Contract.Words
import ServiceContract.Proofs.Folder.Entries
import ServiceContract.Proofs.Folder.Program
import ServiceContract.Proofs.Folder.Walk
import ServiceContract.Proofs.Generation.Artifacts
import ServiceContract.Proofs.Generation.BaseNames
import ServiceContract.Proofs.Generation.Drafts
import ServiceContract.Proofs.Generation.Faults
import ServiceContract.Proofs.Generation.History
import ServiceContract.Proofs.Generation.Links
import ServiceContract.Proofs.Generation.Neighbours
import ServiceContract.Proofs.Generation.Placement
import ServiceContract.Proofs.Generation.Replacement
import ServiceContract.Proofs.Generation.Settings
import ServiceContract.Proofs.Generation.Verification
import ServiceContract.Proofs.Generation.Writing
import ServiceContract.Proofs.Input.Storable
import ServiceContract.Proofs.Input.Targets
import ServiceContract.Proofs.Interface.Appending
import ServiceContract.Proofs.Interface.Errors
import ServiceContract.Proofs.Interface.Expansion
import ServiceContract.Proofs.Interface.Naming
import ServiceContract.Proofs.Interface.Plan
import ServiceContract.Proofs.Interface.References
import ServiceContract.Proofs.Interface.Reordering
import ServiceContract.Proofs.Interface.Wrapping
import ServiceContract.Proofs.Numeral.Magnitude
import ServiceContract.Proofs.Numeral.Range
import ServiceContract.Proofs.Order
import ServiceContract.Proofs.Outcome
import ServiceContract.Proofs.Registry.Growth
import ServiceContract.Proofs.Reliability.Bundle
import ServiceContract.Proofs.Reliability.Extraction
import ServiceContract.Proofs.Reliability.Findings
import ServiceContract.Proofs.Reliability.Limits
import ServiceContract.Proofs.Reliability.Loosening
import ServiceContract.Proofs.Reliability.Omission
import ServiceContract.Proofs.Reliability.Operators
import ServiceContract.Proofs.Reliability.Resolution
import ServiceContract.Proofs.Reliability.Selection
import ServiceContract.Proofs.Schema.Demands
import ServiceContract.Proofs.Schema.Document
import ServiceContract.Proofs.Schema.Operations
import ServiceContract.Proofs.Schema.Types
import ServiceContract.Proofs.Text.ByteOrder
import ServiceContract.Proofs.Text.Lines
import ServiceContract.Proofs.Text.Removal
import ServiceContract.Proofs.Text.Trimming
import ServiceContract.Proofs.TypeGraph.Completeness
import ServiceContract.Proofs.TypeGraph.Declarations
import ServiceContract.Proofs.TypeGraph.Evolution
import ServiceContract.Proofs.TypeGraph.Filling
import ServiceContract.Proofs.TypeGraph.Frame
import ServiceContract.Proofs.TypeGraph.Handles
import ServiceContract.Proofs.TypeGraph.Ledger
import ServiceContract.Proofs.TypeGraph.Mirror
import ServiceContract.Proofs.TypeGraph.Outline
import ServiceContract.Proofs.TypeGraph.Population
import ServiceContract.Proofs.TypeGraph.Reordering
import ServiceContract.Proofs.TypeGraph.Run
import ServiceContract.Proofs.TypeGraph.Session
import ServiceContract.Proofs.TypeGraph.Simulation
import ServiceContract.Proofs.TypeGraph.Steadiness
import ServiceContract.Proofs.TypeGraph.Structure
import ServiceContract.Proofs.Value.Access
import ServiceContract.Proofs.Value.Entries
import ServiceContract.Proofs.Value.Places
import ServiceContract.Proofs.Value.Unique
import ServiceContract.Proofs.Value.Words
import ServiceContract.Proofs.Yaml.Blocks
import ServiceContract.Proofs.Yaml.Lines
import ServiceContract.Proofs.Yaml.LiteralScalar
import ServiceContract.Proofs.Yaml.Margin
import ServiceContract.Proofs.Yaml.Nodes
import ServiceContract.Proofs.Yaml.PlainScalar
import ServiceContract.Proofs.Yaml.QuotedScalar
import ServiceContract.Proofs.Yaml.RoundTrip
import ServiceContract.Proofs.Yaml.Steps
import ServiceContract.Proofs.Yaml.Style
import ServiceContract.Proofs.Yaml.Values
import ServiceContract.Schema
import ServiceContract.Schema.Check
import ServiceContract.Schema.Contract
import ServiceContract.Schema.Sameness
import ServiceContract.Schema.Violation
import ServiceContract.Specification
import ServiceContract.Specification.Agreement
import ServiceContract.Specification.Declaration
import ServiceContract.Specification.Payload
import ServiceContract.Specification.Quantity
import ServiceContract.Specification.Reliability
import ServiceContract.Storage
import ServiceContract.Text.Blank
import ServiceContract.Text.Capital
import ServiceContract.Text.Class
import ServiceContract.Text.Path
import ServiceContract.Text.Removal
import ServiceContract.Toml.Reader
import ServiceContract.Toml.Scalar
import ServiceContract.Toml.Special
import ServiceContract.Toml.Table
import ServiceContract.Toml.Token
import ServiceContract.TypeGraph.Builder
import ServiceContract.TypeGraph.Registry
import ServiceContract.Url
import ServiceContract.Url.Address
import ServiceContract.Url.Direction
import ServiceContract.Url.DomainName
import ServiceContract.Url.HostCharacter
import ServiceContract.Url.Punycode
import ServiceContract.Value
import ServiceContract.Yaml.Node
import ServiceContract.Yaml.Printer
import ServiceContract.Yaml.Reader
import ServiceContract.Yaml.Scalar
import ServiceContract.Yaml.Style
import ServiceContract.Yaml.Token
import ServiceContract.Yaml.Token.Lexer
import ServiceContract.Yaml.Token.Scalar
import ServiceContract.Proofs.Reliability.Sections
