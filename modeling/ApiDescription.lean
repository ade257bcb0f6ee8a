import ApiDescription.Binding
import ApiDescription.Binding.Component
import ApiDescription.Binding.Description
import ApiDescription.Binding.Field
import ApiDescription.Binding.Operation
import ApiDescription.Binding.Parameter
import ApiDescription.Binding.Reference
import ApiDescription.Binding.Schema
import ApiDescription.Binding.Server
import ApiDescription.Decimal
import ApiDescription.Description
import ApiDescription.Description.Operation
import ApiDescription.Description.Parameter
import ApiDescription.Description.Traversal
import ApiDescription.Entries
import ApiDescription.Finding
import ApiDescription.Import
import ApiDescription.ImportError
import ApiDescription.Json
import ApiDescription.Json.Reader
import ApiDescription.Json.Reader.Skip
import ApiDescription.Json.Writer
import ApiDescription.JsonForm.Description
import ApiDescription.JsonForm.Report
import ApiDescription.JsonForm.Schema
import ApiDescription.Load
import ApiDescription.Options
import ApiDescription.Options.Field
import ApiDescription.Options.Json
import ApiDescription.Options.Yaml
import ApiDescription.PathTemplate
import ApiDescription.Pointer
import ApiDescription.Proofs.Binding.OnlyTells
import ApiDescription.Proofs.Binding.Sited
import ApiDescription.Proofs.Binding.Workspace
import ApiDescription.Proofs.Pointer
import ApiDescription.Proofs.Schema.Edges
import ApiDescription.Registry
import ApiDescription.Registry.Anchor
import ApiDescription.Report
import ApiDescription.Schema
import ApiDescription.Text.Blank
import ApiDescription.Text.CodeTable
import ApiDescription.Text.Combining
import ApiDescription.Text.Composition
import ApiDescription.Text.Direction
import ApiDescription.Text.Hexadecimal
import ApiDescription.Text.Joining
import ApiDescription.Text.Percent
import ApiDescription.Text.Printable
import ApiDescription.Text.Punycode
import ApiDescription.Text.Quoted
import ApiDescription.Text.Split
import ApiDescription.Uri
import ApiDescription.Uri.Host
import ApiDescription.Uri.HostName
import ApiDescription.Uri.HostName.Mapping
import ApiDescription.Uri.Path
import ApiDescription.UriReference
import ApiDescription.Validation
import ApiDescription.Validation.Components
import ApiDescription.Validation.Operations
import ApiDescription.Validation.Paths
import ApiDescription.Validation.Schemas
import ApiDescription.Version
import ApiDescription.Yaml.Compose
import ApiDescription.Yaml.Document
import ApiDescription.Yaml.Event
import ApiDescription.Yaml.Fault
import ApiDescription.Yaml.Mark
import ApiDescription.Yaml.Merge
import ApiDescription.Yaml.Node
import ApiDescription.Yaml.Scalar
import ApiDescription.Yaml.Tag
import ApiDescription.Yaml.ToJson
import ApiDescription.Yaml.Token
import ApiDescription.Yaml.Token.Lexer
import ApiDescription.Yaml.Token.Property
import ApiDescription.Yaml.Token.Scalar
import ApiDescription.Proofs.Binding.Reading
import ApiDescription.Proofs.Binding.Sound
import ApiDescription.Proofs.Binding.Ensures
import ApiDescription.Proofs.Binding.Schema
import ApiDescription.Proofs.Binding.Description
import ApiDescription.Proofs.Schema.Walks
import ApiDescription.Proofs.Schema.References
import ApiDescription.Proofs.Schema.Shapes
import ApiDescription.Proofs.Schema.Chains
import ApiDescription.Proofs.Schema.Accepted
import ApiDescription.Proofs.Binding.Room
import ApiDescription.Proofs.Binding.Tandem
import ApiDescription.Proofs.Binding.Telling
import ApiDescription.Proofs.Binding.Simulation
import ApiDescription.Proofs.Binding.SideBySide
import ApiDescription.Proofs.Binding.Relocation
import ApiDescription.Proofs.Isolation
import ApiDescription.Proofs.Schema.Depth
import ApiDescription.Proofs.SchemaIds
import ApiDescription.Proofs.Binding.Quiet
import ApiDescription.Proofs.Schema.Bounds
import ApiDescription.Proofs.Whole
import ApiDescription.Proofs.Traversal
import ApiDescription.Proofs.Checks
import ApiDescription.Proofs.Binding.Traced
import ApiDescription.Proofs.Binding.TracedSchema
import ApiDescription.Proofs.Binding.TracedParts
import ApiDescription.Proofs.Binding.TracedDescription
import ApiDescription.Proofs.Binding.Places
import ApiDescription.Proofs.Operations
import ApiDescription.Proofs.Locations
import ApiDescription.Proofs.Schema.Once
import ApiDescription.Proofs.Binding.Insular
import ApiDescription.Proofs.Binding.InsularDescription
import ApiDescription.Proofs.Binding.InsularRun
import ApiDescription.Proofs.Binding.Receding
import ApiDescription.Proofs.Binding.InsularSchema
import ApiDescription.Proofs.InsularChecks
import ApiDescription.Proofs.Insular
import ApiDescription.Proofs.PathParameters
import ApiDescription.Proofs.Outcome
import ApiDescription.Proofs.DepthLimit
import ApiDescription.Proofs.Registration
import ApiDescription.Proofs.RegistryHistory
import ApiDescription.Proofs.Confinement
import ApiDescription.Proofs.Revision
import ApiDescription.Proofs.Binding.Outside
import ApiDescription.Proofs.Binding.Reached
import ApiDescription.Proofs.Schema.Recursive
import ApiDescription.Proofs.Schema.Cycles
import ApiDescription.Proofs.Binding.Readers
import ApiDescription.Proofs.Budget
import ApiDescription.Proofs.Repetition
import ApiDescription.Proofs.Binding.Chains
import ApiDescription.Proofs.Anchors
import ApiDescription.Proofs.Responses
import ApiDescription.Proofs.Inlining
import ApiDescription.Proofs.Binding.Again
import ApiDescription.Proofs.Parts
import ApiDescription.Proofs.Binding.TowardParts
import ApiDescription.Proofs.Tags
import ApiDescription.Proofs.Percent
import ApiDescription.Proofs.Pointer.Text
import ApiDescription.Proofs.Pointer.Lookup
import ApiDescription.Proofs.Pointer.Printed
import ApiDescription.Proofs.Schema.Mapping
import ApiDescription.Proofs.PathTemplate.Grammar
import ApiDescription.Proofs.Paths
import ApiDescription.Proofs.Report
import ApiDescription.Proofs.Yaml.ToJson
import ApiDescription.Proofs.Yaml.Mirrored
import ApiDescription.Proofs.Schema.Declared
import ApiDescription.Proofs.Binding.Inner
import ApiDescription.Proofs.EffectiveParameters
import ApiDescription.Proofs.OperationIds
import ApiDescription.Proofs.Binding.Names
import ApiDescription.Proofs.Pointer.Fragment
import ApiDescription.Proofs.Schema.Types
import ApiDescription.Proofs.SelfReference
import ApiDescription.Proofs.Labels
import ApiDescription.Proofs.Version
import ApiDescription.Proofs.Schema.Following
import ApiDescription.Proofs.Binding.Binder
import ApiDescription.Proofs.Binding.Calls
import ApiDescription.Proofs.Restoration
