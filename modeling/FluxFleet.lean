import FluxFleet.Calendar
import FluxFleet.Checks
import FluxFleet.CommandLine.Generate
import FluxFleet.CommandLine.Invocation
import FluxFleet.CommandLine.Options
import FluxFleet.CommandLine.Run
import FluxFleet.CommandLine.Session
import FluxFleet.CommandLine.Validate
import FluxFleet.Document
import FluxFleet.Enablement
import FluxFleet.Error
import FluxFleet.FileSystem.Bytes
import FluxFleet.FileSystem.Path
import FluxFleet.FileSystem.Tree
import FluxFleet.Flux.Manifest
import FluxFleet.Flux.Patch
import FluxFleet.Flux.Resource
import FluxFleet.Generation
import FluxFleet.Generator
import FluxFleet.Graph.Basic
import FluxFleet.Graph.Search
import FluxFleet.Hooks.Context
import FluxFleet.Hooks.Dispatcher
import FluxFleet.Hooks.Registry
import FluxFleet.Interpolation
import FluxFleet.Json.Reader
import FluxFleet.Json.Writer
import FluxFleet.Main
import FluxFleet.Model.Cluster
import FluxFleet.Model.Kustomization
import FluxFleet.Model.Outline
import FluxFleet.Model.Preservation
import FluxFleet.Model.Reference
import FluxFleet.Model.Selection
import FluxFleet.Model.Source
import FluxFleet.Model.Substitution
import FluxFleet.Model.Template
import FluxFleet.Model.VersionEntry
import FluxFleet.Namespaces
import FluxFleet.Number.Decimal
import FluxFleet.Number.Double
import FluxFleet.Number.Limit
import FluxFleet.Number.Shortest
import FluxFleet.OrderedMap
import FluxFleet.Output
import FluxFleet.Problem
import FluxFleet.Project
import FluxFleet.Proofs.Graph.Invariant
import FluxFleet.Proofs.Graph.Relation
import FluxFleet.Publish
import FluxFleet.Resolution
import FluxFleet.Settings
import FluxFleet.Text.Base64
import FluxFleet.Text.Blank
import FluxFleet.Text.CodePoint
import FluxFleet.Text.Digit
import FluxFleet.Text.Lowercase
import FluxFleet.Text.Printable
import FluxFleet.Text.Quoted
import FluxFleet.Text.Utf8
import FluxFleet.Value.Basic
import FluxFleet.Value.Height
import FluxFleet.Value.Numbering
import FluxFleet.Value.Order
import FluxFleet.Value.SetOrder
import FluxFleet.Value.Text
import FluxFleet.Yaml.Block
import FluxFleet.Yaml.Character
import FluxFleet.Yaml.Cursor
import FluxFleet.Yaml.Lexer
import FluxFleet.Yaml.Node
import FluxFleet.Yaml.Part
import FluxFleet.Yaml.Part.Tokens
import FluxFleet.Yaml.Part.Values
import FluxFleet.Yaml.Plain
import FluxFleet.Yaml.Quoted
import FluxFleet.Yaml.Reader
import FluxFleet.Yaml.Scalar
import FluxFleet.Yaml.Style
import FluxFleet.Yaml.Tag
import FluxFleet.Yaml.Timestamp
import FluxFleet.Yaml.Token
import FluxFleet.Yaml.Writer
import FluxFleet.Proofs.Graph.Run
import FluxFleet.Proofs.Graph.Cycles
import FluxFleet.Proofs.Graph.Build
import FluxFleet.Proofs.Enablement
import FluxFleet.Proofs.Resolution
import FluxFleet.Proofs.Deployment
import FluxFleet.Proofs.Number.Double
import FluxFleet.Proofs.Value.Key
import FluxFleet.Proofs.Groups
import FluxFleet.Proofs.Precedence
import FluxFleet.Proofs.Identity
import FluxFleet.Proofs.Conflict
import FluxFleet.Proofs.Provision
import FluxFleet.Proofs.Failure
import FluxFleet.Proofs.Faults
import FluxFleet.Proofs.Verdict
import FluxFleet.Proofs.TemplateOrder
import FluxFleet.Proofs.Acceptance
import FluxFleet.Proofs.MissingValues
import FluxFleet.Proofs.FileSystem.Tree
import FluxFleet.Proofs.FileSystem.Write
import FluxFleet.Proofs.Publish
import FluxFleet.Proofs.FileSystem.Path
import FluxFleet.Proofs.Plan
import FluxFleet.Proofs.Interruption
import FluxFleet.Proofs.Result
import FluxFleet.Proofs.Serialization
import FluxFleet.Proofs.Layout
import FluxFleet.Proofs.Publication
import FluxFleet.Proofs.Value.Text
import FluxFleet.Proofs.References
import FluxFleet.Proofs.Session
import FluxFleet.Proofs.Project
import FluxFleet.Proofs.Validation
import FluxFleet.Proofs.Separation
import FluxFleet.Proofs.Value.Part
import FluxFleet.Proofs.Reading
import FluxFleet.Proofs.Shape.Template
import FluxFleet.Proofs.Shape.Cluster
import FluxFleet.Proofs.Malformed
import FluxFleet.Proofs.Emission
import FluxFleet.Proofs.Waiting
import FluxFleet.Proofs.Hooks.Dispatch
import FluxFleet.Proofs.ProviderCalls
import FluxFleet.Proofs.Graph.Reported
import FluxFleet.Proofs.Graph.Accounts
import FluxFleet.Proofs.Graph.Recursion
import FluxFleet.Proofs.Interpolation.Filling
import FluxFleet.Proofs.Interpolation.Dependence
import FluxFleet.Proofs.TierOrder
import FluxFleet.Proofs.ScalarText
import FluxFleet.Proofs.UnusedValues
import FluxFleet.Proofs.ReferenceGrammar
import FluxFleet.Proofs.Hooks.Registration
import FluxFleet.Proofs.Placement
import FluxFleet.Proofs.DryRun
import FluxFleet.Proofs.Namespaces
import FluxFleet.Proofs.Sources
import FluxFleet.Proofs.Attribution
import FluxFleet.Proofs.Json.RoundTrip
import FluxFleet.Proofs.Tuning
import FluxFleet.Proofs.Graph.Ledger
import FluxFleet.Proofs.Json.Documents
import FluxFleet.Proofs.Hooks.Loading
import FluxFleet.Proofs.Rereading
