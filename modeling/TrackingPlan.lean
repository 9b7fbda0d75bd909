import TrackingPlan.Text.Numeric
import TrackingPlan.Text.Lowercase
import TrackingPlan.Text.Uppercase
import TrackingPlan.Text.Identifier
import TrackingPlan.Text.Hidden
import TrackingPlan.Text.CaseMap
import TrackingPlan.Text.Blank
import TrackingPlan.Binary64.Decimal
import TrackingPlan.Json.Writer
import TrackingPlan.Json.Source
import TrackingPlan.Naming.Words
import TrackingPlan.Naming.Registry
import TrackingPlan.Schema.Kind
import TrackingPlan.Schema.TypeName
import TrackingPlan.Schema.Literal
import TrackingPlan.Schema.Type
import TrackingPlan.Schema.Basic
import TrackingPlan.Schema.Record
import TrackingPlan.Schema.Routing
import TrackingPlan.Alternation.Resolver
import TrackingPlan.Document.Reader
import TrackingPlan.Document.Writer
import TrackingPlan.Schema.OfDocument
import TrackingPlan.Schema.Validation
import TrackingPlan.Layout.OfSchema
import TrackingPlan.Layout.Encode
import TrackingPlan.Bindings.Declare
import TrackingPlan.Bindings.Encode
import TrackingPlan.Bindings.Wrapper
import TrackingPlan.Bindings.Print
import TrackingPlan.Bindings.PathSyntax
import TrackingPlan.Bindings.File
import TrackingPlan.Toml.Reader
import TrackingPlan.Config.Reader
import TrackingPlan.Files.Write
import TrackingPlan.Bindings.OfConfig
import TrackingPlan.Logging
import TrackingPlan.Json.Encode
import TrackingPlan.Client.Recording
import TrackingPlan.Proofs.Entries
import TrackingPlan.Proofs.Schema.NamedTypes
import TrackingPlan.Proofs.Layout.OfSchema
import TrackingPlan.Proofs.Layout.ByType
import TrackingPlan.Proofs.Layout.Objects
import TrackingPlan.Proofs.Layout.Refinement
import TrackingPlan.Proofs.Alternation
import TrackingPlan.Proofs.Alternation.Memory
import TrackingPlan.Proofs.Alternation.ObjectShapes
import TrackingPlan.Proofs.Build.Identification
import TrackingPlan.Proofs.Build.Cycles
import TrackingPlan.Proofs.Build.Validity
import TrackingPlan.Proofs.Build.Declared
import TrackingPlan.Proofs.Build.Alternations
import TrackingPlan.Proofs.Build.CaseShapes
import TrackingPlan.Proofs.Layout.Payloads
import TrackingPlan.Proofs.Layout.FieldOrder
import TrackingPlan.Proofs.Layout.Written
import TrackingPlan.Proofs.Layout.Discriminators
import TrackingPlan.Proofs.Layout.RoutedLiterals
import TrackingPlan.Proofs.Layout.DefaultCases
import TrackingPlan.Proofs.Layout.CaseReading
import TrackingPlan.Proofs.Layout.SuppliedKeys
import TrackingPlan.Proofs.Layout.ExactObjects
import TrackingPlan.Proofs.Layout.RoutedCases
import TrackingPlan.Proofs.Layout.BareValues
import TrackingPlan.Proofs.Naming.Growth
import TrackingPlan.Proofs.Naming.Runs
import TrackingPlan.Proofs.Bindings.Settled
import TrackingPlan.Proofs.Bindings.Emitters
import TrackingPlan.Proofs.Naming.Words
import TrackingPlan.Proofs.Schema.Mentions
import TrackingPlan.Proofs.Bindings.Defaults
import TrackingPlan.Proofs.Bindings.Calls
import TrackingPlan.Proofs.Bindings.Mentions
import TrackingPlan.Proofs.Bindings.Spelling
import TrackingPlan.Proofs.Bindings.Agreement
import TrackingPlan.Proofs.Bindings.Failures
import TrackingPlan.Proofs.Bindings.Shapes
import TrackingPlan.Proofs.Bindings.Closure
import TrackingPlan.Proofs.Bindings.Identifiers
import TrackingPlan.Proofs.Bindings.Generates
import TrackingPlan.Proofs.Document.RoundTrip
import TrackingPlan.Proofs.Bindings.FixedValues
import TrackingPlan.Proofs.Bindings.FileText
import TrackingPlan.Proofs.Schema.FullWalk
import TrackingPlan.Proofs.Schema.EnumCases
import TrackingPlan.Proofs.Naming.AsciiNames
import TrackingPlan.Proofs.Schema.CaseNames
import TrackingPlan.Proofs.Bindings.Methods
import TrackingPlan.Proofs.Bindings.Members
import TrackingPlan.Proofs.Bindings.ObjectTypes
import TrackingPlan.Proofs.Config.Environments
import TrackingPlan.Proofs.Config.Variables
import TrackingPlan.Proofs.Text.LetterCase
import TrackingPlan.Proofs.Naming.WordBreaks
import TrackingPlan.Proofs.Schema.TextIds
import TrackingPlan.Proofs.Files.Paths
import TrackingPlan.Proofs.Files.Directories
import TrackingPlan.Proofs.Files.Writing
