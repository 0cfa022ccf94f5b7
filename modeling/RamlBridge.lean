import RamlBridge.Entries
import RamlBridge.Text.Blank
import RamlBridge.Text.Line
import RamlBridge.Text.Digit
import RamlBridge.Text.Visible
import RamlBridge.Text.Case
import RamlBridge.Text.Quoted
import RamlBridge.Decimal.Digits
import RamlBridge.Decimal.FloatFormat
import RamlBridge.Json.Printer
import RamlBridge.Json.Reader
import RamlBridge.Datum.Json
import RamlBridge.Validation.Field
import RamlBridge.Raml.Document
import RamlBridge.Raml.Listing
import RamlBridge.Uri.Relative
import RamlBridge.Conversion.BaseUri
import RamlBridge.Workspace.FilePath
import RamlBridge.Swagger.Listing
import RamlBridge.Swagger.Reading
import RamlBridge.Conversion.Parameters
import RamlBridge.Conversion.Document
import RamlBridge.Conversion.Draft
import RamlBridge.Conversion.Output
import RamlBridge.Yaml.ScalarText
import RamlBridge.Yaml.Node
import RamlBridge.Yaml.ScalarValue
import RamlBridge.Yaml.Value
import RamlBridge.Uri.Request
import RamlBridge.Workspace.FileTree
import RamlBridge.Workspace.Web
import RamlBridge.Loading.Document
import RamlBridge.Toml.Document
import RamlBridge.Settings.Basic
import RamlBridge.Settings.Lookup
import RamlBridge.Command.Arguments
import RamlBridge.Command.Run
import RamlBridge.Main
import RamlBridge.Domain.Direction
import RamlBridge.Domain.Name
import RamlBridge.Text.Charset
import RamlBridge.Packing.Deflate
import RamlBridge.Proofs.Entries
import RamlBridge.Proofs.Datum.Plain
import RamlBridge.Proofs.Raml.Places
import RamlBridge.Proofs.Validation.Accepted
import RamlBridge.Proofs.Raml.Root
import RamlBridge.Proofs.Conversion.Report
import RamlBridge.Proofs.Conversion.Parameters
import RamlBridge.Proofs.Conversion.Registry
import RamlBridge.Proofs.Conversion.Paths
import RamlBridge.Proofs.Conversion.Operations
import RamlBridge.Proofs.Conversion.Document
import RamlBridge.Proofs.Conversion.RootParameters
import RamlBridge.Proofs.Conversion.PathParameters
import RamlBridge.Proofs.Conversion.Schemas
import RamlBridge.Proofs.Conversion.Listing
import RamlBridge.Proofs.Conversion.Offences
import RamlBridge.Proofs.Conversion.Security
import RamlBridge.Proofs.Conversion.Convertible
import RamlBridge.Proofs.Decimal.Digits
import RamlBridge.Proofs.Json.Tree
import RamlBridge.Proofs.Json.Scalars
import RamlBridge.Proofs.Json.RoundTrip
import RamlBridge.Proofs.Datum.Exact
import RamlBridge.Proofs.Conversion.Contents
import RamlBridge.Proofs.Conversion.ExactValues
import RamlBridge.Proofs.Conversion.DocumentText
import RamlBridge.Proofs.Conversion.Grants
import RamlBridge.Proofs.Conversion.SecurityKeys
import RamlBridge.Proofs.Conversion.TemplateVariables
import RamlBridge.Proofs.Raml.Sources
import RamlBridge.Proofs.Conversion.OperationShape
import RamlBridge.Proofs.Conversion.Hoisting
import RamlBridge.Proofs.Conversion.FixedBaseUri
import RamlBridge.Proofs.Json.AsciiText
import RamlBridge.Proofs.Raml.Correspondence
import RamlBridge.Proofs.Raml.BodyNames
import RamlBridge.Proofs.Raml.DefaultMediaType
import RamlBridge.Proofs.Raml.SchemaPlaces
import RamlBridge.Proofs.Conversion.SchemaForms
import RamlBridge.Proofs.Conversion.PathCount
import RamlBridge.Proofs.Conversion.Sections
import RamlBridge.Proofs.Text.Pieces
import RamlBridge.Proofs.Json.Pointer
import RamlBridge.Proofs.Conversion.References
import RamlBridge.Proofs.Conversion.FirstSchemas
import RamlBridge.Proofs.Outcome
import RamlBridge.Proofs.Decimal.Binary64
import RamlBridge.Proofs.Json.Parsed
import RamlBridge.Proofs.Json.Equality
import RamlBridge.Proofs.Conversion.SchemaPositions
import RamlBridge.Proofs.Conversion.RegistryRuns
import RamlBridge.Proofs.Conversion.Redeclarations
import RamlBridge.Proofs.Swagger.Members
import RamlBridge.Proofs.Conversion.Nulls
import RamlBridge.Proofs.Conversion.Escapes
import RamlBridge.Proofs.Yaml.Within
import RamlBridge.Proofs.Yaml.Faults
import RamlBridge.Proofs.Validation.Stopped
import RamlBridge.Proofs.Raml.Obstacles
import RamlBridge.Proofs.Loading.Inclusion
import RamlBridge.Proofs.Loading.Outcomes
import RamlBridge.Proofs.Conversion.SchemaPaths
import RamlBridge.Proofs.Conversion.BasePath
import RamlBridge.Proofs.Conversion.BaseUriParts
import RamlBridge.Proofs.Conversion.Constraints
import RamlBridge.Proofs.Raml.Filed
import RamlBridge.Proofs.Raml.ExplicitShape
import RamlBridge.Proofs.Raml.UndeclaredKeys
import RamlBridge.Proofs.Raml.Dump
import RamlBridge.Proofs.Workspace.Paths
import RamlBridge.Proofs.Workspace.Placed
import RamlBridge.Proofs.Yaml.SameParts
import RamlBridge.Proofs.Uri.Shape
import RamlBridge.Proofs.Loading.Placement
import RamlBridge.Proofs.Loading.ByteOrderMark
import RamlBridge.Proofs.Loading.Blame
import RamlBridge.Proofs.Settings.Escapes
import RamlBridge.Proofs.Conversion.OutputPath
