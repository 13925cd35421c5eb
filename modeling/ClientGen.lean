import ClientGen.Api.Basic
import ClientGen.Api.Compile
import ClientGen.Api.Dependencies
import ClientGen.Api.Export
import ClientGen.Api.Models
import ClientGen.Api.Operations
import ClientGen.Api.Selection
import ClientGen.Cli.Arguments
import ClientGen.Cli.Command
import ClientGen.Cli.Options
import ClientGen.Config
import ClientGen.Decimal.Nearest
import ClientGen.Decimal.Shortest
import ClientGen.Document.Display
import ClientGen.Document.Load
import ClientGen.Document.Order
import ClientGen.Document.Value
import ClientGen.Fault
import ClientGen.Json.Read
import ClientGen.Json.Write
import ClientGen.Log
import ClientGen.Main
import ClientGen.Naming
import ClientGen.Output.Disk
import ClientGen.Output.Run
import ClientGen.Output.Writer
import ClientGen.Pipeline
import ClientGen.Reference
import ClientGen.Render.Basic
import ClientGen.Render.Files
import ClientGen.Render.Models
import ClientGen.Render.Services
import ClientGen.Render.Support
import ClientGen.Schema.Node
import ClientGen.Schema.Parse
import ClientGen.Schema.Resolve
import ClientGen.Table
import ClientGen.Text.Case
import ClientGen.Text.CaseTable
import ClientGen.Text.ClassTable
import ClientGen.Text.Edit
import ClientGen.Text.Integer
import ClientGen.Text.Similar
import ClientGen.TypeExpr
import ClientGen.Yaml.Compose
import ClientGen.Yaml.Construct
import ClientGen.Yaml.Resolve
import ClientGen.Yaml.Scan
import ClientGen.Proofs.Logged
import ClientGen.Proofs.Reachability
import ClientGen.Proofs.Selection
import ClientGen.Proofs.Dependencies
import ClientGen.Proofs.ModelTable
import ClientGen.Proofs.ServiceTable
import ClientGen.Proofs.Imports
import ClientGen.Proofs.ReferenceCheck
import ClientGen.Proofs.OperationNames
import ClientGen.Proofs.Compiled
import ClientGen.Proofs.Hierarchy
import ClientGen.Proofs.FileNames
import ClientGen.Proofs.RenderedFiles
import ClientGen.Proofs.DiskTree
import ClientGen.Proofs.OutputTree
import ClientGen.Proofs.ReferenceFrame
import ClientGen.Proofs.ExcludedOperations
import ClientGen.Proofs.ExcludedServices
import ClientGen.Proofs.TypeReferences
import ClientGen.Proofs.AliasTypes
import ClientGen.Proofs.EmbeddedText
import ClientGen.Proofs.ResultKinds
import ClientGen.Proofs.DependencyLists
import ClientGen.Proofs.ParameterOrder
import ClientGen.Proofs.TagNames
import ClientGen.Proofs.Subvalues
import ClientGen.Proofs.ReferenceExpansion
import ClientGen.Proofs.ReferenceChains
import ClientGen.Proofs.Pointers
import ClientGen.Proofs.Configuration
import ClientGen.Proofs.TypeTexts
import ClientGen.Proofs.WrittenConfiguration
import ClientGen.Proofs.SchemaReading
import ClientGen.Proofs.BareNames
