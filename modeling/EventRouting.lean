import EventRouting.Text.Blank
import EventRouting.Text.Case
import EventRouting.Text.Split
import EventRouting.Text.Quoted
import EventRouting.OrderedMap
import EventRouting.Decimal.Style
import EventRouting.Yaml.Scalar
import EventRouting.Yaml.Token
import EventRouting.Yaml.Token.Scalar
import EventRouting.Yaml.Token.Property
import EventRouting.Yaml.Token.Lexer
import EventRouting.Yaml.Composition
import EventRouting.Yaml.Reading
import EventRouting.Yaml.Printer
import EventRouting.Json.Printer
import EventRouting.Document.Format
import EventRouting.Document.Reader
import EventRouting.Document.Storage
import EventRouting.Api.Reader
import EventRouting.Route.Name
import EventRouting.Route.MethodSet
import EventRouting.Route.BaseUrl
import EventRouting.Route.Query
import EventRouting.Policy
import EventRouting.Template.Role
import EventRouting.Template.Resource
import EventRouting.Template.Inventory
import EventRouting.Template.Endpoint
import EventRouting.Template.Blueprint
import EventRouting.Compilation.Selection
import EventRouting.Compilation.Report
import EventRouting.Compilation.Progress
import EventRouting.Compilation.Basic
import EventRouting.Compilation.Journal
import EventRouting.Files.Access
import EventRouting.Files.Tree
import EventRouting.Files.Disk
import EventRouting.Command.Log
import EventRouting.Command.Arguments
import EventRouting.Command.Summary
import EventRouting.Command.Run
import EventRouting.Main
import EventRouting.Proofs.Writes
import EventRouting.Proofs.Gathering
import EventRouting.Proofs.Outcome
import EventRouting.Proofs.CollisionReport
import EventRouting.Proofs.LastWriter
import EventRouting.Proofs.InvokePermission
import EventRouting.Proofs.CrossReference
import EventRouting.Proofs.MergeFrame
import EventRouting.Proofs.Regeneration
import EventRouting.Proofs.OperationAccount
import EventRouting.Proofs.NameEnding
import EventRouting.Proofs.ReadMethods
import EventRouting.Proofs.PathShape
import EventRouting.Proofs.Refusal
import EventRouting.Proofs.BlueprintIndependence
import EventRouting.Proofs.QueryResolution
import EventRouting.Proofs.PathOrder
import EventRouting.Proofs.ReferenceFate
import EventRouting.Proofs.DeclaredNames
import EventRouting.Proofs.IgnoredEntries
import EventRouting.Proofs.ExitCode
import EventRouting.Proofs.RunFrame
import EventRouting.Proofs.PathLayout
import EventRouting.Proofs.ParameterNames
import EventRouting.Proofs.QueryInheritance
import EventRouting.Proofs.InlineParameters
import EventRouting.Proofs.QueryHistory
import EventRouting.Proofs.ResourceDocument
import EventRouting.Proofs.NameFragment
import EventRouting.Proofs.ServerSelection
import EventRouting.Proofs.CalledUrl
import EventRouting.Proofs.RoleGrant
import EventRouting.Proofs.InventoryHistory
import EventRouting.Proofs.UppercaseForm
import EventRouting.Proofs.MethodText
import EventRouting.Proofs.NameAlphabet
import EventRouting.Proofs.UnwritableValue
