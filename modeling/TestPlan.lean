import TestPlan.Number.Digits
import TestPlan.Number.Binary
import TestPlan.Number.Decimal
import TestPlan.Number.Shortest
import TestPlan.Text.Alphanumeric
import TestPlan.Text.Bytes
import TestPlan.Data.Scalar
import TestPlan.Data.Datum
import TestPlan.Data.Json.Reader
import TestPlan.Data.Json.Printer
import TestPlan.Data.Toml.Scalar
import TestPlan.Data.Toml.Table
import TestPlan.Data.Toml.Reader
import TestPlan.Data.Toml.Printer
import TestPlan.Data.Yaml.Place
import TestPlan.Data.Yaml.Text
import TestPlan.Data.Yaml.Tag
import TestPlan.Data.Yaml.Token
import TestPlan.Data.Yaml.Node
import TestPlan.ValueType.Basic
import TestPlan.ValueType.Scan
import TestPlan.ValueType.Descriptor
import TestPlan.ValueType.Codec
import TestPlan.Member.Basic
import TestPlan.Member.Descriptor
import TestPlan.Member.Codec
import TestPlan.Plan.Basic
import TestPlan.Plan.Equality
import TestPlan.Plan.Encoding
import TestPlan.Plan.Decoding
import TestPlan.Plan.Graph
import TestPlan.ClassModel.Basic
import TestPlan.ClassModel.RuntimeType
import TestPlan.ClassModel.Loader
import TestPlan.ClassModel.Platform
import TestPlan.ClassModel.Codec
import TestPlan.TestCase.Value
import TestPlan.TestCase.Statement
import TestPlan.TestCase.Basic
import TestPlan.TestCase.InPlace
import TestPlan.TestCase.Codec
import TestPlan.Config.RoutineTable
import TestPlan.Config.HelperLibrary
import TestPlan.Config.Basic
import TestPlan.Config.Codec
import TestPlan.Config.Source
import TestPlan.Lowering.Error
import TestPlan.Lowering.Resolve
import TestPlan.Lowering.Bindings
import TestPlan.Lowering.Session
import TestPlan.Lowering.Direct
import TestPlan.Lowering.Reflective
import TestPlan.Lowering.Compile
import TestPlan.Generation.Request
import TestPlan.Generation.Search
import TestPlan.Generation.Report
import TestPlan.Demo.Classes
import TestPlan.Demo.Plans
import TestPlan.CommandHelp
import TestPlan.CommandLine
import TestPlan.Main
import TestPlan.Proofs.ClassModel.Search
import TestPlan.Proofs.Generation.HelperClass
import TestPlan.Proofs.Generation.ReadsBack
import TestPlan.Proofs.Generation.Report
import TestPlan.Proofs.Lowering.Accesses
import TestPlan.Proofs.Lowering.ArrayContents
import TestPlan.Proofs.Lowering.Blame
import TestPlan.Proofs.Lowering.ComposedPlan
import TestPlan.Proofs.Lowering.Copied
import TestPlan.Proofs.Lowering.Dispatch
import TestPlan.Proofs.Lowering.Faithful
import TestPlan.Proofs.Lowering.Finished
import TestPlan.Proofs.Lowering.Frozen
import TestPlan.Proofs.Lowering.HelperCalls
import TestPlan.Proofs.Lowering.Identities
import TestPlan.Proofs.Lowering.Inlined
import TestPlan.Proofs.Lowering.Limits
import TestPlan.Proofs.Lowering.Naming
import TestPlan.Proofs.Lowering.Renamed
import TestPlan.Proofs.Lowering.Nearest
import TestPlan.Proofs.Lowering.Repeated
import TestPlan.Proofs.Lowering.Requests
import TestPlan.Proofs.Lowering.Shadowed
import TestPlan.Proofs.Lowering.Terminal
import TestPlan.Proofs.Lowering.TypeNames
import TestPlan.Proofs.Lowering.Typed
import TestPlan.Proofs.Lowering.Visited
import TestPlan.Proofs.Lowering.VoidValues
import TestPlan.Proofs.Member.Descriptor
import TestPlan.Proofs.Plan.Clashes
import TestPlan.Proofs.Plan.Exact
import TestPlan.Proofs.Plan.Nesting
import TestPlan.Proofs.Plan.Roles
import TestPlan.Proofs.TestCase.InPlace
