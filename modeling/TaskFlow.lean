import TaskFlow.Cache.Basic
import TaskFlow.Cache.Queue
import TaskFlow.Cache.Spec
import TaskFlow.Cache.Usage
import TaskFlow.Cli.Args
import TaskFlow.Cli.FileTree
import TaskFlow.Cli.Run
import TaskFlow.Cli.Summary
import TaskFlow.Cli.Usage
import TaskFlow.Condition.Basic
import TaskFlow.Condition.Check
import TaskFlow.Condition.Codec
import TaskFlow.Condition.Construct
import TaskFlow.Condition.Error
import TaskFlow.Condition.Evaluate
import TaskFlow.Data.Dict
import TaskFlow.Data.Fields
import TaskFlow.Data.NameSet
import TaskFlow.Data.Reach
import TaskFlow.Data.Trie
import TaskFlow.Digest.Blake3
import TaskFlow.Dispatch.Codec
import TaskFlow.Dispatch.Compile
import TaskFlow.Dispatch.Query
import TaskFlow.Dispatch.Table
import TaskFlow.Document.Basic
import TaskFlow.Document.Codec
import TaskFlow.Document.Configuration
import TaskFlow.Document.Decode
import TaskFlow.Failure.Codec
import TaskFlow.Failure.Graph
import TaskFlow.Failure.Resolution
import TaskFlow.Failure.Rule
import TaskFlow.Flow.Basic
import TaskFlow.Flow.Edge
import TaskFlow.Flow.Error
import TaskFlow.Flow.Graph
import TaskFlow.Flow.Sampling
import TaskFlow.Json.Basic
import TaskFlow.Json.Draft
import TaskFlow.Json.Parser
import TaskFlow.Json.Pointer
import TaskFlow.Json.Printer
import TaskFlow.Json.Query
import TaskFlow.Json.Record
import TaskFlow.Json.Skip
import TaskFlow.Log.Event
import TaskFlow.Log.Logged
import TaskFlow.Main
import TaskFlow.Node.Scope
import TaskFlow.Node.Storage
import TaskFlow.Node.Task
import TaskFlow.Number.Decimal
import TaskFlow.Number.Double
import TaskFlow.Number.Numeral
import TaskFlow.Number.Scaled
import TaskFlow.Number.Word
import TaskFlow.Registry.Basic
import TaskFlow.Registry.Builtin
import TaskFlow.Registry.Codec
import TaskFlow.Registry.Predicates
import TaskFlow.Registry.Strategies
import TaskFlow.System.Basic
import TaskFlow.System.Build
import TaskFlow.System.Consistency
import TaskFlow.System.Error
import TaskFlow.System.Selective
import TaskFlow.Text.Blank
import TaskFlow.Text.Graphic
import TaskFlow.Text.Quoted
import TaskFlow.Toml.Bare
import TaskFlow.Toml.Basic
import TaskFlow.Toml.Datetime
import TaskFlow.Toml.Lexeme
import TaskFlow.Toml.Parser
import TaskFlow.Toml.Printer
import TaskFlow.Toml.Record
import TaskFlow.Toml.Tree
import TaskFlow.Proofs.Cache.Chain
import TaskFlow.Proofs.Cache.Expectations
import TaskFlow.Proofs.Cache.Model
import TaskFlow.Proofs.Cache.Policies
import TaskFlow.Proofs.Cache.Queue
import TaskFlow.Proofs.Cache.Random
import TaskFlow.Proofs.Cache.Slots
import TaskFlow.Proofs.Cache.Usage
import TaskFlow.Proofs.Condition.Calls
import TaskFlow.Proofs.Condition.Codec
import TaskFlow.Proofs.Condition.Grammar
import TaskFlow.Proofs.Condition.Meaning
import TaskFlow.Proofs.Condition.Progress
import TaskFlow.Proofs.Condition.Reads
import TaskFlow.Proofs.Condition.Results
import TaskFlow.Proofs.Data.Dict
import TaskFlow.Proofs.Data.Entries
import TaskFlow.Proofs.Data.NameSet
import TaskFlow.Proofs.Data.Reach
import TaskFlow.Proofs.Dispatch.Codec
import TaskFlow.Proofs.Dispatch.ConditionText
import TaskFlow.Proofs.Dispatch.Conditions
import TaskFlow.Proofs.Dispatch.Consistency
import TaskFlow.Proofs.Dispatch.Emission
import TaskFlow.Proofs.Dispatch.Fallbacks
import TaskFlow.Proofs.Dispatch.Fallible
import TaskFlow.Proofs.Dispatch.Fingerprint
import TaskFlow.Proofs.Dispatch.Implementations
import TaskFlow.Proofs.Dispatch.Messages
import TaskFlow.Proofs.Dispatch.Progress
import TaskFlow.Proofs.Dispatch.References
import TaskFlow.Proofs.Dispatch.Refusals
import TaskFlow.Proofs.Dispatch.Reordering
import TaskFlow.Proofs.Dispatch.Table
import TaskFlow.Proofs.Dispatch.Unwaited
import TaskFlow.Proofs.Document.Configuration
import TaskFlow.Proofs.Document.Duration
import TaskFlow.Proofs.Document.Soundness
import TaskFlow.Proofs.Failure.Builder
import TaskFlow.Proofs.Failure.Fallbacks
import TaskFlow.Proofs.Failure.Graph
import TaskFlow.Proofs.Failure.Lattice
import TaskFlow.Proofs.Failure.Resolution
import TaskFlow.Proofs.Failure.Rule
import TaskFlow.Proofs.Failure.Walk
import TaskFlow.Proofs.Flow.Graph
import TaskFlow.Proofs.Flow.Plan
import TaskFlow.Proofs.Flow.Reachability
import TaskFlow.Proofs.Flow.Runs
import TaskFlow.Proofs.Flow.Sampling
import TaskFlow.Proofs.Json.Injective
import TaskFlow.Proofs.Json.Query
import TaskFlow.Proofs.Json.Record
import TaskFlow.Proofs.Json.Scalar
import TaskFlow.Proofs.Json.Serial
import TaskFlow.Proofs.Json.Text
import TaskFlow.Proofs.Log.Fault
import TaskFlow.Proofs.Log.Logged
import TaskFlow.Proofs.Number.Double
import TaskFlow.Proofs.Registry.Builtin
import TaskFlow.Proofs.Registry.Comparison
import TaskFlow.Proofs.Registry.Predicates
import TaskFlow.Proofs.Registry.Strategies
import TaskFlow.Proofs.Registry.Twins
import TaskFlow.Proofs.System.Build
import TaskFlow.Proofs.System.Consistency
import TaskFlow.Proofs.System.Plan
import TaskFlow.Proofs.System.References
import TaskFlow.Proofs.System.Running
import TaskFlow.Proofs.System.Search
import TaskFlow.Proofs.System.Selection
import TaskFlow.Proofs.System.TaskClasses
import TaskFlow.Proofs.System.Waiting
import TaskFlow.Proofs.Toml.Conversion
