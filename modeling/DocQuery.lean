import DocQuery.Adapter.Basic
import DocQuery.Adapter.Document
import DocQuery.Adapter.Page
import DocQuery.Cases.Embedding
import DocQuery.Cases.Model
import DocQuery.Cases.Predicate
import DocQuery.Cases.Repository
import DocQuery.Cases.Search
import DocQuery.Cases.Workspace
import DocQuery.Component
import DocQuery.Decode.Basic
import DocQuery.Decode.Message
import DocQuery.Error
import DocQuery.Eval.Expression
import DocQuery.Eval.Filter
import DocQuery.Eval.Order
import DocQuery.Eval.Path
import DocQuery.Eval.Pattern
import DocQuery.Hex
import DocQuery.Json
import DocQuery.JsonText.Parser
import DocQuery.JsonText.Printer
import DocQuery.JsonText.Words
import DocQuery.Native.Element
import DocQuery.Native.Filter
import DocQuery.Native.Stage
import DocQuery.Number.Basic
import DocQuery.Number.Double
import DocQuery.Number.Shortest
import DocQuery.ObjectId
import DocQuery.Pipeline.Stage
import DocQuery.Pipeline.StageJson
import DocQuery.Pipeline.WellFormed
import DocQuery.Proofs.Adapter.Acknowledgement
import DocQuery.Proofs.Adapter.Agreement
import DocQuery.Proofs.Adapter.Asking
import DocQuery.Proofs.Adapter.Atomicity
import DocQuery.Proofs.Adapter.Identity
import DocQuery.Proofs.Adapter.Insertion
import DocQuery.Proofs.Adapter.Overwriting
import DocQuery.Proofs.Adapter.Reading
import DocQuery.Proofs.Adapter.Uniqueness
import DocQuery.Proofs.Adapter.Writing
import DocQuery.Proofs.Cases.Conditions
import DocQuery.Proofs.Cases.Consolidations
import DocQuery.Proofs.Cases.Embedding
import DocQuery.Proofs.Cases.Events
import DocQuery.Proofs.Cases.Fallback
import DocQuery.Proofs.Cases.Leases
import DocQuery.Proofs.Cases.Pipelines
import DocQuery.Proofs.Cases.ReadBack
import DocQuery.Proofs.Cases.Runs
import DocQuery.Proofs.Cases.Search
import DocQuery.Proofs.Cases.StoredForm
import DocQuery.Proofs.Cases.Writing
import DocQuery.Proofs.Decode
import DocQuery.Proofs.Members
import DocQuery.Proofs.ObjectId
import DocQuery.Proofs.Outcome
import DocQuery.Proofs.Path
import DocQuery.Proofs.Pipeline.Acceptance
import DocQuery.Proofs.Pipeline.Engines
import DocQuery.Proofs.Pipeline.OutputNames
import DocQuery.Proofs.Pipeline.RoundTrip
import DocQuery.Proofs.Pipeline.Sources
import DocQuery.Proofs.Query.Acceptance
import DocQuery.Proofs.Query.Coercion
import DocQuery.Proofs.Query.Compilation
import DocQuery.Proofs.Query.Elements
import DocQuery.Proofs.Query.Execution
import DocQuery.Proofs.Query.Isolation
import DocQuery.Proofs.Query.Leaves
import DocQuery.Proofs.Query.Literals
import DocQuery.Proofs.Query.Meaning
import DocQuery.Proofs.Query.RoundTrip
import DocQuery.Proofs.Query.Trichotomy
import DocQuery.Proofs.Regex.Literal
import DocQuery.Proofs.Regex.Prefix
import DocQuery.Proofs.Store.Atomicity
import DocQuery.Proofs.Store.Deletion
import DocQuery.Proofs.Store.Identifiers
import DocQuery.Proofs.Store.Isolation
import DocQuery.Proofs.Store.Ordering
import DocQuery.Proofs.Store.Paging
import DocQuery.Proofs.Store.Paths
import DocQuery.Proofs.Store.Precedence
import DocQuery.Proofs.Store.Reading
import DocQuery.Proofs.Store.Writing
import DocQuery.Query.Expr
import DocQuery.Query.ExprJson
import DocQuery.Query.Field
import DocQuery.Query.Malformation
import DocQuery.Query.SortSpec
import DocQuery.Query.WellFormed
import DocQuery.Regex.CharSet
import DocQuery.Regex.Class
import DocQuery.Regex.Engine
import DocQuery.Regex.Match
import DocQuery.Regex.Parser
import DocQuery.Regex.Pattern
import DocQuery.Regex.Size
import DocQuery.Store.Basic
import DocQuery.Store.Client
import DocQuery.Store.Collection
import DocQuery.Store.Documents
import DocQuery.Store.Scripted
import DocQuery.Store.Steps
import DocQuery.StoreConfig.Basic
import DocQuery.StoreConfig.Text
import DocQuery.Unicode.Blank
import DocQuery.Unicode.CaseFold
import DocQuery.Unicode.Digit
import DocQuery.Unicode.Ranges
import DocQuery.Unicode.Unprintable
import DocQuery.Unicode.Word
