import DocQuery.Query.Malformation
import DocQuery.Decode.Message
import DocQuery.ObjectId

/-!
# Failures

`StoreFailure` is what a document store reports, `QueryError` what a caller of the library sees:
a request that is malformed or cannot be compiled, found before the store is asked; a failure of
the store, with the native query that was run; or nothing matched.
-/
namespace DocQuery

inductive CommandFault where
  | filterNotDocument (filter : Json)
  | branchesNotList
  | unknownTopLevel (operator : String)
  | candidatesNotList
  | patternNotString
  | unknownOperator (operator : String)
  | invalidRegex (reason : String)
  | unboundVariable (path : String)
  | argumentsNotList
  | argumentsNotPair
  | haystackNotList
  | unsupportedExpression (operator : String)
  | updateNotDocument
  | storedNotObject
  | updateArgument (operator : String)
  | unsupportedUpdate (operator : String)
  | sortNotDocument
  | sortDirection (field : String)
  | malformedStage (stage : Json)
  | countField
  | facetNotDocument
  | facetBranch (name : String)
  | countArgument (stage : String)
  | projectNotDocument
  | reported (message : String)
  deriving Repr

def CommandFault.message : CommandFault → String
  | .filterNotDocument filter => "filter must be a document: " ++ filter.text
  | .branchesNotList => "logical operator expects an array"
  | .unknownTopLevel operator => "unknown top-level operator " ++ operator
  | .candidatesNotList => "$in / $nin expect an array"
  | .patternNotString => "$regex expects a string"
  | .unknownOperator operator => "unknown operator " ++ operator
  | .invalidRegex reason => "invalid regex: " ++ reason
  | .unboundVariable path => "variable " ++ path ++ " is not bound"
  | .argumentsNotList => "expression operator expects an array"
  | .argumentsNotPair => "comparison expects two arguments"
  | .haystackNotList => "$in expects an array as second argument"
  | .unsupportedExpression operator => "unsupported expression operator " ++ operator
  | .updateNotDocument => "update must be a document"
  | .storedNotObject => "stored document is not an object"
  | .updateArgument operator => operator ++ " expects a document"
  | .unsupportedUpdate operator => "unsupported update operator " ++ operator
  | .sortNotDocument => "sort must be a document"
  | .sortDirection field => "sort direction for " ++ field ++ " must be 1 or -1"
  | .malformedStage stage => "malformed stage: " ++ stage.text
  | .countField => "$count expects a field name"
  | .facetNotDocument => "$facet expects a document"
  | .facetBranch name => "$facet branch " ++ name ++ " must be an array"
  | .countArgument stage => stage ++ " expects a non-negative integer"
  | .projectNotDocument => "$project expects a document"
  | .reported message => message

inductive StoreFailure where
  | connection (message : String)
  | command (fault : CommandFault)
  | closed
  | unsupportedStage (stage : String)
  deriving Repr

def StoreFailure.message : StoreFailure → String
  | .connection message => "Connection failed: " ++ message
  | .command fault => "Command failed: " ++ fault.message
  | .closed => "Client is closed"
  | .unsupportedStage stage => "Unsupported aggregation stage: " ++ stage

inductive ConfigFault where
  | unreadable (reason : String)
  | invalidJson (reason : String)
  | emptyDatabase
  | zeroPageLimit
  | zeroVectorCandidates
  | emptyVectorPath
  | emptyVectorIndex
  deriving DecidableEq, Repr

def ConfigFault.message : ConfigFault → String
  | .unreadable reason => "Failed to read config: " ++ reason
  | .invalidJson reason => "Invalid config JSON: " ++ reason
  | .emptyDatabase => "database must not be empty"
  | .zeroPageLimit => "default_page_limit must be > 0"
  | .zeroVectorCandidates => "min_vector_candidates must be > 0"
  | .emptyVectorPath => "vector_path must not be empty"
  | .emptyVectorIndex => "vector_index must be omitted or non-empty"

inductive ConditionContext where
  | fieldComparison
  | elementFilter
  deriving DecidableEq, Repr

def ConditionContext.name : ConditionContext → String
  | .fieldComparison => "field comparison"
  | .elementFilter => "element filter"

inductive Missing where
  | noMatch
  | noneDeleted
  deriving DecidableEq, Repr

def Missing.message : Missing → String
  | .noMatch => "No matching item found."
  | .noneDeleted => "No items deleted"

/-- An outcome reported by a store that cannot be taken as success. -/
inductive UnknownOutcome where
  | notInserted
  | partlyInserted (inserted expected : Nat)
  deriving DecidableEq, Repr

def UnknownOutcome.message : UnknownOutcome → String
  | .notInserted => "Failed to insert document into database."
  | .partlyInserted inserted expected =>
    "Not all items inserted (" ++ inserted.repr ++ " of " ++ expected.repr ++ ")"

inductive QueryError where
  | malformed (fault : Malformation)
  | unsupportedStage (renderer stage : String)
  | unsupportedCondition (kind : ConditionKind) (context : ConditionContext)
  | store (module : String) (query : Json) (failure : StoreFailure)
  | notFound (module : String) (missing : Missing)
  | unknown (module : String) (outcome : UnknownOutcome)
  | undecodable (error : DecodeError)
  | config (fault : ConfigFault)
  deriving Repr

namespace QueryError

def code : QueryError → String
  | .malformed _ => "MALFORMED_QUERY"
  | .unsupportedStage .. => "UNSUPPORTED_STAGE"
  | .unsupportedCondition .. => "UNSUPPORTED_CONDITION"
  | .store .. => "DATABASE_ERROR"
  | .notFound .. => "NOT_FOUND"
  | .unknown .. => "UNKNOWN_ERROR"
  | .undecodable _ => "SERIALIZATION_ERROR"
  | .config _ => "CONFIG_ERROR"

def message : QueryError → String
  | .malformed fault => "Malformed query: " ++ fault.message
  | .unsupportedStage renderer stage =>
    "Stage " ++ stage ++ " is not supported by the " ++ renderer ++ " renderer"
  | .unsupportedCondition kind context =>
    "Condition " ++ kind.name ++ " cannot be rendered in " ++ context.name ++ " context"
  | .store module _ failure => "[" ++ module ++ "] database operation failed: " ++ failure.message
  | .notFound module missing => "[" ++ module ++ "] " ++ missing.message
  | .unknown module outcome => "[" ++ module ++ "] " ++ outcome.message
  | .undecodable error => "Serialization error: " ++ error.message
  | .config fault => "Configuration error: " ++ fault.message

/-- True for a request that is at fault by itself. -/
def isRequestFault : QueryError → Bool
  | .malformed _ | .unsupportedStage .. | .unsupportedCondition .. => true
  | _ => false

def isNotFound : QueryError → Bool
  | .notFound .. => true
  | _ => false

def query? : QueryError → Option Json
  | .store _ query _ => some query
  | _ => none

end QueryError

def ObjectId.ofText (text : String) : Except QueryError ObjectId :=
  match parse? text with
  | some id => .ok id
  | none => .error (.malformed (.invalidObjectId text))

end DocQuery
