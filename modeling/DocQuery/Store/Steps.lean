import DocQuery.Store.Documents

/-!
# Running native pipelines

A pipeline is run stage by stage. A stage has exactly one operator, and of the operators only those
of `Step`, and the branching `$facet`, can be run.
-/
namespace DocQuery.Steps

/-- The operators without branches that can be run. -/
inductive Step where
  | select
  | sort
  | skip
  | limit
  | count
  | project
  deriving DecidableEq, Repr

namespace Step

def all : List Step := [.select, .sort, .skip, .limit, .count, .project]

def name : Step → String
  | .select => "$match"
  | .sort => "$sort"
  | .skip => "$skip"
  | .limit => "$limit"
  | .count => "$count"
  | .project => "$project"

def ofName? (name : String) : Option Step := all.find? fun step => step.name == name

end Step

def amount (step : Step) (spec : Json) : Except CommandFault Nat :=
  match spec.asUInt64? with
  | some n => .ok n.toNat
  | none => .error (.countArgument step.name)

/-- The number of documents under a given name; nothing if there are none. -/
def count (spec : Json) (documents : List Json) : Except CommandFault (List Json) :=
  match spec with
  | .string field =>
    .ok (if documents.isEmpty then [] else [.single field (.nat documents.length)])
  | _ => .error .countField

/-- Whether a projection keeps a member: the named ones and the identifier if some flag is one, and
all but the named ones otherwise. Only members at the top are named, so a dotted name names
nothing. -/
def keeps (fields : Members) (key : String) : Bool :=
  if fields.any fun m => m.2.asInt? == some 1 then
    key == internalId || Members.contains fields key
  else !Members.contains fields key

def project (spec : Json) (documents : List Json) : Except CommandFault (List Json) :=
  match spec with
  | .object fields =>
    .ok (documents.map fun document =>
      match document with
      | .object members => .object (members.filter fun m => keeps fields m.1)
      | document => document)
  | _ => .error .projectNotDocument

variable [PatternEngine]

def runStep (step : Step) (spec : Json) (documents : List Json) : Except CommandFault (List Json) :=
  match step with
  | .select => Documents.select spec documents
  | .sort => Documents.sort spec documents
  | .skip => do return documents.drop (← amount step spec)
  | .limit => do return documents.take (← amount step spec)
  | .count => count spec documents
  | .project => project spec documents

mutual

def run : List Json → List Json → Except StoreFailure (List Json)
  | [], documents => .ok documents
  | stage :: rest, documents => do run rest (← runStage stage documents)
termination_by structural stages => stages

def runStage : Json → List Json → Except StoreFailure (List Json)
  | .object [(name, spec)], documents =>
    if name = "$facet" then do return [.object (← runFacet spec documents)]
    else
      match Step.ofName? name with
      | some step => (runStep step spec documents).mapError .command
      | none => .error (.unsupportedStage name)
  | stage, _ => .error (.command (.malformedStage stage))
termination_by structural stage => stage

def runFacet : Json → List Json → Except StoreFailure Members
  | .object branches, documents => runBranches branches documents
  | _, _ => .error (.command .facetNotDocument)
termination_by structural branches => branches

def runBranches : List (String × Json) → List Json → Except StoreFailure Members
  | [], _ => .ok []
  | (name, branch) :: rest, documents => do
    return (name, .array (← runBranch name branch documents)) :: (← runBranches rest documents)
termination_by structural branches => branches

def runBranch (name : String) : Json → List Json → Except StoreFailure (List Json)
  | .array stages, documents => run stages documents
  | _, _ => .error (.command (.facetBranch name))
termination_by structural stages => stages

end

end DocQuery.Steps
