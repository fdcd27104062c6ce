import DocQuery.Native.Element
import DocQuery.Pipeline.WellFormed

/-!
# Native pipelines

Each stage becomes one native stage document. The engines differ in the stages they support, in
whether a page carries the total count, and in the form of a vector search.
-/
namespace DocQuery

inductive Engine where
  | base
  | atlas
  | cosmos
  deriving DecidableEq, Repr

namespace Engine

def all : List Engine := [.base, .atlas, .cosmos]

def name : Engine → String
  | .base => "base"
  | .atlas => "atlas"
  | .cosmos => "cosmos"

def supportsVectorSearch : Engine → Bool
  | .base => false
  | .atlas | .cosmos => true

end Engine

inductive Renderer where
  | base
  | atlas (index : Option String)
  | cosmos
  deriving DecidableEq, Repr

namespace Renderer

def engine : Renderer → Engine
  | .base => .base
  | .atlas _ => .atlas
  | .cosmos => .cosmos

def name (r : Renderer) : String := r.engine.name

def index? : Renderer → Option String
  | .atlas index => index
  | _ => none

end Renderer

namespace Native

/-- The branch with the documents of a page, after the branch with the total count if asked for. -/
def facetStage (w : Paginate) (withCount : Bool) : Json :=
  let count := if withCount then [("metadata", .array [.single "$count" (.string "total")])] else []
  let window := [.single "$skip" (.uint64 w.skip), .single "$limit" (.uint64 w.limit)]
  let data := [("data", Json.array window)]
  .single "$facet" (.object (count ++ data))

def lookupStage (j : Join) : Json :=
  .single "$lookup" (.object [("from", .string (j.foreignField.source.getD "")),
    ("foreignField", .string j.foreignField.name), ("localField", .string j.localField.name),
    ("as", .string j.output.name)])

def computedField (a : AdditionalField) : Except QueryError (String × Json) := do
  let input := pair "$ifNull" (.string a.querySource.path) (.array [])
  let cond ← element a.query
  return (a.fieldToAdd.name, .single "$filter" (.object [("input", input), ("cond", cond)]))

def addFieldsStage (fields : List AdditionalField) : Except QueryError Json := do
  return .single "$addFields" (.object (Members.ofPairs (← fields.mapM computedField)))

def projectStage (fields : List Field) (flag : Int) : Json :=
  .single "$project" (.object (Members.ofPairs (fields.map fun f => (f.name, .int flag))))

/-- The key of a group: one path, a document of several, or `null` for a single group of all. -/
def groupKey : List Field → Json
  | [] => .null
  | [f] => .string f.path
  | fs => .object (Members.ofPairs (fs.map fun f => (f.name, .string f.path)))

def accumulatorOperator : Accumulator → Json
  | .first field _ => .single "$first" (.string field.path)
  | .count _ => .single "$count" (.object [])

def groupStage (g : Group) : Json :=
  .single "$group" (.object (Members.setAll [("_id", groupKey g.groupBy)]
    (g.accumulators.map fun a => (a.output.name, accumulatorOperator a))))

def atlasSearch (index : Option String) (s : VectorSearch) : Json :=
  let named := match index with
    | some i => [("index", .string i)]
    | none => []
  .single "$vectorSearch" (.object (named ++ [("path", .string s.path.name),
    ("queryVector", Component.vectorToJson s.vector), ("numCandidates", .nat s.k.toNat),
    ("limit", .nat s.k.toNat)]))

def cosmosSearch (s : VectorSearch) : Json :=
  let metric := match s.similarity with
    | some x => [("similarity", .string x.name)]
    | none => []
  .single "$search" (.single "cosmosSearch" (.object ([("vector", Component.vectorToJson s.vector),
    ("path", .string s.path.name), ("k", .nat s.k.toNat)] ++ metric)))

def stage (r : Renderer) (s : Stage) : Except QueryError Json :=
  match s, r with
  | .filter query, _ => (filter query).map (.single "$match")
  | .sort spec, _ => .ok (.single "$sort" (sort spec))
  | .paginate w, r => .ok (facetStage w (r != .base))
  | s, .base => .error (.unsupportedStage Renderer.base.name s.name)
  | .join spec, _ => .ok (lookupStage spec)
  | .addFields fields, _ => addFieldsStage fields
  | .keep fields, _ => .ok (projectStage fields 1)
  | .drop fields, _ => .ok (projectStage fields 0)
  | .group spec, _ => .ok (groupStage spec)
  | .nearest search, .atlas index => .ok (atlasSearch index search)
  | .nearest search, .cosmos => .ok (cosmosSearch search)

/-- Compiles a pipeline that is well formed, stage by stage. -/
def pipeline (r : Renderer) (p : Pipeline) : Except QueryError (List Json) := do
  p.validate.mapError .malformed
  p.stages.mapM (stage r)

end Native
end DocQuery
