import DocQuery.Pipeline.Stage
import DocQuery.Query.ExprJson

/-!
# Pipelines as documents

A stage names its kind in the member `stage`, and an accumulator in the member `accumulator`; the
other members are those of its record.
-/
namespace DocQuery

open Decode (list)

namespace Paginate

def members (w : Paginate) : Members := [("skip", .uint64 w.skip), ("limit", .uint64 w.limit)]

def decode (source : Source) : Json → Decoded Paginate :=
  Record.decode source "struct Paginate"
    [("skip", Record.check Decode.uint64), ("limit", Record.check Decode.uint64)]
    fun r => do
      return { skip := ← r.required "skip" Decode.uint64
               limit := ← r.required "limit" Decode.uint64 }

end Paginate

namespace Join

def members (j : Join) : Members :=
  [("local", j.localField.toJson), ("foreign", j.foreignField.toJson), ("alias", j.output.toJson)]

def decode (source : Source) : Json → Decoded Join :=
  Record.decode source "struct Join"
    [("local", Record.check (Field.decode source)), ("foreign", Record.check (Field.decode source)),
      ("alias", Record.check (Field.decode source))]
    fun r => do
      return { localField := ← r.required "local" (Field.decode source)
               foreignField := ← r.required "foreign" (Field.decode source)
               output := ← r.required "alias" (Field.decode source) }

end Join

namespace AdditionalField

def toJson (a : AdditionalField) : Json :=
  .object [("fieldToAdd", a.fieldToAdd.toJson), ("querySource", a.querySource.toJson),
    ("query", a.query.toJson)]

def decode (source : Source) : Json → Decoded AdditionalField :=
  Record.decode source "struct AdditionalField"
    [("fieldToAdd", Record.check (Field.decode source)),
      ("querySource", Record.check (Field.decode source)), ("query", Record.check Expr.decode)]
    fun r => do
      return { fieldToAdd := ← r.required "fieldToAdd" (Field.decode source)
               querySource := ← r.required "querySource" (Field.decode source)
               query := ← r.required "query" Expr.decode }

end AdditionalField

namespace Accumulator

def names : List String := ["FIRST", "COUNT"]

def toJson : Accumulator → Json
  | .first field as =>
    .object [("accumulator", .string "FIRST"), ("field", field.toJson), ("as", as.toJson)]
  | .count as => .object [("accumulator", .string "COUNT"), ("as", as.toJson)]

def decodeFirst (source : Source) : Json → Decoded Accumulator :=
  Record.decode source "struct variant Accumulator::First"
    [("field", Record.check (Field.decode source)), ("as", Record.check (Field.decode source))]
    fun r => do
      return .first (← r.required "field" (Field.decode source))
        (← r.required "as" (Field.decode source))

def decodeCount (source : Source) : Json → Decoded Accumulator :=
  Record.decode source "struct variant Accumulator::Count"
    [("as", Record.check (Field.decode source))]
    fun r => do return .count (← r.required "as" (Field.decode source))

def decode (source : Source) (v : Json) : Decoded Accumulator := do
  match ← Decode.tagged source "accumulator" "internally tagged enum Accumulator" names v with
  | ("FIRST", content) => decodeFirst .setAside content
  | (_, content) => decodeCount .setAside content

end Accumulator

namespace Group

def members (g : Group) : Members :=
  [("groupBy", .array (g.groupBy.map Field.toJson)),
    ("accumulators", .array (g.accumulators.map Accumulator.toJson))]

def decode (source : Source) : Json → Decoded Group :=
  Record.decode source "struct Group"
    [("groupBy", Record.check (list (Field.decode source))),
      ("accumulators", Record.check (list (Accumulator.decode source)))]
    fun r => do
      return { groupBy := ← r.required "groupBy" (list (Field.decode source))
               accumulators :=
                 ← r.withDefault "accumulators" [] (list (Accumulator.decode source)) }

end Group

def Similarity.decode (source : Source) : Json → Decoded Similarity :=
  Decode.choice source Similarity.table

namespace VectorSearch

def members (s : VectorSearch) : Members :=
  [("vector", Component.vectorToJson s.vector), ("path", s.path.toJson),
    ("k", .nat s.k.toNat)] ++
  match s.similarity with
  | some x => [("similarity", .string x.name)]
  | none => []

def decode (source : Source) : Json → Decoded VectorSearch :=
  Record.decode source "struct VectorSearch"
    [("vector", Record.check (list Decode.component)), ("path", Record.check (Field.decode source)),
      ("k", Record.check Decode.uint32),
      ("similarity", Record.check (Decode.optional (Similarity.decode source)))]
    fun r => do
      return { vector := ← r.required "vector" (list Decode.component)
               path := ← r.required "path" (Field.decode source)
               k := ← r.required "k" Decode.uint32
               similarity := ← r.optional "similarity" (Similarity.decode source) }

end VectorSearch

namespace Stage

def members : Stage → Members
  | .filter query => [("query", query.toJson)]
  | .sort spec => spec.members
  | .paginate w => w.members
  | .join spec => spec.members
  | .addFields fields => [("fields", .array (fields.map AdditionalField.toJson))]
  | .keep fields => [("fields", .array (fields.map Field.toJson))]
  | .drop fields => [("fields", .array (fields.map Field.toJson))]
  | .group spec => spec.members
  | .nearest search => search.members

def toJson (s : Stage) : Json := .object (("stage", .string s.name) :: s.members)

/-- A stage that has one member of its own, in a record of its own name. -/
def decodeOne (type member : String) (value : Json → Decoded α) (build : α → Stage) :
    Json → Decoded Stage :=
  Record.decode .setAside ("struct variant Stage::" ++ type) [(member, Record.check value)]
    fun r => do return build (← r.required member value)

def decodeContent (kind : String) (content : Json) : Decoded Stage :=
  match kind with
  | "MATCH" => decodeOne "Match" "query" Expr.decode .filter content
  | "SORT" => (SortSpec.decode .setAside content).map .sort
  | "PAGINATE" => (Paginate.decode .setAside content).map .paginate
  | "JOIN" => (Join.decode .setAside content).map .join
  | "ADD_FIELDS" =>
    decodeOne "AddFields" "fields" (list (AdditionalField.decode .setAside)) .addFields content
  | "INCLUDE" => decodeOne "Include" "fields" (list (Field.decode .setAside)) .keep content
  | "EXCLUDE" => decodeOne "Exclude" "fields" (list (Field.decode .setAside)) .drop content
  | "GROUP" => (Group.decode .setAside content).map .group
  | _ => (VectorSearch.decode .setAside content).map .nearest

def decode (v : Json) : Decoded Stage := do
  let (kind, content) ← Decode.tagged .direct "stage" "internally tagged enum Stage" names v
  decodeContent kind content

end Stage

namespace Pipeline

def toJson (p : Pipeline) : Json := .object [("stages", .array (p.stages.map Stage.toJson))]

def decode : Json → Decoded Pipeline :=
  Record.decode .direct "struct Pipeline" [("stages", Record.check (list Stage.decode))]
    fun r => do return ⟨← r.required "stages" (list Stage.decode)⟩

end Pipeline
end DocQuery
