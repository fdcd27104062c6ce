import DocQuery.Component
import DocQuery.Query.Expr
import DocQuery.Query.SortSpec

/-!
# Aggregation pipelines

A pipeline is a list of stages, run from the first to the last. A page of results is asked for by
a PAGINATE stage at the end.
-/
namespace DocQuery

structure Paginate where
  skip : UInt64
  limit : UInt64
  deriving DecidableEq, Repr

/-- Left outer join: the source of the foreign field names the joined collection, and the joined
documents go into the array field `output`. -/
structure Join where
  localField : Field
  foreignField : Field
  output : Field
  deriving DecidableEq, Repr

/-- A computed array field: the elements of `querySource` for which `query` holds. The fields in
`query` are properties of the element. -/
structure AdditionalField where
  fieldToAdd : Field
  querySource : Field
  query : Expr
  deriving Repr

inductive Accumulator where
  | first (field : Field) (as : Field)
  | count (as : Field)
  deriving DecidableEq, Repr

namespace Accumulator

def output : Accumulator → Field
  | .first _ as => as
  | .count as => as

def firstOf (field as : Field) : Accumulator := .first field.unqualified as.unqualified

def countAs (as : Field) : Accumulator := .count as.unqualified

end Accumulator

structure Group where
  groupBy : List Field
  accumulators : List Accumulator
  deriving DecidableEq, Repr

inductive Similarity where
  | cosine
  | euclidean
  | innerProduct
  deriving DecidableEq, Repr

namespace Similarity

def name : Similarity → String
  | .cosine => "COS"
  | .euclidean => "L2"
  | .innerProduct => "IP"

def table : List (String × Similarity) :=
  [("COS", .cosine), ("L2", .euclidean), ("IP", .innerProduct)]

end Similarity

structure VectorSearch where
  vector : List Component
  path : Field
  k : UInt32
  similarity : Option Similarity
  deriving DecidableEq, Repr

inductive Stage where
  | filter (query : Expr)
  | sort (spec : SortSpec)
  | paginate (window : Paginate)
  | join (spec : Join)
  | addFields (fields : List AdditionalField)
  | keep (fields : List Field)
  | drop (fields : List Field)
  | group (spec : Group)
  | nearest (search : VectorSearch)
  deriving Repr

namespace Stage

def names : List String :=
  ["MATCH", "SORT", "PAGINATE", "JOIN", "ADD_FIELDS", "INCLUDE", "EXCLUDE", "GROUP",
    "VECTOR_SEARCH"]

def name : Stage → String
  | .filter _ => "MATCH"
  | .sort _ => "SORT"
  | .paginate _ => "PAGINATE"
  | .join _ => "JOIN"
  | .addFields _ => "ADD_FIELDS"
  | .keep _ => "INCLUDE"
  | .drop _ => "EXCLUDE"
  | .group _ => "GROUP"
  | .nearest _ => "VECTOR_SEARCH"

def window? : Stage → Option Paginate
  | .paginate w => some w
  | _ => none

/-- A search over a path, whose source is dropped. -/
def nearestTo (vector : List Component) (path : Field) (k : UInt32)
    (similarity : Option Similarity) : Stage :=
  .nearest ⟨vector, path.unqualified, k, similarity⟩

end Stage

structure Pipeline where
  stages : List Stage
  deriving Repr

namespace Pipeline

def hasPaginate (p : Pipeline) : Bool := p.stages.any fun s => s.window?.isSome

def terminalWindow? (p : Pipeline) : Option Paginate := p.stages.getLast?.bind Stage.window?

/-- The pipeline with a first page of `limit` results at its end, unless it paginates already. -/
def withDefaultPagination (p : Pipeline) (limit : UInt64) : Pipeline :=
  if p.hasPaginate then p else ⟨p.stages ++ [.paginate ⟨0, limit⟩]⟩

end Pipeline
end DocQuery
