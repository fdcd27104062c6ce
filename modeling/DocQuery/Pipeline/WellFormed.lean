import DocQuery.Pipeline.Stage
import DocQuery.Query.WellFormed

/-!
# Well-formed pipelines

A pipeline is accepted when it has a stage, paginates at most once and at its end, and each stage
is accepted by itself. The first fault along the stages is reported.
-/
namespace DocQuery

/-- A field that a stage refers to has a name. -/
def Field.named (f : Field) (stage : String) : Except Malformation Unit :=
  if f.name.isEmpty then .error (.unnamedField stage) else .ok ()

namespace Stage

def validateJoin (j : Join) : Except Malformation Unit := do
  j.localField.named "JOIN"
  j.foreignField.named "JOIN"
  j.output.named "JOIN"
  match j.foreignField.source with
  | some s =>
    if s.isEmpty then .error (.unnamedCollection j.foreignField.name) else .ok ()
  | none => .error (.unnamedCollection j.foreignField.name)

def validateAdditional (a : AdditionalField) : Except Malformation Unit := do
  a.fieldToAdd.named "ADD_FIELDS"
  a.querySource.named "ADD_FIELDS"
  a.query.validate

def validateProjection (fields : List Field) (stage : String) : Except Malformation Unit :=
  if fields.isEmpty then .error (.noFields stage) else fields.forM fun f => f.named stage

def validateAccumulator (a : Accumulator) : Except Malformation Unit := do
  a.output.named "GROUP"
  match a with
  | .first field _ => field.named "GROUP"
  | .count _ => .ok ()

def validateSearch (s : VectorSearch) : Except Malformation Unit := do
  s.path.named "VECTOR_SEARCH"
  if s.vector.isEmpty then .error .emptyVector
  else if s.k = 0 then .error .zeroCandidates
  else if s.vector.all Component.isFinite then .ok ()
  else .error .nonFiniteVector

def validate : Stage → Except Malformation Unit
  | .filter query => query.validate
  | .sort spec =>
    if spec.isEmpty then .error .noSortKeys
    else spec.fields.forM fun key => key.field.named "SORT"
  | .paginate w => if w.limit = 0 then .error .zeroLimit else .ok ()
  | .join spec => validateJoin spec
  | .addFields fields =>
    if fields.isEmpty then .error (.noFields "ADD_FIELDS") else fields.forM validateAdditional
  | .keep fields => validateProjection fields "INCLUDE"
  | .drop fields => validateProjection fields "EXCLUDE"
  | .group spec => do
    spec.groupBy.forM fun f => f.named "GROUP"
    spec.accumulators.forM validateAccumulator
  | .nearest search => validateSearch search

end Stage

namespace Pipeline

def validateFrom (total n : Nat) : List Stage → Except Malformation Unit
  | [] => .ok ()
  | s :: rest => do
    if s.window?.isSome && !rest.isEmpty then .error (.paginateBeforeEnd n total)
    else s.validate
    validateFrom total (n + 1) rest

def validate (p : Pipeline) : Except Malformation Unit :=
  if p.stages.isEmpty then .error .noStages else validateFrom p.stages.length 1 p.stages

end Pipeline
end DocQuery
