import DocQuery.Cases.Model
import DocQuery.Cases.Predicate
import DocQuery.StoreConfig.Basic

/-!
# Pipelines of case searches

The pipelines are composed from the predicate alone, without asking the store.
-/
namespace DocQuery.Search

def text (s : String) : Operand := .literal (.string s)

def texts (items : List String) : Operand := .literal (.strings items)

def caseField (f : SyncedCaseField) : Field := FieldSet.field f

def whenSome {α : Type} (part : Option α) (build : α → Expr) : List Expr :=
  (part.map build).toList

/-- Holds of the cases that are open: those never closed, and those reopened since. -/
def openCases : Expr :=
  let closed := caseField .closedDate
  let reopened := caseField .reopenedDate
  .or [closed.absent,
    .and [closed.present, reopened.present, reopened.greaterThanOrEqual (.field closed)]]

def conditions (p : CasesSearchPredicate) : List Expr :=
  [(caseField .documentType).equals (text syncedCaseType)] ++
  whenSome (p.caseNumber.filter fun n => !n.isEmpty)
    (fun n => (caseField .caseNumber).equals (text n)) ++
  whenSome p.caseIds (fun ids => (caseField .caseId).contains (texts ids)) ++
  whenSome (nonEmpty? p.chapters) (fun cs => (caseField .chapter).contains (texts cs)) ++
  whenSome (nonEmpty? p.divisionCodes)
    (fun cs => (caseField .courtDivisionCode).contains (texts cs)) ++
  (if p.excludeMemberConsolidations = some true then
    whenSome (nonEmpty? p.excludedCaseIds) fun ids => (caseField .caseId).notContains (texts ids)
   else []) ++
  (if p.excludeClosedCases = some true then [openCases] else [])

/-- The number of candidates of a vector search for a page of `limit` results. -/
def vectorCandidates (limit : UInt64) (config : StoreConfig) : UInt32 :=
  UInt32.ofNat (max (min (2 * limit.toNat) (UInt32.size - 1)) config.minVectorCandidates.toNat)

def newestFirst : SortSpec :=
  ⟨[.descending (caseField .dateFiled), .descending (caseField .caseNumber)]⟩

def requirePage (p : CasesSearchPredicate) : Except QueryError (UInt64 × UInt64) :=
  match p.page? with
  | some page => .ok page
  | none => .error (.malformed .pageRequired)

/-- The pipeline of a search. A query vector that is not empty adds a vector search. -/
def pipeline (p : CasesSearchPredicate) (vector : Option (List Component)) (config : StoreConfig) :
    Except QueryError Pipeline := do
  let (offset, limit) ← requirePage p
  let nearest := (nonEmpty? vector).map fun v =>
    Stage.nearestTo v ⟨config.vectorPath, none⟩ (vectorCandidates limit config)
      config.vectorSimilarity
  return ⟨[.filter (.and (conditions p))] ++ nearest.toList ++
    [.sort newestFirst, .paginate ⟨offset, limit⟩]⟩

def assignmentsCollection : String := "assignments"

def casesCollection : String := "cases"

/-- The pipeline of a search for cases without an active assignment. The assignments are joined to
each case and those that are active kept; if the predicate names a user, the assignments to the
first one are kept apart. -/
def unassignedPipeline (p : CasesSearchPredicate) : Except QueryError Pipeline := do
  let (offset, limit) ← requirePage p
  let assignment : FieldSource AssignmentField := ⟨some assignmentsCollection⟩
  let case : FieldSource SyncedCaseField := ⟨some casesCollection⟩
  let scratch : FieldSource AssignmentScratchField := ⟨none⟩
  let all := scratch.field .allAssignments
  let matching := scratch.field .matchingAssignments
  let active := case.field .assignments
  let assignee := match p.assignments.bind List.head? with
    | some user => Expr.and [(assignment.field .name).equals (text user.name)]
    | none => Expr.and []
  return ⟨[
    .filter (.and (conditions p)),
    .join ⟨case.field .caseId, assignment.field .caseId, all⟩,
    .addFields [⟨matching, all, assignee⟩,
      ⟨active, all, (assignment.field .unassignedOn).absent⟩],
    .filter (active.equals (.literal (.array []))),
    .drop [all, matching],
    .sort newestFirst,
    .paginate ⟨offset, limit⟩]⟩

end DocQuery.Search
