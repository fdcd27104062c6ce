import DocQuery.Adapter.Basic
import DocQuery.Cases.Embedding
import DocQuery.Cases.Search
import DocQuery.Store.Client

/-!
# Searching and recording cases

A search by name asks for a query vector where the engine has vector search. Whatever goes wrong
with that vector, the search is run without it.
-/
namespace DocQuery

/-- What repositories work with: the client, and the texts that embedders were asked for. -/
structure Services where
  client : Client
  embedded : List String
  deriving Repr

namespace Services

def empty : Services := ⟨.empty, []⟩

def setClient (client : Client) (s : Services) : Services := { s with client }

def on {ε α : Type} (database name : String)
    (action : ExceptT ε (StateM (Session Collection)) α) :
    ExceptT ε (StateM (Session Services)) α :=
  zoom client setClient (Client.on database name action)

end Services

inductive EventKind where
  | audit
  | transfer
  | consolidation
  deriving DecidableEq, Repr

namespace EventKind

def typeStart : EventKind → String
  | .audit => "AUDIT_"
  | .transfer => "TRANSFER_"
  | .consolidation => "CONSOLIDATION_"

def pattern (k : EventKind) : String := "^" ++ k.typeStart

def includes (k : EventKind) (documentType : String) : Bool :=
  k.typeStart.toList.isPrefixOf documentType.toList

end EventKind

structure CasesRepository where
  config : StoreConfig
  embedder : Option Embedder

namespace CasesRepository

def module : String := "CASES-REPOSITORY"

def ofConfig (config : StoreConfig) (embedder : Option Embedder) :
    Except QueryError CasesRepository := do
  config.validate.mapError .config
  return ⟨config, embedder⟩

def onCases {α : Type} (R : CasesRepository) (action : Adapter → Action Collection α) :
    Action Services α :=
  Services.on R.config.database Search.casesCollection (action (.ofConfig module R.config))

/-- The query vector for a name, if there is one. -/
def queryVector (R : CasesRepository) (name : String) :
    Action Services (Option (List Component)) := do
  if !R.config.engine.supportsVectorSearch then return none
  else
    match R.embedder with
    | none => return none
    | some embed =>
      modify fun s => s.withState { s.state with embedded := s.state.embedded ++ [name] }
      return nonEmpty? (embed name).toOption

variable [PatternEngine]

def searchUnassignedCases (R : CasesRepository) (p : CasesSearchPredicate) :
    Action Services (Page SyncedCase) := do
  let spec ← liftExcept (Search.unassignedPipeline p)
  R.onCases fun A => A.paginate spec

def searchCases (R : CasesRepository) (p : CasesSearchPredicate) :
    Action Services (Page SyncedCase) := do
  if p.includeOnlyUnassigned = some true then R.searchUnassignedCases p
  else
    discard (liftExcept (Search.requirePage p))
    let vector ← match p.searchName? with
      | some name => R.queryVector name
      | none => pure none
    let spec ← liftExcept (Search.pipeline p vector R.config)
    R.onCases fun A => A.paginate spec

def syncedCopy (caseId : String) : Expr :=
  .and [(FieldSet.field SyncedCaseField.caseId).equals (Search.text caseId),
    (FieldSet.field SyncedCaseField.documentType).equals (Search.text syncedCaseType)]

def getSyncedCase (R : CasesRepository) (caseId : String) : Action Services SyncedCase :=
  R.onCases fun A => A.findOne (syncedCopy caseId)

def syncCase (R : CasesRepository) (c : SyncedCase) : Action Services String :=
  R.onCases fun A => A.replaceOne (syncedCopy c.caseId) c true

def eventsOf (kind : EventKind) (caseId : String) : Expr :=
  .and [(FieldSet.field CaseEventField.documentType).regex (Search.text kind.pattern),
    (FieldSet.field CaseEventField.caseId).equals (Search.text caseId)]

def getEvents (R : CasesRepository) (kind : EventKind) (caseId : String) :
    Action Services (List CaseEvent) :=
  R.onCases fun A => A.find (eventsOf kind caseId) none

def getCaseHistory (R : CasesRepository) : String → Action Services (List CaseEvent) :=
  R.getEvents .audit

def getTransfers (R : CasesRepository) : String → Action Services (List CaseEvent) :=
  R.getEvents .transfer

def getConsolidation (R : CasesRepository) : String → Action Services (List CaseEvent) :=
  R.getEvents .consolidation

/-- Holds of the events that make the cases that a predicate names members of a consolidation. -/
def consolidationMembers (p : CasesSearchPredicate) : Expr :=
  let caseId := FieldSet.field CaseEventField.caseId
  let type := (FieldSet.field CaseEventField.documentType).equals (Search.text consolidationToType)
  let ids := (nonEmpty? p.caseIds).map fun ids => caseId.contains (Search.texts ids)
  let codes := (nonEmpty? p.divisionCodes).map fun codes =>
    Expr.or (codes.map fun code => caseId.regex (Search.text ("^" ++ code)))
  .and ([type] ++ ids.toList ++ codes.toList)

def getConsolidationMemberCaseIds (R : CasesRepository) (p : CasesSearchPredicate) :
    Action Services (List String) := do
  let members : List CaseEvent ← R.onCases fun A => A.find (consolidationMembers p) none
  return members.map CaseEvent.caseId

/-- Records an event of a kind. The answer is the event under its new identifier. -/
def createEvent (R : CasesRepository) (kind : EventKind) (e : CaseEvent) :
    Action Services CaseEvent := do
  if kind.includes e.documentType then
    let id ← R.onCases fun A => A.insertOne e
    return { e with id := some id }
  else throw (.malformed (.wrongEventType e.documentType kind.typeStart))

def createCaseHistory (R : CasesRepository) : CaseEvent → Action Services CaseEvent :=
  R.createEvent .audit

def createTransfer (R : CasesRepository) : CaseEvent → Action Services CaseEvent :=
  R.createEvent .transfer

def createConsolidation (R : CasesRepository) : CaseEvent → Action Services CaseEvent :=
  R.createEvent .consolidation

end CasesRepository
end DocQuery
