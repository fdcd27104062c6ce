import DocQuery.Adapter.Document
import DocQuery.Query.Field

/-!
# Case documents

One collection holds documents of several kinds, told apart by their `documentType`: copies of the
cases of courts, and the transfer, consolidation and audit events of cases.
-/
namespace DocQuery

def syncedCaseType : String := "SYNCED_CASE"

/-- The `documentType` of the event that makes a case a member of a consolidation. -/
def consolidationToType : String := "CONSOLIDATION_TO"

inductive SyncedCaseField where
  | documentType
  | caseId
  | caseNumber
  | caseTitle
  | chapter
  | courtDivisionCode
  | dateFiled
  | closedDate
  | reopenedDate
  | assignments
  | keywordsVector
  deriving DecidableEq, Repr

instance : FieldSet SyncedCaseField where
  name
    | .documentType => "documentType"
    | .caseId => "caseId"
    | .caseNumber => "caseNumber"
    | .caseTitle => "caseTitle"
    | .chapter => "chapter"
    | .courtDivisionCode => "courtDivisionCode"
    | .dateFiled => "dateFiled"
    | .closedDate => "closedDate"
    | .reopenedDate => "reopenedDate"
    | .assignments => "assignments"
    | .keywordsVector => "keywordsVector"
  all := [.documentType, .caseId, .caseNumber, .caseTitle, .chapter, .courtDivisionCode, .dateFiled,
    .closedDate, .reopenedDate, .assignments, .keywordsVector]

inductive CaseEventField where
  | documentType
  | caseId
  deriving DecidableEq, Repr

instance : FieldSet CaseEventField where
  name
    | .documentType => "documentType"
    | .caseId => "caseId"
  all := [.documentType, .caseId]

inductive AssignmentField where
  | caseId
  | name
  | unassignedOn
  deriving DecidableEq, Repr

instance : FieldSet AssignmentField where
  name
    | .caseId => "caseId"
    | .name => "name"
    | .unassignedOn => "unassignedOn"
  all := [.caseId, .name, .unassignedOn]

/-- The fields that the search for unassigned cases uses on the way. -/
inductive AssignmentScratchField where
  | allAssignments
  | matchingAssignments
  deriving DecidableEq, Repr

instance : FieldSet AssignmentScratchField where
  name
    | .allAssignments => "allAssignments"
    | .matchingAssignments => "matchingAssignments"
  all := [.allAssignments, .matchingAssignments]

structure SyncedCase where
  id : Option String := none
  documentType : String := syncedCaseType
  caseId : String
  caseNumber : String
  caseTitle : String := ""
  chapter : String
  courtDivisionCode : String
  dateFiled : String
  closedDate : Option String := none
  reopenedDate : Option String := none
  keywordsVector : Option (List Component) := none
  deriving DecidableEq, Repr

def optionalMember (key : String) : Option String → Members
  | some s => [(key, .string s)]
  | none => []

namespace SyncedCase

def texts (c : SyncedCase) : Members :=
  [("documentType", .string c.documentType), ("caseId", .string c.caseId),
    ("caseNumber", .string c.caseNumber), ("caseTitle", .string c.caseTitle),
    ("chapter", .string c.chapter), ("courtDivisionCode", .string c.courtDivisionCode),
    ("dateFiled", .string c.dateFiled)]

def vectorMember (c : SyncedCase) : Members :=
  match c.keywordsVector with
  | some vector => [("keywordsVector", Component.vectorToJson vector)]
  | none => []

def members (c : SyncedCase) : Members :=
  optionalMember "id" c.id ++ c.texts ++ optionalMember "closedDate" c.closedDate ++
    optionalMember "reopenedDate" c.reopenedDate ++ c.vectorMember

def toJson (c : SyncedCase) : Json := .object c.members

def text (r : Record) (name : String) : Decoded String := r.required name Decode.string

def vector : Json → Decoded (List Component) := Decode.list Decode.component

def ofRecord (r : Record) : Decoded SyncedCase := do
  return { id := ← r.optional "id" Decode.string
           documentType := ← r.withDefault "documentType" syncedCaseType Decode.string
           caseId := ← text r "caseId"
           caseNumber := ← text r "caseNumber"
           caseTitle := ← r.withDefault "caseTitle" "" Decode.string
           chapter := ← text r "chapter"
           courtDivisionCode := ← text r "courtDivisionCode"
           dateFiled := ← text r "dateFiled"
           closedDate := ← r.optional "closedDate" Decode.string
           reopenedDate := ← r.optional "reopenedDate" Decode.string
           keywordsVector := ← r.optional "keywordsVector" vector }

def decode : Json → Decoded SyncedCase :=
  Record.decode .direct "struct SyncedCase"
    [("id", Record.check (Decode.optional Decode.string)),
      ("documentType", Record.check Decode.string), ("caseId", Record.check Decode.string),
      ("caseNumber", Record.check Decode.string), ("caseTitle", Record.check Decode.string),
      ("chapter", Record.check Decode.string), ("courtDivisionCode", Record.check Decode.string),
      ("dateFiled", Record.check Decode.string),
      ("closedDate", Record.check (Decode.optional Decode.string)),
      ("reopenedDate", Record.check (Decode.optional Decode.string)),
      ("keywordsVector", Record.check (Decode.optional vector))]
    ofRecord

instance : Document SyncedCase := ⟨toJson, decode⟩

end SyncedCase

/-- An event of a case. Its details are members of the document beside the named ones. -/
structure CaseEvent where
  id : Option String := none
  documentType : String
  caseId : String
  details : Members := []
  deriving Repr

namespace CaseEvent

def withDetail (e : CaseEvent) (key : String) (value : Json) : CaseEvent :=
  { e with details := Members.set key value e.details }

/-- A detail with the name of another member takes its place. -/
def toJson (e : CaseEvent) : Json :=
  .object (Members.setAll
    (optionalMember "id" e.id ++
      [("documentType", .string e.documentType), ("caseId", .string e.caseId)]) e.details)

private def named : List (String × (Json → Decoded Unit)) :=
  [("id", Record.check (Decode.optional Decode.string)),
    ("documentType", Record.check Decode.string), ("caseId", Record.check Decode.string)]

def decode : Json → Decoded CaseEvent
  | .object members =>
    Record.decode .direct "struct CaseEvent" named
      (fun r => do
        return { id := ← r.optional "id" Decode.string
                 documentType := ← r.required "documentType" Decode.string
                 caseId := ← r.required "caseId" Decode.string
                 details := members.filter fun m => !(named.map Prod.fst).contains m.1 })
      (.object members)
  | v => Decode.mismatch v "struct CaseEvent"

instance : Document CaseEvent := ⟨toJson, decode⟩

end CaseEvent
end DocQuery
