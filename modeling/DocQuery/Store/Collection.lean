import DocQuery.Store.Basic
import DocQuery.Store.Steps

/-!
# Collections in memory

A collection keeps its documents in the order of insertion and gives every object that lacks one
an identifier. It remembers the last filter and the last pipeline that it was asked to run, and can
be told to fail the next action.
-/
namespace DocQuery

structure Collection where
  name : String
  documents : List Json
  pendingFailure : Option StoreFailure
  lastFilter : Option Json
  lastPipeline : Option (List Json)
  closed : Bool
  deriving Repr

namespace Collection

def empty (name : String) (closed : Bool) : Collection := ⟨name, [], none, none, none, closed⟩

def withObjectId (document : Json) : StateM (Session Collection) Json :=
  match document with
  | .object members =>
    if Members.contains members internalId then return document
    else do
      let id ← drawObjectId
      return .object (Members.set internalId id.toWire members)
  | _ => return document

def append (documents : List Json) : StateM (Session Collection) Unit := do
  let stored ← documents.mapM withObjectId
  modify fun s => s.withState { s.state with documents := s.state.documents ++ stored }

def failNext (failure : StoreFailure) (c : Collection) : Collection :=
  { c with pendingFailure := some failure }

def change (f : Collection → Collection) : StoreAction Collection Unit :=
  modify fun s => s.withState (f s.state)

/-- What every action does first: a closed collection refuses it, its filter is recorded, and a
failure that was asked for is used up. -/
def begin (filter : Option Json) : StoreAction Collection Unit := do
  if (← get).state.closed then throw .closed
  if let some f := filter then change fun c => { c with lastFilter := some f }
  if let some failure := (← get).state.pendingFailure then
    change fun c => { c with pendingFailure := none }
    throw failure

def attempt {α : Type} (result : Except CommandFault α) : StoreAction Collection α :=
  liftExcept (result.mapError StoreFailure.command)

variable [PatternEngine]

def marked (filter : Json) : StoreAction Collection (List (Json × Bool)) := do
  attempt (Documents.marked filter (← get).state.documents)

def store (documents : List Json) : StoreAction Collection Unit :=
  change fun c => { c with documents }

def find (filter : Json) (sort : Option Json) : StoreAction Collection (List Json) := do
  begin (some filter)
  let found := Documents.chosen (← marked filter)
  match sort with
  | some spec => attempt (Documents.sort spec found)
  | none => return found

def changed (old new : Json) : Nat := if new == old then 0 else 1

def replaceOne (filter replacement : Json) (upsert : Bool) :
    StoreAction Collection WriteOutcome := do
  begin (some filter)
  let documents ← marked filter
  match (Documents.chosen documents).head? with
  | some old =>
    let new := Documents.takeId replacement old
    store (Documents.changeFirst (fun _ => new) documents)
    return ⟨true, 1, changed old new, false⟩
  | none =>
    if upsert then append [replacement]
    return ⟨true, 0, 0, upsert⟩

/-- Applies an update to the first document of which the filter holds. The document keeps what was
applied before an operator that fails. -/
def updateOne (filter update : Json) : StoreAction Collection WriteOutcome := do
  begin (some filter)
  let .object operators := update | throw (.command .updateNotDocument)
  let documents ← marked filter
  match (Documents.chosen documents).head? with
  | some old =>
    let (new, result) := Documents.updated operators old
    store (Documents.changeFirst (fun _ => new) documents)
    attempt result
    return ⟨true, 1, changed old new, false⟩
  | none => return ⟨true, 0, 0, false⟩

def delete (many : Bool) (filter : Json) : StoreAction Collection DeleteOutcome := do
  begin (some filter)
  let documents ← marked filter
  let hits := (Documents.chosen documents).length
  store (Documents.remaining many documents)
  return ⟨true, if many then hits else min 1 hits⟩

def aggregate (stages : List Json) : StoreAction Collection (List Json) := do
  change fun c => { c with lastPipeline := some stages }
  begin none
  liftExcept (Steps.run stages (← get).state.documents)

instance : DocumentStore Collection where
  find := find
  findOne filter := do return (← find filter none).head?
  insertOne document := do
    begin none
    append [document]
    return true
  insertMany documents := do
    begin none
    append documents
    return ⟨true, documents.length⟩
  replaceOne := replaceOne
  updateOne := updateOne
  deleteOne := delete false
  deleteMany := delete true
  count filter := do return (← find filter none).length
  aggregate := aggregate

end Collection
end DocQuery
