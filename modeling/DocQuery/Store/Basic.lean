import DocQuery.Error

/-!
# Document stores

A store keeps the documents of one collection. Every argument is a native document: a filter, a
sort, an update or the stages of a pipeline. An action that fails still leaves a state behind, so
what a failed action changed can be told.
-/
namespace DocQuery

/-- Where new identifiers come from: two sequences, and how many of their identifiers have been
drawn. A draw takes from one and passes over the other. -/
structure IdSource where
  objectId : Nat → ObjectId
  publicId : Nat → String
  drawn : Nat

/-- A state of type `σ` together with the source of new identifiers. -/
structure Session (σ : Type) where
  ids : IdSource
  state : σ

namespace Session

def withState {σ τ : Type} (s : Session σ) (state : τ) : Session τ := ⟨s.ids, state⟩

def advance {σ : Type} (s : Session σ) : Session σ :=
  ⟨⟨s.ids.objectId, s.ids.publicId, s.ids.drawn + 1⟩, s.state⟩

end Session

abbrev StoreAction (σ : Type) := ExceptT StoreFailure (StateM (Session σ))

/-- An action whose failures are those that a caller of the library sees. -/
abbrev Action (σ : Type) := ExceptT QueryError (StateM (Session σ))

def drawObjectId {σ : Type} : StateM (Session σ) ObjectId :=
  modifyGet fun s => (s.ids.objectId s.ids.drawn, s.advance)

def drawPublicId {σ : Type} : StateM (Session σ) String :=
  modifyGet fun s => (s.ids.publicId s.ids.drawn, s.advance)

def zoom {σ τ ε α : Type} (part : τ → σ) (put : σ → τ → τ)
    (action : ExceptT ε (StateM (Session σ)) α) : ExceptT ε (StateM (Session τ)) α :=
  fun s =>
    let (result, inner) := action (s.withState (part s.state))
    (result, inner.withState (put inner.state s.state))

structure InsertOutcome where
  acknowledged : Bool
  inserted : Nat
  deriving DecidableEq, Repr

structure WriteOutcome where
  acknowledged : Bool
  matched : Nat
  modified : Nat
  upserted : Bool
  deriving DecidableEq, Repr

structure DeleteOutcome where
  acknowledged : Bool
  deleted : Nat
  deriving DecidableEq, Repr

class DocumentStore (σ : Type) where
  /-- The documents of which the filter holds, in the order of the sort if there is one. -/
  find (filter : Json) (sort : Option Json) : StoreAction σ (List Json)
  findOne (filter : Json) : StoreAction σ (Option Json)
  /-- Inserts a document; the answer is whether the store acknowledges it. -/
  insertOne (document : Json) : StoreAction σ Bool
  insertMany (documents : List Json) : StoreAction σ InsertOutcome
  /-- Replaces the first document of which the filter holds. If there is none, inserts the
  replacement when `upsert` is set. -/
  replaceOne (filter replacement : Json) (upsert : Bool) : StoreAction σ WriteOutcome
  updateOne (filter update : Json) : StoreAction σ WriteOutcome
  deleteOne (filter : Json) : StoreAction σ DeleteOutcome
  deleteMany (filter : Json) : StoreAction σ DeleteOutcome
  count (filter : Json) : StoreAction σ Nat
  aggregate (stages : List Json) : StoreAction σ (List Json)

end DocQuery
