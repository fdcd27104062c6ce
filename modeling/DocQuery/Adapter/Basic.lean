import DocQuery.Adapter.Document
import DocQuery.Adapter.Page
import DocQuery.StoreConfig.Basic

/-!
# Typed access to a collection

An adapter compiles queries and pipelines, asks the store, and converts documents to values and
back. A failure of the store is reported together with the native query that it was asked to run.
-/
namespace DocQuery

structure Adapter where
  module : String
  renderer : Renderer
  /-- The size of the page that is added to pipelines without one. -/
  pageLimit : Option UInt64
  deriving DecidableEq, Repr

namespace Adapter

def plain (module : String) : Adapter := ⟨module, .base, none⟩

/-- An adapter that adds a page of the configured size to pipelines without one. -/
def paged (module : String) (renderer : Renderer) (config : StoreConfig) : Adapter :=
  ⟨module, renderer, some config.defaultPageLimit⟩

def ofConfig (module : String) (config : StoreConfig) : Adapter :=
  match config.engine with
  | .base => plain module
  | .atlas | .cosmos => paged module config.renderer config

variable {σ α : Type} [DocumentStore σ] [Document α]

def ask (A : Adapter) (query : Json) (action : StoreAction σ α) : Action σ α :=
  ExceptT.adapt (.store A.module query) action

def missing (A : Adapter) (what : Missing) : Action σ α := throw (.notFound A.module what)

def everything : Json := .object []

def findBy (A : Adapter) (filter : Json) (sort : Option SortSpec) : Action σ (List α) := do
  let spec := (sort.filter fun s => !s.isEmpty).map Native.sort
  let documents ← A.ask filter (DocumentStore.find filter spec)
  liftExcept (documents.mapM Document.read)

def find (A : Adapter) (query : Expr) (sort : Option SortSpec) : Action σ (List α) := do
  A.findBy (← liftExcept (Native.filter query)) sort

def getAll (A : Adapter) (sort : Option SortSpec) : Action σ (List α) := A.findBy everything sort

def findOne (A : Adapter) (query : Expr) : Action σ α := do
  let filter ← liftExcept (Native.filter query)
  match ← A.ask filter (DocumentStore.findOne filter) with
  | some document => liftExcept (Document.read document)
  | none => A.missing .noMatch

/-- Replaces the first document of which a query holds. The answer is the identifier of the item,
a new one if it has none. -/
def replaceOne (A : Adapter) (query : Expr) (item : α) (upsert : Bool) : Action σ String := do
  let filter ← liftExcept (Native.filter query)
  let (document, id) ← Document.identified (Document.encode item)
  let outcome ← A.ask filter (DocumentStore.replaceOne filter document upsert)
  if !outcome.acknowledged then
    if upsert then throw (.unknown A.module .notInserted) else A.missing .noMatch
  else if outcome.matched = 0 ∧ !outcome.upserted then A.missing .noMatch
  else return id

def insertOne (A : Adapter) (item : α) : Action σ String := do
  let (document, id) ← Document.identified (Document.bare (Document.encode item))
  if ← A.ask document (DocumentStore.insertOne document) then return id
  else throw (.unknown A.module .notInserted)

/-- Inserts items under new identifiers, which are listed in the order of the items. -/
def insertMany (A : Adapter) (items : List α) : Action σ (List String) := do
  let prepared ← items.mapM fun item =>
    Document.identified (Document.bare (Document.encode item))
  let ids := prepared.map Prod.snd
  let outcome ← A.ask (.strings ids) (DocumentStore.insertMany (prepared.map Prod.fst))
  if outcome.inserted = ids.length then return ids
  else throw (.unknown A.module (.partlyInserted outcome.inserted ids.length))

/-- Sets the members of a patch in the first document of which a query holds. The answer is the
number of documents changed. -/
def updateOne (A : Adapter) (query : Expr) (patch : Json) : Action σ Nat := do
  let filter ← liftExcept (Native.filter query)
  let update := Json.single "$set" (Document.without internalId patch)
  let outcome ← A.ask filter (DocumentStore.updateOne filter update)
  if outcome.matched = 0 then A.missing .noMatch else return outcome.modified

def deleteOne (A : Adapter) (query : Expr) : Action σ Nat := do
  let filter ← liftExcept (Native.filter query)
  let outcome ← A.ask filter (DocumentStore.deleteOne filter)
  if outcome.deleted = 1 then return outcome.deleted else A.missing .noneDeleted

/-- Deletes the documents of which a query holds; there must be one at least. -/
def deleteMany (A : Adapter) (query : Expr) : Action σ Nat := do
  let filter ← liftExcept (Native.filter query)
  let outcome ← A.ask filter (DocumentStore.deleteMany filter)
  if 0 < outcome.deleted then return outcome.deleted else A.missing .noneDeleted

def countBy (A : Adapter) (filter : Json) : Action σ Nat :=
  A.ask filter (DocumentStore.count filter)

def count (A : Adapter) (query : Expr) : Action σ Nat := do
  A.countBy (← liftExcept (Native.filter query))

def countAll (A : Adapter) : Action σ Nat := A.countBy everything

/-- The pipeline with the page that the adapter adds. -/
def withDefaults (A : Adapter) (p : Pipeline) : Pipeline :=
  match A.pageLimit with
  | some limit => p.withDefaultPagination limit
  | none => p

def run (A : Adapter) (p : Pipeline) : Action σ (List Json) := do
  let stages ← liftExcept (Native.pipeline A.renderer p)
  A.ask (.array stages) (DocumentStore.aggregate stages)

/-- The documents and the total count in the result of a pipeline that ends in a page. -/
def splitFacet : List Json → Except QueryError (List Json × Option PageMetadata)
  | [] => .ok ([], none)
  | [facet] => do
    let data ← match facet.get? "data" with
      | none => .ok []
      | some (.array items) => .ok items
      | some other => .error (.malformed (.facetDataNotList other))
    let total := do (← (← (← facet.get? "metadata").asArray?).head?).get? "total"
    return (data, (total.bind Json.asUInt64?).map PageMetadata.mk)
  | results => .error (.malformed (.severalFacets results.length))

def aggregate (A : Adapter) (p : Pipeline) : Action σ (List α) := do
  let p := A.withDefaults p
  let results ← A.run p
  let documents ← liftExcept (
    if p.terminalWindow?.isSome then (splitFacet results).map Prod.fst else .ok results)
  liftExcept (documents.mapM Document.read)

def paginate (A : Adapter) (p : Pipeline) : Action σ (Page α) := do
  let p := A.withDefaults p
  if p.terminalWindow?.isNone then throw (.malformed .paginateRequired)
  let (data, metadata) ← liftExcept (splitFacet (← A.run p))
  return ⟨metadata, ← liftExcept (data.mapM Document.read)⟩

end Adapter
end DocQuery
