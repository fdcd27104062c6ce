import DocQuery.Store.Basic

/-!
# Scripted stores

A stand-in for a store that gives prepared replies, whatever it is asked, and records each call as
its name and its arguments. When the replies are used up it answers with the empty reply.
-/
namespace DocQuery

structure Reply where
  failure : Option StoreFailure := none
  documents : List Json := []
  document : Option Json := none
  acknowledged : Bool := true
  matched : Nat := 0
  modified : Nat := 0
  deleted : Nat := 0
  inserted : Nat := 0
  count : Nat := 0
  upserted : Bool := false
  deriving Repr

structure Scripted where
  replies : List Reply
  calls : List Json
  deriving Repr

namespace Scripted

def empty : Scripted := ⟨[], []⟩

def next (call : Json) (s : Scripted) : Reply × Scripted :=
  match s.replies with
  | [] => ({}, ⟨[], s.calls ++ [call]⟩)
  | reply :: rest => (reply, ⟨rest, s.calls ++ [call]⟩)

/-- Answers a call with what `read` takes from the next reply. -/
def answer {α : Type} (name : String) (args : List Json) (read : Reply → α) :
    StoreAction Scripted α := do
  let reply ← modifyGet fun s : Session Scripted =>
    let (reply, state) := next (.array (.string name :: args)) s.state
    (reply, s.withState state)
  match reply.failure with
  | some failure => throw failure
  | none => return read reply

private def written (r : Reply) : WriteOutcome :=
  ⟨r.acknowledged, r.matched, r.modified, r.upserted⟩

private def removed (r : Reply) : DeleteOutcome := ⟨r.acknowledged, r.deleted⟩

instance : DocumentStore Scripted where
  find filter sort := answer "find" [filter, sort.getD .null] Reply.documents
  findOne filter := answer "find_one" [filter] Reply.document
  insertOne document := answer "insert_one" [document] Reply.acknowledged
  insertMany documents :=
    answer "insert_many" [.array documents] fun r => ⟨r.acknowledged, r.inserted⟩
  replaceOne filter replacement upsert :=
    answer "replace_one" [filter, replacement, .bool upsert] written
  updateOne filter update := answer "update_one" [filter, update] written
  deleteOne filter := answer "delete_one" [filter] removed
  deleteMany filter := answer "delete_many" [filter] removed
  count filter := answer "count_documents" [filter] Reply.count
  aggregate stages := answer "aggregate" [.array stages] Reply.documents

end Scripted
end DocQuery
