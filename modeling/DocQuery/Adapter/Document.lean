import DocQuery.Store.Basic

/-!
# Documents and their identifiers

The identifier that callers see is the member `id`, a text. The internal one is the engine's own:
it is taken off what is read, and off what is inserted.
-/
namespace DocQuery

class Document (α : Type) where
  encode : α → Json
  decode : Json → Decoded α

instance : Document Json := ⟨id, .ok⟩

/-- The member with the identifier that callers see. -/
def publicId : String := "id"

namespace Document

def without (key : String) : Json → Json
  | .object members => .object (Members.swapRemove key members)
  | v => v

/-- A document as a caller passes it in for insertion, without any identifier. -/
def bare (document : Json) : Json := without publicId (without internalId document)

def read {α : Type} [Document α] (document : Json) : Except QueryError α :=
  (decode (without internalId document)).mapError .undecodable

/-- The document under an identifier and the identifier: its own if that is a text, and a new one
otherwise. -/
def identified {σ : Type} (document : Json) : Action σ (Json × String) := do
  let .object members := document | throw (.malformed .documentNotObject)
  match members.lookup publicId with
  | some (.string id) => return (document, id)
  | _ =>
    let id ← (drawPublicId : StateM (Session σ) String)
    return (.object (Members.set publicId (.string id) members), id)

end Document
end DocQuery
