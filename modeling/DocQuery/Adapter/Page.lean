import DocQuery.Decode.Basic

/-!
# Pages of results

The total count is absent when the engine reports none with a page, and when nothing matched.
-/
namespace DocQuery

/-- The size of everything that matched. -/
structure PageMetadata where
  total : UInt64
  deriving DecidableEq, Repr

namespace PageMetadata

def toJson (m : PageMetadata) : Json := .single "total" (.uint64 m.total)

def decode : Json → Decoded PageMetadata :=
  Record.decode .direct "struct PageMetadata" [("total", Record.check Decode.uint64)]
    fun r => do return ⟨← r.required "total" Decode.uint64⟩

end PageMetadata

structure Page (α : Type) where
  metadata : Option PageMetadata
  data : List α
  deriving Repr

namespace Page

variable {α β : Type}

def empty : Page α := ⟨none, []⟩

def map (f : α → β) (page : Page α) : Page β := ⟨page.metadata, page.data.map f⟩

def toJson (item : α → Json) (page : Page α) : Json :=
  let metadata := match page.metadata with
    | some m => [("metadata", m.toJson)]
    | none => []
  .object (metadata ++ [("data", .array (page.data.map item))])

def decode (item : Json → Decoded α) : Json → Decoded (Page α) :=
  Record.decode .direct "struct PaginationResponse"
    [("metadata", Record.check (Decode.optional PageMetadata.decode)),
      ("data", Record.check (Decode.list item))]
    fun r => do
      return { metadata := ← r.optional "metadata" PageMetadata.decode
               data := ← r.required "data" (Decode.list item) }

end Page
end DocQuery
