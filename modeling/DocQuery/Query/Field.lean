import DocQuery.Decode.Basic

/-!
# Field references

A field names a property of a document, by a key or by a dotted path, and may carry the collection
or joined array that it comes from, which keeps fields of joined collections apart.
-/
namespace DocQuery

structure Field where
  name : String
  source : Option String := none
  deriving DecidableEq, Repr

/-- The field under which an engine keeps its own identifier. -/
def internalId : String := "_id"

namespace Field

def unqualified (f : Field) : Field := ⟨f.name, none⟩

def path (f : Field) : String := "$" ++ f.name

def isId (f : Field) : Bool := f.name == internalId

/-- The name shown to people: the source, if any, and the name. -/
def display (f : Field) : String :=
  match f.source with
  | some s => s ++ "." ++ f.name
  | none => f.name

def toJson (f : Field) : Json :=
  .object (("name", .string f.name) :: match f.source with
    | some s => [("source", .string s)]
    | none => [])

def decode (source : Source) : Json → Decoded Field :=
  Record.decode source "struct Field"
    [("name", Record.check Decode.string), ("source", Record.check (Decode.optional Decode.string))]
    fun r => do
      return { name := ← r.required "name" Decode.string
               source := ← r.optional "source" Decode.string }

end Field

class FieldSet (φ : Type) where
  name : φ → String
  all : List φ

/-- A field of a known kind of document, without a source. -/
def FieldSet.field {φ : Type} [FieldSet φ] (f : φ) : Field := ⟨FieldSet.name f, none⟩

/-- Where the fields of one kind of document come from. -/
structure FieldSource (φ : Type) where
  name : Option String

namespace FieldSource

def field {φ : Type} [FieldSet φ] (s : FieldSource φ) (f : φ) : Field :=
  ⟨FieldSet.name f, s.name⟩

def fields {φ : Type} [FieldSet φ] (s : FieldSource φ) (fs : List φ) : List Field :=
  fs.map s.field

end FieldSource
end DocQuery
