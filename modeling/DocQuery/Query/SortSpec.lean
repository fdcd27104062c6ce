import DocQuery.Query.Field

/-!
# Sort specifications

The first key has the highest precedence.
-/
namespace DocQuery

inductive SortDirection where
  | ascending
  | descending
  deriving DecidableEq, Repr

namespace SortDirection

def native : SortDirection → Int
  | .ascending => 1
  | .descending => -1

def name : SortDirection → String
  | .ascending => "ASCENDING"
  | .descending => "DESCENDING"

def table : List (String × SortDirection) :=
  [("ASCENDING", .ascending), ("DESCENDING", .descending)]

def decode (source : Source) : Json → Decoded SortDirection := Decode.choice source table

end SortDirection

structure SortedField where
  field : Field
  direction : SortDirection
  deriving DecidableEq, Repr

namespace SortedField

def ascending (f : Field) : SortedField := ⟨f.unqualified, .ascending⟩

def descending (f : Field) : SortedField := ⟨f.unqualified, .descending⟩

def toJson (key : SortedField) : Json :=
  .object [("field", key.field.toJson), ("direction", .string key.direction.name)]

def decode (source : Source) : Json → Decoded SortedField :=
  Record.decode source "struct SortedField"
    [("field", Record.check (Field.decode source)),
      ("direction", Record.check (SortDirection.decode source))]
    fun r => do
      return { field := ← r.required "field" (Field.decode source)
               direction := ← r.required "direction" (SortDirection.decode source) }

end SortedField

structure SortSpec where
  fields : List SortedField
  deriving DecidableEq, Repr

namespace SortSpec

def isEmpty (s : SortSpec) : Bool := s.fields.isEmpty

def members (s : SortSpec) : Members := [("fields", .array (s.fields.map SortedField.toJson))]

def toJson (s : SortSpec) : Json := .object s.members

def decode (source : Source) : Json → Decoded SortSpec :=
  Record.decode source "struct Sort"
    [("fields", Record.check (Decode.list (SortedField.decode source)))]
    fun r => do return ⟨← r.required "fields" (Decode.list (SortedField.decode source))⟩

end SortSpec
end DocQuery
