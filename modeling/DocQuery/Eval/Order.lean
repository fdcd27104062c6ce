import DocQuery.ObjectId

/-!
# The order of documents

Range comparison relates values of one kind only. The order of a sort relates all values: by kind
first, and a missing value counts as `null`.
-/
namespace DocQuery.Json

/-- Comparison of two values of one kind: native identifiers, numbers, strings, truth values or
nulls. Lists and objects are not compared. -/
def compare? (a b : Json) : Option Ordering :=
  match ObjectId.ofWire? a, ObjectId.ofWire? b with
  | some a, some b => some (a.order b)
  | _, _ =>
    match a, b with
    | .null, .null => some .eq
    | .number a, .number b => some (a.order b)
    | .string a, .string b => some (compare a b)
    | .bool a, .bool b => some (compare a b)
    | _, _ => none

def rank : Option Json → Nat
  | none | some .null => 0
  | some (.number _) => 1
  | some (.string _) => 2
  | some (.object members) => if (ObjectId.ofWire? (.object members)).isSome then 5 else 3
  | some (.array _) => 4
  | some (.bool _) => 6

/-- The order of a sort. Values of one kind that are not compared count as equal. -/
def sortOrder (a b : Option Json) : Ordering :=
  (compare (rank a) (rank b)).then (match a, b with
    | some a, some b => (a.compare? b).getD .eq
    | _, _ => .eq)

def truthy : Json → Bool
  | .null => false
  | .bool b => b
  | .number n => !n.isZero
  | _ => true

end DocQuery.Json
