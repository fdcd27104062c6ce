import DocQuery.Json

/-!
# Vector components

A component of an embedding vector is a double, which may fail to be finite. JSON has no number
for such a component and shows it as `null`.
-/
namespace DocQuery

inductive Component where
  | finite (value : Double)
  | notFinite
  deriving DecidableEq, Repr

namespace Component

def isFinite : Component → Bool
  | .finite _ => true
  | .notFinite => false

def toJson : Component → Json
  | .finite x => .number (.float x)
  | .notFinite => .null

def vectorToJson (vector : List Component) : Json := .array (vector.map toJson)

end Component
end DocQuery
