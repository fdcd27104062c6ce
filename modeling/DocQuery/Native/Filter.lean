import DocQuery.Error
import DocQuery.Query.SortSpec
import DocQuery.Query.WellFormed

/-!
# Native filters and sorts

A condition against a literal becomes `{field: {op: literal}}`, and one against another field an
expression over both paths. A literal compared with the internal identifier is embedded as a native
identifier when it is the text of one, inside lists too.
-/
namespace DocQuery

def ConditionKind.operator : ConditionKind → String
  | .equals => "$eq"
  | .greaterThan => "$gt"
  | .greaterThanOrEqual => "$gte"
  | .lessThan => "$lt"
  | .lessThanOrEqual => "$lte"
  | .notEquals => "$ne"
  | .contains => "$in"
  | .notContains => "$nin"
  | .exists => "$exists"
  | .regex => "$regex"

def ConjunctionKind.operator : ConjunctionKind → String
  | .and => "$and"
  | .or => "$or"
  | .not => "$nor"

def ConditionKind.ofOperator? (operator : String) : Option ConditionKind :=
  ConditionKind.all.find? fun kind => kind.operator == operator

def ConjunctionKind.ofOperator? (operator : String) : Option ConjunctionKind :=
  ConjunctionKind.all.find? fun kind => kind.operator == operator

namespace Native

/-- Operators and path expressions start with a dollar sign. -/
def startsWithDollar (s : String) : Bool := s.toList.head? == some '$'

mutual

/-- Texts of identifiers as native identifiers. -/
def coerceIds : Json → Json
  | .string s =>
    match ObjectId.parse? s with
    | some id => id.toWire
    | none => .string s
  | .array items => .array (coerceIdsAll items)
  | v => v

def coerceIdsAll : List Json → List Json
  | [] => []
  | v :: rest => coerceIds v :: coerceIdsAll rest

end

/-- The literal that a condition on a field compares with. -/
def filterLiteral (kind : ConditionKind) (left : Field) (literal : Json) : Json :=
  match kind with
  | .exists | .regex => literal
  | _ => if left.isId then coerceIds literal else literal

def fieldComparison (kind : ConditionKind) (left right : Field) : Except QueryError Json :=
  let paths := Json.strings [left.path, right.path]
  match kind with
  | .notContains => .ok (.single "$not" (.array [.single "$in" paths]))
  | .regex =>
    .ok (.single "$regexMatch"
      (.object [("input", .string left.path), ("regex", .string right.path)]))
  | .exists => .error (.unsupportedCondition .exists .fieldComparison)
  | kind => .ok (.single kind.operator paths)

def filterOfCondition (c : Condition) : Except QueryError Json :=
  match c.right with
  | .field right => (fieldComparison c.kind c.left right).map (.single "$expr")
  | .literal v =>
    .ok (.single c.left.name (.single c.kind.operator (filterLiteral c.kind c.left v)))

mutual

def filterOf : Expr → Except QueryError Json
  | .condition c => filterOfCondition c
  | .conjunction kind values => do
    return .single kind.operator (.array (← filtersOf values))

def filtersOf : List Expr → Except QueryError (List Json)
  | [] => .ok []
  | e :: es => do return (← filterOf e) :: (← filtersOf es)

end

def filter (e : Expr) : Except QueryError Json := do
  e.validate.mapError .malformed
  filterOf e

/-- The native sort document: a key named twice keeps its first place and its last direction. -/
def sort (s : SortSpec) : Json :=
  .object (Members.ofPairs (s.fields.map fun key => (key.field.name, .int key.direction.native)))

end Native
end DocQuery
