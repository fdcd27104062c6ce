import DocQuery.Eval.Expression

/-!
# The meaning of query expressions

What an expression says of a document, read off the expression itself and not off the filter that
it compiles to. Conditions look at values; conjunctions are tried from left to right, and the first
child that settles one ends it, so a fault behind that child goes unnoticed.
-/
namespace DocQuery

namespace Json

/-- The values that a stored value counts as: itself and, if it is a list, each of its items. -/
def alternatives : Json → List Json
  | .array items => .array items :: items
  | v => [v]

def items : Json → List Json
  | .array items => items
  | _ => []

def present (x : Option Json) : Json := x.getD .null

end Json

/-- A value that can be ordered, under the bracket of its type. -/
inductive Scalar where
  | null
  | number (value : Number)
  | string (value : String)
  | bool (value : Bool)
  | id (value : ObjectId)

namespace Scalar

/-- The scalar that a value is: lists are none, and of the objects only native identifiers are. -/
def ofJson? : Json → Option Scalar
  | .null => some .null
  | .number n => some (.number n)
  | .string s => some (.string s)
  | .bool b => some (.bool b)
  | .object members => (ObjectId.ofWire? (.object members)).map .id
  | .array _ => none

/-- The order within one bracket; two brackets are not compared. -/
def order? : Scalar → Scalar → Option Ordering
  | .null, .null => some .eq
  | .number a, .number b => some (a.order b)
  | .string a, .string b => some (compare a b)
  | .bool a, .bool b => some (compare a b)
  | .id a, .id b => some (a.order b)
  | _, _ => none

end Scalar

def Json.related (relation : Ordering → Bool) (x v : Json) : Bool :=
  match Scalar.ofJson? x, Scalar.ofJson? v with
  | some a, some b => (a.order? b).any relation
  | _, _ => false

/-- Whether the value of a field equals a literal: as it is, or by an item. A missing value equals
`null`. -/
def equalTo (x : Option Json) (v : Json) : Bool :=
  match x with
  | none => v.isNull
  | some x => x.alternatives.any fun y => y == v

theorem equalTo_string (s t : String) : equalTo (some (.string s)) (.string t) = (s == t) := by
  simp [equalTo, Json.alternatives, BEq.beq, Json.same]

/-- Whether the value of a field is there and stands in a relation to a literal, as it is or by an
item. -/
def relatedTo (relation : Ordering → Bool) (x : Option Json) (v : Json) : Bool :=
  match x with
  | none => false
  | some x => x.alternatives.any fun y => y.related relation v

variable [PatternEngine]

theorem Eval.matchesPattern_start [LawfulPatternEngine] {beginning : String}
    (hplain : PatternEngine.Plain beginning.toList)
    (haccepts : PatternEngine.Accepts ("^" ++ beginning)) (text : String) :
    matchesPattern ("^" ++ beginning) text = .ok (beginning.toList.isPrefixOf text.toList) := by
  obtain ⟨test, htest⟩ := haccepts
  rw [matchesPattern, htest]
  exact congrArg Except.ok (LawfulPatternEngine.test_start hplain htest text)

namespace ConditionKind

def relation (kind : ConditionKind) (o : Ordering) : Bool :=
  match kind with
  | .greaterThan => o.isGT
  | .greaterThanOrEqual => o.isGE
  | .lessThan => o.isLT
  | .lessThanOrEqual => o.isLE
  | _ => false

/-- What a condition says of the value of its field and a literal. -/
def holdsOfLiteral (kind : ConditionKind) (x : Option Json) (v : Json) :
    Except CommandFault Bool :=
  match kind with
  | .equals => .ok (equalTo x v)
  | .notEquals => .ok !(equalTo x v)
  | .greaterThan | .greaterThanOrEqual | .lessThan | .lessThanOrEqual =>
    .ok (relatedTo kind.relation x v)
  | .contains => .ok (v.items.any (equalTo x))
  | .notContains => .ok !(v.items.any (equalTo x))
  | .exists =>
    match v with
    | .bool b => .ok (x.isSome == b)
    | _ => .ok false
  | .regex =>
    match x, v with
    | some (.string text), .string pattern => Eval.matchesPattern pattern text
    | _, _ => .ok false

def listed (x y : Json) : Except CommandFault Bool :=
  match y with
  | .array items => .ok (items.any fun item => item == x)
  | _ => .error .haystackNotList

/-- What a condition says of the values of two fields. Ranges go by the order of a sort. -/
def holdsOfFields (kind : ConditionKind) (x y : Json) : Except CommandFault Bool :=
  match kind with
  | .equals => .ok (x == y)
  | .notEquals => .ok (x != y)
  | .greaterThan | .greaterThanOrEqual | .lessThan | .lessThanOrEqual =>
    .ok (kind.relation (Json.sortOrder x y))
  | .contains => listed x y
  | .notContains => (listed x y).map (!·)
  | .exists => .ok false
  | .regex =>
    match x, y with
    | .string text, .string pattern => Eval.matchesPattern pattern text
    | _, _ => .ok false

end ConditionKind

/-- The literal of a condition: one compared with the internal identifier is read as the text of a
native identifier, wherever it is one. -/
def Condition.reading (c : Condition) (v : Json) : Json :=
  if c.left.name = internalId ∧ c.kind ≠ .exists ∧ c.kind ≠ .regex then Native.coerceIds v else v

def Condition.holds (d : Json) (c : Condition) : Except CommandFault Bool :=
  let x := d.resolve c.left.name
  match c.right with
  | .literal v => c.kind.holdsOfLiteral x (c.reading v)
  | .field f => c.kind.holdsOfFields (Json.present x) (Json.present (d.resolve f.name))

namespace Expr

mutual

def holds (d : Json) : Expr → Except CommandFault Bool
  | .condition c => c.holds d
  | .conjunction .and es => allHold d es
  | .conjunction .or es => anyHolds d es
  | .conjunction .not es => (anyHolds d es).map (!·)

def allHold (d : Json) : List Expr → Except CommandFault Bool
  | [] => .ok true
  | e :: es => do if ← holds d e then allHold d es else return false

def anyHolds (d : Json) : List Expr → Except CommandFault Bool
  | [] => .ok false
  | e :: es => do if ← holds d e then return true else anyHolds d es

end

def fieldNames (e : Expr) : List String :=
  e.leaves.flatMap fun c => c.left.name :: match c.right with
    | .field f => [f.name]
    | .literal _ => []

end Expr
end DocQuery
