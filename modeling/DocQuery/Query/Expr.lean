import DocQuery.Query.Field

/-!
# Query expressions

A condition compares a field with a literal or with another field; a conjunction joins conditions
and conjunctions by AND, OR or NOT. Conditions are built by the methods of `Field`, which drop the
source of the field on the left.
-/
namespace DocQuery

inductive ConditionKind where
  | equals
  | greaterThan
  | greaterThanOrEqual
  | lessThan
  | lessThanOrEqual
  | notEquals
  | contains
  | notContains
  | exists
  | regex
  deriving DecidableEq, Repr

namespace ConditionKind

def all : List ConditionKind :=
  [.equals, .greaterThan, .greaterThanOrEqual, .lessThan, .lessThanOrEqual, .notEquals, .contains,
    .notContains, .exists, .regex]

def name : ConditionKind → String
  | .equals => "EQUALS"
  | .greaterThan => "GREATER_THAN"
  | .greaterThanOrEqual => "GREATER_THAN_OR_EQUAL"
  | .lessThan => "LESS_THAN"
  | .lessThanOrEqual => "LESS_THAN_OR_EQUAL"
  | .notEquals => "NOT_EQUALS"
  | .contains => "CONTAINS"
  | .notContains => "NOT_CONTAINS"
  | .exists => "EXISTS"
  | .regex => "REGEX"

/-- Comparisons by order rather than by equality. -/
def isRange : ConditionKind → Bool
  | .greaterThan | .greaterThanOrEqual | .lessThan | .lessThanOrEqual => true
  | _ => false

end ConditionKind

inductive ConjunctionKind where
  | and
  | or
  | not
  deriving DecidableEq, Repr

namespace ConjunctionKind

def all : List ConjunctionKind := [.and, .or, .not]

def name : ConjunctionKind → String
  | .and => "AND"
  | .or => "OR"
  | .not => "NOT"

end ConjunctionKind

inductive Operand where
  | literal (value : Json)
  | field (field : Field)
  deriving Repr

namespace Operand

def isField : Operand → Bool
  | .field _ => true
  | .literal _ => false

def asLiteral? : Operand → Option Json
  | .literal v => some v
  | .field _ => none

end Operand

structure Condition where
  kind : ConditionKind
  left : Field
  right : Operand
  deriving Repr

def Condition.comparesFields (c : Condition) : Bool := c.right.isField

inductive Expr where
  | condition (c : Condition)
  | conjunction (kind : ConjunctionKind) (values : List Expr)
  deriving Repr

namespace Expr

def isEmpty : Expr → Bool
  | .conjunction _ [] => true
  | _ => false

mutual

def leaves : Expr → List Condition
  | .condition c => [c]
  | .conjunction _ values => leavesAll values

def leavesAll : List Expr → List Condition
  | [] => []
  | e :: es => leaves e ++ leavesAll es

end

def and (values : List Expr) : Expr := .conjunction .and values

def or (values : List Expr) : Expr := .conjunction .or values

def not (values : List Expr) : Expr := .conjunction .not values

end Expr

namespace Field

def condition (kind : ConditionKind) (f : Field) (right : Operand) : Expr :=
  .condition ⟨kind, f.unqualified, right⟩

def equals (f : Field) (right : Operand) : Expr := f.condition .equals right

def greaterThan (f : Field) (right : Operand) : Expr := f.condition .greaterThan right

def greaterThanOrEqual (f : Field) (right : Operand) : Expr := f.condition .greaterThanOrEqual right

def lessThan (f : Field) (right : Operand) : Expr := f.condition .lessThan right

def lessThanOrEqual (f : Field) (right : Operand) : Expr := f.condition .lessThanOrEqual right

def notEqual (f : Field) (right : Operand) : Expr := f.condition .notEquals right

def contains (f : Field) (values : Operand) : Expr := f.condition .contains values

def notContains (f : Field) (values : Operand) : Expr := f.condition .notContains values

def regex (f : Field) (pattern : Operand) : Expr := f.condition .regex pattern

def present (f : Field) : Expr := f.condition .exists (.literal (.bool true))

def absent (f : Field) : Expr := f.condition .exists (.literal (.bool false))

end Field
end DocQuery
