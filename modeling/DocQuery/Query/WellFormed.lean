import DocQuery.Query.Malformation

/-!
# Well-formed expressions

An expression is accepted when each of its conditions is: the fields are named, and a literal has
the shape that its comparison needs. The first condition that is not accepted is reported.
-/
namespace DocQuery

/-- Whether a literal has the shape that a comparison needs. -/
def ConditionKind.accepts (kind : ConditionKind) (literal : Json) : Bool :=
  match kind with
  | .contains | .notContains => literal.isArray
  | .exists => literal.isBool
  | .regex => literal.isString
  | .equals | .notEquals => true
  | .greaterThan | .greaterThanOrEqual | .lessThan | .lessThanOrEqual => !literal.isArray

def Condition.validate (c : Condition) : Except Malformation Unit :=
  if c.left.name.isEmpty then .error (.missingLeft c.kind)
  else
    match c.right with
    | .field f =>
      if f.name.isEmpty then .error (.unnamedRight c.kind c.left.name) else .ok ()
    | .literal v =>
      if c.kind.accepts v then .ok () else .error (.invalidOperand c.kind c.left.name v)

def Expr.validate (e : Expr) : Except Malformation Unit := e.leaves.forM Condition.validate

end DocQuery
