import DocQuery.Eval.Expression

/-!
# Evaluating filters

A filter holds of a document if all its clauses do. Clauses are tried from left to right, and the
first that does not hold ends the evaluation, so a fault behind it goes unnoticed.
-/
namespace DocQuery.Eval

/-- Equality for the value of a field: a list also equals each of its items, and a missing value
equals `null`. -/
def equalsOrContains (actual : Option Json) (expected : Json) : Bool :=
  match actual with
  | none => expected.isNull
  | some v =>
    v == expected ||
      match v with
      | .array items => items.any fun item => item == expected
      | _ => false

/-- Range comparison for the value of a field: a list compares by its items, unless the bound is a
list itself. -/
def inRange (accept : Ordering → Bool) (actual : Option Json) (bound : Json) : Bool :=
  let accepts (v : Json) : Bool := (v.compare? bound).any accept
  match actual with
  | none => false
  | some (.array items) => if bound.isArray then accepts (.array items) else items.any accepts
  | some v => accepts v

def amongCandidates (actual : Option Json) : Json → Except CommandFault Bool
  | .array candidates => .ok (candidates.any (equalsOrContains actual))
  | _ => .error .candidatesNotList

variable [PatternEngine]

def fitsPattern (actual : Option Json) : Json → Except CommandFault Bool
  | .string pattern =>
    match actual with
    | some (.string text) => matchesPattern pattern text
    | _ => .ok false
  | _ => .error .patternNotString

def compares (kind : ConditionKind) (actual : Option Json) (operand : Json) :
    Except CommandFault Bool :=
  match kind with
  | .equals => .ok (equalsOrContains actual operand)
  | .notEquals => .ok !(equalsOrContains actual operand)
  | .greaterThan => .ok (inRange (· == .gt) actual operand)
  | .greaterThanOrEqual => .ok (inRange (· != .lt) actual operand)
  | .lessThan => .ok (inRange (· == .lt) actual operand)
  | .lessThanOrEqual => .ok (inRange (· != .gt) actual operand)
  | .contains => amongCandidates actual operand
  | .notContains => (amongCandidates actual operand).map (!·)
  | .exists => .ok (actual.isSome == operand.truthy)
  | .regex => fitsPattern actual operand

def comparesAll (actual : Option Json) : Members → Except CommandFault Bool
  | [] => .ok true
  | (operator, operand) :: rest =>
    match ConditionKind.ofOperator? operator with
    | none => .error (.unknownOperator operator)
    | some kind => do
      if ← compares kind actual operand then comparesAll actual rest else return false

/-- A condition on the value of a field: comparisons, or a value that it equals. -/
def fieldSatisfies (actual : Option Json) (condition : Json) : Except CommandFault Bool :=
  match condition with
  | .object operators =>
    if isOperatorDocument condition then comparesAll actual operators
    else .ok (equalsOrContains actual condition)
  | _ => .ok (equalsOrContains actual condition)

def satisfiesLeaf (document : Json) (key : String) (operand : Json) : Except CommandFault Bool :=
  if key = "$expr" then (evaluate document operand).map Json.truthy
  else if Native.startsWithDollar key then .error (.unknownTopLevel key)
  else fieldSatisfies (document.resolve key) operand

mutual

def satisfies (document : Json) : Json → Except CommandFault Bool
  | .object clauses => satisfiesClauses document clauses
  | filter => .error (.filterNotDocument filter)

def satisfiesClauses (document : Json) : List (String × Json) → Except CommandFault Bool
  | [] => .ok true
  | (key, operand) :: rest => do
    let holds ← match ConjunctionKind.ofOperator? key with
      | some kind => satisfiesBranches document kind operand
      | none => satisfiesLeaf document key operand
    if holds then satisfiesClauses document rest else return false

def satisfiesBranches (document : Json) (kind : ConjunctionKind) : Json → Except CommandFault Bool
  | .array branches =>
    match kind with
    | .and => satisfiesAll document branches
    | .or => satisfiesAny document branches
    | .not => (satisfiesAny document branches).map (!·)
  | _ => .error .branchesNotList

def satisfiesAll (document : Json) : List Json → Except CommandFault Bool
  | [] => .ok true
  | branch :: rest => do
    if ← satisfies document branch then satisfiesAll document rest else return false

def satisfiesAny (document : Json) : List Json → Except CommandFault Bool
  | [] => .ok false
  | branch :: rest => do
    if ← satisfies document branch then return true else satisfiesAny document rest

end

end DocQuery.Eval
