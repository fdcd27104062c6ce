import DocQuery.Native.Filter

/-!
# Conditions on array elements

Inside a computed array field every field is a property of the current element, and conditions
are expressions. An EXISTS condition compares the property, or `null` where it is missing, with
`null`, so a property that is `null` counts as missing.
-/
namespace DocQuery

def Field.elementPath (f : Field) : String := "$$this." ++ f.name

namespace Native

mutual

/-- A literal as an expression: what would be read as a path or an operator is quoted. -/
def quoted : Json → Json
  | .string s => if startsWithDollar s then .single "$literal" (.string s) else .string s
  | .array items => .array (quotedAll items)
  | .object members =>
    if members.any fun m => startsWithDollar m.1 then .single "$literal" (.object members)
    else .object (quotedMembers members)
  | v => v

def quotedAll : List Json → List Json
  | [] => []
  | v :: rest => quoted v :: quotedAll rest

def quotedMembers : List (String × Json) → List (String × Json)
  | [] => []
  | (k, v) :: rest => (k, quoted v) :: quotedMembers rest

end

def pair (operator : String) (left right : Json) : Json := .single operator (.array [left, right])

def elementOperand : Operand → Json
  | .field f => .string f.elementPath
  | .literal v => quoted v

def elementCondition (c : Condition) : Except QueryError Json :=
  let left := Json.string c.left.elementPath
  let right := elementOperand c.right
  match c.kind with
  | .notContains => .ok (.single "$not" (.array [pair "$in" left right]))
  | .regex => .ok (.single "$regexMatch" (.object [("input", left), ("regex", right)]))
  | .exists =>
    match right with
    | .bool flag => .ok (pair (if flag then "$ne" else "$eq") (pair "$ifNull" left .null) .null)
    | _ => .error (.unsupportedCondition .exists .elementFilter)
  | kind => .ok (pair kind.operator left right)

mutual

def element : Expr → Except QueryError Json
  | .condition c => elementCondition c
  | .conjunction kind values => do
    let compiled := Json.array (← elements values)
    match kind with
    | .and => return .single "$and" compiled
    | .or => return .single "$or" compiled
    | .not => return .single "$not" (.array [.single "$or" compiled])

def elements : List Expr → Except QueryError (List Json)
  | [] => .ok []
  | e :: es => do return (← element e) :: (← elements es)

end

end Native
end DocQuery
