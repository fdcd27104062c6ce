import DocQuery.Query.Expr

/-!
# Query expressions as documents

An expression has no tag of its own: it is a condition when it reads as one, else a conjunction.
Which of the two failed, and why, is not reported.
-/
namespace DocQuery

def ConditionKind.table : List (String × ConditionKind) :=
  ConditionKind.all.map fun k => (k.name, k)

def ConjunctionKind.table : List (String × ConjunctionKind) :=
  ConjunctionKind.all.map fun k => (k.name, k)

def ConditionKind.decode : Json → Decoded ConditionKind := Decode.choice .direct ConditionKind.table

def ConjunctionKind.decode : Json → Decoded ConjunctionKind :=
  Decode.choice .direct ConjunctionKind.table

namespace Operand

def toJson : Operand → Json
  | .literal v => .single "literal" v
  | .field f => .single "field" f.toJson

def decode (v : Json) : Decoded Operand := do
  match ← Decode.variant ["literal", "field"] v with
  | (_, none) => .error (.invalidType .bareVariant "newtype variant")
  | ("literal", some content) => return .literal content
  | (_, some content) => return .field (← Field.decode .direct content)

end Operand

namespace Condition

def toJson (c : Condition) : Json :=
  .object [("condition", .string c.kind.name), ("leftOperand", c.left.toJson),
    ("rightOperand", c.right.toJson)]

def decode : Json → Decoded Condition :=
  Record.decode .direct "struct Condition"
    [("condition", Record.check ConditionKind.decode),
      ("leftOperand", Record.check (Field.decode .direct)),
      ("rightOperand", Record.check Operand.decode)]
    fun r => do
      return { kind := ← r.required "condition" ConditionKind.decode
               left := ← r.required "leftOperand" (Field.decode .direct)
               right := ← r.required "rightOperand" Operand.decode }

end Condition

namespace Expr

mutual

def toJson : Expr → Json
  | .condition c => c.toJson
  | .conjunction kind values =>
    .object [("conjunction", .string kind.name), ("values", .array (toJsonAll values))]

def toJsonAll : List Expr → List Json
  | [] => []
  | e :: es => toJson e :: toJsonAll es

end

def conjunctionKind? : Json → Option ConjunctionKind
  | .object members => do (ConjunctionKind.decode (← members.lookup "conjunction")).toOption
  | .array [kind, _] => (ConjunctionKind.decode kind).toOption
  | _ => none

mutual

def read? (v : Json) : Option Expr :=
  match v, (Condition.decode v).toOption with
  | _, some c => some (.condition c)
  | .object members, none => do
    return .conjunction (← conjunctionKind? (.object members)) (← readMember? members)
  | .array [kind, .array items], none => do
    return .conjunction (← conjunctionKind? (.array [kind, .array items])) (← readAll? items)
  | _, none => none

/-- The values of a conjunction, found among its members. -/
def readMember? : List (String × Json) → Option (List Expr)
  | [] => none
  | (key, v) :: rest =>
    if key = "values" then
      match v with
      | .array items => readAll? items
      | _ => none
    else readMember? rest

def readAll? : List Json → Option (List Expr)
  | [] => some []
  | v :: rest => do return (← read? v) :: (← readAll? rest)

end

def decode (v : Json) : Decoded Expr :=
  match read? v with
  | some e => .ok e
  | none => .error (.noVariantMatches "Expr")

/-- A conjunction read as such, with its own errors. -/
def decodeConjunction : Json → Decoded Expr :=
  Record.decode .direct "struct Conjunction"
    [("conjunction", Record.check ConjunctionKind.decode),
      ("values", Record.check (Decode.list decode))]
    fun r => do
      return .conjunction (← r.required "conjunction" ConjunctionKind.decode)
        (← r.required "values" (Decode.list decode))

end Expr
end DocQuery
