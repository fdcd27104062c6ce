import DocQuery.Error
import DocQuery.Eval.Order
import DocQuery.Eval.Path
import DocQuery.Eval.Pattern
import DocQuery.Native.Filter

/-!
# Evaluating expressions

An expression computes a value from a document. A string that starts with a dollar sign is a path
and an object of one operator applies it; every other value stands for itself. The operator of an
expression is looked up before its arguments are evaluated.
-/
namespace DocQuery.Eval

def matchesPattern [PatternEngine] (pattern text : String) : Except CommandFault Bool :=
  match PatternEngine.compile pattern with
  | .ok test => .ok (test text)
  | .error reason => .error (.invalidRegex reason)

inductive ListOperator where
  | eq
  | ne
  | gt
  | gte
  | lt
  | lte
  | isIn
  | and
  | or
  | not
  | ifNull
  deriving DecidableEq, Repr

namespace ListOperator

def all : List ListOperator := [.eq, .ne, .gt, .gte, .lt, .lte, .isIn, .and, .or, .not, .ifNull]

def name : ListOperator → String
  | .eq => "$eq"
  | .ne => "$ne"
  | .gt => "$gt"
  | .gte => "$gte"
  | .lt => "$lt"
  | .lte => "$lte"
  | .isIn => "$in"
  | .and => "$and"
  | .or => "$or"
  | .not => "$not"
  | .ifNull => "$ifNull"

def ofName? (name : String) : Option ListOperator := all.find? fun op => op.name == name

def onPair (test : Json → Json → Except CommandFault Bool) : List Json → Except CommandFault Json
  | [left, right] => (test left right).map .bool
  | _ => .error .argumentsNotPair

def ordered (accept : Ordering → Bool) : List Json → Except CommandFault Json :=
  onPair fun left right => .ok (accept (Json.sortOrder (some left) (some right)))

def apply : ListOperator → List Json → Except CommandFault Json
  | .eq, args => onPair (fun left right => .ok (left == right)) args
  | .ne, args => onPair (fun left right => .ok (left != right)) args
  | .gt, args => ordered (· == .gt) args
  | .gte, args => ordered (· != .lt) args
  | .lt, args => ordered (· == .lt) args
  | .lte, args => ordered (· != .gt) args
  | .isIn, args =>
    onPair (fun needle haystack =>
      match haystack with
      | .array items => .ok (items.any fun item => item == needle)
      | _ => .error .haystackNotList) args
  | .and, args => .ok (.bool (args.all Json.truthy))
  | .or, args => .ok (.bool (args.any Json.truthy))
  | .not, args => .ok (.bool (!(args.head?.map Json.truthy).getD false))
  | .ifNull, args =>
    .ok (((args.find? fun v => !v.isNull).or args.getLast?).getD .null)

end ListOperator

/-- True for a document of operators: it has members, their keys start with a dollar sign, and it
is not the wire form of an identifier. -/
def isOperatorDocument : Json → Bool
  | .object members =>
    !members.isEmpty && members.all (fun m => Native.startsWithDollar m.1) &&
      (ObjectId.ofWire? (.object members)).isNone
  | _ => false

/-- The value of a string: a path is resolved, and no variable is bound. -/
def evaluateString (document : Json) (s : String) : Except CommandFault Json :=
  match s.toList with
  | '$' :: '$' :: _ => .error (.unboundVariable s)
  | '$' :: path => .ok ((document.resolve (String.ofList path)).getD .null)
  | _ => .ok (.string s)

variable [PatternEngine]

mutual

def evaluate (document : Json) : Json → Except CommandFault Json
  | .string s => evaluateString document s
  | .array items => do return .array (← evaluateAll document items)
  | .object [(operator, operand)] =>
    if isOperatorDocument (.object [(operator, operand)]) then
      if operator = "$literal" then .ok operand
      else if operator = "$regexMatch" then do
        let input ← evaluateMember document "input" operand
        let pattern ← evaluateMember document "regex" operand
        match input, pattern with
        | .string text, .string pattern => (matchesPattern pattern text).map .bool
        | _, _ => return .bool false
      else
        match ListOperator.ofName? operator with
        | some op => do op.apply (← evaluateArguments document operand)
        | none => .error (.unsupportedExpression operator)
    else .ok (.object [(operator, operand)])
  | v => .ok v

def evaluateAll (document : Json) : List Json → Except CommandFault (List Json)
  | [] => .ok []
  | v :: rest => do return (← evaluate document v) :: (← evaluateAll document rest)

def evaluateArguments (document : Json) : Json → Except CommandFault (List Json)
  | .array items => evaluateAll document items
  | _ => .error .argumentsNotList

/-- The value of a named argument; an absent one is `null`. -/
def evaluateMember (document : Json) (key : String) : Json → Except CommandFault Json
  | .object members => evaluateFirst document key members
  | _ => .ok .null

def evaluateFirst (document : Json) (key : String) :
    List (String × Json) → Except CommandFault Json
  | [] => .ok .null
  | (k, v) :: rest => if k = key then evaluate document v else evaluateFirst document key rest

end

end DocQuery.Eval
