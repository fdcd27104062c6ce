import DocQuery.Number.Basic

/-!
# JSON documents

Objects keep their members in insertion order, and no operation here gives an object two members
of one key. `Json.same` is the equality of documents: it ignores the order of members, and inside
arrays the order counts.
-/
namespace DocQuery

inductive Json where
  | null
  | bool (value : Bool)
  | number (value : Number)
  | string (value : String)
  | array (items : List Json)
  | object (members : List (String × Json))
  deriving Repr, Inhabited

/-- The members of an object, in insertion order. -/
abbrev Members := List (String × Json)

namespace Members

def set (key : String) (value : Json) : Members → Members
  | [] => [(key, value)]
  | (k, v) :: rest => if k = key then (k, value) :: rest else (k, v) :: set key value rest

/-- Removes a key and moves the last member into its place. -/
def swapRemove (key : String) : Members → Members
  | [] => []
  | (k, v) :: rest =>
    if k = key then
      match rest.getLast? with
      | none => []
      | some last => last :: rest.dropLast
    else (k, v) :: swapRemove key rest

def setAll (members : Members) (pairs : List (String × Json)) : Members :=
  pairs.foldl (fun acc p => set p.1 p.2 acc) members

/-- The members given by pairs in which a later one of the same key wins. -/
def ofPairs (pairs : List (String × Json)) : Members := setAll [] pairs

def contains (members : Members) (key : String) : Bool := members.any fun m => m.1 == key

end Members

namespace Json

mutual

def same : Json → Json → Bool
  | .null, .null => true
  | .bool a, .bool b => a == b
  | .number a, .number b => a.same b
  | .string a, .string b => a == b
  | .array xs, .array ys => sameItems xs ys
  | .object xs, .object ys => xs.length == ys.length && sameMembers xs ys
  | _, _ => false

def sameItems : List Json → List Json → Bool
  | [], [] => true
  | x :: xs, y :: ys => same x y && sameItems xs ys
  | _, _ => false

def sameMembers : List (String × Json) → List (String × Json) → Bool
  | [], _ => true
  | (k, v) :: rest, ys =>
    (match ys.lookup k with
      | some w => same v w
      | none => false) && sameMembers rest ys

end

instance : BEq Json := ⟨same⟩

def get? (key : String) : Json → Option Json
  | .object members => members.lookup key
  | _ => none

def asString? : Json → Option String
  | .string s => some s
  | _ => none

def asArray? : Json → Option (List Json)
  | .array items => some items
  | _ => none

def asObject? : Json → Option Members
  | .object members => some members
  | _ => none

/-- The value of an integer; a floating point number is not one, whatever its value. -/
def asInt? : Json → Option Int
  | .number (.int i) => some i
  | _ => none

def asUInt64? : Json → Option UInt64
  | .number n => n.toUInt64?
  | _ => none

def isNull : Json → Bool
  | .null => true
  | _ => false

def isArray : Json → Bool
  | .array _ => true
  | _ => false

def isBool : Json → Bool
  | .bool _ => true
  | _ => false

def isString : Json → Bool
  | .string _ => true
  | _ => false

def isObject : Json → Bool
  | .object _ => true
  | _ => false

def int (i : Int) : Json := .number (.int i)

def nat (n : Nat) : Json := .number (.int n)

def uint64 (n : UInt64) : Json := nat n.toNat

def strings (items : List String) : Json := .array (items.map .string)

def single (key : String) (value : Json) : Json := .object [(key, value)]

end Json
end DocQuery
