import DocQuery.Eval.Filter

/-!
# Lists of stored documents

What an engine does to the documents of one collection. A filter is tried on every document before
anything is done, so a filter that fails on any document changes nothing.
-/
namespace DocQuery.Documents

variable [PatternEngine]

def marked (filter : Json) (documents : List Json) : Except CommandFault (List (Json × Bool)) :=
  documents.mapM fun d => return (d, ← Eval.satisfies d filter)

def chosen (documents : List (Json × Bool)) : List Json :=
  (documents.filter Prod.snd).map Prod.fst

def select (filter : Json) (documents : List Json) : Except CommandFault (List Json) :=
  (marked filter documents).map chosen

structure SortKey where
  path : String
  descending : Bool
  deriving DecidableEq, Repr

namespace SortKey

def ofMember : String × Json → Except CommandFault SortKey
  | (path, direction) =>
    match direction.asInt? with
    | some 1 => .ok ⟨path, false⟩
    | some (-1) => .ok ⟨path, true⟩
    | _ => .error (.sortDirection path)

def order (key : SortKey) (a b : Json) : Ordering :=
  let o := Json.sortOrder (a.resolve key.path) (b.resolve key.path)
  if key.descending then o.swap else o

/-- The order by the first key that tells two documents apart. -/
def orderAll (keys : List SortKey) (a b : Json) : Ordering :=
  keys.foldr (fun key rest => (key.order a b).then rest) .eq

end SortKey

def sortKeys : Json → Except CommandFault (List SortKey)
  | .object members => members.mapM SortKey.ofMember
  | _ => .error .sortNotDocument

def sort (spec : Json) (documents : List Json) : Except CommandFault (List Json) := do
  let keys ← sortKeys spec
  return documents.mergeSort fun a b => SortKey.orderAll keys a b != .gt

def changeFirst (change : Json → Json) : List (Json × Bool) → List Json
  | [] => []
  | (d, true) :: rest => change d :: rest.map Prod.fst
  | (d, false) :: rest => d :: changeFirst change rest

def takeId (replacement old : Json) : Json :=
  match replacement, old.get? internalId with
  | .object members, some id => .object (Members.set internalId id members)
  | replacement, _ => replacement

/-- Applies the operators of an update in turn, up to the first that fails. -/
def applyOperators (target : Members) : Members → Members × Except CommandFault Unit
  | [] => (target, .ok ())
  | (operator, .object fields) :: rest =>
    if operator = "$set" then applyOperators (target.setAll fields) rest
    else if operator = "$unset" then
      applyOperators (fields.foldl (fun acc m => Members.swapRemove m.1 acc) target) rest
    else (target, .error (.unsupportedUpdate operator))
  | (operator, _) :: _ => (target, .error (.updateArgument operator))

/-- An update of one document. What was applied before a failure stays. -/
def updated (operators : Members) : Json → Json × Except CommandFault Unit
  | .object target =>
    let (target, result) := applyOperators target operators
    (.object target, result)
  | document => (document, .error .storedNotObject)

def positions (documents : List (Json × Bool)) : List Nat :=
  (documents.zipIdx.filter fun m => m.1.2).map Prod.snd

/-- Removes the documents at ascending positions. The last one goes first, since a removal moves
everything behind it. -/
def removeAt (positions : List Nat) (documents : List Json) : List Json :=
  positions.foldr (fun position rest => rest.eraseIdx position) documents

/-- The documents left when those marked are deleted, or only the first of them. -/
def remaining (many : Bool) (documents : List (Json × Bool)) : List Json :=
  let found := positions documents
  removeAt (if many then found else found.take 1) (documents.map Prod.fst)

end DocQuery.Documents
