import DocQuery.Component

/-!
# Reading typed values from documents

A decoder turns a document into a value or says what is wrong with it. `Record` is the common part
of every record type: the members are checked in the order in which the document has them, so the
first bad one is reported, and after that the missing ones in the order of their declaration.
-/
namespace DocQuery

/-- What a decoder came upon instead of what it expected. -/
inductive Found where
  | null
  | bool (value : Bool)
  | number (value : Number)
  | string (value : String)
  | sequence
  | map
  | bareVariant
  deriving DecidableEq, Repr

namespace Found

def ofJson : Json → Found
  | .null => .null
  | .bool b => .bool b
  | .number n => .number n
  | .string s => .string s
  | .array _ => .sequence
  | .object _ => .map

end Found

/-- Why a document is not a value of the expected type. -/
inductive DecodeError where
  | missingField (name : String)
  | duplicateField (name : String)
  | unknownVariant (found : String) (expected : List String)
  | invalidType (found : Found) (expected : String)
  | invalidValue (found : Found) (expected : String)
  | invalidLength (length : Nat) (expected : String)
  | noVariantMatches (type : String)
  deriving DecidableEq, Repr

abbrev Decoded (α : Type) := Except DecodeError α

/-- Where the decoded part of a document is held: in the document itself, or in the part that was
set aside to look at its tag first. The two differ in a few error texts, and in that a part set
aside may give a variant by its index or an empty map for its missing content. -/
inductive Source where
  | direct
  | setAside
  deriving DecidableEq, Repr

namespace Decode

def mismatch (v : Json) (expected : String) : Decoded α :=
  .error (.invalidType (.ofJson v) expected)

def string : Json → Decoded String
  | .string s => .ok s
  | v => mismatch v "a string"

def bool : Json → Decoded Bool
  | .bool b => .ok b
  | v => mismatch v "a boolean"

def word (bits : Nat) : Json → Decoded Nat
  | .number (.int i) =>
    if 0 ≤ i ∧ i < 1 <<< bits then .ok i.toNat
    else .error (.invalidValue (.number (.int i)) ("u" ++ bits.repr))
  | v => mismatch v ("u" ++ bits.repr)

/-- An integer from `-2 ^ (bits - 1)` up to, but not with, `2 ^ (bits - 1)`. -/
def signed (bits : Nat) : Json → Decoded Int
  | .number (.int i) =>
    if -(1 <<< (bits - 1)) ≤ i ∧ i < 1 <<< (bits - 1) then .ok i
    else .error (.invalidValue (.number (.int i)) ("i" ++ bits.repr))
  | v => mismatch v ("i" ++ bits.repr)

def uint8 (v : Json) : Decoded UInt8 := (word 8 v).map UInt8.ofNat

def uint32 (v : Json) : Decoded UInt32 := (word 32 v).map UInt32.ofNat

def uint64 (v : Json) : Decoded UInt64 := (word 64 v).map UInt64.ofNat

def double : Json → Decoded Double
  | .number n => .ok n.toDouble
  | v => mismatch v "f64"

def component (v : Json) : Decoded Component := (double v).map .finite

def list (item : Json → Decoded α) : Json → Decoded (List α)
  | .array items => items.mapM item
  | v => mismatch v "a sequence"

def exactly (n : Nat) (item : Json → Decoded α) : Json → Decoded (List α)
  | .array items => do
    let values ← (items.take n).mapM item
    if items.length < n then
      .error (.invalidLength items.length ("an array of length " ++ n.repr))
    else if n < items.length then .error (.invalidLength items.length "fewer elements in array")
    else return values
  | v => mismatch v ("an array of length " ++ n.repr)

def optional (value : Json → Decoded α) : Json → Decoded (Option α)
  | .null => .ok none
  | v => (value v).map some

def variantName (names : List String) (name : String) : Decoded String :=
  if names.contains name then .ok name else .error (.unknownVariant name names)

/-- A variant and its content: a name alone, or a map from the name to the content. -/
def variant (names : List String) : Json → Decoded (String × Option Json)
  | .string name => (variantName names name).map fun n => (n, none)
  | .object [(name, content)] => (variantName names name).map fun n => (n, some content)
  | .object _ => .error (.invalidValue .map "map with a single key")
  | v => mismatch v "string or map"

def choice (source : Source) (table : List (String × α)) (v : Json) : Decoded α := do
  let (name, content) ← variant (table.map Prod.fst) v
  match content with
  | none | some .null => pure ()
  | some (.object []) =>
    if source = .direct then mismatch (.object []) "unit"
  | some w => mismatch w "unit"
  match table.lookup name with
  | some a => return a
  | none => .error (.unknownVariant name (table.map Prod.fst))

def tagName (source : Source) (names : List String) : Json → Decoded String
  | .string name => variantName names name
  | .number (.int i) =>
    match source, names[i.toNat]? with
    | .setAside, some name => if 0 ≤ i then .ok name else mismatch (.int i) "variant identifier"
    | .setAside, none =>
      .error (.invalidValue (.number (.int i)) ("variant index 0 <= i < " ++ names.length.repr))
    | .direct, _ => mismatch (.int i) "variant identifier"
  | v => mismatch v "variant identifier"

/-- A variant that names itself in the member `tag`, or in the first item of a list; its content
is the rest. -/
def tagged (source : Source) (tag type : String) (names : List String) :
    Json → Decoded (String × Json)
  | .object members =>
    match members.lookup tag with
    | none => .error (.missingField tag)
    | some t => (tagName source names t).map fun name =>
      (name, .object (members.filter fun m => m.1 != tag))
  | .array [] => .error (.missingField tag)
  | .array (t :: rest) => (tagName source names t).map fun name => (name, .array rest)
  | v => mismatch v type

end Decode

/-- The members of a record that its document has, whether by name or by position. -/
structure Record where
  type : String
  names : List String
  members : Members
  byPosition : Bool
  surplus : Nat

namespace Record

private def counted (n : Nat) (one many : String) : String :=
  n.repr ++ (if n = 1 then one else many)

def ofJson (type : String) (names : List String) : Json → Decoded Record
  | .object members =>
    .ok ⟨type, names, members.filter fun m => names.contains m.1, false, 0⟩
  | .array items =>
    .ok ⟨type, names, names.zip items, true, items.length - names.length⟩
  | v => Decode.mismatch v type

def absent (r : Record) (name : String) : DecodeError :=
  if r.byPosition then
    .invalidLength (r.names.idxOf name)
      (r.type ++ " with " ++ counted r.names.length " element" " elements")
  else .missingField name

def required (r : Record) (name : String) (value : Json → Decoded α) : Decoded α :=
  match r.members.lookup name with
  | some v => value v
  | none => .error (r.absent name)

def withDefault (r : Record) (name : String) (fallback : α) (value : Json → Decoded α) :
    Decoded α :=
  match r.members.lookup name with
  | some v => value v
  | none => .ok fallback

def optional (r : Record) (name : String) (value : Json → Decoded α) : Decoded (Option α) :=
  r.withDefault name none (Decode.optional value)

def checkSurplus (r : Record) (source : Source) : Decoded Unit :=
  if r.surplus = 0 then .ok ()
  else
    .error (.invalidLength (r.names.length + r.surplus) (match source with
      | .direct => "fewer elements in array"
      | .setAside => counted r.names.length " element in sequence" " elements in sequence"))

def check (value : Json → Decoded α) (v : Json) : Decoded Unit := (value v).map fun _ => ()

/-- The check of a member, if its record has one of its name. -/
def checkMember (fields : List (String × (Json → Decoded Unit))) (m : String × Json) :
    Decoded Unit :=
  match fields.lookup m.1 with
  | some check => check m.2
  | none => .ok ()

/-- Decodes a record of the members in `fields`, each with its check. -/
def decode (source : Source) (type : String) (fields : List (String × (Json → Decoded Unit)))
    (build : Record → Decoded α) (v : Json) : Decoded α := do
  let r ← ofJson type (fields.map Prod.fst) v
  r.members.forM (checkMember fields)
  let a ← build r
  r.checkSurplus source
  return a

end Record
end DocQuery
