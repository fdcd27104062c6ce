import DocQuery.Hex
import DocQuery.Json

/-!
# Native document identifiers

An identifier has twelve bytes. Its text has two hexadecimal digits for each byte, in lower case
when written and in either case when read, and its wire form is `{"$oid": text}`.
-/
namespace DocQuery

structure ObjectId where
  bytes : List UInt8
  length_eq : bytes.length = 12
  deriving DecidableEq

namespace ObjectId

def wireKey : String := "$oid"

/-- The bytes written by pairs of digits. -/
def bytesOfHex? : List Char → Option (List UInt8)
  | [] => some []
  | [_] => none
  | a :: b :: rest => do
    return UInt8.ofNat ((← Hex.digit? a) * 16 + (← Hex.digit? b)) :: (← bytesOfHex? rest)

def parse? (text : String) : Option ObjectId := do
  let bytes ← bytesOfHex? text.toList
  if h : bytes.length = 12 then some ⟨bytes, h⟩ else none

def hex (id : ObjectId) : String := String.ofList (id.bytes.flatMap Hex.ofByte)

def toWire (id : ObjectId) : Json := .single wireKey (.string id.hex)

def ofWire? : Json → Option ObjectId
  | .object [(key, .string text)] => if key = wireKey then parse? text else none
  | _ => none

/-- Identifiers are ordered by their bytes, the first byte first. -/
def order (a b : ObjectId) : Ordering := compare (a.bytes.map UInt8.toNat) (b.bytes.map UInt8.toNat)

/-- The identifier with a number in its bytes, the most significant byte first. -/
def ofNat (n : Nat) : ObjectId :=
  ⟨(List.range 12).map fun i => UInt8.ofNat (n >>> (8 * (11 - i))), by simp⟩

end ObjectId
end DocQuery
