/-!
# Hexadecimal digits

Digits are read in either case and written in lower case.
-/
namespace DocQuery.Hex

def digit? (c : Char) : Option Nat :=
  if '0' ≤ c ∧ c ≤ '9' then some (c.toNat - 48)
  else if 'a' ≤ c ∧ c ≤ 'f' then some (c.toNat - 87)
  else if 'A' ≤ c ∧ c ≤ 'F' then some (c.toNat - 55)
  else none

/-- The number written by a list of digits, the most significant first. -/
def number? (digits : List Char) : Option Nat :=
  digits.foldlM (fun n c => (digit? c).map (n * 16 + ·)) 0

def ofByte (b : UInt8) : List Char := [Nat.digitChar (b.toNat / 16), Nat.digitChar (b.toNat % 16)]

end DocQuery.Hex
