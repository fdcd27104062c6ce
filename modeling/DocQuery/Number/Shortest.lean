import DocQuery.Number.Double

/-!
# Shortest decimal digits

The decimal written for a double has the fewest digits that read back as that double, and among
those it is the nearest to the exact value, the even one of two. All arithmetic is exact: a
magnitude of `u` units is the integer `u * 5 ^ 1074` on the grid of `10 ^ -1074`.
-/
namespace DocQuery

/-- The value `digits * 10 ^ exponent`. -/
structure Decimal where
  digits : Nat
  exponent : Int
  deriving DecidableEq, Repr

namespace Double

/-- The finest decimal exponent that a double can need. -/
def finest : Nat := 1074

/-- Reals that round to a magnitude, in quarters of `10 ^ -1074`: the two ends and whether the
ends belong to it. -/
structure RoundingInterval where
  low : Nat
  value : Nat
  high : Nat
  closed : Bool

def roundingInterval (units : Nat) : RoundingInterval :=
  let scale := Nat.pow 5 finest
  let e := spacing units
  let half := (2 <<< e) * scale
  let below := if 0 < e ∧ units = 1 <<< units.log2 then half / 2 else half
  let value := 4 * units * scale
  ⟨value - below, value, value + half, (units >>> e) % 2 == 0⟩

def RoundingInterval.contains (i : RoundingInterval) (x : Nat) : Bool :=
  if i.closed then decide (i.low ≤ x ∧ x ≤ i.high) else decide (i.low < x ∧ x < i.high)

/-- The multiple of `10 ^ k` inside the interval that is nearest to its value. -/
def RoundingInterval.nearestMultiple? (i : RoundingInterval) (k : Nat) : Option Nat :=
  let grid := 4 * Nat.pow 10 k
  let down := i.value / grid
  let up := down + 1
  let toDown := i.value - down * grid
  let toUp := up * grid - i.value
  match i.contains (down * grid), i.contains (up * grid) with
  | false, false => none
  | true, false => some down
  | false, true => some up
  | true, true =>
    if toDown < toUp then some down
    else if toUp < toDown then some up
    else if down % 2 = 0 then some down
    else some up

def stripZeros (fuel : Nat) (d : Decimal) : Decimal :=
  match fuel with
  | 0 => d
  | n + 1 =>
    if d.digits ≠ 0 ∧ d.digits % 10 = 0 then stripZeros n ⟨d.digits / 10, d.exponent + 1⟩ else d

def maxDigits : Nat := 17

def shortest (units : Nat) : Decimal :=
  let interval := roundingInterval units
  let length := (units * Nat.pow 5 finest).repr.length
  let found := (List.range maxDigits).findSome? fun n =>
    let k := length - (n + 1)
    (interval.nearestMultiple? k).map fun c => Decimal.mk c ((k : Int) - (finest : Int))
  stripZeros maxDigits (found.getD ⟨units * Nat.pow 5 finest, -(finest : Int)⟩)

/-- Values from `10 ^ -5` up to below `10 ^ 16` are written positionally. -/
def positionalBelow : Int := 16

def positionalAbove : Int := -5

private def zeros (n : Nat) : String := String.ofList (List.replicate n '0')

def Decimal.text (d : Decimal) : String :=
  let digits := d.digits.repr
  let point : Int := digits.length + d.exponent
  if 0 ≤ d.exponent ∧ point ≤ positionalBelow then
    digits ++ zeros d.exponent.toNat ++ ".0"
  else if 0 < point ∧ point ≤ positionalBelow then
    let cs := digits.toList
    String.ofList (cs.take point.toNat) ++ "." ++ String.ofList (cs.drop point.toNat)
  else if positionalAbove < point ∧ point ≤ 0 then
    "0." ++ zeros (-point).toNat ++ digits
  else
    let cs := digits.toList
    let fraction := match cs.drop 1 with
      | [] => ""
      | more => "." ++ String.ofList more
    let e := point - 1
    String.ofList (cs.take 1) ++ fraction ++ "e" ++ (if e < 0 then "-" else "+") ++ e.natAbs.repr

def text (d : Double) : String :=
  let sign := if d.negative then "-" else ""
  if d.units = 0 then sign ++ "0.0" else sign ++ Decimal.text (shortest d.units)

end Double
end DocQuery
