/-!
# Finite binary floating point values

A value is a sign and a magnitude counted in units of `2 ^ -1074`, the smallest positive double,
so that comparing two values is comparing two integers. Every operation rounds its exact rational
result once, to the nearest value with 53 significant bits, ties to even.
-/
namespace DocQuery

structure Double where
  negative : Bool
  units : Nat
  deriving DecidableEq, Repr

namespace Double

def precision : Nat := 53

def one : Nat := 1 <<< 1074

/-- The least magnitude that is no longer finite, that of `2 ^ 1024`. -/
def limit : Nat := 1 <<< 2098

/-- Values near a magnitude lie `2 ^ spacing` units apart. -/
def spacing (units : Nat) : Nat := units.log2 + 1 - precision

/-- The integer nearest to `num / den`, the even one of two. -/
def roundDiv (num den : Nat) : Nat :=
  let q := num / den
  let r := num % den
  if 2 * r < den then q
  else if den < 2 * r then q + 1
  else if q % 2 = 0 then q
  else q + 1

def roundUnits (num den : Nat) : Nat :=
  let e := spacing (num / den)
  roundDiv num (den <<< e) <<< e

def toInt (d : Double) : Int := if d.negative then -(d.units : Int) else d.units

def isZero (d : Double) : Bool := d.units == 0

def ofInt (i : Int) : Double := ⟨decide (i < 0), roundUnits (i.natAbs * one) 1⟩

/-- The magnitude of the double nearest to `10 ^ k`. -/
def powerOfTen (k : Nat) : Nat := roundUnits (Nat.pow 10 k * one) 1

def maxPowerOfTen : Nat := 308

def multiply (a b : Nat) : Nat := roundUnits (a * b) one

def divide (a b : Nat) : Nat := roundUnits (a * one) b

/-- `a / 10 ^ k`, dividing by one power of ten within range at a time. -/
def divideByPowerOfTen (a k : Nat) : Nat :=
  if k ≤ maxPowerOfTen then divide a (powerOfTen k)
  else if a = 0 then 0
  else divideByPowerOfTen (divide a (powerOfTen maxPowerOfTen)) (k - maxPowerOfTen)
termination_by k
decreasing_by simp [maxPowerOfTen] at *; omega

/-- `significand * 10 ^ exponent` read the way decimal literals are read here: the significand is
rounded first, then scaled by a rounded power of ten. `none` when the result is not finite. -/
def ofDecimal? (negative : Bool) (significand : Nat) (exponent : Int) : Option Double :=
  let s := roundUnits (significand * one) 1
  match exponent with
  | .negSucc k => some ⟨negative, divideByPowerOfTen s (k + 1)⟩
  | .ofNat k =>
    if k ≤ maxPowerOfTen then
      let u := multiply s (powerOfTen k)
      if u < limit then some ⟨negative, u⟩ else none
    else if s = 0 then some ⟨negative, 0⟩
    else none

end Double
end DocQuery
