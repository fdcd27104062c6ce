import DocQuery.Number.Shortest

/-!
# JSON numbers

A number is an integer or a finite double. The two kinds are different values, `1` and `1.0`
included; only range comparison brings both to doubles.
-/
namespace DocQuery

inductive Number where
  | int (value : Int)
  | float (value : Double)
  deriving DecidableEq, Repr

namespace Number

/-- The integers that JSON numbers hold: those of 64 bits, signed or unsigned. -/
def minInt : Int := -(1 <<< 63)

def maxInt : Int := (1 <<< 64) - 1

def toDouble : Number → Double
  | .int i => .ofInt i
  | .float x => x

/-- Equality of numbers: zero has two floating point forms, and they are equal. -/
def same : Number → Number → Bool
  | .int i, .int j => i == j
  | .float x, .float y => x.toInt == y.toInt
  | _, _ => false

/-- Range comparison, after conversion to doubles. -/
def order (a b : Number) : Ordering := compare a.toDouble.toInt b.toDouble.toInt

def isZero (n : Number) : Bool := n.toDouble.isZero

def toUInt64? : Number → Option UInt64
  | .int i => if 0 ≤ i ∧ i ≤ maxInt then some (UInt64.ofNat i.toNat) else none
  | .float _ => none

def text : Number → String
  | .int i => toString i
  | .float x => x.text

end Number
end DocQuery
