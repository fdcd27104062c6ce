/-!
# Sets of code points

A set is a list of disjoint ranges, both ends included, in increasing order. Two ranges that touch
are one range.
-/
namespace DocQuery.Unicode

abbrev Ranges := List (Nat × Nat)

namespace Ranges

def contains : Ranges → Nat → Bool
  | [], _ => false
  | (first, last) :: rest, n =>
    if n < first then false else if n ≤ last then true else contains rest n

def insert (first last : Nat) : Ranges → Ranges
  | [] => [(first, last)]
  | (a, b) :: rest =>
    if last + 1 < a then (first, last) :: (a, b) :: rest
    else if b + 1 < first then (a, b) :: insert first last rest
    else insert (min first a) (max last b) rest

def union (left right : Ranges) : Ranges :=
  right.foldl (fun set r => set.insert r.1 r.2) left

/-- The code points from `next` on that are not in the set. -/
def complFrom (next : Nat) : Ranges → Ranges
  | [] => if next ≤ 0x10FFFF then [(next, 0x10FFFF)] else []
  | (first, last) :: rest =>
    let others := complFrom (last + 1) rest
    if next < first then (next, first - 1) :: others else others

def compl (set : Ranges) : Ranges := complFrom 0 set

def inter (left right : Ranges) : Ranges := compl (union (compl left) (compl right))

end Ranges

end DocQuery.Unicode
