import DocQuery.Unicode.CaseFold
import DocQuery.Unicode.Digit
import DocQuery.Unicode.Blank
import DocQuery.Unicode.Word

/-!
# Sets of characters

`contains` says what a set means; `ranges` lists its code points.
-/
namespace DocQuery.Regex

open Unicode (Ranges)

inductive CharSet where
  | empty
  | range (first last : Nat)
  | wordChars
  | digits
  | blanks
  | compl (set : CharSet)
  | union (left right : CharSet)
  | inter (left right : CharSet)
  /-- The characters that differ from one of the set by case at most. -/
  | folded (set : CharSet)
  deriving DecidableEq, Repr

namespace CharSet

def contains : CharSet → Char → Bool
  | .empty, _ => false
  | .range first last, c => first ≤ c.toNat && c.toNat ≤ last
  | .wordChars, c => Unicode.isWord c
  | .digits, c => Unicode.isDigit c
  | .blanks, c => Unicode.isBlank c
  | .compl set, c => !set.contains c
  | .union a b, c => a.contains c || b.contains c
  | .inter a b, c => a.contains c && b.contains c
  | .folded set, c => (Unicode.caseVariants c).any set.contains

def ranges : CharSet → Ranges
  | .empty => []
  | .range first last => if first ≤ last then [(first, last)] else []
  | .wordChars => Unicode.wordRanges
  | .digits => Unicode.digitRanges
  | .blanks => Unicode.blankRanges
  | .compl set => set.ranges.compl
  | .union a b => a.ranges.union b.ranges
  | .inter a b => a.ranges.inter b.ranges
  | .folded set => set.ranges.folded

def single (c : Char) : CharSet := .range c.toNat c.toNat

def isSingle (set : CharSet) : Bool :=
  match set.ranges with
  | [(first, last)] => first == last
  | _ => false

def ofRanges (ranges : Ranges) : CharSet :=
  ranges.foldr (fun r set => .union (.range r.1 r.2) set) .empty

def diff (a b : CharSet) : CharSet := .inter a (.compl b)

def symmDiff (a b : CharSet) : CharSet := .union (diff a b) (diff b a)

end CharSet

end DocQuery.Regex
