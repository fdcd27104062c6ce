import DocQuery.Regex.CharSet

/-!
# Patterns

A pattern is built from tests on single positions of a text. The builders `seq`, `choice` and
`times` leave out what can never matter, such as a repetition of what spans no character.
-/
namespace DocQuery.Regex

/-- A condition on a position. Word characters are those of the given set. -/
inductive Anchor where
  | textStart
  | textEnd
  | lineStart
  | lineEnd
  /-- Line ends of one or two characters, `\r`, `\n` or `\r\n`. -/
  | lineStartCr
  | lineEndCr
  | wordEdge (word : CharSet)
  | notWordEdge (word : CharSet)
  | wordStart (word : CharSet)
  | wordEnd (word : CharSet)
  | wordStartHalf (word : CharSet)
  | wordEndHalf (word : CharSet)
  deriving DecidableEq, Repr

namespace Anchor

def holds (text : Array Char) (i : Nat) (a : Anchor) : Bool :=
  let before : Option Char := if i = 0 then none else text[i - 1]?
  let after : Option Char := text[i]?
  let isIn (set : CharSet) (c : Option Char) : Bool := c.any set.contains
  match a with
  | .textStart => before.isNone
  | .textEnd => after.isNone
  | .lineStart => before.isNone || before == some '\n'
  | .lineEnd => after.isNone || after == some '\n'
  | .lineStartCr =>
    before.isNone || before == some '\n' || (before == some '\r' && after != some '\n')
  | .lineEndCr =>
    after.isNone || after == some '\r' || (after == some '\n' && before != some '\r')
  | .wordEdge word => isIn word before != isIn word after
  | .notWordEdge word => isIn word before == isIn word after
  | .wordStart word => !isIn word before && isIn word after
  | .wordEnd word => isIn word before && !isIn word after
  | .wordStartHalf word => !isIn word before
  | .wordEndHalf word => !isIn word after

end Anchor

inductive Test where
  | char (set : CharSet)
  | anchor (a : Anchor)
  deriving DecidableEq, Repr

/-- A pattern over tests of any kind. -/
inductive PatternOf (α : Type) where
  | empty
  | test (t : α)
  /-- A group whose span is of interest; it spans what the inner pattern spans. -/
  | group (p : PatternOf α)
  | seq (first second : PatternOf α)
  | alt (left right : PatternOf α)
  /-- At least `min` times, and at most `max` times if there is a bound. -/
  | repeat (p : PatternOf α) (min : Nat) (max : Option Nat)
  deriving DecidableEq, Repr

abbrev Pattern := PatternOf Test

namespace PatternOf

variable {α β : Type}

def map (f : α → β) : PatternOf α → PatternOf β
  | .empty => .empty
  | .test t => .test (f t)
  | .group p => .group (p.map f)
  | .seq p q => .seq (p.map f) (q.map f)
  | .alt p q => .alt (p.map f) (q.map f)
  | .repeat p min max => .repeat (p.map f) min max

def andThen : PatternOf α → PatternOf α → PatternOf α
  | .empty, q => q
  | p, .empty => p
  | p, q => .seq p q

def branches : PatternOf α → List (PatternOf α)
  | .alt p q => p.branches ++ q.branches
  | p => [p]

def oneOf : List (PatternOf α) → PatternOf α
  | [] => .empty
  | [p] => p
  | p :: ps => .alt p (oneOf ps)

end PatternOf

namespace Pattern

def char (set : CharSet) : Pattern := .test (.char set)

def anchor (a : Anchor) : Pattern := .test (.anchor a)

def isWidthless : Pattern → Bool
  | .empty => true
  | .test (.char _) => false
  | .test (.anchor _) => true
  | .group p => isWidthless p
  | .seq p q => isWidthless p && isWidthless q
  | .alt p q => isWidthless p && isWidthless q
  | .repeat _ _ _ => false

/-- A repetition. What spans no character is as good once as many times. -/
def times (p : Pattern) (min : Nat) (max : Option Nat) : Pattern :=
  let (min, max) :=
    if isWidthless p then (Nat.min min 1, some ((max.getD 1).min 1)) else (min, max)
  if max = some 0 then .empty
  else if min = 1 ∧ max = some 1 then p
  else .repeat p min max

def charSet? : Pattern → Option CharSet
  | .test (.char set) => some set
  | _ => none

def choice (patterns : List Pattern) : Pattern :=
  let leaves := patterns.flatMap PatternOf.branches
  match leaves.mapM charSet? with
  | some (set :: sets) =>
    let isUniform := sets.all fun s => s.isSingle == set.isSingle
    if isUniform then char (sets.foldl CharSet.union set) else .oneOf leaves
  | _ => .oneOf leaves

end Pattern

end DocQuery.Regex
