import DocQuery.Regex.Pattern

/-!
# Matching

A pattern matches a text when it spans some part of it. A set of positions is a number whose bits
are the positions, so that a test moves all of them at once. `ends` gives the positions that a
pattern reaches from a set of them; it recurses on the pattern alone, and a repetition ends as
soon as it reaches nothing new.
-/
namespace DocQuery.Regex

/-- The positions `0`, `1`, … of the list that are true. -/
def positions (marks : List Bool) : Nat := marks.foldr (fun b bits => 2 * bits + b.toNat) 0

/-- A test at work on a text: the positions where it holds, and whether it passes a character. -/
inductive Step where
  | move (holds : Nat)
  | stay (holds : Nat)

def Step.run : Step → Nat → Nat
  | .move holds, starts => (starts &&& holds) <<< 1
  | .stay holds, starts => starts &&& holds

def Test.on (text : Array Char) : Test → Step
  | .char set => .move (positions (text.toList.map set.contains))
  | .anchor a => .stay (positions ((List.range (text.size + 1)).map fun i => a.holds text i))

/-- The positions reached by at most `n` steps. -/
def reach (step : Nat → Nat) : Nat → Nat → Nat
  | 0, starts => starts
  | n + 1, starts =>
    let next := starts ||| step starts
    if next = starts then starts else reach step n next

/-- The positions reached by exactly `n` steps. -/
def advance (step : Nat → Nat) : Nat → Nat → Nat
  | 0, starts => starts
  | n + 1, starts =>
    let next := step starts
    if next = starts then starts else advance step n next

/-- The positions that a pattern reaches from a set of positions in a text of the given size. -/
def ends (size : Nat) : PatternOf Step → Nat → Nat
  | .empty, starts => starts
  | .test step, starts => step.run starts
  | .group p, starts => ends size p starts
  | .seq p q, starts => ends size q (ends size p starts)
  | .alt p q, starts => ends size p starts ||| ends size q starts
  | .repeat p min max, starts =>
    let after := advance (ends size p) min starts
    match max with
    | none => reach (ends size p) (size + 1) after
    | some m => reach (ends size p) (m - min) after

namespace PatternOf

variable {α : Type}

/-- A repetition; one of a repetition is a single one when no count in either is above one. -/
def loop (p : PatternOf α) (min : Nat) (max : Option Nat) : PatternOf α :=
  let isSmall (min : Nat) (max : Option Nat) : Bool := min ≤ 1 && max.all (· == 1)
  match p with
  | .repeat q least most =>
    if isSmall least most && isSmall min max then
      .repeat q (least * min) (if most.isNone then none else max)
    else .repeat p min max
  | _ => .repeat p min max

def flat : PatternOf α → PatternOf α
  | .empty => .empty
  | .test t => .test t
  | .group p => p.flat
  | .seq p q => .seq p.flat q.flat
  | .alt p q => .alt p.flat q.flat
  | .repeat p min max => p.flat.loop min max

end PatternOf

/-- Whether a pattern spans some part of a text. -/
def isMatch (p : Pattern) (text : String) : Bool :=
  let cs := text.toList.toArray
  ends cs.size (p.flat.map (Test.on cs)) ((1 <<< (cs.size + 1)) - 1) != 0

end DocQuery.Regex
