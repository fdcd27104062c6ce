import DocQuery.Regex.Pattern

/-!
# The size of a pattern

A pattern is weighed as an automaton that reads the bytes of a text, once in each direction. A
counted repetition stands for as many copies, so a short text may be a pattern too large to use.
-/
namespace DocQuery.Regex

open Unicode (Ranges)

inductive Direction where
  | forward
  | backward
  deriving DecidableEq, Repr

/-- The bytes of a state, of an edge out of a state with several edges, and of a link out of a
state that reads nothing. -/
def stateSize : Nat := 32

def edgeSize : Nat := 8

def linkSize : Nat := 4

def total (sizes : List Nat) : Nat := sizes.foldl (· + ·) 0

/-- A range of bytes for each byte of a character. -/
abbrev ByteRanges := List (Nat × Nat)

/-- The numbers from `first` to `last` as ranges of their digits in base 64, of which there are
`n` after the leading one. -/
def base64Ranges (n : Nat) (first last : Nat) : List ByteRanges :=
  match n with
  | 0 => [[(first, last)]]
  | n + 1 =>
    let unit := 1 <<< (6 * (n + 1))
    let a := first / unit
    let b := last / unit
    let withLead (lead : Nat) (tails : List ByteRanges) : List ByteRanges :=
      tails.map ((lead, lead) :: ·)
    if a = b then withLead a (base64Ranges n (first % unit) (last % unit))
    else
      let startsWhole : Bool := first % unit == 0
      let endsWhole : Bool := last % unit == unit - 1
      let front := if startsWhole then [] else withLead a (base64Ranges n (first % unit) (unit - 1))
      let back := if endsWhole then [] else withLead b (base64Ranges n 0 (last % unit))
      let a := if startsWhole then a else a + 1
      let b := if endsWhole then b else b - 1
      let middle : List ByteRanges :=
        if a ≤ b then [(a, b) :: List.replicate (n + 1) (0, 63)] else []
      front ++ middle ++ back

/-- The characters of each length: the first, the last, the digits after the leading one, and what
the leading byte adds to its digit. -/
def encodings : List (Nat × Nat × Nat × Nat) :=
  [(0, 0x7F, 0, 0), (0x80, 0x7FF, 1, 0xC0), (0x800, 0xD7FF, 2, 0xE0), (0xE000, 0xFFFF, 2, 0xE0),
   (0x10000, 0x10FFFF, 3, 0xF0)]

/-- The byte ranges that spell the characters of a set, in increasing order. -/
def byteRanges (set : Ranges) : List ByteRanges :=
  set.flatMap fun (first, last) =>
    encodings.flatMap fun (low, high, n, lead) =>
      let a := max first low
      let b := min last high
      if b < a then []
      else (base64Ranges n a b).map fun
        | [] => []
        | head :: tail => (head.1 + lead, head.2 + lead) :: tail

/-- What may follow each first range; neighbours with one first range are taken together. -/
def splitHeads (words : List ByteRanges) : List ((Nat × Nat) × List ByteRanges) :=
  words.foldr (fun word groups => match word, groups with
    | [], groups => groups
    | r :: rest, [] => [(r, [rest])]
    | r :: rest, (r', rests) :: groups =>
      if r = r' then (r, rest :: rests) :: groups else (r, [rest]) :: (r', rests) :: groups) []

/-- The nodes, other than the leaves, of the tree of words of at most `n` ranges: each is given by
the words below it. -/
def treeNodes : Nat → List ByteRanges → List (List ByteRanges)
  | 0, _ => []
  | n + 1, words =>
    if words.all List.isEmpty then []
    else words :: (splitHeads words).flatMap fun group => treeNodes n group.2

/-- The size of a set of characters. One character is read byte by byte, and bytes of their own in
one state; forward, equal nodes of the tree are one state; backward, each edge is a state. -/
def CharSet.size (d : Direction) (set : CharSet) : Nat :=
  let words := byteRanges set.ranges
  let nodes := treeNodes 4 words
  let edges (node : List ByteRanges) : Nat := (splitHeads node).length
  if set.isSingle then stateSize * total (words.map List.length)
  else if words.all fun word => word.length ≤ 1 then 2 * stateSize + edgeSize * words.length
  else match d with
    | .forward =>
      stateSize + total (nodes.eraseDups.map fun node => stateSize + edgeSize * edges node)
    | .backward => 2 * stateSize + stateSize * total (nodes.map edges) + linkSize * words.length

/-- The fewest bytes that a pattern spans; `none` when it may hold an empty set. -/
def Pattern.minLength? : Pattern → Option Nat
  | .empty => some 0
  | .test (.char set) => ((byteRanges set.ranges).map List.length).min?
  | .test (.anchor _) => some 0
  | .group p => minLength? p
  | .seq p q => do return (← minLength? p) + (← minLength? q)
  | .alt p q => do return min (← minLength? p) (← minLength? q)
  | .repeat p least _ => do return (← minLength? p) * least

def Pattern.size (d : Direction) : Pattern → Nat
  | .empty => stateSize
  | .test (.char set) => set.size d
  | .test (.anchor _) => stateSize
  | .group p => size d p + if d = .forward then 2 * stateSize else 0
  | .seq p q => size d p + size d q
  | .alt p q =>
    let branch (p : Pattern) (n : Nat) : Nat :=
      match p with
      | .alt _ _ => n - 2 * stateSize
      | _ => n + linkSize
    2 * stateSize + branch p (size d p) + branch q (size d q)
  | .repeat p min max =>
    let one := size d p
    let fork := stateSize + 2 * linkSize
    match min, max with
    | 0, none =>
      if (minLength? p).any (0 < ·) then fork + one else one + 2 * fork + stateSize
    | min, none => min * one + fork
    | 0, some 1 => fork + one + stateSize
    | min, some max =>
      let copies := if min = 0 then stateSize else min * one
      if min = max then copies else copies + stateSize + (max - min) * (fork + one)

/-- Whether every match stands at the edge of the text where reading starts. -/
def Pattern.isHeld (d : Direction) : Pattern → Bool
  | .empty => false
  | .test (.char _) => false
  | .test (.anchor a) =>
    match d with
    | .forward => a = .textStart
    | .backward => a = .textEnd
  | .group p => isHeld d p
  | .seq p q =>
    match d with
    | .forward => isHeld d p || (isWidthless p && isHeld d q)
    | .backward => isHeld d q || (isWidthless q && isHeld d p)
  | .alt p q => isHeld d p && isHeld d q
  | .repeat p min _ => 0 < min && isHeld d p

/-- The size of the whole automaton: with the match as a group, the state that accepts, and what
skips to where a match may start, unless that is always the edge of the text. -/
def Pattern.totalSize (d : Direction) (p : Pattern) : Nat :=
  let skip := if isHeld d p then stateSize else 3 * stateSize + edgeSize + 2 * linkSize
  skip + size d (.group p) + stateSize

def sizeLimit : Nat := 10 * 1024 * 1024

def Pattern.fits (p : Pattern) : Bool :=
  totalSize .forward p ≤ sizeLimit && totalSize .backward p ≤ sizeLimit

end DocQuery.Regex
