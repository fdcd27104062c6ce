import DocQuery.Hex
import DocQuery.Regex.Pattern

/-!
# Escapes and character classes

The parts of the pattern language below the level of groups: flags, escapes, and classes in
brackets with ranges, nested classes, named ASCII classes and the operators `&&`, `--` and `~~`.
A reader answers `none` for what is not part of the language, and else what it read, with what is
left of the text.
-/
namespace DocQuery.Regex

abbrev Text := List Char

structure Flags where
  ignoreCase : Bool := false
  multiLine : Bool := false
  dotAll : Bool := false
  swapGreed : Bool := false
  unicode : Bool := true
  crlf : Bool := false
  verbose : Bool := false
  deriving DecidableEq, Repr

def skipComment : Text → Text := fun cs => (cs.dropWhile (· != '\n')).drop 1

def skipBlanks (f : Flags) (cs : Text) : Text := if f.verbose then go cs.length cs else cs
where
  go : Nat → Text → Text
    | 0, cs => cs
    | _ + 1, [] => []
    | fuel + 1, c :: cs =>
      if Unicode.isBlank c then go fuel cs
      else if c = '#' then go fuel (skipComment cs)
      else c :: cs

namespace CharSet

def asciiDigit : CharSet := .range 0x30 0x39

def asciiWord : CharSet := ofRanges [(0x30, 0x39), (0x41, 0x5A), (0x5F, 0x5F), (0x61, 0x7A)]

def asciiBlank : CharSet := ofRanges [(0x09, 0x0D), (0x20, 0x20)]

def any : CharSet := .compl .empty

def named? : String → Option CharSet
  | "alnum" => some (ofRanges [(0x30, 0x39), (0x41, 0x5A), (0x61, 0x7A)])
  | "alpha" => some (ofRanges [(0x41, 0x5A), (0x61, 0x7A)])
  | "ascii" => some (.range 0 0x7F)
  | "blank" => some (ofRanges [(0x09, 0x09), (0x20, 0x20)])
  | "cntrl" => some (ofRanges [(0, 0x1F), (0x7F, 0x7F)])
  | "digit" => some asciiDigit
  | "graph" => some (.range 0x21 0x7E)
  | "lower" => some (.range 0x61 0x7A)
  | "print" => some (.range 0x20 0x7E)
  | "punct" => some (ofRanges [(0x21, 0x2F), (0x3A, 0x40), (0x5B, 0x60), (0x7B, 0x7E)])
  | "space" => some asciiBlank
  | "upper" => some (.range 0x41 0x5A)
  | "word" => some asciiWord
  | "xdigit" => some (ofRanges [(0x30, 0x39), (0x41, 0x46), (0x61, 0x66)])
  | _ => none

def fold (f : Flags) (set : CharSet) : CharSet := if f.ignoreCase then .folded set else set

/-- The complement; without Unicode it would hold bytes that are no text. -/
def negate? (f : Flags) (set : CharSet) : Option CharSet :=
  if f.unicode then some (.compl set) else none

end CharSet

def wordSet (f : Flags) : CharSet := if f.unicode then .wordChars else .asciiWord

/-- The class of a letter such as `d`, `s` or `w`, or of its capital, the complement. -/
def letterClass? (f : Flags) (c : Char) : Option (Option CharSet) :=
  let digit : CharSet := if f.unicode then .digits else .asciiDigit
  let blank : CharSet := if f.unicode then .blanks else .asciiBlank
  if c = 'd' then some (some digit)
  else if c = 's' then some (some blank)
  else if c = 'w' then some (some (wordSet f))
  else if c = 'D' then some (digit.negate? f)
  else if c = 'S' then some (blank.negate? f)
  else if c = 'W' then some ((wordSet f).negate? f)
  else none

inductive Atom where
  | literal (c : Char)
  | set (set : CharSet)
  | anchor (a : Anchor)

def charOfCode? (n : Nat) : Option Char :=
  if n.isValidChar then some (Char.ofNat n) else none

def fixedHex? (n : Nat) (cs : Text) : Option (Char × Text) := do
  let digits := cs.take n
  if digits.length < n then none
  else return (← charOfCode? (← Hex.number? digits), cs.drop n)

/-- A code after the letter of its escape: in braces, or with a fixed number of digits. -/
def hexEscape? (n : Nat) : Text → Option (Char × Text)
  | '{' :: cs => do
    let digits := cs.takeWhile (· != '}')
    match cs.dropWhile (· != '}') with
    | [] => none
    | _ :: rest =>
      if digits.isEmpty then none
      else return (← charOfCode? (← Hex.number? digits), rest)
  | cs => fixedHex? n cs

/-- A character that may always be escaped: ASCII, but no letter, digit or angle bracket. -/
def isEscapable (c : Char) : Bool :=
  c.toNat < 128 && !c.isAlphanum && c != '<' && c != '>'

/-- A word edge named in braces after `\b`; `none` when no name stands there. -/
def namedEdge? (f : Flags) (cs : Text) : Option (Option (Anchor × Text)) :=
  let isNameChar (c : Char) : Bool := c.isAlpha || c == '-'
  match cs with
  | '{' :: c :: rest =>
    if !isNameChar c then none
    else
      let name := String.ofList ((c :: rest).takeWhile isNameChar)
      match (c :: rest).dropWhile isNameChar with
      | '}' :: after =>
        match name with
        | "start" => some (some (.wordStart (wordSet f), after))
        | "end" => some (some (.wordEnd (wordSet f), after))
        | "start-half" => some (some (.wordStartHalf (wordSet f), after))
        | "end-half" => some (some (.wordEndHalf (wordSet f), after))
        | _ => some none
      | _ => some none
  | ['{'] => some none
  | _ => none

def escape? (f : Flags) : Text → Option (Atom × Text)
  | [] => none
  | c :: cs =>
    match letterClass? f c with
    | some set => set.map fun s => (.set s, cs)
    | none =>
      if c = 'x' then (hexEscape? 2 cs).map fun (x, rest) => (.literal x, rest)
      else if c = 'u' then (hexEscape? 4 cs).map fun (x, rest) => (.literal x, rest)
      else if c = 'U' then (hexEscape? 8 cs).map fun (x, rest) => (.literal x, rest)
      else if isEscapable c then some (.literal c, cs)
      else if c = 'a' then some (.literal '\x07', cs)
      else if c = 'f' then some (.literal '\x0c', cs)
      else if c = 't' then some (.literal '\t', cs)
      else if c = 'n' then some (.literal '\n', cs)
      else if c = 'r' then some (.literal '\r', cs)
      else if c = 'v' then some (.literal '\x0b', cs)
      else if c = 'A' then some (.anchor .textStart, cs)
      else if c = 'z' then some (.anchor .textEnd, cs)
      else if c = 'b' then
        match namedEdge? f cs with
        | none => some (.anchor (.wordEdge (wordSet f)), cs)
        | some found => found.map fun (a, rest) => (.anchor a, rest)
      else if c = 'B' then some (.anchor (.notWordEdge (wordSet f)), cs)
      else if c = '<' then some (.anchor (.wordStart (wordSet f)), cs)
      else if c = '>' then some (.anchor (.wordEnd (wordSet f)), cs)
      else none

/-- How deep the parts of a whole nest: a part on its own is the whole. -/
def nesting : List Nat → Nat
  | [] => 0
  | [depth] => depth
  | depths => depths.foldl max 0 + 1

/-- A set as it is written: `depth` counts the brackets, lists and operators inside each other. -/
structure WrittenSet where
  set : CharSet
  depth : Nat

structure ClassItems where
  set : CharSet := .empty
  depths : List Nat := []

namespace ClassItems

def add (items : ClassItems) (set : CharSet) (depth : Nat := 0) : ClassItems :=
  { set := .union items.set set, depths := depth :: items.depths }

def written (items : ClassItems) : WrittenSet := ⟨items.set, nesting items.depths⟩

end ClassItems

/-- A named ASCII class after its opening bracket; `none` when no such class stands there. -/
def asciiClass? (f : Flags) : Text → Option (CharSet × Text)
  | ':' :: cs => do
    let (negated, cs) := match cs with
      | '^' :: cs => (true, cs)
      | cs => (false, cs)
    let set ← CharSet.named? (String.ofList (cs.takeWhile (· != ':')))
    match cs.dropWhile (· != ':') with
    | ':' :: ']' :: rest => return (if negated then .compl (set.fold f) else set, rest)
    | _ => none
  | _ => none

def classItem? (f : Flags) : Text → Option (Atom × Text)
  | [] => none
  | '\\' :: cs => escape? f cs
  | c :: cs => some (.literal c, cs)

/-- An item or a range of a class, at a character that does not close the class. -/
def classRange? (f : Flags) (cs : Text) : Option (CharSet × Text) := do
  let (first, rest) ← classItem? f cs
  let rest := skipBlanks f rest
  let alone : Option (CharSet × Text) :=
    match first with
    | .literal c => some (.single c, rest)
    | .set s => some (s, rest)
    | .anchor _ => none
  match rest with
  | [] => none
  | '-' :: more =>
    match skipBlanks f more with
    | [] => none
    | ']' :: _ => alone
    | '-' :: _ => alone
    | more => do
      let (last, rest) ← classItem? f more
      match first, last with
      | .literal a, .literal b =>
        if a.toNat ≤ b.toNat then some (.range a.toNat b.toNat, rest) else none
      | _, _ => none
  | _ => alone

/-- The hyphens, and the bracket that closes nothing, that may start a class. -/
def classStart (f : Flags) : Nat → Bool → ClassItems → Text → Option (ClassItems × Text)
  | 0, _, _, _ => none
  | _ + 1, _, _, [] => none
  | fuel + 1, first, items, c :: cs =>
    if c = '-' then classStart f fuel false (items.add (.single '-')) (skipBlanks f cs)
    else if c = ']' && first then
      match skipBlanks f cs with
      | [] => none
      | rest => some (items.add (.single ']'), rest)
    else some (items, c :: cs)

inductive ClassOp where
  | inter
  | diff
  | symmDiff

def ClassOp.apply (f : Flags) (left : Option (WrittenSet × ClassOp)) (right : WrittenSet) :
    WrittenSet :=
  match left with
  | none => right
  | some (left, op) =>
    let l := left.set.fold f
    let r := right.set.fold f
    let set : CharSet := match op with
      | .inter => .inter l r
      | .diff => .diff l r
      | .symmDiff => .symmDiff l r
    ⟨set, max left.depth right.depth + 1⟩

mutual

/-- A class after its opening bracket. -/
def classBody? (f : Flags) (fuel : Nat) (cs : Text) : Option (WrittenSet × Text) :=
  match fuel with
  | 0 => none
  | fuel + 1 => do
    let (negated, cs) := match skipBlanks f cs with
      | '^' :: cs => (true, skipBlanks f cs)
      | cs => (false, cs)
    let (items, cs) ← classStart f (fuel + 1) true {} cs
    let (body, rest) ← classItems? f fuel none items cs
    let set := body.set.fold f
    let set ← if negated then set.negate? f else some set
    return (⟨set, body.depth + 1⟩, rest)

/-- The items of a class up to its closing bracket: `left` is the part before the last operator,
`items` are those after it. -/
def classItems? (f : Flags) (fuel : Nat) (left : Option (WrittenSet × ClassOp))
    (items : ClassItems) (cs : Text) : Option (WrittenSet × Text) :=
  match fuel with
  | 0 => none
  | fuel + 1 =>
    let operate (op : ClassOp) (rest : Text) : Option (WrittenSet × Text) :=
      classItems? f fuel (some (ClassOp.apply f left items.written, op)) {} rest
    match skipBlanks f cs with
    | [] => none
    | ']' :: rest => some (ClassOp.apply f left items.written, rest)
    | '[' :: rest =>
      match asciiClass? f rest with
      | some (named, rest) => classItems? f fuel left (items.add named) rest
      | none => do
        let (inner, rest) ← classBody? f fuel rest
        classItems? f fuel left (items.add inner.set inner.depth) rest
    | '&' :: '&' :: rest => operate .inter rest
    | '-' :: '-' :: rest => operate .diff rest
    | '~' :: '~' :: rest => operate .symmDiff rest
    | cs => do
      let (item, rest) ← classRange? f cs
      classItems? f fuel left (items.add item) rest

end

end DocQuery.Regex
