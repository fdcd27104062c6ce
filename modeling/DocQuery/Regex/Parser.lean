import DocQuery.Regex.Class
import DocQuery.Regex.Size

/-!
# Patterns from text

`parse?` answers `none` for a text that is not a pattern: an operator with nothing to repeat, a
bracket without its partner, a class with a range the wrong way round, anything outside the
language, such as look-around and back-references, or what nests too deep or grows too large.
-/
namespace DocQuery.Regex

/-- A pattern as it is written: `depth` counts the groups, repetitions, choices, sequences and
brackets inside each other. -/
structure Part where
  pattern : Pattern
  depth : Nat := 0
  repeatable : Bool := true

/-- A sequence from its parts, the last first. -/
def sequence (parts : List Part) : Part :=
  { pattern := parts.foldl (fun later part => part.pattern.andThen later) .empty
    depth := nesting (parts.map Part.depth) }

/-- A choice from its alternatives, the last first. -/
def alternation (parts : List Part) : Part :=
  { pattern := Pattern.choice (parts.reverse.map Part.pattern)
    depth := nesting (parts.map Part.depth) }

def literal (f : Flags) (c : Char) : Part := { pattern := .char ((CharSet.single c).fold f) }

/-- The set of the dot; `none` when it would hold bytes that are no text. -/
def dot? (f : Flags) : Option CharSet :=
  let excluded : CharSet :=
    if f.dotAll then .empty
    else if f.crlf then .union (.single '\n') (.single '\r')
    else .single '\n'
  excluded.negate? f

def lineStart (f : Flags) : Anchor :=
  if !f.multiLine then .textStart else if f.crlf then .lineStartCr else .lineStart

def lineEnd (f : Flags) : Anchor :=
  if !f.multiLine then .textEnd else if f.crlf then .lineEndCr else .lineEnd

def Flags.set? (f : Flags) (c : Char) (on : Bool) : Option Flags :=
  if c = 'i' then some { f with ignoreCase := on }
  else if c = 'm' then some { f with multiLine := on }
  else if c = 's' then some { f with dotAll := on }
  else if c = 'U' then some { f with swapGreed := on }
  else if c = 'u' then some { f with unicode := on }
  else if c = 'R' then some { f with crlf := on }
  else if c = 'x' then some { f with verbose := on }
  else none

/-- The letters of a flag group: each at most once, one minus sign at most, and none at the end. -/
def applyFlags? (f : Flags) (seen : List Char) (last : Option Char) : Text → Option Flags
  | [] => if last = some '-' then none else some f
  | c :: cs =>
    if seen.contains c then none
    else if c = '-' then applyFlags? f (c :: seen) (some c) cs
    else do
      let f ← f.set? c (!seen.contains '-')
      applyFlags? f (c :: seen) (some c) cs

/-- A number of at most 32 bits, blanks around it allowed. -/
def count? (f : Flags) (cs : Text) : Option (Nat × Text) :=
  let cs := cs.dropWhile Unicode.isBlank
  let digits := cs.takeWhile Char.isDigit
  let n := digits.foldl (fun n c => n * 10 + (c.toNat - 48)) 0
  if digits.isEmpty || UInt32.size ≤ n then none
  else some (n, skipBlanks f ((cs.dropWhile Char.isDigit).dropWhile Unicode.isBlank))

def bounds? (f : Flags) (cs : Text) : Option (Nat × Option Nat × Text) := do
  let (min, rest) ← count? f (skipBlanks f cs)
  match rest with
  | '}' :: rest => return (min, some min, rest)
  | ',' :: rest =>
    match skipBlanks f rest with
    | '}' :: rest => return (min, none, rest)
    | rest =>
      let (max, rest) ← count? f rest
      match rest with
      | '}' :: rest => if min ≤ max then return (min, some max, rest) else none
      | _ => none
  | _ => none

def dropLazy : Text → Text
  | '?' :: cs => cs
  | cs => cs

def repeatLast? (min : Nat) (max : Option Nat) : List Part → Option (List Part)
  | [] => none
  | part :: parts =>
    if part.repeatable then
      some ({ pattern := part.pattern.times min max, depth := part.depth + 1 } :: parts)
    else none

def isAlphabetic (c : Char) : Bool :=
  Unicode.isWord c && !Unicode.isDigit c && c != '_'

def groupName? (cs : Text) : Option (String × Text) :=
  let isNameChar (c : Char) : Bool :=
    Unicode.isWord c || c == '.' || c == '[' || c == ']'
  let name := cs.takeWhile (· != '>')
  match name, cs.dropWhile (· != '>') with
  | c :: _, _ :: rest =>
    if (c == '_' || isAlphabetic c) && name.all isNameChar then some (String.ofList name, rest)
    else none
  | _, _ => none

inductive Opening where
  | group (flags : Flags) (isSpan : Bool) (name : Option String) (rest : Text)
  | flags (flags : Flags) (rest : Text)

def opening? (f : Flags) (cs : Text) : Option Opening :=
  let named (cs : Text) : Option Opening :=
    (groupName? cs).map fun (name, rest) => .group f true (some name) rest
  match skipBlanks f cs with
  | '?' :: '=' :: _ => none
  | '?' :: '!' :: _ => none
  | '?' :: '<' :: '=' :: _ => none
  | '?' :: '<' :: '!' :: _ => none
  | '?' :: 'P' :: '<' :: cs => named cs
  | '?' :: '<' :: cs => named cs
  | '?' :: cs => do
    let isEnd (c : Char) : Bool := c == ':' || c == ')'
    let letters := cs.takeWhile fun c => !isEnd c
    let flags ← applyFlags? f [] none letters
    match cs.dropWhile fun c => !isEnd c with
    | ':' :: rest => return .group flags false none rest
    | ')' :: rest => if letters.isEmpty then none else return .flags flags rest
    | _ => none
  | cs => some (.group f true none cs)

/-- Reads alternatives up to a closing parenthesis or the end of the text: `names` are the group
names in use, `earlier` the alternatives before the present one, and `parts` the parts of that one,
both with the last first. -/
def alternatives? (fuel : Nat) (f : Flags) (names : List String) (earlier parts : List Part)
    (cs : Text) : Option (Part × List String × Text) :=
  match fuel with
  | 0 => none
  | fuel + 1 =>
    let withParts (parts : List Part) (rest : Text) : Option (Part × List String × Text) :=
      alternatives? fuel f names earlier parts rest
    let extend (part : Part) (rest : Text) : Option (Part × List String × Text) :=
      withParts (part :: parts) rest
    match skipBlanks f cs with
    | [] => some (alternation (sequence parts :: earlier), names, [])
    | ')' :: rest => some (alternation (sequence parts :: earlier), names, ')' :: rest)
    | '|' :: rest => alternatives? fuel f names (sequence parts :: earlier) [] rest
    | '(' :: rest => do
      match ← opening? f rest with
      | .flags f rest =>
        alternatives? fuel f names earlier ({ pattern := .empty, repeatable := false } :: parts)
          rest
      | .group inner isSpan name rest =>
        if name.any names.contains then none
        else
          match ← alternatives? fuel inner (name.toList ++ names) [] [] rest with
          | (body, names, ')' :: rest) =>
            let pattern := if isSpan then .group body.pattern else body.pattern
            alternatives? fuel f names earlier ({ pattern, depth := body.depth + 1 } :: parts) rest
          | _ => none
    | '[' :: rest => do
      let (body, rest) ← classBody? f (2 * rest.length + 2) rest
      extend { pattern := .char body.set, depth := body.depth } rest
    | '?' :: rest => do withParts (← repeatLast? 0 (some 1) parts) (dropLazy rest)
    | '*' :: rest => do withParts (← repeatLast? 0 none parts) (dropLazy rest)
    | '+' :: rest => do withParts (← repeatLast? 1 none parts) (dropLazy rest)
    | '{' :: rest => do
      let (min, max, rest) ← bounds? f rest
      withParts (← repeatLast? min max parts) (dropLazy (skipBlanks f rest))
    | '.' :: rest => do extend { pattern := .char (← dot? f) } rest
    | '^' :: rest => extend { pattern := .anchor (lineStart f) } rest
    | '$' :: rest => extend { pattern := .anchor (lineEnd f) } rest
    | '\\' :: rest => do
      match ← escape? f rest with
      | (.literal c, rest) => extend (literal f c) rest
      | (.set s, rest) => extend { pattern := .char s } rest
      | (.anchor a, rest) => extend { pattern := .anchor a } rest
    | c :: rest => extend (literal f c) rest

def depthLimit : Nat := 250

def parse? (pattern : String) : Option Pattern :=
  let cs := pattern.toList
  match alternatives? (cs.length + 1) {} [] [] [] cs with
  | some (part, _, []) =>
    if part.depth ≤ depthLimit && part.pattern.fits then some part.pattern else none
  | _ => none

end DocQuery.Regex
