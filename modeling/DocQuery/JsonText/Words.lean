import DocQuery.Hex
import DocQuery.Json

/-!
# Words of JSON text

Reading of strings, numbers and literal names from a list of characters. Each reader returns what
it read and the text after it. The skippers pass over a word without giving it a value, so they
accept strings and numbers that have none.
-/
namespace DocQuery.JsonText

inductive TextError where
  | endInList
  | endInObject
  | endInString
  | endInValue
  | expectedColon
  | expectedListEnd
  | expectedObjectEnd
  | expectedName
  | expectedValue
  | invalidEscape
  | invalidNumber
  | numberOutOfRange
  | loneSurrogate
  | missingSurrogate
  | controlCharacter
  | keyNotString
  | trailingComma
  | trailingCharacters
  | tooDeep
  deriving DecidableEq, Repr

def TextError.message : TextError → String
  | .endInList => "EOF while parsing a list"
  | .endInObject => "EOF while parsing an object"
  | .endInString => "EOF while parsing a string"
  | .endInValue => "EOF while parsing a value"
  | .expectedColon => "expected \x60:\x60"
  | .expectedListEnd => "expected \x60,\x60 or \x60]\x60"
  | .expectedObjectEnd => "expected \x60,\x60 or \x60\x7d\x60"
  | .expectedName => "expected ident"
  | .expectedValue => "expected value"
  | .invalidEscape => "invalid escape"
  | .invalidNumber => "invalid number"
  | .numberOutOfRange => "number out of range"
  | .loneSurrogate => "lone leading surrogate in hex escape"
  | .missingSurrogate => "unexpected end of hex escape"
  | .controlCharacter => "control character (\\u0000-\\u001F) found while parsing a string"
  | .keyNotString => "key must be a string"
  | .trailingComma => "trailing comma"
  | .trailingCharacters => "trailing characters"
  | .tooDeep => "recursion limit exceeded"

abbrev Text := List Char

/-- A reader's answer: a value with the text after it, or the reason there is none. -/
abbrev Reading (α : Type) := Except TextError (α × Text)

def isBlank (c : Char) : Bool := c == ' ' || c == '\n' || c == '\t' || c == '\r'

def skipBlanks (cs : Text) : Text := cs.dropWhile isBlank

/-- What is wrong with a hex escape that is not followed by four characters: the four bytes after
it do not exist, or they are not digits. -/
def brokenQuad (cs : Text) : TextError :=
  if (String.ofList cs).utf8ByteSize < 4 then .endInString else .invalidEscape

def shortEscape? (c : Char) : Option Char :=
  if c = '"' then some '"'
  else if c = '\\' then some '\\'
  else if c = '/' then some '/'
  else if c = 'b' then some '\x08'
  else if c = 'f' then some '\x0c'
  else if c = 'n' then some '\n'
  else if c = 'r' then some '\r'
  else if c = 't' then some '\t'
  else none

/-- The rest of a string after its opening quote; `done` holds the characters read so far, the
last first. Characters outside the basic plane are written as two escapes. -/
def stringTail (done : List Char) : Text → Reading String
  | [] => .error .endInString
  | c :: cs =>
    if c = '"' then .ok (String.ofList done.reverse, cs)
    else if c = '\\' then
      match cs with
      | [] => .error .endInString
      | e :: cs =>
        if e = 'u' then
          match cs with
          | h₁ :: h₂ :: h₃ :: h₄ :: cs =>
            match Hex.number? [h₁, h₂, h₃, h₄] with
            | none => .error .invalidEscape
            | some n =>
              if 0xDC00 ≤ n ∧ n ≤ 0xDFFF then .error .loneSurrogate
              else if n < 0xD800 ∨ 0xDBFF < n then stringTail (Char.ofNat n :: done) cs
              else
                match cs with
                | [] => .error .endInString
                | [b] => .error (if b = '\\' then .endInString else .missingSurrogate)
                | b :: u :: cs =>
                  if b = '\\' ∧ u = 'u' then
                    match cs with
                    | l₁ :: l₂ :: l₃ :: l₄ :: cs =>
                      match Hex.number? [l₁, l₂, l₃, l₄] with
                      | none => .error .invalidEscape
                      | some m =>
                        if 0xDC00 ≤ m ∧ m ≤ 0xDFFF then
                          stringTail
                            (Char.ofNat ((n - 0xD800) * 1024 + (m - 0xDC00) + 0x10000) :: done) cs
                        else .error .loneSurrogate
                    | short => .error (brokenQuad short)
                  else .error .missingSurrogate
          | short => .error (brokenQuad short)
        else
          match shortEscape? e with
          | some x => stringTail (x :: done) cs
          | none => .error .invalidEscape
    else if c.toNat < 32 then .error .controlCharacter
    else stringTail (c :: done) cs

def skipStringTail : Text → Except TextError Text
  | [] => .error .endInString
  | c :: cs =>
    if c = '"' then .ok cs
    else if c = '\\' then
      match cs with
      | [] => .error .endInString
      | e :: cs =>
        if e = 'u' then
          match cs with
          | h₁ :: h₂ :: h₃ :: h₄ :: cs =>
            if (Hex.number? [h₁, h₂, h₃, h₄]).isSome then skipStringTail cs
            else .error .invalidEscape
          | short => .error (brokenQuad short)
        else if (shortEscape? e).isSome then skipStringTail cs
        else .error .invalidEscape
    else if c.toNat < 32 then .error .controlCharacter
    else skipStringTail cs

/-- The rest of a literal name, such as `ull` of `null`. -/
def nameTail : List Char → Text → Except TextError Text
  | [], cs => .ok cs
  | _ :: _, [] => .error .endInValue
  | x :: xs, c :: cs => if x = c then nameTail xs cs else .error .expectedName

def digitValue (c : Char) : Nat := c.toNat - 48

/-- The decimal significand read so far, and how many powers of ten it stands too low. Digits
past 64 bits are dropped. -/
structure Significand where
  value : Nat
  scale : Int

/-- Digits before the point: one that no longer fits, and all after it, only raise the scale. -/
def Significand.ofWhole (digits : List Char) : Significand × Bool :=
  digits.foldl (fun (s, full) c =>
    let next := s.value * 10 + digitValue c
    if full || decide (Number.maxInt < next) then (⟨s.value, s.scale + 1⟩, true)
    else (⟨next, s.scale⟩, false)) (⟨0, 0⟩, false)

/-- Digits after the point: one that no longer fits, and all after it, are dropped. -/
def Significand.addFraction (s : Significand) (digits : List Char) : Significand :=
  (digits.foldl (fun (s, full) c =>
    let next := s.value * 10 + digitValue c
    if full || decide (Number.maxInt < next) then (s, true)
    else ((⟨next, s.scale - 1⟩ : Significand), false)) (s, false)).1

def floatOf (negative : Bool) (s : Significand) (rest : Text) : Reading Number :=
  match Double.ofDecimal? negative s.value s.scale with
  | some x => .ok (.float x, rest)
  | none => .error .numberOutOfRange

def exponentTail (negative : Bool) (s : Significand) (cs : Text) : Reading Number :=
  let (down, cs) := match cs with
    | '-' :: cs => (true, cs)
    | '+' :: cs => (false, cs)
    | cs => (false, cs)
  match cs with
  | [] => .error .endInValue
  | c :: _ =>
    if c.isDigit then
      let e := (cs.takeWhile Char.isDigit).foldl (fun n c => n * 10 + digitValue c) 0
      floatOf negative ⟨s.value, if down then s.scale - e else s.scale + e⟩
        (cs.dropWhile Char.isDigit)
    else .error .invalidNumber

/-- The number without its sign: an integer when it has neither fraction nor exponent and fits
64 bits, else a double. Negative zero is a double. -/
def unsignedNumber (negative : Bool) (cs : Text) : Reading Number :=
  let whole := cs.takeWhile Char.isDigit
  let rest := cs.dropWhile Char.isDigit
  match whole with
  | [] => .error (if cs.isEmpty then .endInValue else .invalidNumber)
  | '0' :: _ :: _ => .error .invalidNumber
  | _ =>
    let (s, full) := Significand.ofWhole whole
    match rest with
    | '.' :: rest =>
      let fraction := rest.takeWhile Char.isDigit
      let rest := rest.dropWhile Char.isDigit
      if fraction.isEmpty then .error (if rest.isEmpty then .endInValue else .invalidNumber)
      else
        let s := s.addFraction fraction
        match rest with
        | 'e' :: rest => exponentTail negative s rest
        | 'E' :: rest => exponentTail negative s rest
        | rest => floatOf negative s rest
    | 'e' :: rest => exponentTail negative s rest
    | 'E' :: rest => exponentTail negative s rest
    | rest =>
      if full then floatOf negative s rest
      else if !negative then .ok (.int s.value, rest)
      else if s.value = 0 ∨ Number.minInt > -(s.value : Int) then floatOf true s rest
      else .ok (.int (-(s.value : Int)), rest)

def number : Text → Reading Number
  | '-' :: cs => unsignedNumber true cs
  | cs => unsignedNumber false cs

def skipExponentTail (cs : Text) : Except TextError Text :=
  let cs := match cs with
    | '-' :: cs => cs
    | '+' :: cs => cs
    | cs => cs
  match cs with
  | c :: _ => if c.isDigit then .ok (cs.dropWhile Char.isDigit) else .error .invalidNumber
  | [] => .error .invalidNumber

def skipUnsignedNumber (cs : Text) : Except TextError Text :=
  let rest := cs.dropWhile Char.isDigit
  match cs.takeWhile Char.isDigit with
  | [] => .error .invalidNumber
  | '0' :: _ :: _ => .error .invalidNumber
  | _ =>
    match rest with
    | '.' :: rest =>
      let after := rest.dropWhile Char.isDigit
      if (rest.takeWhile Char.isDigit).isEmpty then .error .invalidNumber
      else
        match after with
        | 'e' :: rest => skipExponentTail rest
        | 'E' :: rest => skipExponentTail rest
        | rest => .ok rest
    | 'e' :: rest => skipExponentTail rest
    | 'E' :: rest => skipExponentTail rest
    | rest => .ok rest

end DocQuery.JsonText
