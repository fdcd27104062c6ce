import DocQuery.JsonText.Words

/-!
# JSON text to documents

`parse` reads one document and nothing after it. The recursive readers are bounded by a
count that `parse` takes from the length of the text: each step passes a character, and no two
steps follow each other on the same character more than once.
-/
namespace DocQuery.JsonText

/-- Containers are read this deep and no deeper. -/
def maxDepth : Nat := 127

/-- What stands at the start of a value, as far as one character tells. -/
inductive Opening where
  | none
  | word (read : Except TextError (Json × Text))
  | list (rest : Text)
  | object (rest : Text)
  | other

/-- The value at the start of a text whose first character is not blank; a container is only
opened. -/
def opening : Text → Opening
  | [] => .none
  | 'n' :: cs => .word ((nameTail "ull".toList cs).map fun rest => (.null, rest))
  | 't' :: cs => .word ((nameTail "rue".toList cs).map fun rest => (.bool true, rest))
  | 'f' :: cs => .word ((nameTail "alse".toList cs).map fun rest => (.bool false, rest))
  | '"' :: cs => .word ((stringTail [] cs).map fun (s, rest) => (.string s, rest))
  | '[' :: cs => .list cs
  | '{' :: cs => .object cs
  | c :: cs =>
    if c == '-' || c.isDigit then .word ((number (c :: cs)).map fun (n, rest) => (.number n, rest))
    else .other

mutual

def value (fuel depth : Nat) (cs : Text) : Except TextError (Json × Text) :=
  match fuel with
  | 0 => .error .endInValue
  | fuel + 1 =>
    match opening (skipBlanks cs) with
    | .none => .error .endInValue
    | .other => .error .expectedValue
    | .word r => r
    | .list rest =>
      match depth with
      | 0 => .error .tooDeep
      | depth + 1 => items fuel depth [] rest
    | .object rest =>
      match depth with
      | 0 => .error .tooDeep
      | depth + 1 => members fuel depth [] rest
termination_by structural fuel

def items (fuel depth : Nat) (done : List Json) (cs : Text) : Except TextError (Json × Text) :=
  match fuel with
  | 0 => .error .endInValue
  | fuel + 1 =>
    match skipBlanks cs with
    | [] => .error .endInList
    | ']' :: rest => .ok (.array done.reverse, rest)
    | c :: rest =>
      if done.isEmpty then do
        let (item, rest) ← value fuel depth (c :: rest)
        items fuel depth [item] rest
      else if c = ',' then
        match skipBlanks rest with
        | [] => .error .endInValue
        | ']' :: _ => .error .trailingComma
        | rest => do
          let (item, rest) ← value fuel depth rest
          items fuel depth (item :: done) rest
      else .error .expectedListEnd
termination_by structural fuel

def members (fuel depth : Nat) (done : Members) (cs : Text) : Except TextError (Json × Text) :=
  match fuel with
  | 0 => .error .endInValue
  | fuel + 1 =>
    match skipBlanks cs with
    | [] => .error .endInObject
    | '}' :: rest => .ok (.object done, rest)
    | c :: rest =>
      if done.isEmpty then
        if c = '"' then member fuel depth done rest else .error .keyNotString
      else if c = ',' then
        match skipBlanks rest with
        | [] => .error .endInValue
        | '"' :: rest => member fuel depth done rest
        | '}' :: _ => .error .trailingComma
        | _ => .error .keyNotString
      else .error .expectedObjectEnd
termination_by structural fuel

/-- A member after the opening quote of its key, and the members after it. -/
def member (fuel depth : Nat) (done : Members) (cs : Text) : Except TextError (Json × Text) :=
  match fuel with
  | 0 => .error .endInValue
  | fuel + 1 => do
    let (key, rest) ← stringTail [] cs
    match skipBlanks rest with
    | [] => .error .endInObject
    | ':' :: rest =>
      let (item, rest) ← value fuel depth rest
      members fuel depth (Members.set key item done) rest
    | _ => .error .expectedColon
termination_by structural fuel

end

def parse (text : String) : Except TextError Json := do
  let cs := text.toList
  let (v, rest) ← value (2 * cs.length + 2) maxDepth cs
  if (skipBlanks rest).isEmpty then return v else throw .trailingCharacters

mutual

/-- Passes over a value that nobody asks for. It is checked less strictly than one that is read: the
commas of its containers end in a value, and the words in it need no meaning. -/
def skipValue (fuel : Nat) (cs : Text) : Except TextError Text :=
  match fuel with
  | 0 => .error .endInValue
  | fuel + 1 =>
    match skipBlanks cs with
    | [] => .error .endInValue
    | 'n' :: cs => nameTail "ull".toList cs
    | 't' :: cs => nameTail "rue".toList cs
    | 'f' :: cs => nameTail "alse".toList cs
    | '"' :: cs => skipStringTail cs
    | '-' :: cs => skipUnsignedNumber cs
    | '[' :: cs =>
      match skipBlanks cs with
      | [] => .error .endInList
      | ']' :: rest => .ok rest
      | rest => skipItems fuel rest
    | '{' :: cs =>
      match skipBlanks cs with
      | [] => .error .endInObject
      | '}' :: rest => .ok rest
      | rest => skipMembers fuel rest
    | c :: cs => if c.isDigit then skipUnsignedNumber (c :: cs) else .error .expectedValue

def skipItems (fuel : Nat) (cs : Text) : Except TextError Text :=
  match fuel with
  | 0 => .error .endInValue
  | fuel + 1 => do
    let rest ← skipValue fuel cs
    match skipBlanks rest with
    | [] => .error .endInList
    | ']' :: rest => .ok rest
    | ',' :: rest => skipItems fuel rest
    | _ => .error .expectedListEnd

def skipMembers (fuel : Nat) (cs : Text) : Except TextError Text :=
  match fuel with
  | 0 => .error .endInValue
  | fuel + 1 =>
    match skipBlanks cs with
    | [] => .error .endInObject
    | '"' :: rest => do
      let rest ← skipStringTail rest
      match skipBlanks rest with
      | [] => .error .endInObject
      | ':' :: rest =>
        let rest ← skipValue fuel rest
        match skipBlanks rest with
        | [] => .error .endInObject
        | '}' :: rest => .ok rest
        | ',' :: rest => skipMembers fuel rest
        | _ => .error .expectedObjectEnd
      | _ => .error .expectedColon
    | _ => .error .keyNotString

end

end DocQuery.JsonText
