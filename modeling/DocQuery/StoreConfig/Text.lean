import DocQuery.Decode.Message
import DocQuery.Error
import DocQuery.JsonText.Parser
import DocQuery.StoreConfig.Basic

/-!
# Configuration from text

The text is read and decoded in one pass, so the first fault in the text is the one reported,
whether it is a fault of the text or of a value. Members that are not settings are passed over.
-/
namespace DocQuery.StoreConfig

open JsonText (Text TextError skipBlanks)

inductive ReadError where
  | text (error : TextError)
  | value (error : DecodeError)
  deriving Repr

def ReadError.message : ReadError → String
  | .text e => e.message
  | .value e => e.message

abbrev ReadResult (α : Type) := Except ReadError α

def fault (e : TextError) : ReadResult α := .error (.text e)

def bad (e : DecodeError) : ReadResult α := .error (.value e)

/-- The error for a value that does not start as expected. -/
def mismatch (expected : String) (cs : Text) : ReadResult α :=
  match JsonText.opening cs with
  | .none => fault .expectedValue
  | .other => fault .expectedValue
  | .list _ => bad (.invalidType .sequence expected)
  | .object _ => bad (.invalidType .map expected)
  | .word (.error e) => fault e
  | .word (.ok (v, _)) => bad (.invalidType (.ofJson v) expected)

def readQuoted (expected : String) (cs : Text) : ReadResult (String × Text) :=
  match skipBlanks cs with
  | [] => fault .endInValue
  | '"' :: cs => (JsonText.stringTail [] cs).mapError .text
  | cs => mismatch expected cs

def readString : Text → ReadResult (String × Text) := readQuoted "a string"

def readWord (expected : String) (decode : Json → Decoded α) (cs : Text) : ReadResult (α × Text) :=
  match skipBlanks cs with
  | [] => fault .endInValue
  | c :: cs => do
    if c == '-' || c.isDigit then
      let (n, rest) ← (JsonText.number (c :: cs)).mapError .text
      return (← (decode (.number n)).mapError .value, rest)
    else mismatch expected (c :: cs)

def readOptional (value : Text → ReadResult (α × Text)) (cs : Text) :
    ReadResult (Option α × Text) :=
  match skipBlanks cs with
  | 'n' :: cs => do
    let rest ← (JsonText.nameTail "ull".toList cs).mapError .text
    return (none, rest)
  | cs => (value cs).map fun (a, rest) => (some a, rest)

def readColon (cs : Text) : ReadResult Text :=
  match skipBlanks cs with
  | [] => fault .endInObject
  | ':' :: rest => .ok rest
  | _ => fault .expectedColon

/-- The content of a value that is given by its name alone. -/
def readUnit (cs : Text) : ReadResult Text :=
  match skipBlanks cs with
  | [] => fault .endInValue
  | 'n' :: cs => (JsonText.nameTail "ull".toList cs).mapError .text
  | cs => mismatch "unit" cs

def readChoice (table : List (String × α)) (cs : Text) : ReadResult (α × Text) :=
  let pick (name : String) : ReadResult α :=
    match table.lookup name with
    | some a => .ok a
    | none => bad (.unknownVariant name (table.map Prod.fst))
  match skipBlanks cs with
  | [] => fault .endInValue
  | '"' :: cs => do
    let (name, rest) ← (JsonText.stringTail [] cs).mapError .text
    return (← pick name, rest)
  | '{' :: cs => do
    let (name, rest) ← readQuoted "variant identifier" cs
    let a ← pick name
    let rest ← readUnit (← readColon rest)
    match skipBlanks rest with
    | [] => fault .endInObject
    | '}' :: rest => return (a, rest)
    | _ => fault .expectedValue
  | _ => fault .expectedValue

/-- The members of a configuration, as far as they are known; each may have been left out. -/
structure Draft where
  database : Option String := none
  engine : Option Engine := none
  defaultPageLimit : Option UInt64 := none
  vectorIndex : Option (Option String) := none
  vectorPath : Option String := none
  vectorSimilarity : Option (Option Similarity) := none
  minVectorCandidates : Option UInt32 := none

namespace Draft

def complete (d : Draft) (database : String) : StoreConfig :=
  let base := StoreConfig.ofDatabase database
  { database
    engine := d.engine.getD base.engine
    defaultPageLimit := d.defaultPageLimit.getD base.defaultPageLimit
    vectorIndex := d.vectorIndex.getD base.vectorIndex
    vectorPath := d.vectorPath.getD base.vectorPath
    vectorSimilarity := d.vectorSimilarity.getD base.vectorSimilarity
    minVectorCandidates := d.minVectorCandidates.getD base.minVectorCandidates }

def has (d : Draft) : String → Bool
  | "database" => d.database.isSome
  | "engine" => d.engine.isSome
  | "default_page_limit" => d.defaultPageLimit.isSome
  | "vector_index" => d.vectorIndex.isSome
  | "vector_path" => d.vectorPath.isSome
  | "vector_similarity" => d.vectorSimilarity.isSome
  | "min_vector_candidates" => d.minVectorCandidates.isSome
  | _ => false

def read (d : Draft) (name : String) (cs : Text) : ReadResult (Draft × Text) :=
  match name with
  | "database" => (readString cs).map fun (x, rest) => ({ d with database := some x }, rest)
  | "engine" =>
    (readChoice Engine.table cs).map fun (x, rest) => ({ d with engine := some x }, rest)
  | "default_page_limit" =>
    (readWord "u64" Decode.uint64 cs).map fun (x, rest) =>
      ({ d with defaultPageLimit := some x }, rest)
  | "vector_index" =>
    (readOptional readString cs).map fun (x, rest) => ({ d with vectorIndex := some x }, rest)
  | "vector_path" => (readString cs).map fun (x, rest) => ({ d with vectorPath := some x }, rest)
  | "vector_similarity" =>
    (readOptional (readChoice Similarity.table) cs).map fun (x, rest) =>
      ({ d with vectorSimilarity := some x }, rest)
  | "min_vector_candidates" =>
    (readWord "u32" Decode.uint32 cs).map fun (x, rest) =>
      ({ d with minVectorCandidates := some x }, rest)
  | _ => ((JsonText.skipValue (2 * cs.length + 2) cs).mapError .text).map fun rest => (d, rest)

end Draft

/-- The members of an object after its opening brace, or after a member. -/
def readMembers (fuel : Nat) (d : Draft) (first : Bool) (cs : Text) : ReadResult (Draft × Text) :=
  match fuel with
  | 0 => fault .endInObject
  | fuel + 1 =>
    let member (cs : Text) : ReadResult (Draft × Text) := do
      let (key, rest) ← (JsonText.stringTail [] cs).mapError .text
      if d.has key then bad (.duplicateField key)
      else
        let (d, rest) ← d.read key (← readColon rest)
        readMembers fuel d false rest
    match skipBlanks cs with
    | [] => fault .endInObject
    | '}' :: rest => .ok (d, '}' :: rest)
    | c :: rest =>
      if first then if c = '"' then member rest else fault .keyNotString
      else if c = ',' then
        match skipBlanks rest with
        | [] => fault .endInValue
        | '"' :: rest => member rest
        | '}' :: _ => fault .trailingComma
        | _ => fault .keyNotString
      else fault .expectedObjectEnd

/-- The items of a list after its opening bracket, one for each name as far as they go. -/
def readItems (d : Draft) (first : Bool) (cs : Text) : List String → ReadResult (Draft × Text)
  | [] => .ok (d, cs)
  | name :: names =>
    let item (cs : Text) : ReadResult (Draft × Text) := do
      let (d, rest) ← d.read name cs
      readItems d false rest names
    match skipBlanks cs with
    | [] => fault .endInList
    | ']' :: rest => .ok (d, ']' :: rest)
    | c :: rest =>
      if first then item (c :: rest)
      else if c = ',' then
        match skipBlanks rest with
        | [] => fault .endInValue
        | ']' :: _ => fault .trailingComma
        | rest => item rest
      else fault .expectedListEnd

/-- The end of a list of which every item that counts has been read. -/
def closeList (cs : Text) : ReadResult Text :=
  match skipBlanks cs with
  | [] => fault .endInList
  | ']' :: rest => .ok rest
  | ',' :: rest =>
    match skipBlanks rest with
    | ']' :: _ => fault .trailingComma
    | _ => fault .trailingCharacters
  | _ => fault .trailingCharacters

def closeObject (cs : Text) : ReadResult Text :=
  match skipBlanks cs with
  | '}' :: rest => .ok rest
  | _ => fault .endInObject

def complete (d : Draft) (missing : DecodeError) : ReadResult StoreConfig :=
  match d.database with
  | some database => .ok (d.complete database)
  | none => bad missing

/-- The configuration at the start of a text. -/
def readRecord (cs : Text) : ReadResult (StoreConfig × Text) :=
  match skipBlanks cs with
  | [] => fault .endInValue
  | '{' :: cs => do
    let (d, rest) ← readMembers (cs.length + 1) {} true cs
    return (← complete d (.missingField "database"), ← closeObject rest)
  | '[' :: cs => do
    let (d, rest) ← readItems {} true cs memberNames
    return (← complete d (.invalidLength 0 (recordType ++ " with 7 elements")), ← closeList rest)
  | cs => mismatch recordType cs

def ofText (text : String) : ReadResult StoreConfig := do
  let (c, rest) ← readRecord text.toList
  if (skipBlanks rest).isEmpty then return c else fault .trailingCharacters

/-- The valid configuration in the contents of a file, or in what kept the file from being read. -/
def load (contents : Except String String) : Except QueryError StoreConfig := do
  let text ← contents.mapError fun reason => .config (.unreadable reason)
  let c ← (ofText text).mapError fun e => .config (.invalidJson e.message)
  c.validate.mapError .config
  return c

end DocQuery.StoreConfig
