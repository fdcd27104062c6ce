import DocQuery.Native.Stage
import DocQuery.Pipeline.StageJson
import DocQuery.Unicode.Blank

/-!
# Store configuration

Settings that do not depend on a connection. Every one but the database has a default.
-/
namespace DocQuery

def Engine.table : List (String × Engine) := Engine.all.map fun e => (e.name, e)

structure StoreConfig where
  database : String
  engine : Engine := .base
  defaultPageLimit : UInt64 := 25
  vectorIndex : Option String := some "vector_index"
  vectorPath : String := "keywordsVector"
  vectorSimilarity : Option Similarity := some .cosine
  minVectorCandidates : UInt32 := 50
  deriving DecidableEq, Repr

namespace StoreConfig

def ofDatabase (database : String) : StoreConfig := { database }

def renderer (c : StoreConfig) : Renderer :=
  match c.engine with
  | .base => .base
  | .atlas => .atlas c.vectorIndex
  | .cosmos => .cosmos

def validate (c : StoreConfig) : Except ConfigFault Unit :=
  if c.database.toList.all Unicode.isBlank then .error .emptyDatabase
  else if c.defaultPageLimit = 0 then .error .zeroPageLimit
  else if c.minVectorCandidates = 0 then .error .zeroVectorCandidates
  else if c.vectorPath.isEmpty then .error .emptyVectorPath
  else if c.vectorIndex = some "" then .error .emptyVectorIndex
  else .ok ()

private def orNull : Option String → Json
  | some s => .string s
  | none => .null

def toJson (c : StoreConfig) : Json :=
  .object [("database", .string c.database), ("engine", .string c.engine.name),
    ("default_page_limit", .uint64 c.defaultPageLimit), ("vector_index", orNull c.vectorIndex),
    ("vector_path", .string c.vectorPath),
    ("vector_similarity", orNull (c.vectorSimilarity.map Similarity.name)),
    ("min_vector_candidates", .nat c.minVectorCandidates.toNat)]

def recordType : String := "struct StoreConfig"

def memberNames : List String :=
  ["database", "engine", "default_page_limit", "vector_index", "vector_path",
    "vector_similarity", "min_vector_candidates"]

def decodeEngine : Json → Decoded Engine := Decode.choice .direct Engine.table

def decodeSimilarity : Json → Decoded (Option Similarity) :=
  Decode.optional (Similarity.decode .direct)

def decode : Json → Decoded StoreConfig :=
  Record.decode .direct recordType
    [("database", Record.check Decode.string), ("engine", Record.check decodeEngine),
      ("default_page_limit", Record.check Decode.uint64),
      ("vector_index", Record.check (Decode.optional Decode.string)),
      ("vector_path", Record.check Decode.string),
      ("vector_similarity", Record.check decodeSimilarity),
      ("min_vector_candidates", Record.check Decode.uint32)]
    fun r => do
      let base := ofDatabase (← r.required "database" Decode.string)
      return { base with
        engine := ← r.withDefault "engine" base.engine decodeEngine
        defaultPageLimit := ← r.withDefault "default_page_limit" base.defaultPageLimit Decode.uint64
        vectorIndex :=
          ← r.withDefault "vector_index" base.vectorIndex (Decode.optional Decode.string)
        vectorPath := ← r.withDefault "vector_path" base.vectorPath Decode.string
        vectorSimilarity :=
          ← r.withDefault "vector_similarity" base.vectorSimilarity decodeSimilarity
        minVectorCandidates :=
          ← r.withDefault "min_vector_candidates" base.minVectorCandidates Decode.uint32 }

end StoreConfig
end DocQuery
