import DocQuery.Component

/-!
# Text embedding

An embedder turns a text into a query vector, or fails.
-/
namespace DocQuery

inductive EmbeddingError where
  | unavailable (reason : String)
  | emptyInput
  | emptyVector
  deriving DecidableEq, Repr

def EmbeddingError.message : EmbeddingError → String
  | .unavailable reason => "Embedding service unavailable: " ++ reason
  | .emptyInput => "Cannot embed empty text"
  | .emptyVector => "Embedding service returned an empty vector"

abbrev Embedder := String → Except EmbeddingError (List Component)

end DocQuery
