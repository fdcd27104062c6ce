/-!
# Pattern engines

Texts are searched for patterns by an engine that is not part of this library: it makes a test of
texts from a pattern, or says why the pattern is none. All that is relied on of an engine is in
`LawfulPatternEngine`.
-/
namespace DocQuery

class PatternEngine where
  compile (pattern : String) : Except String (String → Bool)

namespace PatternEngine

/-- The characters that have a meaning of their own in a pattern, outside brackets. -/
def operators : List Char := [')', '|', '(', '[', '?', '*', '+', '{', '.', '^', '$', '\\']

def Plain (cs : List Char) : Prop := ∀ c ∈ cs, c ∉ operators

instance (cs : List Char) : Decidable (Plain cs) :=
  decidable_of_iff (cs.all fun c => !operators.contains c) (by simp [Plain])

def Accepts [PatternEngine] (pattern : String) : Prop := ∃ test, compile pattern = .ok test

end PatternEngine

open PatternEngine in
/-- A plain text behind the sign for the text start is a pattern, unless it is too long, and then
one of just the texts that begin with it. -/
class LawfulPatternEngine [PatternEngine] : Prop where
  accepts_start {beginning : String} :
    Plain beginning.toList → beginning.length ≤ 1024 → Accepts ("^" ++ beginning)
  test_start {beginning : String} {test : String → Bool} :
    Plain beginning.toList → compile ("^" ++ beginning) = .ok test →
      ∀ text, test text = beginning.toList.isPrefixOf text.toList

end DocQuery
