import DocQuery.Eval.Pattern
import DocQuery.Regex.Match
import DocQuery.Regex.Parser

/-!
# The engine of these patterns

It knows all of the syntax of patterns but the Unicode classes, such as `\pL`, which it takes for
faults.
-/
namespace DocQuery.Regex

def compile (pattern : String) : Except String (String → Bool) :=
  match parse? pattern with
  | some p => .ok (isMatch p)
  | none => .error "the pattern is malformed, too large or has a Unicode class"

instance engine : PatternEngine := ⟨compile⟩

end DocQuery.Regex
