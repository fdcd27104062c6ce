import DocQuery.Json

/-!
# Paths into documents

A path names a member by the keys on the way to it, with a dot between them. It never looks inside
lists.
-/
namespace DocQuery

namespace Path

/-- The parts between the dots; a text without a dot is one part. -/
def split : List Char → List (List Char)
  | [] => [[]]
  | c :: cs =>
    if c = '.' then [] :: split cs
    else
      match split cs with
      | [] => [[c]]
      | part :: rest => (c :: part) :: rest

def keys (path : String) : List String := (split path.toList).map String.ofList

end Path

def Json.resolve (document : Json) (path : String) : Option Json :=
  (Path.keys path).foldlM (fun (current : Json) key => current.get? key) document

end DocQuery
