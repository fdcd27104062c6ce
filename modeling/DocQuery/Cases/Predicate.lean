import DocQuery.Decode.Basic
import DocQuery.Unicode.Blank

/-!
# What a case search asks for

Every part is optional; the two parts of the page are needed to search at all.
-/
namespace DocQuery

structure UserReference where
  id : String
  name : String
  deriving DecidableEq, Repr

namespace UserReference

def toJson (u : UserReference) : Json := .object [("id", .string u.id), ("name", .string u.name)]

def decode : Json → Decoded UserReference :=
  Record.decode .direct "struct UserReference"
    [("id", Record.check Decode.string), ("name", Record.check Decode.string)]
    fun r => do
      return { id := ← r.required "id" Decode.string, name := ← r.required "name" Decode.string }

end UserReference

structure CasesSearchPredicate where
  caseNumber : Option String := none
  caseIds : Option (List String) := none
  chapters : Option (List String) := none
  divisionCodes : Option (List String) := none
  excludeMemberConsolidations : Option Bool := none
  excludedCaseIds : Option (List String) := none
  excludeClosedCases : Option Bool := none
  includeOnlyUnassigned : Option Bool := none
  assignments : Option (List UserReference) := none
  /-- Free text to search names for. -/
  name : Option String := none
  limit : Option UInt64 := none
  offset : Option UInt64 := none
  deriving DecidableEq, Repr

def nonEmpty? {α : Type} (items : Option (List α)) : Option (List α) :=
  items.filter fun list => !list.isEmpty

namespace CasesSearchPredicate

/-- The offset and the limit, if both are there and the limit is positive. -/
def page? (p : CasesSearchPredicate) : Option (UInt64 × UInt64) :=
  match p.offset, p.limit with
  | some offset, some limit => if 0 < limit then some (offset, limit) else none
  | _, _ => none

private def trimmed (s : String) : String :=
  String.ofList (((s.toList.dropWhile Unicode.isBlank).reverse.dropWhile Unicode.isBlank).reverse)

/-- The name to search for without the blanks around it, unless nothing is left. -/
def searchName? (p : CasesSearchPredicate) : Option String :=
  (p.name.map trimmed).filter fun name => !name.isEmpty

private def orNull {α : Type} (toJson : α → Json) : Option α → Json
  | some a => toJson a
  | none => .null

def toJson (p : CasesSearchPredicate) : Json :=
  .object [("caseNumber", orNull Json.string p.caseNumber),
    ("caseIds", orNull Json.strings p.caseIds), ("chapters", orNull Json.strings p.chapters),
    ("divisionCodes", orNull Json.strings p.divisionCodes),
    ("excludeMemberConsolidations", orNull Json.bool p.excludeMemberConsolidations),
    ("excludedCaseIds", orNull Json.strings p.excludedCaseIds),
    ("excludeClosedCases", orNull Json.bool p.excludeClosedCases),
    ("includeOnlyUnassigned", orNull Json.bool p.includeOnlyUnassigned),
    ("assignments", orNull (fun us => .array (us.map UserReference.toJson)) p.assignments),
    ("name", orNull Json.string p.name), ("limit", orNull Json.uint64 p.limit),
    ("offset", orNull Json.uint64 p.offset)]

private def texts : Json → Decoded (List String) := Decode.list Decode.string

private def users : Json → Decoded (List UserReference) := Decode.list UserReference.decode

def decode : Json → Decoded CasesSearchPredicate :=
  Record.decode .direct "struct CasesSearchPredicate"
    [("caseNumber", Record.check (Decode.optional Decode.string)),
      ("caseIds", Record.check (Decode.optional texts)),
      ("chapters", Record.check (Decode.optional texts)),
      ("divisionCodes", Record.check (Decode.optional texts)),
      ("excludeMemberConsolidations", Record.check (Decode.optional Decode.bool)),
      ("excludedCaseIds", Record.check (Decode.optional texts)),
      ("excludeClosedCases", Record.check (Decode.optional Decode.bool)),
      ("includeOnlyUnassigned", Record.check (Decode.optional Decode.bool)),
      ("assignments", Record.check (Decode.optional users)),
      ("name", Record.check (Decode.optional Decode.string)),
      ("limit", Record.check (Decode.optional Decode.uint64)),
      ("offset", Record.check (Decode.optional Decode.uint64))]
    fun r => do
      return { caseNumber := ← r.optional "caseNumber" Decode.string
               caseIds := ← r.optional "caseIds" texts
               chapters := ← r.optional "chapters" texts
               divisionCodes := ← r.optional "divisionCodes" texts
               excludeMemberConsolidations :=
                 ← r.optional "excludeMemberConsolidations" Decode.bool
               excludedCaseIds := ← r.optional "excludedCaseIds" texts
               excludeClosedCases := ← r.optional "excludeClosedCases" Decode.bool
               includeOnlyUnassigned := ← r.optional "includeOnlyUnassigned" Decode.bool
               assignments := ← r.optional "assignments" users
               name := ← r.optional "name" Decode.string
               limit := ← r.optional "limit" Decode.uint64
               offset := ← r.optional "offset" Decode.uint64 }

end CasesSearchPredicate
end DocQuery
