import DocQuery.Proofs.Path
import DocQuery.Proofs.Query.Trichotomy
import DocQuery.Regex.Engine

/-!
# Conditions on the internal identifier

A text in a condition on the internal identifier stands for the identifier that it is the text of,
in lists as well. So on a document with a native identifier such conditions compare identifiers,
whatever case the digits are written in.
-/
namespace DocQuery
open Eval Native

section

variable {source : Option String} {d literal : Json} {kind : ConditionKind} {o : ObjectId}
  {p : Prop}

theorem filterLiteral_internalId (hkind : kind ≠ .exists ∧ kind ≠ .regex) :
    filterLiteral kind ⟨internalId, source⟩ literal = coerceIds literal := by
  obtain ⟨hexists, hregex⟩ := hkind
  have hid : (Field.mk internalId source).isId = true := rfl
  cases kind <;> simp_all [filterLiteral]

theorem filter_internalId (hkind : kind ≠ .exists ∧ kind ≠ .regex)
    (haccepts : kind.accepts literal = true) :
    Native.filter (.condition ⟨kind, ⟨internalId, source⟩, .literal literal⟩) =
      .ok (.single internalId (.single kind.operator (coerceIds literal))) := by
  have hvalid : Condition.validate ⟨kind, ⟨internalId, source⟩, .literal literal⟩ = .ok () := by
    simp only [Condition.validate, haccepts, if_true]
    rfl
  have hexpr : Expr.validate (.condition ⟨kind, ⟨internalId, source⟩, .literal literal⟩) =
      .ok () := by
    rw [Expr.validate_eq_ok_iff, Expr.leaves, List.forall_mem_singleton]
    exact hvalid
  simp only [Native.filter, hexpr, filterOf, filterOfCondition, filterLiteral_internalId hkind]
  rfl

theorem coerceIds_text {s : String} {id : ObjectId} (h : ObjectId.parse? s = some id) :
    coerceIds (.string s) = id.toWire := by
  rw [coerceIds, h]

theorem coerceIds_other {s : String} (h : ObjectId.parse? s = none) :
    coerceIds (.string s) = .string s := by
  rw [coerceIds, h]

theorem coerceIdsAll_eq_map (items : List Json) : coerceIdsAll items = items.map coerceIds := by
  induction items with
  | nil => rfl
  | cons v rest ih => rw [coerceIdsAll, ih, List.map_cons]

theorem toWire_beq_toWire (a b : ObjectId) : (a.toWire == b.toWire) = true ↔ a = b := by
  rw [ObjectId.toWire, ObjectId.toWire, Json.same_wire, beq_iff_eq, ObjectId.hex_injective.eq_iff]

theorem equalsOrContains_coerceIds (o : ObjectId) (t : String) :
    equalsOrContains (some o.toWire) (coerceIds (.string t)) = true ↔
      ObjectId.parse? t = some o := by
  have hwire : o.toWire.isArray = false := rfl
  rw [Json.equalsOrContains_of_isArray hwire]
  cases ht : ObjectId.parse? t with
  | none =>
    rw [coerceIds_other ht]
    constructor
    · intro h
      cases h
    · rintro ⟨⟩
  | some id =>
    rw [coerceIds_text ht, toWire_beq_toWire, Option.some.injEq, eq_comm]

variable [PatternEngine]

/-- The condition on the internal identifier compiles, and its filter matches a document just if a
proposition holds; it never fails on it. -/
def TestsId (source : Option String) (d : Json) (kind : ConditionKind) (literal : Json)
    (p : Prop) : Prop :=
  ∃ filter matched,
    Native.filter (.condition ⟨kind, ⟨internalId, source⟩, .literal literal⟩) = .ok filter ∧
      satisfies d filter = .ok matched ∧ (matched = true ↔ p)

/-- A condition on the internal identifier is told by one comparison of it. -/
theorem testsId_of_compares {matched : Bool} (hkind : kind ≠ .exists ∧ kind ≠ .regex)
    (haccepts : kind.accepts literal = true) (hid : d.get? internalId = some o.toWire)
    (hcompares : compares kind (some o.toWire) (coerceIds literal) = .ok matched)
    (hmatched : matched = true ↔ p) : TestsId source d kind literal p := by
  have hresolve : d.resolve internalId = some o.toWire := by
    rw [Json.resolve_key (by decide), hid]
  refine ⟨_, matched, filter_internalId hkind haccepts, ?_, hmatched⟩
  rw [satisfies_comparison d (by decide), hresolve, hcompares]

theorem testsId_order (hid : d.get? internalId = some o.toWire) {s : String} {id : ObjectId}
    (hs : ObjectId.parse? s = some id) (relation : Ordering) :
    TestsId source d (Json.comparisonOf relation) (.string s) (o.order id = relation) := by
  have hwire : o.toWire.Comparable id.toWire :=
    .id (ObjectId.ofWire?_toWire o) (ObjectId.ofWire?_toWire id)
  have horder := Json.compare?_wire (ObjectId.ofWire?_toWire o) (ObjectId.ofWire?_toWire id)
  obtain ⟨hlt, heq, hgt, -, -⟩ := Json.compares_of_order hwire horder
  rw [← coerceIds_text hs] at hlt heq hgt
  cases relation with
  | lt => exact testsId_of_compares (by decide) rfl hid hlt beq_iff_eq
  | gt => exact testsId_of_compares (by decide) rfl hid hgt beq_iff_eq
  | eq =>
    refine testsId_of_compares (by decide) rfl hid heq ?_
    rw [coerceIds_text hs, toWire_beq_toWire, ObjectId.order_eq_iff]

theorem testsId_contains (hid : d.get? internalId = some o.toWire) (texts : List String) :
    TestsId source d .contains (Json.strings texts) (∃ t ∈ texts, ObjectId.parse? t = some o) := by
  have hcompares : compares .contains (some o.toWire) (coerceIds (Json.strings texts)) =
      .ok ((texts.map fun t => coerceIds (.string t)).any (equalsOrContains (some o.toWire))) := by
    rw [Json.strings, coerceIds, coerceIdsAll_eq_map, List.map_map]
    rfl
  refine testsId_of_compares (by decide) rfl hid hcompares ?_
  rw [List.any_map, List.any_eq_true]
  simp only [Function.comp_apply, equalsOrContains_coerceIds]

end

namespace ObjectId

/-- An identifier and its text determine one another. Every identifier is read back from its text
and from its wire form; the texts that are read are those of 24 hexadecimal digits, and the wire
forms those with such a text; and identifiers are in the order of their texts. So a condition with
such a text, on a document with a native identifier, compares that identifier with the one that the
text stands for, and a list of texts contains it just if one of them stands for it. -/
theorem determined_by_text [PatternEngine] (o : ObjectId) (s : String) :
    (parse? o.hex = some o ∧
      ((parse? s).isSome ↔ s.length = 24 ∧ ∀ c ∈ s.toList, Hex.IsDigit c) ∧
      ∀ id, parse? s = some id → id.hex = s.toLower) ∧
    (ofWire? o.toWire = some o ∧
      ∀ v id, ofWire? v = some id ↔
        ∃ t, v = .object [("$oid", .string t)] ∧ parse? t = some id) ∧
    (∀ id, o.order id = compare o.hex id.hex) ∧
    ∀ d source, d.get? "_id" = some o.toWire →
      (∀ id, parse? s = some id →
        TestsId source d .equals (.string s) (o = id) ∧
        TestsId source d .greaterThan (.string s) (o.order id = .gt) ∧
        TestsId source d .lessThan (.string s) (o.order id = .lt)) ∧
      ∀ texts, TestsId source d .contains (Json.strings texts)
        (∃ t ∈ texts, parse? t = some o) := by
  refine ⟨⟨parse?_hex o, parse?_isSome_iff s, fun id => hex_of_parse?⟩,
    ⟨ofWire?_toWire o, fun v id => ofWire?_eq_some_iff⟩, order_eq_compare_hex o, ?_⟩
  intro d source hid
  refine ⟨?_, testsId_contains hid⟩
  intro id hs
  have hequals : TestsId source d .equals (.string s) (o.order id = .eq) :=
    testsId_order hid hs .eq
  rw [order_eq_iff] at hequals
  exact ⟨hequals, testsId_order hid hs .gt, testsId_order hid hs .lt⟩

/-- A text in mixed case, of an identifier behind the one of the document, and a list with the
document's own identifier in upper case behind a text that is none. -/
theorem determined_by_text_mixed_case :
    let o := ofNat 0x507f1f77bcf86cd799439011
    let s := "507F1f77bCf86cd799439012"
    let d := Json.object [("status", .string "Open"), ("_id", o.toWire)]
    let texts := ["not an identifier", "507F1F77BCF86CD799439011"]
    ∃ id, parse? s = some id ∧ d.get? "_id" = some o.toWire ∧ id.hex = s.toLower ∧
      o.order id = .lt ∧ TestsId none d .lessThan (.string s) (o.order id = .lt) ∧
      parse? "507F1F77BCF86CD799439011" = some o ∧
      TestsId none d .contains (Json.strings texts) (∃ t ∈ texts, parse? t = some o) := by
  intro o s d texts
  have hs : parse? s = some (ofNat 0x507f1f77bcf86cd799439012) := by decide
  have hid : d.get? "_id" = some o.toWire := by rfl
  obtain ⟨⟨-, -, hhex⟩, -, -, hfilters⟩ := determined_by_text o s
  obtain ⟨hcomparisons, hcontains⟩ := hfilters d none hid
  exact ⟨_, hs, hid, hhex _ hs, by decide, (hcomparisons _ hs).2.2, by decide, hcontains texts⟩

end ObjectId
end DocQuery
