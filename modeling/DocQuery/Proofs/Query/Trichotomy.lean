import Mathlib.Logic.ExistsUnique
import DocQuery.Proofs.Query.Isolation
import DocQuery.Regex.Engine

/-!
# Equality and ranges

Ranges compare what two values stand for: numbers as doubles, native identifiers by their bytes.
Equality compares the values as they are written. The two agree on values of one kind, except where
one number or identifier is written in two forms: neither form lies before the other, and they are
not equal either.
-/
namespace DocQuery
open Eval Native

namespace Json

/-- Two numbers, two strings, two truth values or two native identifiers. -/
inductive Comparable : Json → Json → Prop where
  | number (m n : Number) : Comparable (.number m) (.number n)
  | string (s t : String) : Comparable (.string s) (.string t)
  | bool (a b : Bool) : Comparable (.bool a) (.bool b)
  | id {x v : Json} {a b : ObjectId} (hx : ObjectId.ofWire? x = some a)
      (hv : ObjectId.ofWire? v = some b) : Comparable x v

/-- Two forms of one number, or of one native identifier. -/
inductive TwoForms : Json → Json → Prop where
  | number {m n : Number} (hvalue : m.toDouble.toInt = n.toDouble.toInt)
      (hform : m.same n = false) : TwoForms (.number m) (.number n)
  | id {id : ObjectId} {s t : String} (hs : ObjectId.parse? s = some id)
      (ht : ObjectId.parse? t = some id) (hform : s ≠ t) :
      TwoForms (.single ObjectId.wireKey (.string s)) (.single ObjectId.wireKey (.string t))

variable {x v : Json}

theorem same_wire (key s t : String) :
    (single key (string s) == single key (string t)) = (s == t) := by
  change same _ _ = _
  simp [single, same, sameMembers]

theorem compare?_wire {a b : ObjectId} (hx : ObjectId.ofWire? x = some a)
    (hv : ObjectId.ofWire? v = some b) : x.compare? v = some (a.order b) := by
  rw [compare?.eq_def, hx, hv]

theorem Comparable.isArray (h : x.Comparable v) : x.isArray = false ∧ v.isArray = false := by
  cases h with
  | id hx hv =>
    obtain ⟨s, rfl, -⟩ := ObjectId.ofWire?_eq_some_iff.mp hx
    obtain ⟨t, rfl, -⟩ := ObjectId.ofWire?_eq_some_iff.mp hv
    exact ⟨rfl, rfl⟩
  | _ => exact ⟨rfl, rfl⟩

theorem Comparable.exists_order (h : x.Comparable v) : ∃ o, x.compare? v = some o := by
  cases h with
  | number m n => exact ⟨m.order n, rfl⟩
  | string s t => exact ⟨compare s t, rfl⟩
  | bool a b => exact ⟨compare a b, rfl⟩
  | id hx hv => exact ⟨_, compare?_wire hx hv⟩

end Json

theorem Number.order_eq_iff {m n : Number} :
    m.order n = .eq ↔ m.toDouble.toInt = n.toDouble.toInt := by
  rw [order, Std.LawfulEqCmp.compare_eq_iff_eq]

theorem Number.order_of_same {m n : Number} (h : m.same n = true) : m.order n = .eq := by
  rw [order_eq_iff]
  cases m with
  | int i =>
    cases n with
    | int j =>
      have hij : i = j := beq_iff_eq.mp h
      rw [hij]
    | float y => cases h
  | float x =>
    cases n with
    | int j => cases h
    | float y => exact beq_iff_eq.mp h

namespace Json

variable {x v : Json}

theorem Comparable.compare?_of_equal (h : x.Comparable v) (heq : (x == v) = true) :
    x.compare? v = some .eq := by
  cases h with
  | number m n => exact congrArg some (Number.order_of_same heq)
  | string s t =>
    have hst : s = t := beq_iff_eq.mp heq
    exact congrArg some (Std.LawfulEqCmp.compare_eq_iff_eq.mpr hst)
  | bool a b =>
    have hab : a = b := beq_iff_eq.mp heq
    exact congrArg some (Std.LawfulEqCmp.compare_eq_iff_eq.mpr hab)
  | id hx hv =>
    obtain ⟨s, rfl, -⟩ := ObjectId.ofWire?_eq_some_iff.mp hx
    obtain ⟨t, rfl, -⟩ := ObjectId.ofWire?_eq_some_iff.mp hv
    rw [same_wire, beq_iff_eq] at heq
    subst heq
    rw [compare?_wire hx hv, ObjectId.order_eq_iff.mpr (Option.some.inj (hx.symm.trans hv))]

/-- Two values lie at one place of the order without being equal just if they are two forms of one
value. -/
theorem Comparable.twoForms_iff (h : x.Comparable v) :
    x.TwoForms v ↔ x.compare? v = some .eq ∧ (x == v) = false := by
  constructor
  · rintro (⟨hvalue, hform⟩ | ⟨hs, ht, hform⟩)
    · exact ⟨congrArg some (Number.order_eq_iff.mpr hvalue), hform⟩
    · rw [same_wire, beq_eq_false_iff_ne,
        compare?_wire (ObjectId.ofWire?_eq_some_iff.mpr ⟨_, rfl, hs⟩)
          (ObjectId.ofWire?_eq_some_iff.mpr ⟨_, rfl, ht⟩), ObjectId.order_eq_iff.mpr rfl]
      exact ⟨rfl, hform⟩
  · rintro ⟨horder, hform⟩
    cases h with
    | number m n => exact .number (Number.order_eq_iff.mp (Option.some.inj horder)) hform
    | string s t =>
      have hst : s = t := Std.LawfulEqCmp.compare_eq_iff_eq.mp (Option.some.inj horder)
      exact absurd hst (beq_eq_false_iff_ne.mp hform)
    | bool a b =>
      have hab : a = b := Std.LawfulEqCmp.compare_eq_iff_eq.mp (Option.some.inj horder)
      exact absurd hab (beq_eq_false_iff_ne.mp hform)
    | id hx hv =>
      rw [compare?_wire hx hv, Option.some.injEq, ObjectId.order_eq_iff] at horder
      subst horder
      obtain ⟨s, rfl, hs⟩ := ObjectId.ofWire?_eq_some_iff.mp hx
      obtain ⟨t, rfl, ht⟩ := ObjectId.ofWire?_eq_some_iff.mp hv
      rw [same_wire, beq_eq_false_iff_ne] at hform
      exact .id hs ht hform

def comparisonOf : Ordering → ConditionKind
  | .lt => .lessThan
  | .eq => .equals
  | .gt => .greaterThan

theorem equalsOrContains_of_isArray (hx : x.isArray = false) :
    equalsOrContains (some x) v = (x == v) := by
  cases x with
  | array items => cases hx
  | _ => exact Bool.or_false _

theorem inRange_of_isArray (hx : x.isArray = false) (accept : Ordering → Bool) :
    inRange accept (some x) v = (x.compare? v).any accept := by
  cases x with
  | array items => cases hx
  | _ => rfl

section

variable [PatternEngine]

def Matches (d : Json) (field : String) (kind : ConditionKind) (v : Json) : Prop :=
  satisfies d (.single field (.single kind.operator v)) = .ok true

/-- Equality and the ranges agree: the value of a field lies before a literal, equals it or lies
behind it, and never two of these. -/
structure Trichotomy (d : Json) (field : String) (v : Json) : Prop where
  one : ∃! o, d.Matches field (comparisonOf o) v
  atMost : d.Matches field .lessThanOrEqual v ↔
    d.Matches field .lessThan v ∨ d.Matches field .equals v
  atLeast : d.Matches field .greaterThanOrEqual v ↔
    d.Matches field .greaterThan v ∨ d.Matches field .equals v

variable {d : Json} {field : String} {kind : ConditionKind} {o : Ordering}

theorem matches_iff_compares (hfield : startsWithDollar field = false)
    (hx : d.resolve field = some x) :
    d.Matches field kind v ↔ compares kind (some x) v = .ok true := by
  rw [Matches, satisfies_comparison d hfield, hx]

theorem compares_of_order (h : x.Comparable v) (ho : x.compare? v = some o) :
    compares .lessThan (some x) v = .ok (o == .lt) ∧
      compares .equals (some x) v = .ok (x == v) ∧
      compares .greaterThan (some x) v = .ok (o == .gt) ∧
      compares .lessThanOrEqual (some x) v = .ok (o != .gt) ∧
      compares .greaterThanOrEqual (some x) v = .ok (o != .lt) := by
  have hequals : equalsOrContains (some x) v = (x == v) := equalsOrContains_of_isArray h.isArray.1
  have hrange : ∀ accept, inRange accept (some x) v = accept o := by
    intro accept
    rw [inRange_of_isArray h.isArray.1, ho, Option.any_some]
  simp only [compares, hrange, hequals, and_self]

/-- Where equal values are just those at one place of the order, equality and the ranges agree. -/
theorem trichotomy_of_order (hfield : startsWithDollar field = false)
    (hx : d.resolve field = some x) (h : x.Comparable v) (ho : x.compare? v = some o)
    (heq : (x == v) = true ↔ o = .eq) : d.Trichotomy field v := by
  obtain ⟨hlt, hequals, hgt, hle, hge⟩ := compares_of_order h ho
  have hone : ∀ p, d.Matches field (comparisonOf p) v ↔ o = p := by
    intro p
    rw [matches_iff_compares hfield hx]
    cases p with
    | lt => simp [comparisonOf, hlt]
    | eq => simp [comparisonOf, hequals, heq]
    | gt => simp [comparisonOf, hgt]
  have hbefore : d.Matches field .lessThan v ↔ o = .lt := hone .lt
  have hequal : d.Matches field .equals v ↔ o = .eq := hone .eq
  have hbehind : d.Matches field .greaterThan v ↔ o = .gt := hone .gt
  refine ⟨⟨o, (hone o).mpr rfl, fun p hp => ((hone p).mp hp).symm⟩, ?_, ?_⟩
  · rw [hbefore, hequal, matches_iff_compares hfield hx, hle]
    cases o <;> simp
  · rw [hbehind, hequal, matches_iff_compares hfield hx, hge]
    cases o <;> simp

theorem not_matches (hfield : startsWithDollar field = true) (hv : v.isArray = false)
    (hkind : kind.accepts v = true) : ¬ d.Matches field kind v := by
  have hnamed : field ≠ "" := by
    rintro rfl
    exact absurd hfield (by decide)
  have hid : (Field.mk field none).isId = false := by
    rw [Field.isId, beq_eq_false_iff_ne]
    rintro rfl
    exact absurd hfield (by decide)
  have hvalid : Condition.validate ⟨kind, ⟨field, none⟩, .literal v⟩ = .ok () := by
    simp [Condition.validate, hnamed, hkind]
  have hexecuted : Condition.executed ⟨kind, ⟨field, none⟩, .literal v⟩ = [] := by
    cases v with
    | array items => cases hv
    | _ => exact ite_self _
  have hliteral : filterLiteral kind ⟨field, none⟩ v = v := by
    cases kind <;> simp [filterLiteral, hid]
  have hcompiled : filterOfCondition ⟨kind, ⟨field, none⟩, .literal v⟩ =
      .ok (.single field (.single kind.operator v)) :=
    congrArg (fun w => Except.ok (single field (single kind.operator w))) hliteral
  obtain ⟨fault, hfault⟩ :=
    faults_filterOfCondition hvalid (.inl hfield) hexecuted hcompiled
  rw [Matches, hfault]
  intro hmatch
  cases hmatch

theorem Trichotomy.startsWithDollar_eq_false (htri : d.Trichotomy field v)
    (hv : v.isArray = false) : startsWithDollar field = false := by
  obtain ⟨o, hmatch, -⟩ := htri.one
  have haccepts : (comparisonOf o).accepts v = true := by
    cases o <;> simp [comparisonOf, ConditionKind.accepts, hv]
  exact Bool.of_not_eq_true fun hdollar => not_matches hdollar hv haccepts hmatch

/-- Two forms of one value match none of the three filters. -/
theorem Trichotomy.not_twoForms (htri : d.Trichotomy field v)
    (hfield : startsWithDollar field = false) (hx : d.resolve field = some x)
    (h : x.Comparable v) : ¬ x.TwoForms v := by
  intro hforms
  obtain ⟨horder, hform⟩ := h.twoForms_iff.mp hforms
  obtain ⟨hlt, hequals, hgt, -, -⟩ := compares_of_order h horder
  obtain ⟨o, hmatch, -⟩ := htri.one
  rw [matches_iff_compares hfield hx] at hmatch
  cases o with
  | lt => cases hlt.symm.trans hmatch
  | eq =>
    rw [comparisonOf, hequals, hform] at hmatch
    cases hmatch
  | gt => cases hgt.symm.trans hmatch

/-- Equality and the ranges agree on two values of one kind just if they are not two forms of one
value, and the name of the field has no dollar sign in front. -/
theorem trichotomy_iff (hx : d.resolve field = some x) (h : x.Comparable v) :
    d.Trichotomy field v ↔ startsWithDollar field = false ∧ ¬ x.TwoForms v := by
  constructor
  · intro htri
    have hfield := htri.startsWithDollar_eq_false h.isArray.2
    exact ⟨hfield, htri.not_twoForms hfield hx h⟩
  · rintro ⟨hfield, hforms⟩
    obtain ⟨o, ho⟩ := h.exists_order
    refine trichotomy_of_order hfield hx h ho ⟨fun heq => ?_, fun horder => ?_⟩
    · exact Option.some.inj (ho.symm.trans (h.compare?_of_equal heq))
    · refine Bool.of_not_eq_false fun hform => hforms (h.twoForms_iff.mpr ⟨?_, hform⟩)
      rw [ho, horder]

end

/-- Two identifiers that differ in their last digit, one of them in upper case. -/
theorem trichotomy_iff_ids :
    let x := single "$oid" (string "507F1F77BCF86CD799439011")
    let v := single "$oid" (string "507f1f77bcf86cd799439012")
    let d := object [("_id", int 1), ("meta", single "ref" x)]
    d.resolve "meta.ref" = some x ∧ x.Comparable v ∧ d.Trichotomy "meta.ref" v := by
  intro x v d
  obtain ⟨a, ha⟩ := Option.isSome_iff_exists.mp (by decide : (ObjectId.ofWire? x).isSome = true)
  obtain ⟨b, hb⟩ := Option.isSome_iff_exists.mp (by decide : (ObjectId.ofWire? v).isSome = true)
  have hx : d.resolve "meta.ref" = some x := by rfl
  have h : x.Comparable v := .id ha hb
  have horder : x.compare? v ≠ some .eq := by decide
  refine ⟨hx, h, (trichotomy_iff hx h).mpr ⟨by decide, fun hforms => ?_⟩⟩
  exact horder (h.twoForms_iff.mp hforms).1

/-- One identifier in upper and in lower case lies neither before nor behind itself, and the two are
not equal. -/
theorem exists_not_trichotomy : ¬ ∀ (d : Json) (field : String) (x v : Json),
    d.resolve field = some x → x.Comparable v → d.Trichotomy field v := by
  intro hall
  let upper := "507F1F77BCF86CD799439011"
  let lower := "507f1f77bcf86cd799439011"
  have hsame : ObjectId.parse? upper = ObjectId.parse? lower := by decide
  obtain ⟨id, hid⟩ :=
    Option.isSome_iff_exists.mp (by decide : (ObjectId.parse? lower).isSome = true)
  have hforms : TwoForms (single "$oid" (string upper)) (single "$oid" (string lower)) :=
    .id (hsame.trans hid) hid (by decide)
  have h : Comparable (single "$oid" (string upper)) (single "$oid" (string lower)) :=
    .id (ObjectId.ofWire?_eq_some_iff.mpr ⟨upper, rfl, hsame.trans hid⟩)
      (ObjectId.ofWire?_eq_some_iff.mpr ⟨lower, rfl, hid⟩)
  have hx : (single "f" (single "$oid" (string upper))).resolve "f" =
    some (single "$oid" (string upper)) := by rfl
  exact (hall _ _ _ _ hx h).not_twoForms (by decide) hx h hforms

end Json

end DocQuery
