import DocQuery.Native.Element
import DocQuery.Proofs.Query.Compilation
import DocQuery.Regex.Engine

/-!
# The value of a quoted literal

In a condition on elements a literal is quoted wherever it would be read as a path or an operator,
at any depth. Its value is the same on every document, and it is the literal itself unless something
was quoted inside an object: objects are not evaluated member by member, so such a quotation stays.
-/
namespace DocQuery
open Eval Native

namespace Json

/-- A string or a key, at any depth, starts with a dollar sign. -/
inductive HasDollar : Json → Prop where
  | string {s : String} (h : startsWithDollar s = true) : HasDollar (.string s)
  | item {items : List Json} {v : Json} (hmem : v ∈ items) (h : HasDollar v) :
      HasDollar (.array items)
  | key {members : Members} {m : String × Json} (hmem : m ∈ members)
      (h : startsWithDollar m.1 = true) : HasDollar (.object members)
  | value {members : Members} {m : String × Json} (hmem : m ∈ members) (h : HasDollar m.2) :
      HasDollar (.object members)

/-- Behind the keys of an object, none of which starts with a dollar sign, a string or a key does.
The object is the value itself or an item of lists in it. -/
inductive Buries : Json → Prop where
  | item {items : List Json} {v : Json} (hmem : v ∈ items) (h : Buries v) : Buries (.array items)
  | value {members : Members} {m : String × Json}
      (hkeys : ∀ m ∈ members, startsWithDollar m.1 = false) (hmem : m ∈ members)
      (h : HasDollar m.2) : Buries (.object members)

variable {s : String} {items : List Json} {members : Members}

theorem hasDollar_string : (string s).HasDollar ↔ startsWithDollar s = true := by
  constructor
  · rintro ⟨h⟩
    assumption
  · exact .string

theorem hasDollar_array : (array items).HasDollar ↔ ∃ v ∈ items, v.HasDollar := by
  constructor
  · rintro (_ | ⟨hmem, h⟩)
    exact ⟨_, hmem, h⟩
  · rintro ⟨v, hmem, h⟩
    exact .item hmem h

theorem hasDollar_object : (object members).HasDollar ↔
    (∃ m ∈ members, startsWithDollar m.1 = true) ∨ ∃ m ∈ members, m.2.HasDollar := by
  constructor
  · rintro (_ | _ | ⟨hmem, h⟩ | ⟨hmem, h⟩)
    · exact .inl ⟨_, hmem, h⟩
    · exact .inr ⟨_, hmem, h⟩
  · rintro (⟨m, hmem, h⟩ | ⟨m, hmem, h⟩)
    · exact .key hmem h
    · exact .value hmem h

theorem buries_array : (array items).Buries ↔ ∃ v ∈ items, v.Buries := by
  constructor
  · rintro ⟨hmem, h⟩
    exact ⟨_, hmem, h⟩
  · rintro ⟨v, hmem, h⟩
    exact .item hmem h

theorem buries_object : (object members).Buries ↔
    (∀ m ∈ members, startsWithDollar m.1 = false) ∧ ∃ m ∈ members, m.2.HasDollar := by
  constructor
  · rintro (_ | ⟨hkeys, hmem, h⟩)
    exact ⟨hkeys, _, hmem, h⟩
  · rintro ⟨hkeys, m, hmem, h⟩
    exact .value hkeys hmem h

end Json

namespace Native

mutual

theorem quoted_eq_self_iff : ∀ v : Json, quoted v = v ↔ ¬ v.HasDollar
  | .string s => by
    rw [quoted, Json.hasDollar_string]
    cases startsWithDollar s <;> simp [Json.single]
  | .array items => by
    rw [quoted, Json.hasDollar_array, Json.array.injEq, quotedAll_eq_self_iff]
    simp
  | .object members => by
    rw [quoted, Json.hasDollar_object]
    by_cases hkeys : ∃ m ∈ members, startsWithDollar m.1 = true
    · have hany : (members.any fun m => startsWithDollar m.1) = true := List.any_eq_true.mpr hkeys
      rw [if_pos hany]
      refine iff_of_false (fun heq => ?_) (not_not_intro (.inl hkeys))
      have hsize := congrArg sizeOf heq
      simp only [Json.single, Json.object.sizeOf_spec, List.cons.sizeOf_spec,
        Prod.mk.sizeOf_spec] at hsize
      omega
    · have hany : ¬ (members.any fun m => startsWithDollar m.1) = true :=
        fun hany => hkeys (List.any_eq_true.mp hany)
      rw [if_neg hany, Json.object.injEq, quotedMembers_eq_self_iff]
      simp [hkeys]
  | .null | .bool _ | .number _ => iff_of_true rfl nofun

theorem quotedAll_eq_self_iff : ∀ vs : List Json, quotedAll vs = vs ↔ ∀ v ∈ vs, ¬ v.HasDollar
  | [] => by simp [quotedAll]
  | v :: rest => by
    rw [quotedAll, List.cons.injEq, quoted_eq_self_iff v, quotedAll_eq_self_iff rest,
      List.forall_mem_cons]

theorem quotedMembers_eq_self_iff :
    ∀ ms : Members, quotedMembers ms = ms ↔ ∀ m ∈ ms, ¬ m.2.HasDollar
  | [] => by simp [quotedMembers]
  | (k, v) :: rest => by
    rw [quotedMembers, List.cons.injEq, Prod.mk.injEq, quoted_eq_self_iff v,
      quotedMembers_eq_self_iff rest, List.forall_mem_cons]
    simp

end

mutual

/-- The value of a quoted literal: an object is left as it was quoted. -/
def literalValue : Json → Json
  | .array items => .array (literalValues items)
  | .object members =>
    if members.any fun m => startsWithDollar m.1 then .object members
    else .object (quotedMembers members)
  | v => v

def literalValues : List Json → List Json
  | [] => []
  | v :: rest => literalValue v :: literalValues rest

end

theorem keys_quotedMembers (members : Members) :
    (quotedMembers members).map Prod.fst = members.map Prod.fst := by
  induction members with
  | nil => rfl
  | cons m rest ih =>
    obtain ⟨k, v⟩ := m
    rw [quotedMembers, List.map_cons, List.map_cons, ih]

mutual

theorem literalValue_eq_self_iff : ∀ v : Json, literalValue v = v ↔ ¬ v.Buries
  | .array items => by
    rw [literalValue, Json.buries_array, Json.array.injEq, literalValues_eq_self_iff]
    simp
  | .object members => by
    rw [literalValue, Json.buries_object]
    by_cases hany : (members.any fun m => startsWithDollar m.1) = true
    · obtain ⟨m, hm, hdollar⟩ := List.any_eq_true.mp hany
      rw [if_pos hany]
      refine iff_of_true rfl fun h => ?_
      rw [h.1 m hm] at hdollar
      cases hdollar
    · have hkeys : ∀ m ∈ members, startsWithDollar m.1 = false := by simpa using hany
      rw [if_neg hany, Json.object.injEq, quotedMembers_eq_self_iff, and_iff_right hkeys]
      simp
  | .null | .bool _ | .number _ | .string _ => iff_of_true rfl nofun

theorem literalValues_eq_self_iff : ∀ vs : List Json, literalValues vs = vs ↔ ∀ v ∈ vs, ¬ v.Buries
  | [] => by simp [literalValues]
  | v :: rest => by
    rw [literalValues, List.cons.injEq, literalValue_eq_self_iff v, literalValues_eq_self_iff rest,
      List.forall_mem_cons]

end

section

variable [PatternEngine]

theorem evaluate_quotation (d v : Json) : evaluate d (.single "$literal" v) = .ok v := by
  have hop : isOperatorDocument (.single "$literal" v) = true :=
    isOperatorDocument_single (by decide) (by decide) v
  simp only [Json.single] at hop ⊢
  rw [evaluate, if_pos hop, if_pos rfl]

theorem evaluate_text (d : Json) {s : String} (h : startsWithDollar s = false) :
    evaluate d (.string s) = .ok (.string s) := by
  rw [evaluate, evaluateString]
  split
  · next path heq => simp [startsWithDollar, heq] at h
  · next path heq => simp [startsWithDollar, heq] at h
  · rfl

theorem evaluate_object (d : Json) {members : Members}
    (h : ∀ m ∈ members, startsWithDollar m.1 = false) :
    evaluate d (.object members) = .ok (.object members) := by
  cases members with
  | nil => rfl
  | cons m rest =>
    obtain ⟨k, v⟩ := m
    cases rest with
    | nil =>
      have hkey : startsWithDollar k = false := h _ (List.mem_singleton_self _)
      have hop : ¬ isOperatorDocument (.object [(k, v)]) = true := by
        simp [isOperatorDocument, hkey]
      rw [evaluate, if_neg hop]
    | cons m' rest => rfl

mutual

theorem evaluate_quoted (d : Json) : ∀ v : Json, evaluate d (quoted v) = .ok (literalValue v)
  | .string s => by
    rw [quoted]
    cases h : startsWithDollar s with
    | true => exact evaluate_quotation d (.string s)
    | false => exact evaluate_text d h
  | .array items => by
    rw [quoted, evaluate, evaluateAll_quotedAll, literalValue]
    rfl
  | .object members => by
    rw [quoted, literalValue]
    by_cases hany : (members.any fun m => startsWithDollar m.1) = true
    · rw [if_pos hany, if_pos hany]
      exact evaluate_quotation d _
    · rw [if_neg hany, if_neg hany]
      refine evaluate_object d fun m hm => ?_
      have hkey : m.1 ∈ members.map Prod.fst :=
        keys_quotedMembers members ▸ List.mem_map_of_mem hm
      obtain ⟨m', hm', hfst⟩ := List.mem_map.mp hkey
      rw [← hfst]
      simpa using List.any_eq_false.mp (Bool.eq_false_iff.mpr hany) m' hm'
  | .null | .bool _ | .number _ => rfl

theorem evaluateAll_quotedAll (d : Json) :
    ∀ vs : List Json, evaluateAll d (quotedAll vs) = .ok (literalValues vs)
  | [] => rfl
  | v :: rest => by
    rw [quotedAll, evaluateAll, evaluate_quoted d v, evaluateAll_quotedAll d rest, literalValues]
    rfl

end

theorem evaluate_quoted_of_not_buries (d : Json) {v : Json} (h : ¬ v.Buries) :
    evaluate d (quoted v) = .ok v := by
  rw [evaluate_quoted, (literalValue_eq_self_iff v).mpr h]

/-- A quoted literal has a value on every document, and the same on each. It is the literal just if
nothing was quoted inside an object. -/
theorem evaluate_quoted_literal (v : Json) :
    ∃ value, (∀ d, evaluate d (quoted v) = .ok value) ∧ (value = v ↔ ¬ v.Buries) :=
  ⟨literalValue v, fun d => evaluate_quoted d v, literalValue_eq_self_iff v⟩

end

/-- The quotation of a string inside an object is still there in the value. -/
theorem exists_quotation_left : ¬ ∀ v d : Json, evaluate d (quoted v) = .ok v := by
  intro h
  have hvalue := Except.ok.inj ((evaluate_quoted .null _).symm.trans
    (h (.single "tag" (.string "$x")) .null))
  have htag := congrArg (fun v => ((v.get? "tag").bind Json.asString?).isSome) hvalue
  revert htag
  decide

end Native
end DocQuery
