import DocQuery.Proofs.Query.Leaves

/-!
# Which expressions are accepted

Validation and the two compilers of expressions turn an expression down for one of its conditions
only, however deep it stands: validation for an ill-formed one, the compilers for an EXISTS
condition against a field.
-/
namespace DocQuery
open Native Outcome

def Field.Named (f : Field) : Prop := f.name ≠ ""

/-- The literals that a comparison takes. -/
def ConditionKind.Takes (v : Json) : ConditionKind → Prop
  | .contains | .notContains => ∃ items, v = .array items
  | .exists => ∃ flag, v = .bool flag
  | .regex => ∃ pattern, v = .string pattern
  | .greaterThan | .greaterThanOrEqual | .lessThan | .lessThanOrEqual => ∀ items, v ≠ .array items
  | .equals | .notEquals => True

/-- A condition with a named field on the left, and on the right a named field or a literal that its
comparison takes. -/
structure Condition.WellFormed (c : Condition) : Prop where
  left : c.left.Named
  field : ∀ f, c.right = .field f → f.Named
  literal : ∀ v, c.right = .literal v → c.kind.Takes v

def Expr.WellFormed (e : Expr) : Prop := ∀ c, e.HasLeaf c → c.WellFormed

theorem Field.isEmpty_name_iff (f : Field) : f.name.isEmpty = true ↔ ¬ f.Named := by
  simp [Named]

theorem ConditionKind.accepts_iff (kind : ConditionKind) (v : Json) :
    kind.accepts v = true ↔ kind.Takes v := by
  cases kind <;> cases v <;>
    simp [accepts, Takes, Json.isArray, Json.isBool, Json.isString]

theorem Condition.validate_iff (c : Condition) : c.validate = .ok () ↔ c.WellFormed := by
  obtain ⟨kind, left, right⟩ := c
  by_cases hleft : left.Named
  · have hname : left.name.isEmpty = false := by simpa [Field.Named] using hleft
    cases right with
    | field f =>
      have hright : validate ⟨kind, left, .field f⟩ = .ok () ↔ f.Named := by
        simp [validate, hname, Field.Named]
      rw [hright]
      exact ⟨fun hf => ⟨hleft, fun g hg => Operand.field.inj hg ▸ hf, nofun⟩,
        fun h => h.field f rfl⟩
    | literal v =>
      have hright : validate ⟨kind, left, .literal v⟩ = .ok () ↔ kind.Takes v := by
        rw [← ConditionKind.accepts_iff]
        cases hv : kind.accepts v <;> simp [validate, hname, hv]
      rw [hright]
      exact ⟨fun hv => ⟨hleft, nofun, fun w hw => Operand.literal.inj hw ▸ hv⟩,
        fun h => h.literal v rfl⟩
  · have hinvalid : validate ⟨kind, left, right⟩ = .error (.missingLeft kind) :=
      if_pos ((Field.isEmpty_name_iff left).mpr hleft)
    rw [hinvalid]
    exact ⟨nofun, fun h => absurd h.left hleft⟩

theorem Expr.validate_iff (e : Expr) : e.validate = .ok () ↔ e.WellFormed := by
  simp only [validate_eq_ok_iff, Condition.validate_iff, mem_leaves_iff, WellFormed]

def Condition.ExistsField (c : Condition) : Prop := c.kind = .exists ∧ ∃ f, c.right = .field f

def Expr.Supported (e : Expr) : Prop := ∀ c, e.HasLeaf c → ¬ c.ExistsField

def IsUnsupported (err : QueryError) : Prop :=
  ∃ context, err = .unsupportedCondition .exists context

namespace Native

theorem decides_filterOfCondition (c : Condition) :
    Decides (¬ c.ExistsField) IsUnsupported (filterOfCondition c) := by
  obtain ⟨kind, left, right⟩ := c
  cases right with
  | literal v => exact fun ⟨_, f, hf⟩ => nomatch hf
  | field f =>
    by_cases hkind : kind = .exists
    · subst hkind
      exact ⟨not_not_intro ⟨rfl, f, rfl⟩, .fieldComparison, rfl⟩
    · refine Decides.map ?_
      have hsupported : ¬ Condition.ExistsField ⟨kind, left, .field f⟩ := fun h => hkind h.1
      cases kind with
      | «exists» => exact absurd rfl hkind
      | _ => exact hsupported

theorem decides_elementCondition {c : Condition} (h : c.WellFormed) :
    Decides (¬ c.ExistsField) IsUnsupported (elementCondition c) := by
  obtain ⟨kind, left, right⟩ := c
  by_cases hkind : kind = .exists
  · subst hkind
    cases right with
    | field f => exact ⟨not_not_intro ⟨rfl, f, rfl⟩, .elementFilter, rfl⟩
    | literal v =>
      obtain ⟨flag, rfl⟩ := h.literal v rfl
      exact fun ⟨_, f, hf⟩ => nomatch hf
  · have hsupported : ¬ Condition.ExistsField ⟨kind, left, right⟩ := fun h => hkind h.1
    cases kind with
    | «exists» => exact absurd rfl hkind
    | _ => exact hsupported

theorem forall_leaves_supported (e : Expr) :
    (∀ c ∈ e.leaves, ¬ c.ExistsField) ↔ e.Supported :=
  forall_congr' fun _ => imp_congr_left Expr.mem_leaves_iff

theorem decides_filter {e : Expr} (h : e.WellFormed) :
    Decides e.Supported IsUnsupported (filter e) := by
  have hvalid := e.validate_iff.mpr h
  have hleaves : Decides (∀ c ∈ e.leaves, ¬ c.ExistsField) IsUnsupported (filterOf e) :=
    LeafCompiler.filters.decides_tree fun c _ => decides_filterOfCondition c
  rw [filter, hvalid]
  exact hleaves.congr (forall_leaves_supported e)

theorem decides_element {e : Expr} (h : e.WellFormed) :
    Decides e.Supported IsUnsupported (element e) := by
  have hleaves : Decides (∀ c ∈ e.leaves, ¬ c.ExistsField) IsUnsupported (element e) :=
    LeafCompiler.conditions.decides_tree fun c hc =>
      decides_elementCondition (h c (Expr.mem_leaves_iff.mp hc))
  exact hleaves.congr (forall_leaves_supported e)

end Native
end DocQuery
