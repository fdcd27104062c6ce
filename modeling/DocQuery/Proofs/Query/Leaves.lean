import DocQuery.Native.Element
import DocQuery.Proofs.Outcome

/-!
# The conditions of an expression

What is checked or compiled condition by condition succeeds or fails as the conditions do, however
deep they stand.
-/
namespace DocQuery
open Native Outcome

namespace Expr

/-- A condition that stands in an expression, at any depth. -/
inductive HasLeaf (c : Condition) : Expr → Prop where
  | here : HasLeaf c (.condition c)
  | inside {kind : ConjunctionKind} {values : List Expr} {e : Expr} (hmem : e ∈ values)
      (hleaf : HasLeaf c e) : HasLeaf c (.conjunction kind values)

variable {c : Condition}

theorem hasLeaf_condition {c' : Condition} : (condition c').HasLeaf c ↔ c = c' := by
  constructor
  · rintro ⟨⟩
    rfl
  · rintro rfl
    exact .here

theorem hasLeaf_conjunction {kind : ConjunctionKind} {values : List Expr} :
    (conjunction kind values).HasLeaf c ↔ ∃ e ∈ values, e.HasLeaf c := by
  constructor
  · rintro (_ | ⟨hmem, hleaf⟩)
    exact ⟨_, hmem, hleaf⟩
  · rintro ⟨e, hmem, hleaf⟩
    exact .inside hmem hleaf

mutual

theorem mem_leaves_iff : ∀ {e : Expr}, c ∈ e.leaves ↔ e.HasLeaf c
  | .condition c' => by rw [leaves, List.mem_singleton, hasLeaf_condition]
  | .conjunction kind values => by rw [leaves, mem_leavesAll_iff, hasLeaf_conjunction]

theorem mem_leavesAll_iff : ∀ {es : List Expr}, c ∈ leavesAll es ↔ ∃ e ∈ es, e.HasLeaf c
  | [] => by simp [leavesAll]
  | e :: es => by
    simp only [leavesAll, List.mem_append, mem_leaves_iff, mem_leavesAll_iff, List.mem_cons,
      exists_eq_or_imp]

end

end Expr

theorem Expr.validate_eq_ok_iff (e : Expr) :
    e.validate = .ok () ↔ ∀ c ∈ e.leaves, c.validate = .ok () :=
  forM_eq_ok_iff

namespace Native

/-- A compiler of expressions that fails at a condition or not at all. -/
structure LeafCompiler where
  leaf : Condition → Except QueryError Json
  tree : Expr → Except QueryError Json
  trees : List Expr → Except QueryError (List Json)
  condition : ∀ c, tree (.condition c) = leaf c
  conjunction : ∀ kind es, ∃ join : List Json → Json,
    tree (.conjunction kind es) = (trees es).map join
  nil : trees [] = .ok []
  cons : ∀ e es, trees (e :: es) = do return (← tree e) :: (← trees es)

namespace LeafCompiler

def filters : LeafCompiler where
  leaf := filterOfCondition
  tree := filterOf
  trees := filtersOf
  condition _ := rfl
  conjunction kind es := ⟨fun fs => .single kind.operator (.array fs), by
    rw [filterOf]
    cases filtersOf es <;> rfl⟩
  nil := rfl
  cons _ _ := rfl

def conditions : LeafCompiler where
  leaf := elementCondition
  tree := element
  trees := elements
  condition _ := rfl
  conjunction kind es := by
    refine ⟨fun compiled => match kind with
      | .and => .single "$and" (.array compiled)
      | .or => .single "$or" (.array compiled)
      | .not => .single "$not" (.array [.single "$or" (.array compiled)]), ?_⟩
    rw [element]
    cases elements es with
    | error e => rfl
    | ok compiled => cases kind <;> rfl
  nil := rfl
  cons _ _ := rfl

variable (compiler : LeafCompiler) {P : Condition → Prop} {Q : QueryError → Prop}

mutual

theorem decides_tree : ∀ {e : Expr}, (∀ c ∈ e.leaves, Decides (P c) Q (compiler.leaf c)) →
    Decides (∀ c ∈ e.leaves, P c) Q (compiler.tree e)
  | .condition c, h => by
    rw [compiler.condition, Expr.leaves, List.forall_mem_singleton]
    exact h c (by simp [Expr.leaves])
  | .conjunction kind es, h => by
    obtain ⟨join, hjoin⟩ := compiler.conjunction kind es
    rw [hjoin]
    exact (decides_trees h).map

theorem decides_trees : ∀ {es : List Expr},
    (∀ c ∈ Expr.leavesAll es, Decides (P c) Q (compiler.leaf c)) →
    Decides (∀ c ∈ Expr.leavesAll es, P c) Q (compiler.trees es)
  | [], _ => by
    rw [compiler.nil]
    exact List.forall_mem_nil _
  | e :: es, h => by
    rw [Expr.leavesAll, List.forall_mem_append] at h
    rw [compiler.cons, Expr.leavesAll, List.forall_mem_append]
    exact (decides_tree h.1).bind fun _ => (decides_trees h.2).map

end

end LeafCompiler

end Native
end DocQuery
