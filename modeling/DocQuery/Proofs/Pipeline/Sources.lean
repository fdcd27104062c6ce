import DocQuery.Native.Stage
import DocQuery.Proofs.Query.Leaves

/-!
# The sources of fields

The source of a field tells people where the field comes from. Validation and the compilers read it
in one place only, the foreign field of a join, where it names the collection that is joined. They
make the same of two queries that differ in other sources.
-/
namespace DocQuery
open Native Outcome

def Operand.unqualified : Operand → Operand
  | .literal v => .literal v
  | .field f => .field f.unqualified

def Condition.unqualified (c : Condition) : Condition :=
  ⟨c.kind, c.left.unqualified, c.right.unqualified⟩

mutual

def Expr.unqualified : Expr → Expr
  | .condition c => .condition c.unqualified
  | .conjunction kind values => .conjunction kind (Expr.unqualifiedAll values)

def Expr.unqualifiedAll : List Expr → List Expr
  | [] => []
  | e :: es => e.unqualified :: Expr.unqualifiedAll es

end

def SortedField.unqualified (key : SortedField) : SortedField :=
  ⟨key.field.unqualified, key.direction⟩

def SortSpec.unqualified (s : SortSpec) : SortSpec := ⟨s.fields.map SortedField.unqualified⟩

/-- The foreign field keeps its source, which names a collection. -/
def Join.unqualified (j : Join) : Join :=
  ⟨j.localField.unqualified, j.foreignField, j.output.unqualified⟩

def AdditionalField.unqualified (a : AdditionalField) : AdditionalField :=
  ⟨a.fieldToAdd.unqualified, a.querySource.unqualified, a.query.unqualified⟩

def Accumulator.unqualified : Accumulator → Accumulator
  | .first field as => .first field.unqualified as.unqualified
  | .count as => .count as.unqualified

def Group.unqualified (g : Group) : Group :=
  ⟨g.groupBy.map Field.unqualified, g.accumulators.map Accumulator.unqualified⟩

def VectorSearch.unqualified (s : VectorSearch) : VectorSearch :=
  { s with path := s.path.unqualified }

def Stage.unqualified : Stage → Stage
  | .filter query => .filter query.unqualified
  | .sort spec => .sort spec.unqualified
  | .paginate w => .paginate w
  | .join spec => .join spec.unqualified
  | .addFields fields => .addFields (fields.map AdditionalField.unqualified)
  | .keep fields => .keep (fields.map Field.unqualified)
  | .drop fields => .drop (fields.map Field.unqualified)
  | .group spec => .group spec.unqualified
  | .nearest search => .nearest search.unqualified

def Pipeline.unqualified (p : Pipeline) : Pipeline := ⟨p.stages.map Stage.unqualified⟩

theorem Condition.validate_unqualified (c : Condition) : c.unqualified.validate = c.validate := by
  obtain ⟨kind, left, right⟩ := c
  cases right <;> rfl

/-- Checks that do not see a change of the elements do not see it in a list either. -/
theorem forM_map_of_eq {α : Type} {check : α → Except Malformation Unit} {change : α → α}
    (h : ∀ x, check (change x) = check x) (xs : List α) :
    (xs.map change).forM check = xs.forM check := by
  have hchecks : (fun x => check (change x)) = check := funext h
  exact List.forM_map.trans (congrArg (forM xs) hchecks)

namespace Expr

mutual

theorem leaves_unqualified : ∀ e : Expr, e.unqualified.leaves = e.leaves.map Condition.unqualified
  | .condition _ => rfl
  | .conjunction _ values => leavesAll_unqualified values

theorem leavesAll_unqualified : ∀ es : List Expr,
    leavesAll (unqualifiedAll es) = (leavesAll es).map Condition.unqualified
  | [] => rfl
  | e :: es => by
    simp only [unqualifiedAll, leavesAll, List.map_append, leaves_unqualified e,
      leavesAll_unqualified es]

end

theorem validate_unqualified (e : Expr) : e.unqualified.validate = e.validate := by
  rw [validate, leaves_unqualified]
  exact forM_map_of_eq Condition.validate_unqualified e.leaves

end Expr

namespace Native

theorem filterOfCondition_unqualified (c : Condition) :
    filterOfCondition c.unqualified = filterOfCondition c := by
  obtain ⟨kind, left, right⟩ := c
  cases right <;> rfl

theorem elementCondition_unqualified (c : Condition) :
    elementCondition c.unqualified = elementCondition c := by
  obtain ⟨kind, left, right⟩ := c
  cases right <;> rfl

namespace LeafCompiler

/-- A compiler that makes the same of a condition without sources, and of a conjunction sees its
kind and what its values compile to. -/
structure IgnoresSources (compiler : LeafCompiler) : Prop where
  leaf : ∀ c, compiler.leaf c.unqualified = compiler.leaf c
  conjunction : ∀ kind es es', compiler.trees es = compiler.trees es' →
    compiler.tree (.conjunction kind es) = compiler.tree (.conjunction kind es')

mutual

theorem IgnoresSources.tree {compiler : LeafCompiler} (h : compiler.IgnoresSources) :
    ∀ e : Expr, compiler.tree e.unqualified = compiler.tree e
  | .condition c => by rw [Expr.unqualified, compiler.condition, compiler.condition, h.leaf]
  | .conjunction kind es => h.conjunction kind _ es (h.trees es)

theorem IgnoresSources.trees {compiler : LeafCompiler} (h : compiler.IgnoresSources) :
    ∀ es : List Expr, compiler.trees (Expr.unqualifiedAll es) = compiler.trees es
  | [] => rfl
  | e :: es => by
    rw [Expr.unqualifiedAll, compiler.cons, compiler.cons, h.tree e, h.trees es]

end

theorem ignoresSources_filters : filters.IgnoresSources where
  leaf := filterOfCondition_unqualified
  conjunction kind es es' h := by
    have hvalues : filtersOf es = filtersOf es' := h
    change filterOf (.conjunction kind es) = filterOf (.conjunction kind es')
    rw [filterOf, filterOf, hvalues]

theorem ignoresSources_conditions : conditions.IgnoresSources where
  leaf := elementCondition_unqualified
  conjunction kind es es' h := by
    have hvalues : elements es = elements es' := h
    change element (.conjunction kind es) = element (.conjunction kind es')
    rw [element, element, hvalues]

end LeafCompiler

theorem filter_unqualified (e : Expr) : filter e.unqualified = filter e := by
  have hcompiled : filterOf e.unqualified = filterOf e :=
    LeafCompiler.ignoresSources_filters.tree e
  rw [filter, filter, e.validate_unqualified, hcompiled]

theorem element_unqualified (e : Expr) : element e.unqualified = element e :=
  LeafCompiler.ignoresSources_conditions.tree e

theorem sort_unqualified (s : SortSpec) : sort s.unqualified = sort s := by
  rw [sort, SortSpec.unqualified, List.map_map]
  rfl

end Native

namespace Stage

theorem nonEmpty_forM_map {α : Type} {check : α → Except Malformation Unit} {change : α → α}
    (h : ∀ x, check (change x) = check x) (xs : List α) (fault : Malformation) :
    (if (xs.map change).isEmpty then .error fault else (xs.map change).forM check) =
      if xs.isEmpty then .error fault else xs.forM check := by
  rw [List.isEmpty_map, forM_map_of_eq h]

theorem named_unqualified (stage : String) (f : Field) :
    f.unqualified.named stage = f.named stage := rfl

theorem validateProjection_unqualified (fields : List Field) (stage : String) :
    validateProjection (fields.map Field.unqualified) stage = validateProjection fields stage :=
  nonEmpty_forM_map (named_unqualified stage) fields _

theorem validateAdditional_unqualified (a : AdditionalField) :
    validateAdditional a.unqualified = validateAdditional a := by
  rw [validateAdditional, AdditionalField.unqualified, a.query.validate_unqualified]
  rfl

theorem validateAccumulator_unqualified (a : Accumulator) :
    validateAccumulator a.unqualified = validateAccumulator a := by
  cases a <;> rfl

theorem validate_unqualified (s : Stage) : s.unqualified.validate = s.validate := by
  cases s with
  | filter query => exact query.validate_unqualified
  | sort spec =>
    have hkey : ∀ key : SortedField, key.unqualified.field.named "SORT" = key.field.named "SORT" :=
      fun _ => rfl
    exact nonEmpty_forM_map hkey spec.fields _
  | paginate w => rfl
  | join spec => rfl
  | addFields fields => exact nonEmpty_forM_map validateAdditional_unqualified fields _
  | keep fields => exact validateProjection_unqualified fields "INCLUDE"
  | drop fields => exact validateProjection_unqualified fields "EXCLUDE"
  | group spec =>
    have hkeys : (spec.groupBy.map Field.unqualified).forM (fun f => f.named "GROUP") =
        spec.groupBy.forM fun f => f.named "GROUP" :=
      forM_map_of_eq (fun f => named_unqualified "GROUP" f) spec.groupBy
    have haccumulators := forM_map_of_eq validateAccumulator_unqualified spec.accumulators
    rw [unqualified, validate, validate, Group.unqualified, haccumulators]
    exact congrArg (fun keys => keys >>= fun _ => spec.accumulators.forM validateAccumulator) hkeys
  | nearest search => rfl

end Stage

namespace Native

theorem computedField_unqualified (a : AdditionalField) :
    computedField a.unqualified = computedField a := by
  rw [computedField, AdditionalField.unqualified, element_unqualified]
  rfl

theorem addFieldsStage_unqualified (fields : List AdditionalField) :
    addFieldsStage (fields.map AdditionalField.unqualified) = addFieldsStage fields := by
  have hfields : computedField ∘ AdditionalField.unqualified = computedField :=
    funext computedField_unqualified
  rw [addFieldsStage, List.mapM_map, hfields]
  rfl

theorem projectStage_unqualified (fields : List Field) (flag : Int) :
    projectStage (fields.map Field.unqualified) flag = projectStage fields flag := by
  rw [projectStage, List.map_map]
  rfl

theorem groupKey_unqualified (fields : List Field) :
    groupKey (fields.map Field.unqualified) = groupKey fields := by
  rcases fields with _ | ⟨f, _ | ⟨g, rest⟩⟩
  · rfl
  · rfl
  · simp only [groupKey, List.map_cons, List.map_map]
    rfl

theorem groupStage_unqualified (g : Group) : groupStage g.unqualified = groupStage g := by
  have hoperators : ∀ a : Accumulator, (a.unqualified.output.name,
      accumulatorOperator a.unqualified) = (a.output.name, accumulatorOperator a) := by
    intro a
    cases a <;> rfl
  rw [groupStage, Group.unqualified, groupKey_unqualified, List.map_map]
  simp only [Function.comp_def, hoperators]
  rfl

theorem stage_unqualified (r : Renderer) (s : Stage) : stage r s.unqualified = stage r s := by
  cases s with
  | filter query => exact congrArg (Except.map (Json.single "$match")) (filter_unqualified query)
  | sort spec => exact congrArg (Except.ok ∘ Json.single "$sort") (sort_unqualified spec)
  | addFields fields =>
    cases r with
    | base => rfl
    | _ => exact addFieldsStage_unqualified fields
  | keep fields =>
    cases r with
    | base => rfl
    | _ => exact congrArg Except.ok (projectStage_unqualified fields 1)
  | drop fields =>
    cases r with
    | base => rfl
    | _ => exact congrArg Except.ok (projectStage_unqualified fields 0)
  | group spec =>
    cases r with
    | base => rfl
    | _ => exact congrArg Except.ok (groupStage_unqualified spec)
  | _ => cases r <;> rfl

end Native

namespace Pipeline

theorem validateFrom_unqualified (total n : Nat) (stages : List Stage) :
    validateFrom total n (stages.map Stage.unqualified) = validateFrom total n stages := by
  induction stages generalizing n with
  | nil => rfl
  | cons s stages ih =>
    have hwindow : s.unqualified.window? = s.window? := by cases s <;> rfl
    rw [List.map_cons, validateFrom, validateFrom, hwindow, s.validate_unqualified,
      List.isEmpty_map, ih]

theorem validate_unqualified (p : Pipeline) : p.unqualified.validate = p.validate := by
  simp only [validate, unqualified, List.isEmpty_map, List.length_map, validateFrom_unqualified]

theorem pipeline_unqualified (r : Renderer) (p : Pipeline) :
    pipeline r p.unqualified = pipeline r p := by
  have hstages : stage r ∘ Stage.unqualified = stage r := funext (stage_unqualified r)
  rw [pipeline, pipeline, p.validate_unqualified, unqualified, List.mapM_map, hstages]

/-- Two queries that are equal without their sources, but for the collections that joins name, are
accepted alike, with one fault if they are not, and every compiler makes the same of them. -/
theorem sources_unread :
    (∀ p q : Pipeline, p.unqualified = q.unqualified →
      p.validate = q.validate ∧ ∀ r, pipeline r p = pipeline r q) ∧
    (∀ e e' : Expr, e.unqualified = e'.unqualified →
      e.validate = e'.validate ∧ filter e = filter e' ∧ element e = element e') ∧
    ∀ s s' : SortSpec, s.unqualified = s'.unqualified → sort s = sort s' := by
  refine ⟨fun p q h => ⟨?_, fun r => ?_⟩, fun e e' h => ⟨?_, ?_, ?_⟩, fun s s' h => ?_⟩
  · rw [← p.validate_unqualified, h, q.validate_unqualified]
  · rw [← pipeline_unqualified, h, pipeline_unqualified]
  · rw [← e.validate_unqualified, h, e'.validate_unqualified]
  · rw [← filter_unqualified, h, filter_unqualified]
  · rw [← element_unqualified, h, element_unqualified]
  · rw [← sort_unqualified, h, sort_unqualified]

/-- The cases of a chapter that are assigned, newest first, with one source on all the fields but
the one that names the joined collection. -/
def assignedSample (source : Option String) : Pipeline :=
  ⟨[.filter (.condition ⟨.equals, ⟨"chapter", source⟩, .literal (.string "7")⟩),
    .join ⟨⟨"caseId", source⟩, ⟨"caseId", some "assignments"⟩, ⟨"found", source⟩⟩,
    .addFields [⟨⟨"open", source⟩, ⟨"found", source⟩,
      .condition ⟨.exists, ⟨"unassignedOn", source⟩, .literal (.bool false)⟩⟩],
    .group ⟨[⟨"caseId", source⟩], [.first ⟨"dateFiled", source⟩ ⟨"dateFiled", source⟩]⟩,
    .sort ⟨[⟨⟨"dateFiled", source⟩, .descending⟩]⟩]⟩

theorem sources_unread_assigned :
    (assignedSample none).validate = .ok () ∧
      (assignedSample (some "cases")).validate = (assignedSample none).validate ∧
      ∀ r, pipeline r (assignedSample (some "cases")) = pipeline r (assignedSample none) :=
  ⟨rfl, sources_unread.1 _ _ rfl⟩

end Pipeline
end DocQuery
