import DocQuery.Proofs.Query.Compilation
import DocQuery.Regex.Engine

/-!
# What a filter reads

Two documents that agree on the fields an expression names satisfy its filter alike. A condition on
a name that starts with a dollar sign faults on every document, with one exception: a list that is
compared with a field called `$expr` is executed as the arguments of an operator.
-/
namespace DocQuery
open Eval Native

/-- The arguments that a condition has executed: the items of a list that is compared with the
field `$expr`, where the comparison is an operator of expressions as well. -/
def Condition.executed (c : Condition) : List Json :=
  match c.right with
  | .literal v =>
    if c.left.name = "$expr" ∧ (c.kind = .equals ∨ c.kind = .notEquals ∨ c.kind = .contains) then
      v.items
    else []
  | .field _ => []

theorem filterLiteral_expr {kind : ConditionKind} {left : Field} (h : left.name = "$expr")
    (v : Json) : filterLiteral kind left v = v := by
  have hid : left.isId = false := by simp [Field.isId, h, internalId]
  cases kind <;> simp [filterLiteral, hid]

section

variable [PatternEngine]

/-- A filter that faults on every document, in one way. -/
def Json.Faults (filter : Json) : Prop := ∃ fault, ∀ d, satisfies d filter = .error fault

variable {d d' : Json}

theorem evaluate_path_unbound {f : Field} (h : startsWithDollar f.name = true) (d : Json) :
    evaluate d (.string f.path) = .error (.unboundVariable f.path) := by
  have hpath : f.path.toList = '$' :: f.name.toList := by simp [Field.path]
  obtain ⟨cs, hcs⟩ : ∃ cs, f.name.toList = '$' :: cs := by
    cases hl : f.name.toList with
    | nil => simp [startsWithDollar, hl] at h
    | cons c cs =>
      have hc : c = '$' := by simpa [startsWithDollar, hl] using h
      exact ⟨cs, by rw [hc]⟩
  rw [evaluate, evaluateString, hpath, hcs]
  rfl

theorem evaluate_path_congr {f : Field} (h : d.resolve f.name = d'.resolve f.name) :
    evaluate d (.string f.path) = evaluate d' (.string f.path) := by
  cases hdollar : startsWithDollar f.name with
  | false => rw [evaluate_path d hdollar, evaluate_path d' hdollar, h]
  | true => rw [evaluate_path_unbound hdollar, evaluate_path_unbound hdollar]

theorem evaluate_one_argument (d : Json) (op : ListOperator) (a : Json) :
    evaluate d (.single op.name (.array [a])) = (do op.apply [← evaluate d a]) := by
  rw [evaluate_operator, evaluateAll, evaluateAll]
  cases evaluate d a <;> rfl

theorem evaluate_two_arguments (d : Json) (op : ListOperator) (a b : Json) :
    evaluate d (.single op.name (.array [a, b])) = (do
      let x ← evaluate d a
      let y ← evaluate d b
      op.apply [x, y]) := by
  rw [evaluate_operator, evaluateAll, evaluateAll, evaluateAll]
  cases evaluate d a with
  | error fault => rfl
  | ok x => cases evaluate d b <;> rfl

/-- The comparison of two fields looks at a document only to evaluate the path on the left and
then the path on the right. -/
theorem evaluate_two_paths {kind : ConditionKind} {f g : Field} {compiled : Json}
    (h : fieldComparison kind f g = .ok compiled) :
    ∃ next : Json → Json → Except CommandFault Json, ∀ d, evaluate d compiled = (do
      let x ← evaluate d (.string f.path)
      let y ← evaluate d (.string g.path)
      next x y) := by
  have hoperator : ∀ op : ListOperator, compiled = .single op.name (Json.strings [f.path, g.path]) →
      ∃ next : Json → Json → Except CommandFault Json, ∀ d, evaluate d compiled = (do
        let x ← evaluate d (.string f.path)
        let y ← evaluate d (.string g.path)
        next x y) := by
    rintro op rfl
    exact ⟨fun x y => op.apply [x, y], fun d => evaluate_two_arguments d op _ _⟩
  cases kind with
  | «exists» => cases h
  | regex =>
    cases h
    exact ⟨_, fun d => evaluate_match d _ _⟩
  | notContains =>
    cases h
    refine ⟨fun x y => do ListOperator.not.apply [← ListOperator.isIn.apply [x, y]], fun d => ?_⟩
    have hisIn := evaluate_two_arguments d .isIn (.string f.path) (.string g.path)
    refine (evaluate_one_argument d .not _).trans ((congrArg (· >>= _) hisIn).trans ?_)
    cases evaluate d (.string f.path) with
    | error fault => rfl
    | ok x => cases evaluate d (.string g.path) <;> rfl
  | contains =>
    cases h
    exact hoperator .isIn rfl
  | equals =>
    cases h
    exact hoperator .eq rfl
  | notEquals =>
    cases h
    exact hoperator .ne rfl
  | greaterThan =>
    cases h
    exact hoperator .gt rfl
  | greaterThanOrEqual =>
    cases h
    exact hoperator .gte rfl
  | lessThan =>
    cases h
    exact hoperator .lt rfl
  | lessThanOrEqual =>
    cases h
    exact hoperator .lte rfl

theorem evaluate_comparison (d : Json) (kind : ConditionKind) (v : Json) :
    evaluate d (.single kind.operator v) =
      match ListOperator.ofName? kind.operator with
      | some op => (evaluateArguments d v).bind op.apply
      | none => .error (.unsupportedExpression kind.operator) := by
  have hop := isOperatorDocument_comparison kind v
  have hliteral : kind.operator ≠ "$literal" := by cases kind <;> decide
  have hregex : kind.operator ≠ "$regexMatch" := by cases kind <;> decide
  simp only [Json.single] at hop ⊢
  simp only [evaluate, hop, if_true, hliteral, hregex, if_false]
  cases ListOperator.ofName? kind.operator <;> rfl

/-- A literal compared with the field `$expr` is executed as the arguments of an operator, or
faults. -/
theorem evaluate_literal {kind : ConditionKind} {left : Field} {v : Json}
    (hv : kind.accepts v = true) (hname : left.name = "$expr") :
    (∃ op : ListOperator, op.apply [] = .error .argumentsNotPair ∧
      ∀ d, evaluate d (.single kind.operator v) =
        (evaluateAll d (Condition.executed ⟨kind, left, .literal v⟩)).bind op.apply) ∨
    ∃ fault, ∀ d, evaluate d (.single kind.operator v) = .error fault := by
  cases v with
  | array items =>
    have hlist : ∀ {kind : ConditionKind} (op : ListOperator), kind.operator = op.name →
        Condition.executed ⟨kind, left, .literal (.array items)⟩ = items →
        ∀ d, evaluate d (.single kind.operator (.array items)) =
          (evaluateAll d (Condition.executed ⟨kind, left, .literal (.array items)⟩)).bind
            op.apply := by
      intro kind op hop hitems d
      rw [hop, hitems]
      exact evaluate_operator d op items
    cases kind with
    | equals =>
      exact .inl ⟨.eq, rfl, hlist .eq rfl (by simp [Condition.executed, hname, Json.items])⟩
    | notEquals =>
      exact .inl ⟨.ne, rfl, hlist .ne rfl (by simp [Condition.executed, hname, Json.items])⟩
    | contains =>
      exact .inl ⟨.isIn, rfl, hlist .isIn rfl (by simp [Condition.executed, hname, Json.items])⟩
    | greaterThan | greaterThanOrEqual | lessThan | lessThanOrEqual => cases hv
    | notContains | «exists» | regex => exact .inr ⟨_, fun d => evaluate_comparison d _ _⟩
  | _ =>
    refine .inr ?_
    cases hop : ListOperator.ofName? kind.operator with
    | none => exact ⟨_, fun d => by rw [evaluate_comparison, hop]⟩
    | some op => exact ⟨.argumentsNotList, fun d => by rw [evaluate_comparison, hop]; rfl⟩

theorem satisfies_branchless (d : Json) {name : String} {kind : ConjunctionKind}
    (h : ConjunctionKind.ofOperator? name = some kind) (key : String) (v : Json) :
    satisfies d (.single name (.single key v)) = .error .branchesNotList := by
  simp only [Json.single, satisfies, satisfiesClauses, h, satisfiesBranches]
  rfl

theorem satisfies_leaf (d : Json) {name : String} (h : ConjunctionKind.ofOperator? name = none)
    (v : Json) : satisfies d (.single name v) = satisfiesLeaf d name v := by
  simp only [Json.single, satisfies, satisfiesClauses, h]
  exact Except.guard_true _

/-- A condition cannot tell documents apart that agree on its fields, and on which what it has
executed evaluates alike. -/
theorem satisfies_filterOfCondition_congr {c : Condition} {f : Json} (hvalid : c.validate = .ok ())
    (hleft : d.resolve c.left.name = d'.resolve c.left.name)
    (hright : ∀ g, c.right = .field g → d.resolve g.name = d'.resolve g.name)
    (hexecuted : evaluateAll d c.executed = evaluateAll d' c.executed)
    (h : filterOfCondition c = .ok f) : satisfies d f = satisfies d' f := by
  obtain ⟨kind, left, right⟩ := c
  cases right with
  | field g =>
    obtain ⟨compiled, hg, h⟩ := Outcome.exists_of_map_eq_ok h
    obtain ⟨next, hnext⟩ := evaluate_two_paths hg
    subst h
    rw [satisfies_expr, satisfies_expr, hnext, hnext, evaluate_path_congr hleft,
      evaluate_path_congr (hright g rfl)]
  | literal v =>
    cases h
    cases hkind : ConjunctionKind.ofOperator? left.name with
    | some conjunction => rw [satisfies_branchless d hkind, satisfies_branchless d' hkind]
    | none =>
      rw [satisfies_leaf d hkind, satisfies_leaf d' hkind, satisfiesLeaf, satisfiesLeaf]
      by_cases hname : left.name = "$expr"
      · rw [if_pos hname, if_pos hname, filterLiteral_expr hname]
        rcases evaluate_literal (ConditionKind.accepts_of_validate hvalid) hname with
          ⟨op, -, hop⟩ | ⟨fault, hfault⟩
        · rw [hop, hop, hexecuted]
        · rw [hfault, hfault]
      · have hresolve : d.resolve left.name = d'.resolve left.name := hleft
        rw [if_neg hname, if_neg hname, hresolve]

/-- A condition on a name that starts with a dollar sign faults, unless it has something
executed. -/
theorem faults_filterOfCondition {c : Condition} {f : Json} (hvalid : c.validate = .ok ())
    (hdollar : startsWithDollar c.left.name = true ∨
      ∃ g, c.right = .field g ∧ startsWithDollar g.name = true)
    (hexecuted : c.executed = []) (h : filterOfCondition c = .ok f) : f.Faults := by
  obtain ⟨kind, left, right⟩ := c
  cases right with
  | field g =>
    obtain ⟨compiled, hg, h⟩ := Outcome.exists_of_map_eq_ok h
    obtain ⟨next, hnext⟩ := evaluate_two_paths hg
    subst h
    cases hleft : startsWithDollar left.name with
    | true =>
      refine ⟨.unboundVariable left.path, fun d => ?_⟩
      rw [satisfies_expr, hnext, evaluate_path_unbound hleft]
      rfl
    | false =>
      have hright : startsWithDollar g.name = true := by
        rcases hdollar with hl | ⟨g', hg', hr⟩
        · cases hleft.symm.trans hl
        · cases hg'
          exact hr
      refine ⟨.unboundVariable g.path, fun d => ?_⟩
      rw [satisfies_expr, hnext, evaluate_path d hleft, evaluate_path_unbound hright]
      rfl
  | literal v =>
    cases h
    have hleft : startsWithDollar left.name = true := by
      rcases hdollar with hl | ⟨g, hg, -⟩
      · exact hl
      · cases hg
    cases hkind : ConjunctionKind.ofOperator? left.name with
    | some conjunction => exact ⟨.branchesNotList, fun d => satisfies_branchless d hkind _ _⟩
    | none =>
      by_cases hname : left.name = "$expr"
      · rcases evaluate_literal (ConditionKind.accepts_of_validate hvalid) hname with
          ⟨op, happly, hop⟩ | ⟨fault, hfault⟩
        · refine ⟨.argumentsNotPair, fun d => ?_⟩
          rw [satisfies_leaf d hkind, satisfiesLeaf, if_pos hname, filterLiteral_expr hname, hop,
            hexecuted, evaluateAll]
          exact congrArg (Except.map Json.truthy) happly
        · refine ⟨fault, fun d => ?_⟩
          rw [satisfies_leaf d hkind, satisfiesLeaf, if_pos hname, filterLiteral_expr hname, hfault]
          rfl
      · refine ⟨.unknownTopLevel left.name, fun d => ?_⟩
        rw [satisfies_leaf d hkind, satisfiesLeaf, if_neg hname, if_pos hleft]

mutual

theorem satisfies_filterOf_congr : ∀ {e : Expr} {f : Json},
    (∀ c ∈ e.leaves, ∀ g, filterOfCondition c = .ok g → satisfies d g = satisfies d' g) →
    filterOf e = .ok f → satisfies d f = satisfies d' f
  | .condition c, f, hleaves, h => hleaves c (by simp [Expr.leaves]) f h
  | .conjunction kind es, f, hleaves, h => by
    obtain ⟨fs, hfs, h⟩ := Outcome.exists_of_bind_eq_ok h
    cases h
    obtain ⟨hall, hany⟩ := satisfies_filtersOf_congr hleaves hfs
    rw [satisfies_conjunction, satisfies_conjunction]
    cases kind <;> simp only [satisfiesBranches, hall, hany]

theorem satisfies_filtersOf_congr : ∀ {es : List Expr} {fs : List Json},
    (∀ c ∈ Expr.leavesAll es, ∀ g, filterOfCondition c = .ok g →
      satisfies d g = satisfies d' g) →
    filtersOf es = .ok fs →
    satisfiesAll d fs = satisfiesAll d' fs ∧ satisfiesAny d fs = satisfiesAny d' fs
  | [], fs, _, h => by
    cases h
    exact ⟨rfl, rfl⟩
  | e :: es, fs, hleaves, h => by
    simp only [Expr.leavesAll, List.mem_append] at hleaves
    obtain ⟨f, hf, h⟩ := Outcome.exists_of_bind_eq_ok h
    obtain ⟨rest, hrest, h⟩ := Outcome.exists_of_bind_eq_ok h
    cases h
    have ih := satisfies_filterOf_congr (fun c hc => hleaves c (.inl hc)) hf
    obtain ⟨hall, hany⟩ := satisfies_filtersOf_congr (fun c hc => hleaves c (.inr hc)) hrest
    simp only [satisfiesAll, satisfiesAny, ih, hall, hany, and_self]

end

/-- Two documents that agree on every field that an expression names, and on which the lists that
it has executed evaluate alike, satisfy its filter alike. A condition that names a field with a
dollar sign in front and has nothing executed faults on every document. -/
theorem satisfies_filter_congr {e : Expr} {f : Json} (hf : filter e = .ok f) :
    (∀ d d' : Json, (∀ name ∈ e.fieldNames, d.resolve name = d'.resolve name) →
      (∀ c ∈ e.leaves, evaluateAll d c.executed = evaluateAll d' c.executed) →
      satisfies d f = satisfies d' f) ∧
    ∀ c ∈ e.leaves, (∃ name ∈ (Expr.condition c).fieldNames, startsWithDollar name = true) →
      c.executed = [] → ∀ g, filterOfCondition c = .ok g → g.Faults := by
  obtain ⟨hvalid, hf⟩ := filter_eq_ok_iff.mp hf
  have hleaves := e.validate_eq_ok_iff.mp hvalid
  refine ⟨fun d d' hfields hexecuted => ?_, fun c hc hdollar hexecuted g hg => ?_⟩
  · refine satisfies_filterOf_congr (fun c hc g hg => ?_) hf
    refine satisfies_filterOfCondition_congr (hleaves c hc) ?_ ?_ (hexecuted c hc) hg
    · exact hfields _ (Expr.mem_fieldNames_left hc)
    · intro right hright
      exact hfields _ (Expr.mem_fieldNames_right hc hright)
  · refine faults_filterOfCondition (hleaves c hc) ?_ hexecuted hg
    obtain ⟨name, hname, hdollar⟩ := hdollar
    obtain ⟨kind, left, right⟩ := c
    cases right with
    | literal v =>
      simp only [Expr.fieldNames, Expr.leaves, List.flatMap_singleton, List.mem_singleton] at hname
      exact .inl (hname ▸ hdollar)
    | field g =>
      simp only [Expr.fieldNames, Expr.leaves, List.flatMap_singleton, List.mem_cons,
        List.not_mem_nil, or_false] at hname
      rcases hname with rfl | rfl
      · exact .inl hdollar
      · exact .inr ⟨g, rfl, hdollar⟩

end

/-- Two documents that differ in a field that is not named, and an expression that has a list with a
path executed and names a field `$where`. -/
theorem satisfies_filter_congr_executed :
    let unlike : Condition := ⟨.notEquals, ⟨"$where", none⟩, .literal (.string "$secret")⟩
    let e : Expr := .or [
      .condition ⟨.equals, ⟨"$expr", none⟩, .literal (.array [.string "$n", .int 3])⟩,
      .condition ⟨.lessThan, ⟨"n", none⟩, .field ⟨"m", none⟩⟩,
      .condition unlike]
    let d : Json := .object [("n", .int 2), ("m", .int 2), ("secret", .bool true)]
    let d' : Json := .object [("n", .int 2), ("secret", .null), ("m", .int 2)]
    ∃ f g, filter e = .ok f ∧ filterOfCondition unlike = .ok g ∧
      (∀ name ∈ e.fieldNames, d.resolve name = d'.resolve name) ∧
      (∀ c ∈ e.leaves, evaluateAll d c.executed = evaluateAll d' c.executed) ∧
      satisfies d f = satisfies d' f ∧ g.Faults := by
  intro unlike e d d'
  have hfields : ∀ name ∈ e.fieldNames, d.resolve name = d'.resolve name := by
    have hnames : e.fieldNames = ["$expr", "n", "m", "$where"] := rfl
    rw [hnames]
    simp only [List.forall_mem_cons, List.not_mem_nil, false_imp_iff, implies_true, and_true]
    exact ⟨rfl, rfl, rfl, rfl⟩
  have hexecuted : ∀ c ∈ e.leaves, evaluateAll d c.executed = evaluateAll d' c.executed := by
    simp only [e, Expr.or, Expr.leaves, Expr.leavesAll, List.cons_append, List.nil_append,
      List.forall_mem_cons, List.not_mem_nil, false_imp_iff, implies_true, and_true]
    exact ⟨rfl, rfl, rfl⟩
  obtain ⟨hsame, hfaults⟩ := satisfies_filter_congr (e := e) rfl
  refine ⟨_, _, rfl, rfl, hfields, hexecuted, hsame d d' hfields hexecuted, ?_⟩
  exact hfaults unlike (by simp [e, Expr.or, Expr.leaves, Expr.leavesAll])
    ⟨"$where", List.mem_singleton_self _, rfl⟩ rfl _ rfl

/-- A filter may read a field that its expression does not name: a list that is compared with the
field `$expr` is executed. -/
theorem exists_filter_executed :
    ¬ ∀ (e : Expr) (f d d' : Json), e.validate = .ok () → filter e = .ok f →
      (∀ name ∈ e.fieldNames, d.resolve name = d'.resolve name) →
      satisfies d f = satisfies d' f := by
  intro h
  have hholds : ∀ b, satisfies (.single "secret" (.bool b)) (.single "$expr"
      (.single "$eq" (.array [.string "$secret", .bool true]))) = .ok b := by
    intro b
    refine Outcome.eq_ok_of_toOption ?_
    cases b <;> decide +kernel
  have hfields : ∀ name ∈ ["$expr"], (Json.single "secret" (.bool true)).resolve name =
      (Json.single "secret" (.bool false)).resolve name :=
    List.forall_mem_singleton.mpr rfl
  have hsame := h (.condition ⟨.equals, ⟨"$expr", none⟩,
    .literal (.array [.string "$secret", .bool true])⟩) _ _ _ rfl rfl hfields
  have hequal : (Except.ok true : Except CommandFault Bool) = .ok false :=
    (hholds true).symm.trans (hsame.trans (hholds false))
  cases hequal

end DocQuery
