import DocQuery.Eval.Filter
import DocQuery.Proofs.ObjectId
import DocQuery.Proofs.Query.Leaves
import DocQuery.Proofs.Query.Meaning
import DocQuery.Regex.Engine

/-!
# Compiled filters mean what their expressions say

Running the filter of an expression on a document gives the value, or the fault, that the
expression itself has on the document. A condition compiles to one clause: `satisfies_literal` is
the clause with a literal, `satisfies_expr` the clause with an expression over two paths.
-/
namespace DocQuery
open Eval Native

theorem ConditionKind.ofOperator?_operator (kind : ConditionKind) :
    ConditionKind.ofOperator? kind.operator = some kind := by
  cases kind <;> rfl

theorem ConditionKind.startsWithDollar_operator (kind : ConditionKind) :
    startsWithDollar kind.operator = true := by
  cases kind <;> rfl

theorem ConjunctionKind.ofOperator?_operator (kind : ConjunctionKind) :
    ConjunctionKind.ofOperator? kind.operator = some kind := by
  cases kind <;> rfl

theorem ConjunctionKind.startsWithDollar_operator (kind : ConjunctionKind) :
    startsWithDollar kind.operator = true := by
  cases kind <;> rfl

theorem ConjunctionKind.ofOperator?_name {name : String} (h : startsWithDollar name = false) :
    ConjunctionKind.ofOperator? name = none := by
  apply List.find?_eq_none.mpr
  intro kind _ heq
  have hk := kind.startsWithDollar_operator
  rw [beq_iff_eq.mp heq, h] at hk
  cases hk

theorem Except.guard_true (x : Except CommandFault Bool) :
    (do if ← x then Except.ok true else return false) = x := by
  cases x with
  | error e => rfl
  | ok b => cases b <;> rfl

/-- A document of one member whose key starts with a dollar sign is a document of operators, unless
it may be a native identifier. -/
theorem isOperatorDocument_single {key : String} (hdollar : startsWithDollar key = true)
    (hkey : key ≠ ObjectId.wireKey) (v : Json) : isOperatorDocument (.single key v) = true := by
  have hid := ObjectId.ofWire?_single hkey v
  simp only [Json.single] at hid ⊢
  simp [isOperatorDocument, hdollar, hid]

theorem isOperatorDocument_comparison (kind : ConditionKind) (v : Json) :
    isOperatorDocument (.single kind.operator v) = true :=
  isOperatorDocument_single kind.startsWithDollar_operator (by cases kind <;> decide) v

theorem equalsOrContains_eq_equalTo (x : Option Json) (v : Json) :
    equalsOrContains x v = equalTo x v := by
  cases x with
  | none => rfl
  | some x => cases x <;> simp [equalsOrContains, equalTo, Json.alternatives]

theorem compare?_eq_order? (x v : Json) :
    x.compare? v = (do (← Scalar.ofJson? x).order? (← Scalar.ofJson? v)) := by
  cases x with
  | object ms =>
    cases hx : ObjectId.ofWire? (.object ms) <;> cases v with
    | object ns =>
      cases hv : ObjectId.ofWire? (.object ns) <;>
        simp only [Json.compare?, Scalar.ofJson?, hx, hv] <;> rfl
    | _ =>
      simp only [Json.compare?, Scalar.ofJson?, hx]
      rfl
  | _ =>
    cases v with
    | object ns =>
      cases hv : ObjectId.ofWire? (.object ns) <;>
        simp only [Json.compare?, Scalar.ofJson?, hv] <;> rfl
    | _ => rfl

theorem compare?_any (relation : Ordering → Bool) (x v : Json) :
    (x.compare? v).any relation = x.related relation v := by
  rw [compare?_eq_order?, Json.related]
  cases Scalar.ofJson? x <;> cases Scalar.ofJson? v <;> simp

theorem related_array (relation : Ordering → Bool) (items : List Json) (v : Json) :
    (Json.array items).related relation v = false := rfl

theorem inRange_eq_relatedTo (relation : Ordering → Bool) (x : Option Json) {v : Json}
    (hv : v.isArray = false) : inRange relation x v = relatedTo relation x v := by
  cases x with
  | none => rfl
  | some x =>
    cases x <;> simp [inRange, relatedTo, hv, compare?_any, Json.alternatives, related_array]

theorem isArray_coerceIds (v : Json) : (coerceIds v).isArray = v.isArray := by
  cases v with
  | string s =>
    cases h : ObjectId.parse? s <;>
      simp [coerceIds, h, Json.isArray, ObjectId.toWire, Json.single]
  | _ => simp [coerceIds, Json.isArray]

theorem Condition.isArray_reading (c : Condition) (v : Json) :
    (c.reading v).isArray = v.isArray := by
  unfold Condition.reading
  split
  · exact isArray_coerceIds v
  · rfl

theorem filterLiteral_eq_reading (c : Condition) (v : Json) :
    filterLiteral c.kind c.left v = c.reading v := by
  obtain ⟨kind, left, right⟩ := c
  cases kind <;> simp [filterLiteral, Condition.reading, Field.isId]

theorem Condition.accepts_reading (c : Condition) {v : Json} (hv : c.kind.accepts v = true) :
    c.kind.accepts (c.reading v) = true := by
  have ha := c.isArray_reading v
  obtain ⟨kind, left, right⟩ := c
  cases kind <;> simp_all [ConditionKind.accepts, Condition.reading]

theorem map_truthy_bool (x : Except CommandFault Bool) :
    (x.map Json.bool).map Json.truthy = x := by
  cases x <;> rfl

/-- A condition that compiles to what it says: it is well formed, and no name in it starts with a
dollar sign. -/
structure Condition.Plain (c : Condition) : Prop where
  valid : c.validate = .ok ()
  left : startsWithDollar c.left.name = false
  right : ∀ f, c.right = .field f → startsWithDollar f.name = false

theorem ConditionKind.accepts_of_validate {kind : ConditionKind} {left : Field} {v : Json}
    (h : Condition.validate ⟨kind, left, .literal v⟩ = .ok ()) : kind.accepts v = true := by
  simp only [Condition.validate] at h
  split at h
  · cases h
  · split at h
    · assumption
    · cases h

theorem exists_filterOf {e : Expr} (h : ∀ c ∈ e.leaves, ∃ f, filterOfCondition c = .ok f) :
    ∃ f, filterOf e = .ok f := by
  have hleaves : Outcome.Decides (∀ c ∈ e.leaves, True) (fun _ => True) (filterOf e) := by
    refine LeafCompiler.filters.decides_tree fun c hc => ?_
    obtain ⟨f, hf⟩ := h c hc
    change Outcome.Decides True _ (filterOfCondition c)
    rw [hf]
    exact trivial
  exact hleaves.exists_iff.mpr fun _ _ => trivial

theorem Expr.mem_fieldNames_left {e : Expr} {c : Condition} (hc : c ∈ e.leaves) :
    c.left.name ∈ e.fieldNames :=
  List.mem_flatMap.mpr ⟨c, hc, List.mem_cons_self⟩

theorem Expr.mem_fieldNames_right {e : Expr} {c : Condition} {f : Field} (hc : c ∈ e.leaves)
    (hf : c.right = .field f) : f.name ∈ e.fieldNames := by
  refine List.mem_flatMap.mpr ⟨c, hc, List.mem_cons_of_mem _ ?_⟩
  rw [hf]
  exact List.mem_singleton_self _

/-- What compiles is well formed, and compiles as it stands. -/
theorem filter_eq_ok_iff {e : Expr} {f : Json} :
    filter e = .ok f ↔ e.validate = .ok () ∧ filterOf e = .ok f := by
  unfold filter
  cases h : e.validate with
  | error m => simp [bind, Except.bind]
  | ok u => simp [bind, Except.bind]

section

variable [PatternEngine]

theorem satisfies_comparison (d : Json) {name : String} (h : startsWithDollar name = false)
    (kind : ConditionKind) (v : Json) :
    satisfies d (.single name (.single kind.operator v)) =
      compares kind (d.resolve name) v := by
  have hexpr : name ≠ "$expr" := by
    rintro rfl
    exact absurd h (by decide)
  have hop := isOperatorDocument_comparison kind v
  simp only [Json.single] at hop
  simp only [Json.single, satisfies, satisfiesClauses, ConjunctionKind.ofOperator?_name h,
    satisfiesLeaf, hexpr, if_false, h, Bool.false_eq_true, fieldSatisfies, hop, if_true,
    comparesAll, ConditionKind.ofOperator?_operator]
  rw [Except.guard_true, Except.guard_true]

theorem satisfies_expr (d e : Json) :
    satisfies d (.single "$expr" e) = (evaluate d e).map Json.truthy := by
  have h : ConjunctionKind.ofOperator? "$expr" = none := by decide
  simp only [Json.single, satisfies, satisfiesClauses, h, satisfiesLeaf, if_true]
  exact Except.guard_true _

theorem satisfies_conjunction (d : Json) (kind : ConjunctionKind) (branches : List Json) :
    satisfies d (.single kind.operator (.array branches)) =
      satisfiesBranches d kind (.array branches) := by
  simp only [Json.single, satisfies, satisfiesClauses, ConjunctionKind.ofOperator?_operator]
  exact Except.guard_true _

/-- A comparison with a literal that its kind accepts is what the condition says. -/
theorem compares_eq_holdsOfLiteral (kind : ConditionKind) (x : Option Json) (v : Json)
    (hv : kind.accepts v = true) : compares kind x v = kind.holdsOfLiteral x v := by
  cases kind with
  | equals | notEquals => simp [compares, ConditionKind.holdsOfLiteral, equalsOrContains_eq_equalTo]
  | greaterThan | greaterThanOrEqual | lessThan | lessThanOrEqual =>
    have hv' : v.isArray = false := by simpa [ConditionKind.accepts] using hv
    simp only [compares, ConditionKind.holdsOfLiteral, inRange_eq_relatedTo _ _ hv']
    congr 2
    funext o
    cases o <;> rfl
  | contains | notContains =>
    cases v with
    | array items =>
      simp [compares, ConditionKind.holdsOfLiteral, amongCandidates, Json.items,
        funext (equalsOrContains_eq_equalTo x), Except.map]
    | _ => cases hv
  | «exists» =>
    cases v with
    | bool b => rfl
    | _ => cases hv
  | regex =>
    cases v with
    | string pattern =>
      cases x with
      | none => rfl
      | some x => cases x <;> rfl
    | _ => cases hv

theorem satisfies_literal (d : Json) {c : Condition} {v : Json}
    (hname : startsWithDollar c.left.name = false) (hv : c.kind.accepts v = true) :
    satisfies d (.single c.left.name (.single c.kind.operator (filterLiteral c.kind c.left v))) =
      c.kind.holdsOfLiteral (d.resolve c.left.name) (c.reading v) := by
  rw [satisfies_comparison d hname, filterLiteral_eq_reading]
  exact compares_eq_holdsOfLiteral _ _ _ (c.accepts_reading hv)

theorem evaluate_path (d : Json) {f : Field} (h : startsWithDollar f.name = false) :
    evaluate d (.string f.path) = .ok (Json.present (d.resolve f.name)) := by
  have hpath : f.path.toList = '$' :: f.name.toList := by simp [Field.path]
  have hname : String.ofList f.name.toList = f.name := String.ofList_toList
  rw [evaluate, evaluateString, hpath]
  cases hl : f.name.toList with
  | nil =>
    rw [hl] at hname
    simp [hname, Json.present]
  | cons c cs =>
    rw [hl] at hname
    have hc : c ≠ '$' := by
      rintro rfl
      simp [startsWithDollar, hl] at h
    simp [hc, hname, Json.present]

theorem evaluate_arguments (d : Json) (op : ListOperator) (v : Json) :
    evaluate d (.single op.name v) = (evaluateArguments d v).bind op.apply := by
  have hop : isOperatorDocument (.single op.name v) = true :=
    isOperatorDocument_single (by cases op <;> rfl) (by cases op <;> decide) _
  have hliteral : op.name ≠ "$literal" := by cases op <;> decide
  have hregex : op.name ≠ "$regexMatch" := by cases op <;> decide
  have hname : ListOperator.ofName? op.name = some op := by cases op <;> rfl
  simp only [Json.single] at hop ⊢
  simp only [evaluate, hop, if_true, hliteral, hregex, if_false, hname]
  rfl

theorem evaluate_operator (d : Json) (op : ListOperator) (args : List Json) :
    evaluate d (.single op.name (.array args)) = (evaluateAll d args).bind op.apply := by
  rw [evaluate_arguments, evaluateArguments]

theorem evaluateAll_paths (d : Json) {f g : Field} (hf : startsWithDollar f.name = false)
    (hg : startsWithDollar g.name = false) :
    evaluateAll d [.string f.path, .string g.path] =
      .ok [Json.present (d.resolve f.name), Json.present (d.resolve g.name)] := by
  simp only [evaluateAll, evaluate_path d hf, evaluate_path d hg]
  rfl

theorem evaluate_pair (d : Json) (op : ListOperator) {f g : Field}
    (hf : startsWithDollar f.name = false) (hg : startsWithDollar g.name = false) :
    evaluate d (.single op.name (Json.strings [f.path, g.path])) =
      op.apply [Json.present (d.resolve f.name), Json.present (d.resolve g.name)] := by
  simp only [Json.strings, List.map_cons, List.map_nil, evaluate_operator,
    evaluateAll_paths d hf hg]
  rfl

theorem evaluate_isIn (d : Json) {f g : Field} (hf : startsWithDollar f.name = false)
    (hg : startsWithDollar g.name = false) :
    evaluate d (.single "$in" (Json.strings [f.path, g.path])) =
      (ConditionKind.listed (Json.present (d.resolve f.name))
        (Json.present (d.resolve g.name))).map .bool := by
  refine (evaluate_pair d .isIn hf hg).trans ?_
  cases Json.present (d.resolve g.name) <;> rfl

theorem evaluate_notIn (d : Json) {f g : Field} (hf : startsWithDollar f.name = false)
    (hg : startsWithDollar g.name = false) :
    evaluate d (.single "$not" (.array [.single "$in" (Json.strings [f.path, g.path])])) =
      ((ConditionKind.listed (Json.present (d.resolve f.name))
        (Json.present (d.resolve g.name))).map (!·)).map .bool := by
  refine (evaluate_operator d .not _).trans ?_
  rw [evaluateAll, evaluate_isIn d hf hg]
  cases ConditionKind.listed (Json.present (d.resolve f.name)) (Json.present (d.resolve g.name)) <;>
    rfl

theorem evaluate_match (d input pattern : Json) :
    evaluate d (.single "$regexMatch" (.object [("input", input), ("regex", pattern)])) = do
      let input ← evaluate d input
      let pattern ← evaluate d pattern
      match input, pattern with
      | .string text, .string pattern => (matchesPattern pattern text).map .bool
      | _, _ => return .bool false := by
  let arguments := Json.object [("input", input), ("regex", pattern)]
  have hop : isOperatorDocument (.object [("$regexMatch", arguments)]) = true :=
    isOperatorDocument_single (by decide) (by decide) _
  have hinput : evaluateMember d "input" arguments = evaluate d input := by
    rw [evaluateMember, evaluateFirst, if_pos rfl]
  have hpattern : evaluateMember d "regex" arguments = evaluate d pattern := by
    rw [evaluateMember, evaluateFirst, if_neg (by decide), evaluateFirst, if_pos rfl]
  rw [Json.single, evaluate, if_pos hop, if_neg (by decide), if_pos rfl]
  exact hinput ▸ hpattern ▸ rfl

theorem evaluate_regexMatch (d : Json) {f g : Field} (hf : startsWithDollar f.name = false)
    (hg : startsWithDollar g.name = false) :
    evaluate d (.single "$regexMatch"
        (.object [("input", .string f.path), ("regex", .string g.path)])) =
      (ConditionKind.regex.holdsOfFields (Json.present (d.resolve f.name))
        (Json.present (d.resolve g.name))).map .bool := by
  rw [evaluate_match, evaluate_path d hf, evaluate_path d hg]
  cases Json.present (d.resolve f.name) <;> cases Json.present (d.resolve g.name) <;> rfl

theorem evaluate_range (d : Json) {f g : Field} (hf : startsWithDollar f.name = false)
    (hg : startsWithDollar g.name = false) (kind : ConditionKind) (op : ListOperator)
    (accept : Ordering → Bool) (hop : op.apply = ListOperator.ordered accept)
    (haccept : ∀ o, accept o = kind.relation o) :
    (evaluate d (.single op.name (Json.strings [f.path, g.path]))).map Json.truthy =
      .ok (kind.relation (Json.sortOrder (Json.present (d.resolve f.name))
        (Json.present (d.resolve g.name)))) := by
  rw [evaluate_pair d op hf hg, hop, ← haccept]
  rfl

theorem satisfies_fieldComparison (d : Json) {kind : ConditionKind} {f g : Field} {compiled : Json}
    (hf : startsWithDollar f.name = false) (hg : startsWithDollar g.name = false)
    (h : fieldComparison kind f g = .ok compiled) :
    satisfies d (.single "$expr" compiled) =
      kind.holdsOfFields (Json.present (d.resolve f.name)) (Json.present (d.resolve g.name)) := by
  have hpair := fun op => congrArg (Except.map Json.truthy) (evaluate_pair d op hf hg)
  rw [satisfies_expr]
  cases kind with
  | «exists» => cases h
  | regex =>
    cases h
    rw [evaluate_regexMatch d hf hg, map_truthy_bool]
  | contains =>
    cases h
    exact (congrArg _ (evaluate_isIn d hf hg)).trans (map_truthy_bool _)
  | notContains =>
    cases h
    rw [evaluate_notIn d hf hg, map_truthy_bool]
    rfl
  | equals =>
    cases h
    exact hpair .eq
  | notEquals =>
    cases h
    exact hpair .ne
  | greaterThan =>
    cases h
    refine evaluate_range d hf hg .greaterThan .gt (· == .gt) rfl ?_
    rintro (_ | _ | _) <;> rfl
  | greaterThanOrEqual =>
    cases h
    refine evaluate_range d hf hg .greaterThanOrEqual .gte (· != .lt) rfl ?_
    rintro (_ | _ | _) <;> rfl
  | lessThan =>
    cases h
    refine evaluate_range d hf hg .lessThan .lt (· == .lt) rfl ?_
    rintro (_ | _ | _) <;> rfl
  | lessThanOrEqual =>
    cases h
    refine evaluate_range d hf hg .lessThanOrEqual .lte (· != .gt) rfl ?_
    rintro (_ | _ | _) <;> rfl

theorem satisfies_filterOfCondition (d : Json) {c : Condition} {f : Json} (hc : c.Plain)
    (h : filterOfCondition c = .ok f) : satisfies d f = c.holds d := by
  obtain ⟨kind, left, right⟩ := c
  cases right with
  | literal v =>
    have hv := ConditionKind.accepts_of_validate hc.valid
    cases h
    exact satisfies_literal d (c := ⟨kind, left, .literal v⟩) hc.left hv
  | field g =>
    cases hg : fieldComparison kind left g with
    | error e => simp [filterOfCondition, hg, Except.map] at h
    | ok compiled =>
      simp only [filterOfCondition, hg, Except.map, Except.ok.injEq] at h
      subst h
      exact satisfies_fieldComparison d hc.left (hc.right g rfl) hg

-- The induction is on the tree. A conjunction is settled by its children from left to right, so the
-- statement about a list of expressions covers both ways in which it may be tried.
mutual

/-- The compiled filter of an expression says what the expression says. -/
theorem satisfies_filterOf (d : Json) : ∀ {e : Expr} {f : Json}, (∀ c ∈ e.leaves, c.Plain) →
    filterOf e = .ok f → satisfies d f = e.holds d
  | .condition c, f, hleaves, h => by
    rw [Expr.holds]
    exact satisfies_filterOfCondition d (hleaves c (by simp [Expr.leaves])) h
  | .conjunction kind es, f, hleaves, h => by
    cases hes : filtersOf es with
    | error e => simp [filterOf, hes, bind, Except.bind] at h
    | ok fs =>
      simp only [filterOf, hes, bind, Except.bind, pure, Except.pure, Except.ok.injEq] at h
      subst h
      have ih := satisfies_filtersOf d hleaves hes
      rw [satisfies_conjunction]
      cases kind <;> simp [satisfiesBranches, Expr.holds, ih]

theorem satisfies_filtersOf (d : Json) : ∀ {es : List Expr} {fs : List Json},
    (∀ c ∈ Expr.leavesAll es, c.Plain) → filtersOf es = .ok fs →
    satisfiesAll d fs = Expr.allHold d es ∧ satisfiesAny d fs = Expr.anyHolds d es
  | [], fs, _, h => by
    cases h
    exact ⟨rfl, rfl⟩
  | e :: es, fs, hleaves, h => by
    simp only [Expr.leavesAll, List.mem_append] at hleaves
    cases he : filterOf e with
    | error err => simp [filtersOf, he, bind, Except.bind] at h
    | ok f =>
      cases hes : filtersOf es with
      | error err => simp [filtersOf, he, hes, bind, Except.bind] at h
      | ok rest =>
        simp only [filtersOf, he, hes, bind, Except.bind, pure, Except.pure,
          Except.ok.injEq] at h
        subst h
        have ih := satisfies_filterOf d (fun c hc => hleaves c (.inl hc)) he
        have ihs := satisfies_filtersOf d (fun c hc => hleaves c (.inr hc)) hes
        simp [satisfiesAll, satisfiesAny, Expr.allHold, Expr.anyHolds, ih, ihs]

end

/-- Running the filter of an expression on a document gives the value or the fault of the
expression, whenever the expression compiles and no field in it starts with a dollar sign. -/
theorem satisfies_filter (d : Json) {e : Expr} {f : Json} (hf : filter e = .ok f)
    (hnames : ∀ name ∈ e.fieldNames, startsWithDollar name = false) :
    satisfies d f = e.holds d := by
  obtain ⟨hvalid, hf⟩ := filter_eq_ok_iff.mp hf
  have hleaves := e.validate_eq_ok_iff.mp hvalid
  refine satisfies_filterOf d (fun c hc => ⟨hleaves c hc, ?_, ?_⟩) hf
  · exact hnames _ (Expr.mem_fieldNames_left hc)
  · intro g hg
    exact hnames _ (Expr.mem_fieldNames_right hc hg)

end

/-- A document under a native identifier, and an expression on it that names the identifier by its
text, negates, looks into a list and compares two fields. -/
theorem satisfies_filter_sample :
    let d : Json := .object [("_id", .single "$oid" (.string "65a1b2c3d4e5f60718293a4b")),
      ("tags", .array [.string "a", .int 3]), ("low", .int 2), ("high", .int 5)]
    let e : Expr := .and [
      .condition ⟨.equals, ⟨"_id", none⟩, .literal (.string "65A1B2C3D4E5F60718293A4B")⟩,
      .not [.condition ⟨.greaterThan, ⟨"tags", none⟩, .literal (.int 3)⟩,
        .condition ⟨.exists, ⟨"low.inner", none⟩, .literal (.bool true)⟩],
      .condition ⟨.contains, ⟨"tags", none⟩, .literal (Json.strings ["z", "a"])⟩,
      .or [.condition ⟨.equals, ⟨"low", none⟩, .literal .null⟩,
        .condition ⟨.greaterThanOrEqual, ⟨"high", none⟩, .field ⟨"low", none⟩⟩]]
    ∃ f, filter e = .ok f ∧ (∀ name ∈ e.fieldNames, startsWithDollar name = false) ∧
      satisfies d f = e.holds d ∧ e.holds d = .ok true := by
  intro d e
  have hnames : ∀ name ∈ e.fieldNames, startsWithDollar name = false := by decide
  have htrue : (e.holds d).toOption = some true := by decide +kernel
  exact ⟨_, rfl, hnames, satisfies_filter d rfl hnames, Outcome.eq_ok_of_toOption htrue⟩

end DocQuery
