import DocQuery.Proofs.Query.Acceptance
import DocQuery.Proofs.Query.Isolation
import DocQuery.Proofs.Query.Literals
import DocQuery.Regex.Engine

/-!
# Conditions on elements mean what their expressions say

A condition on elements, read as a condition on a document that is the element, has the value that
the expression has on the element. All conditions of an expression are asked before a conjunction is
settled, so a fault of any of them is a fault of the whole.
-/
namespace DocQuery
open Eval Native Outcome

namespace Condition

def leftOn (x : Json) (c : Condition) : Json := Json.present (x.resolve c.left.name)

def rightOn (x : Json) (c : Condition) : Json :=
  match c.right with
  | .literal v => v
  | .field f => Json.present (x.resolve f.name)

variable [PatternEngine]

/-- What a condition says of an element. Two values are compared as they are, lists as a whole and
ranges in the order of a sort, and what is `null` does not exist. -/
def holdsOfElement (x : Json) (c : Condition) : Except CommandFault Bool :=
  match c.kind, c.right with
  | .exists, .literal (.bool flag) => .ok (flag != (c.leftOn x).isNull)
  | kind, _ => kind.holdsOfFields (c.leftOn x) (c.rightOn x)

/-- The conditions that cannot be asked of an element: whether a value is listed in what is no list,
and whether a text matches a pattern that cannot be read. -/
def FaultsOn (x : Json) (c : Condition) : Prop :=
  match c.kind with
  | .contains | .notContains => ∀ items, c.rightOn x ≠ .array items
  | .regex => ∃ text pattern, c.leftOn x = .string text ∧ c.rightOn x = .string pattern ∧
      ¬ PatternEngine.Accepts pattern
  | _ => False

end Condition

def ConjunctionKind.settle (verdicts : List Bool) : ConjunctionKind → Bool
  | .and => verdicts.all id
  | .or => verdicts.any id
  | .not => !verdicts.any id

namespace Expr

variable [PatternEngine]

mutual

/-- What an expression says of an element. -/
def holdsOfElement (x : Json) : Expr → Except CommandFault Bool
  | .condition c => c.holdsOfElement x
  | .conjunction kind es => do return kind.settle (← verdictsOn x es)

def verdictsOn (x : Json) : List Expr → Except CommandFault (List Bool)
  | [] => .ok []
  | e :: es => do return (← holdsOfElement x e) :: (← verdictsOn x es)

end

end Expr

namespace Json

def elementMark : List Char := ['$', '$', 't', 'h', 'i', 's', '.']

def rootPath (s : String) : String :=
  if elementMark <+: s.toList then String.ofList ('$' :: s.toList.drop elementMark.length) else s

mutual

/-- A condition on elements as a condition on documents: paths on the current element become paths
from the root, and what is quoted stays as it is. -/
def rooted : Json → Json
  | .string s => .string (rootPath s)
  | .array items => .array (rootedAll items)
  | .object members => .object (rootedMembers members)
  | v => v

def rootedAll : List Json → List Json
  | [] => []
  | v :: rest => rooted v :: rootedAll rest

def rootedMembers : List (String × Json) → List (String × Json)
  | [] => []
  | (key, v) :: rest => (key, if key = "$literal" then v else rooted v) :: rootedMembers rest

end

theorem rootPath_elementPath (f : Field) : rootPath f.elementPath = f.path := by
  have hlist : f.elementPath.toList = elementMark ++ f.name.toList := by
    rw [Field.elementPath, String.toList_append]
    rfl
  rw [rootPath, hlist, if_pos (List.prefix_append _ _), List.drop_left]
  simp [Field.path, String.ofList_cons]

theorem rootPath_text {s : String} (h : startsWithDollar s = false) : rootPath s = s := by
  refine if_neg ?_
  rintro ⟨rest, hrest⟩
  simp [startsWithDollar, ← hrest, elementMark] at h

theorem rooted_single {key : String} (h : key ≠ "$literal") (v : Json) :
    (single key v).rooted = single key v.rooted := by
  simp only [single, rooted, rootedMembers, if_neg h]

theorem rooted_pair {operator : String} (h : operator ≠ "$literal") (left right : Json) :
    (pair operator left right).rooted = pair operator left.rooted right.rooted := by
  rw [pair, rooted_single h, rooted, rootedAll, rootedAll, rootedAll, pair]

theorem rooted_match (input pattern : Json) :
    (single "$regexMatch" (object [("input", input), ("regex", pattern)])).rooted =
      single "$regexMatch" (object [("input", input.rooted), ("regex", pattern.rooted)]) := by
  rw [rooted_single (by decide), rooted, rootedMembers, rootedMembers, rootedMembers,
    if_neg (by decide), if_neg (by decide)]

theorem rooted_quotation (v : Json) : (single "$literal" v).rooted = single "$literal" v := by
  simp only [single, rooted, rootedMembers, if_true]

mutual

/-- There is no path in a quoted literal but inside a quotation. -/
theorem rooted_quoted : ∀ v : Json, (quoted v).rooted = quoted v
  | .string s => by
    rw [quoted]
    cases h : startsWithDollar s with
    | true => exact rooted_quotation _
    | false => exact congrArg string (rootPath_text h)
  | .array items => by rw [quoted, rooted, rootedAll_quotedAll]
  | .object members => by
    rw [quoted]
    split
    · exact rooted_quotation _
    · next hany =>
      have hkeys : ∀ m ∈ members, startsWithDollar m.1 = false := by simpa using hany
      rw [rooted, rootedMembers_quotedMembers members hkeys]
  | .null | .bool _ | .number _ => rfl

theorem rootedAll_quotedAll : ∀ vs : List Json, rootedAll (quotedAll vs) = quotedAll vs
  | [] => rfl
  | v :: rest => by rw [quotedAll, rootedAll, rooted_quoted v, rootedAll_quotedAll rest]

theorem rootedMembers_quotedMembers : ∀ ms : Members,
    (∀ m ∈ ms, startsWithDollar m.1 = false) → rootedMembers (quotedMembers ms) = quotedMembers ms
  | [], _ => rfl
  | (key, v) :: rest, h => by
    obtain ⟨hkey, hrest⟩ := List.forall_mem_cons.mp h
    change startsWithDollar key = false at hkey
    have hne : key ≠ "$literal" := by
      rintro rfl
      exact absurd hkey (by decide)
    rw [quotedMembers, rootedMembers, if_neg hne, rooted_quoted v,
      rootedMembers_quotedMembers rest hrest]

end

end Json

def Expr.literals (e : Expr) : List Json := e.leaves.filterMap fun c => c.right.asLiteral?

theorem Expr.mem_literals {e : Expr} {c : Condition} {v : Json} (hc : c ∈ e.leaves)
    (hv : c.right = .literal v) : v ∈ e.literals :=
  List.mem_filterMap.mpr ⟨c, hc, by rw [hv, Operand.asLiteral?]⟩

def Json.isFlat : Json → Bool
  | .array items => items.all fun v => (Scalar.ofJson? v).isSome
  | v => (Scalar.ofJson? v).isSome

theorem Json.not_buries_of_scalar {v : Json} (h : (Scalar.ofJson? v).isSome = true) :
    ¬ v.Buries := by
  cases v with
  | object members =>
    rw [Scalar.ofJson?, Option.isSome_map, Option.isSome_iff_exists] at h
    obtain ⟨id, hid⟩ := h
    obtain ⟨text, hwire, -⟩ := ObjectId.ofWire?_eq_some_iff.mp hid
    rw [hwire, single, buries_object]
    rintro ⟨hkeys, -⟩
    have hkey : startsWithDollar ObjectId.wireKey = false := hkeys _ (List.mem_singleton_self _)
    exact absurd hkey (by decide)
  | array items => cases h
  | _ =>
    intro hburies
    cases hburies

theorem Json.not_buries_of_isFlat {v : Json} (h : v.isFlat = true) : ¬ v.Buries := by
  cases v with
  | array items =>
    rw [buries_array]
    rintro ⟨v, hmem, hburies⟩
    exact not_buries_of_scalar (List.all_eq_true.mp h v hmem) hburies
  | _ => exact not_buries_of_scalar h

/-- A condition that can be asked of elements: besides being plain, it compiles, and its literal
evaluates to itself. -/
structure Condition.Askable (c : Condition) : Prop extends c.Plain where
  supported : ¬ c.ExistsField
  literal : ∀ v, c.right = .literal v → ¬ v.Buries

theorem decides_listed (v w : Json) :
    Decides (∃ items, w = .array items) (fun _ => True) (ConditionKind.listed v w) := by
  cases w with
  | array items => exact ⟨items, rfl⟩
  | _ => exact ⟨nofun, trivial⟩

theorem all_map_truthy (verdicts : List Bool) :
    (verdicts.map Json.bool).all Json.truthy = verdicts.all id :=
  List.all_map

theorem any_map_truthy (verdicts : List Bool) :
    (verdicts.map Json.bool).any Json.truthy = verdicts.any id :=
  List.any_map

section

variable [PatternEngine]

theorem Eval.ListOperator.apply_eq_holdsOfFields {op : ListOperator} {kind : ConditionKind}
    (h : op.name = kind.operator) (x y : Json) :
    op.apply [x, y] = (kind.holdsOfFields x y).map .bool := by
  have hop : ofName? kind.operator = some op := by
    rw [← h]
    cases op <;> rfl
  cases kind with
  | equals | notEquals =>
    cases hop
    rfl
  | greaterThan | greaterThanOrEqual | lessThan | lessThanOrEqual =>
    cases hop
    simp only [apply, ordered, onPair, ConditionKind.holdsOfFields]
    cases Json.sortOrder (some x) (some y) <;> rfl
  | contains =>
    cases hop
    cases y <;> rfl
  | notContains | «exists» | regex => cases hop

section
variable (x : Json) {c : Condition}

theorem evaluate_elementPath {f : Field} (h : startsWithDollar f.name = false) :
    evaluate x (Json.string f.elementPath).rooted = .ok (Json.present (x.resolve f.name)) := by
  rw [Json.rooted, Json.rootPath_elementPath, evaluate_path x h]

theorem evaluate_elementOperand (h : c.Askable) :
    evaluate x (elementOperand c.right).rooted = .ok (c.rightOn x) := by
  rw [Condition.rightOn]
  cases hright : c.right with
  | field f => exact evaluate_elementPath x (h.right f hright)
  | literal v =>
    rw [elementOperand, Json.rooted_quoted]
    exact evaluate_quoted_of_not_buries x (h.literal v hright)

theorem evaluate_rooted_pair (h : c.Askable) (op : ListOperator) :
    evaluate x (pair op.name (.string c.left.elementPath) (elementOperand c.right)).rooted =
      op.apply [c.leftOn x, c.rightOn x] := by
  have hop : op.name ≠ "$literal" := by cases op <;> decide
  have hleft := evaluate_elementPath x h.left
  have hright := evaluate_elementOperand x h
  rw [Json.rooted_pair hop, pair, evaluate_two_arguments, hleft, hright]
  rfl

theorem evaluate_rooted_comparison (h : c.Askable) (op : ListOperator) (kind : ConditionKind)
    (hop : op.name = kind.operator) :
    evaluate x (pair kind.operator (.string c.left.elementPath) (elementOperand c.right)).rooted =
      (kind.holdsOfFields (c.leftOn x) (c.rightOn x)).map .bool := by
  rw [← hop, evaluate_rooted_pair x h, op.apply_eq_holdsOfFields hop]

theorem evaluate_rooted_notContains (h : c.Askable) :
    evaluate x (Json.single "$not" (.array [pair ConditionKind.contains.operator
        (.string c.left.elementPath) (elementOperand c.right)])).rooted =
      (ConditionKind.notContains.holdsOfFields (c.leftOn x) (c.rightOn x)).map .bool := by
  rw [Json.rooted_single (by decide), Json.rooted, Json.rootedAll, Json.rootedAll]
  refine (evaluate_one_argument x .not _).trans ?_
  rw [evaluate_rooted_comparison x h .isIn .contains rfl, ConditionKind.holdsOfFields,
    ConditionKind.holdsOfFields]
  cases ConditionKind.listed (c.leftOn x) (c.rightOn x) <;> rfl

theorem evaluate_rooted_match (h : c.Askable) :
    evaluate x (Json.single "$regexMatch" (.object [("input", .string c.left.elementPath),
        ("regex", elementOperand c.right)])).rooted =
      (ConditionKind.regex.holdsOfFields (c.leftOn x) (c.rightOn x)).map .bool := by
  rw [Json.rooted_match, evaluate_match, evaluate_elementPath x h.left,
    evaluate_elementOperand x h, Condition.leftOn]
  cases Json.present (x.resolve c.left.name) <;> cases c.rightOn x <;> rfl

/-- The path on the left, with `null` for a missing value, compared with `null`. -/
theorem evaluate_rooted_coalesced (h : c.Askable) (op : ListOperator) :
    evaluate x (pair op.name (pair "$ifNull" (.string c.left.elementPath) .null) .null).rooted =
      op.apply [c.leftOn x, .null] := by
  have hop : op.name ≠ "$literal" := by cases op <;> decide
  have hvalue : evaluate x (pair "$ifNull" (.string c.left.elementPath) .null).rooted =
      .ok (c.leftOn x) := by
    rw [Json.rooted_pair (by decide)]
    refine (evaluate_two_arguments x .ifNull _ _).trans ?_
    rw [evaluate_elementPath x h.left, Condition.leftOn]
    cases Json.present (x.resolve c.left.name) <;> rfl
  rw [Json.rooted_pair hop, pair, evaluate_two_arguments, hvalue]
  rfl

theorem evaluate_elementCondition (h : c.Askable) {compiled : Json}
    (hc : elementCondition c = .ok compiled) :
    evaluate x compiled.rooted = (c.holdsOfElement x).map .bool := by
  have hcomparison := evaluate_rooted_comparison x h
  obtain ⟨kind, left, right⟩ := c
  cases kind with
  | «exists» =>
    have hcoalesced := evaluate_rooted_coalesced x h
    cases right with
    | field f => exact absurd ⟨rfl, f, rfl⟩ h.supported
    | literal v =>
      obtain ⟨flag, rfl⟩ := ((Condition.validate_iff _).mp h.valid).literal v rfl
      cases hc
      cases flag with
      | true =>
        refine (hcoalesced .ne).trans ?_
        rw [Condition.holdsOfElement]
        cases Condition.leftOn x _ <;> rfl
      | false =>
        refine (hcoalesced .eq).trans ?_
        rw [Condition.holdsOfElement]
        cases Condition.leftOn x _ <;> rfl
  | regex =>
    cases hc
    exact evaluate_rooted_match x h
  | notContains =>
    cases hc
    exact evaluate_rooted_notContains x h
  | contains =>
    cases hc
    exact hcomparison .isIn .contains rfl
  | equals =>
    cases hc
    exact hcomparison .eq .equals rfl
  | notEquals =>
    cases hc
    exact hcomparison .ne .notEquals rfl
  | greaterThan =>
    cases hc
    exact hcomparison .gt .greaterThan rfl
  | greaterThanOrEqual =>
    cases hc
    exact hcomparison .gte .greaterThanOrEqual rfl
  | lessThan =>
    cases hc
    exact hcomparison .lt .lessThan rfl
  | lessThanOrEqual =>
    cases hc
    exact hcomparison .lte .lessThanOrEqual rfl

end

theorem decides_matchesPattern (pattern text : String) :
    Decides (PatternEngine.Accepts pattern) (fun _ => True) (matchesPattern pattern text) := by
  rw [matchesPattern, PatternEngine.Accepts]
  cases PatternEngine.compile pattern with
  | ok test => exact ⟨test, rfl⟩
  | error reason =>
    refine ⟨?_, trivial⟩
    rintro ⟨_, h⟩
    cases h

theorem Condition.decides_holdsOfElement (x : Json) (c : Condition) :
    Decides (¬ c.FaultsOn x) (fun _ => True) (c.holdsOfElement x) := by
  have hlist : Decides (¬ ∀ items, c.rightOn x ≠ .array items) (fun _ => True)
      (ConditionKind.listed (c.leftOn x) (c.rightOn x)) :=
    (decides_listed _ _).congr (by simp)
  have hmatch : Decides
      (¬ ∃ text pattern, c.leftOn x = .string text ∧ c.rightOn x = .string pattern ∧
        ¬ PatternEngine.Accepts pattern)
      (fun _ => True) (ConditionKind.regex.holdsOfFields (c.leftOn x) (c.rightOn x)) := by
    cases c.leftOn x with
    | string text =>
      cases c.rightOn x with
      | string pattern => exact (decides_matchesPattern pattern text).congr (by simp)
      | _ => exact fun ⟨_, _, _, hright, _⟩ => nomatch hright
    | _ => exact fun ⟨_, _, hleft, _⟩ => nomatch hleft
  obtain ⟨kind, left, right⟩ := c
  cases kind with
  | contains => exact hlist
  | notContains => exact hlist.map
  | regex => exact hmatch
  | «exists» =>
    rw [Condition.holdsOfElement]
    split <;> exact not_false
  | _ => exact not_false

section
variable (x : Json)

mutual

theorem evaluate_element : ∀ {e : Expr} {compiled : Json}, (∀ c ∈ e.leaves, c.Askable) →
    element e = .ok compiled → evaluate x compiled.rooted = (e.holdsOfElement x).map .bool
  | .condition c, compiled, hleaves, h => by
    rw [Expr.holdsOfElement]
    exact evaluate_elementCondition x (hleaves c (by simp [Expr.leaves])) h
  | .conjunction kind es, compiled, hleaves, h => by
    obtain ⟨children, hes, hjoin⟩ := exists_of_bind_eq_ok h
    have ih := evaluateAll_elements hleaves hes
    have hor : evaluate x (Json.single "$or" (.array children)).rooted =
        (Expr.verdictsOn x es).map fun verdicts => .bool (verdicts.any id) := by
      rw [Json.rooted_single (by decide), Json.rooted]
      refine (evaluate_operator x .or _).trans ?_
      rw [ih]
      cases Expr.verdictsOn x es with
      | error fault => rfl
      | ok verdicts => exact congrArg (Except.ok ∘ Json.bool) (any_map_truthy verdicts)
    rw [Expr.holdsOfElement]
    cases kind with
    | or =>
      cases hjoin
      rw [hor]
      cases Expr.verdictsOn x es <;> rfl
    | not =>
      cases hjoin
      rw [Json.rooted_single (by decide), Json.rooted, Json.rootedAll, Json.rootedAll]
      refine (evaluate_one_argument x .not _).trans ?_
      rw [hor]
      cases Expr.verdictsOn x es <;> rfl
    | and =>
      cases hjoin
      rw [Json.rooted_single (by decide), Json.rooted]
      refine (evaluate_operator x .and _).trans ?_
      rw [ih]
      cases Expr.verdictsOn x es with
      | error fault => rfl
      | ok verdicts => exact congrArg (Except.ok ∘ Json.bool) (all_map_truthy verdicts)

theorem evaluateAll_elements : ∀ {es : List Expr} {compiled : List Json},
    (∀ c ∈ Expr.leavesAll es, c.Askable) → elements es = .ok compiled →
    evaluateAll x (Json.rootedAll compiled) = (Expr.verdictsOn x es).map (List.map .bool)
  | [], compiled, _, h => by
    cases h
    rfl
  | e :: es, compiled, hleaves, h => by
    rw [Expr.leavesAll, List.forall_mem_append] at hleaves
    obtain ⟨first, he, h⟩ := exists_of_bind_eq_ok h
    obtain ⟨rest, hes, h⟩ := exists_of_bind_eq_ok h
    cases h
    rw [Json.rootedAll, evaluateAll, evaluate_element hleaves.1 he,
      evaluateAll_elements hleaves.2 hes, Expr.verdictsOn]
    cases e.holdsOfElement x with
    | error fault => rfl
    | ok verdict => cases Expr.verdictsOn x es <;> rfl

end

mutual

theorem decides_holdsOfElement : ∀ e : Expr,
    Decides (∀ c ∈ e.leaves, ¬ c.FaultsOn x) (fun _ => True) (e.holdsOfElement x)
  | .condition c => by
    rw [Expr.holdsOfElement, Expr.leaves, List.forall_mem_singleton]
    exact c.decides_holdsOfElement x
  | .conjunction kind es => by
    rw [Expr.holdsOfElement, Expr.leaves]
    exact (decides_verdictsOn es).map

theorem decides_verdictsOn : ∀ es : List Expr,
    Decides (∀ c ∈ Expr.leavesAll es, ¬ c.FaultsOn x) (fun _ => True) (Expr.verdictsOn x es)
  | [] => List.forall_mem_nil _
  | e :: es => by
    rw [Expr.verdictsOn, Expr.leavesAll, List.forall_mem_append]
    exact (decides_holdsOfElement e).bind fun _ => (decides_verdictsOn es).map

end

end

/-- An expression whose fields have no dollar sign in front compiles to a condition with the value
that the expression has on an element. The condition faults just on the elements on which some
condition of the expression, wherever it stands, cannot be asked. -/
theorem evaluate_element_rooted {e : Expr} (hvalid : e.validate = .ok ()) (hexists : e.Supported)
    (hnames : ∀ name ∈ e.fieldNames, startsWithDollar name = false)
    (hliterals : ∀ v ∈ e.literals, ¬ v.Buries) :
    ∃ compiled, element e = .ok compiled ∧ ∀ x,
      evaluate x compiled.rooted = (e.holdsOfElement x).map .bool ∧
      ((∃ fault, evaluate x compiled.rooted = .error fault) ↔
        ∃ c, e.HasLeaf c ∧ c.FaultsOn x) := by
  have haskable : ∀ c ∈ e.leaves, c.Askable := by
    intro c hc
    have hplain : c.Plain := by
      refine ⟨e.validate_eq_ok_iff.mp hvalid c hc, ?_, fun f hf => ?_⟩
      · exact hnames _ (Expr.mem_fieldNames_left hc)
      · exact hnames _ (Expr.mem_fieldNames_right hc hf)
    exact ⟨hplain, hexists c (Expr.mem_leaves_iff.mp hc),
      fun v hv => hliterals v (Expr.mem_literals hc hv)⟩
  obtain ⟨compiled, hcompiled⟩ :=
    (decides_element (e.validate_iff.mp hvalid)).exists_iff.mpr hexists
  refine ⟨compiled, hcompiled, fun x => ?_⟩
  have hvalue := evaluate_element x haskable hcompiled
  have hdecides : Decides (∀ c, e.HasLeaf c → ¬ c.FaultsOn x) (fun _ => True)
      ((e.holdsOfElement x).map Json.bool) :=
    (decides_holdsOfElement x e).map.congr
      (forall_congr' fun _ => imp_congr_left Expr.mem_leaves_iff)
  refine ⟨hvalue, ?_⟩
  rw [hvalue, hdecides.exists_error_iff]
  simp

end

/-- An element with a text that looks like a path, a field that is `null` and a pattern of its own,
and an expression that lists such a text, negates and compares two fields. -/
theorem evaluate_element_rooted_staff :
    let x : Json := .object [("role", .string "$admin"), ("left", .null), ("code", .string "ab-1"),
      ("prefix", .string "^ab"), ("low", .int 2)]
    let e : Expr := .and [
      .condition ⟨.contains, ⟨"role", none⟩, .literal (Json.strings ["$admin", "clerk"])⟩,
      .not [.condition ⟨.exists, ⟨"left", none⟩, .literal (.bool true)⟩,
        .condition ⟨.greaterThan, ⟨"low", none⟩, .literal (.string "$low")⟩],
      .or [.condition ⟨.regex, ⟨"code", none⟩, .field ⟨"prefix", none⟩⟩]]
    e.validate = .ok () ∧ e.Supported ∧
      (∀ name ∈ e.fieldNames, startsWithDollar name = false) ∧ (∀ v ∈ e.literals, ¬ v.Buries) ∧
      ∃ compiled, element e = .ok compiled ∧ evaluate x compiled.rooted = .ok (.bool true) := by
  intro x e
  have hvalid : e.validate = .ok () := rfl
  have hexists : e.Supported := by
    refine (forall_leaves_supported e).mp ?_
    simp [e, Expr.and, Expr.or, Expr.not, Expr.leaves, Expr.leavesAll, Condition.ExistsField]
  have hnames : ∀ name ∈ e.fieldNames, startsWithDollar name = false := by decide
  have hflat : ∀ v ∈ e.literals, v.isFlat = true := by decide
  have hliterals := fun v hv => Json.not_buries_of_isFlat (hflat v hv)
  obtain ⟨compiled, hcompiled, hvalue⟩ := evaluate_element_rooted hvalid hexists hnames hliterals
  have htrue : (e.holdsOfElement x).toOption = some true := by decide +kernel
  refine ⟨hvalid, hexists, hnames, hliterals, compiled, hcompiled, ?_⟩
  rw [(hvalue x).1, eq_ok_of_toOption htrue]
  rfl

end DocQuery
