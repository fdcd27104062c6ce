import DocQuery.Cases.Search
import DocQuery.Proofs.Cases.StoredForm
import DocQuery.Proofs.Query.Compilation

/-!
# What a case search selects

The conditions of a search compile whatever the predicate asks for, and on a stored case they say
what the predicate says.
-/
namespace DocQuery

def SyncedCase.isOpen (c : SyncedCase) : Bool :=
  match c.closedDate, c.reopenedDate with
  | none, _ => true
  | some closed, some reopened => decide (closed ≤ reopened)
  | some _, none => false

/-- Whether a predicate asks for a case. An empty list of case identifiers asks for none; the other
lists, and the case number, ask for nothing in particular when they are empty. -/
def CasesSearchPredicate.selects (p : CasesSearchPredicate) (c : SyncedCase) : Bool :=
  (p.caseNumber.all fun n => n.isEmpty || c.caseNumber == n) &&
  (p.caseIds.all fun ids => ids.contains c.caseId) &&
  (p.chapters.all fun cs => cs.isEmpty || cs.contains c.chapter) &&
  (p.divisionCodes.all fun cs => cs.isEmpty || cs.contains c.courtDivisionCode) &&
  (p.excludeMemberConsolidations != some true ||
    p.excludedCaseIds.all fun ids => !ids.contains c.caseId) &&
  (p.excludeClosedCases != some true || c.isOpen)

namespace Search
open Native

variable {d : Json} {c : SyncedCase}

theorem requirePage_eq_ok {p : CasesSearchPredicate} {page : UInt64 × UInt64}
    (h : p.page? = some page) : requirePage p = .ok page := by
  rw [requirePage, h]

theorem requirePage_missing {p : CasesSearchPredicate} (h : p.page? = none) :
    requirePage p = .error (.malformed .pageRequired) := by
  rw [requirePage, h]

/-- An expression each of whose conditions is plain and compiles. -/
def Sound (e : Expr) : Prop := ∀ c ∈ e.leaves, c.Plain ∧ ∃ f, filterOfCondition c = .ok f

theorem name_caseField (field : SyncedCaseField) :
    (caseField field).name.isEmpty = false ∧ startsWithDollar (caseField field).name = false ∧
      (caseField field).name ≠ internalId := by
  cases field <;> decide

theorem sound_literal (field : SyncedCaseField) {kind : ConditionKind} {v : Json}
    (h : kind.accepts v = true) : Sound ((caseField field).condition kind (.literal v)) := by
  obtain ⟨hname, hdollar, -⟩ := name_caseField field
  intro c hc
  cases List.mem_singleton.mp hc
  refine ⟨⟨?_, hdollar, ?_⟩, ⟨_, rfl⟩⟩
  · simp [Condition.validate, Field.unqualified, hname, h]
  · rintro g ⟨⟩

theorem leavesAll_iff {P : Condition → Prop} {es : List Expr} :
    (∀ c ∈ Expr.leavesAll es, P c) ↔ ∀ e ∈ es, ∀ c ∈ e.leaves, P c := by
  induction es with
  | nil => simp [Expr.leavesAll]
  | cons e es ih => simp [Expr.leavesAll, or_imp, forall_and, ih]

theorem sound_conjunction {kind : ConjunctionKind} {es : List Expr} (h : ∀ e ∈ es, Sound e) :
    Sound (.conjunction kind es) :=
  leavesAll_iff.mpr h

theorem sound_openCases : Sound openCases := by
  have hrange : Sound ((caseField .reopenedDate).greaterThanOrEqual
      (.field (caseField .closedDate))) := by
    intro c hc
    cases List.mem_singleton.mp hc
    refine ⟨⟨rfl, by decide, ?_⟩, ⟨_, rfl⟩⟩
    rintro g ⟨⟩
    decide
  have hall : ∀ e ∈ [(caseField .closedDate).present, (caseField .reopenedDate).present,
      (caseField .reopenedDate).greaterThanOrEqual (.field (caseField .closedDate))], Sound e := by
    simp only [List.forall_mem_cons, List.not_mem_nil, false_imp_iff, implies_true, and_true]
    exact ⟨sound_literal _ rfl, sound_literal _ rfl, hrange⟩
  refine sound_conjunction ?_
  simp only [List.forall_mem_cons, List.not_mem_nil, false_imp_iff, implies_true, and_true]
  exact ⟨sound_literal _ rfl, sound_conjunction hall⟩

theorem forall_whenSome {α : Type} {P : Expr → Prop} {part : Option α} {build : α → Expr}
    (h : ∀ x, P (build x)) : ∀ e ∈ whenSome part build, P e := by
  cases part with
  | none => simp [whenSome]
  | some x => simpa [whenSome] using h x

theorem sound_conditions (p : CasesSearchPredicate) : Sound (.and (conditions p)) := by
  refine sound_conjunction ?_
  simp only [conditions, List.forall_mem_append]
  refine ⟨⟨⟨⟨⟨⟨?_, ?_⟩, ?_⟩, ?_⟩, ?_⟩, ?_⟩, ?_⟩
  · exact List.forall_mem_singleton.mpr (sound_literal _ rfl)
  · exact forall_whenSome fun n => sound_literal _ rfl
  · exact forall_whenSome fun ids => sound_literal _ rfl
  · exact forall_whenSome fun cs => sound_literal _ rfl
  · exact forall_whenSome fun cs => sound_literal _ rfl
  · split
    · exact forall_whenSome fun ids => sound_literal _ rfl
    · exact List.forall_mem_nil _
  · split
    · exact List.forall_mem_singleton.mpr sound_openCases
    · exact List.forall_mem_nil _

theorem Sound.exists_filter {e : Expr} (h : Sound e) : ∃ f, filter e = .ok f := by
  obtain ⟨f, hf⟩ := exists_filterOf fun c hc => (h c hc).2
  have hvalid := (Expr.validate_eq_ok_iff _).mpr fun c hc => (h c hc).1.valid
  exact ⟨f, filter_eq_ok_iff.mpr ⟨hvalid, hf⟩⟩

theorem exists_filter_conditions (p : CasesSearchPredicate) :
    ∃ f, filter (.and (conditions p)) = .ok f :=
  (sound_conditions p).exists_filter

theorem items_any_equalTo (s : String) (items : List String) :
    (Json.strings items).items.any (equalTo (some (.string s))) = items.contains s := by
  simp only [Json.strings, Json.items, List.any_map, Function.comp_def, equalTo_string]
  exact List.contains_eq_any_beq.symm

theorem all_nonEmpty {α : Type} (items : Option (List α)) (test : List α → Bool) :
    (nonEmpty? items).all test = items.all fun list => list.isEmpty || test list := by
  cases items with
  | none => rfl
  | some list => cases list <;> simp [nonEmpty?, Option.filter]

theorem resolve_caseField (h : SyncedCase.StoredAs d c) (field : SyncedCaseField) :
    d.resolve (caseField field).name = c.members.lookup (caseField field).name := by
  obtain ⟨-, -, hid⟩ := name_caseField field
  exact h.resolve (by cases field <;> decide) hid

theorem resolve_text (h : SyncedCase.StoredAs d c) (field : SyncedCaseField) {s : String}
    (hs : ((caseField field).name, Json.string s) ∈ c.texts) :
    d.resolve (caseField field).name = some (.string s) := by
  rw [resolve_caseField h]
  exact SyncedCase.lookup_members (SyncedCase.mem_of_mem_texts hs)

theorem compare_isGE (a b : String) : (compare a b).isGE = decide (b ≤ a) := by
  have h : (compareOfLessAndEq a b).isGE = true ↔ b ≤ a :=
    isGE_compareOfLessAndEq String.le_antisymm String.not_le String.le_total
  exact Bool.eq_iff_iff.mpr (h.trans decide_eq_true_iff.symm)

theorem sortOrder_string (a b : String) :
    Json.sortOrder (Json.string a) (Json.string b) = compare a b := rfl

def isCopy (d : Json) : Bool := equalTo (d.resolve "documentType") (.string syncedCaseType)

theorem documentType_of_isCopy (h : SyncedCase.StoredAs d c) (hcopy : isCopy d = true) :
    c.documentType = syncedCaseType := by
  have htype : ("documentType", Json.string c.documentType) ∈ c.texts := by
    simp [SyncedCase.texts]
  have hresolve : d.resolve "documentType" = some (.string c.documentType) :=
    resolve_text h .documentType htype
  rw [isCopy, hresolve, equalTo_string] at hcopy
  exact beq_iff_eq.mp hcopy

variable [PatternEngine]

/-- The filter of an expression says what the expression says. -/
theorem Sound.satisfies_eq {e : Expr} {f : Json} (h : Sound e) (hf : filter e = .ok f) (d : Json) :
    Eval.satisfies d f = e.holds d :=
  satisfies_filterOf d (fun c hc => (h c hc).1) (filter_eq_ok_iff.mp hf).2

theorem holds_literal (d : Json) (field : SyncedCaseField) (kind : ConditionKind) (v : Json) :
    ((caseField field).condition kind (.literal v)).holds d =
      kind.holdsOfLiteral (d.resolve (caseField field).name) v := by
  obtain ⟨-, -, hid⟩ := name_caseField field
  have hread : Condition.reading ⟨kind, (caseField field).unqualified, .literal v⟩ v = v := by
    simp [Condition.reading, Field.unqualified, hid]
  rw [Field.condition, Expr.holds, Condition.holds]
  exact congrArg (kind.holdsOfLiteral _) hread

theorem holds_member (field : SyncedCaseField) {s : String}
    (h : d.get? (caseField field).name = some (.string s)) (kind : ConditionKind) (v : Json) :
    ((caseField field).condition kind (.literal v)).holds d =
      kind.holdsOfLiteral (some (.string s)) v := by
  rw [holds_literal, Json.resolve_key (by cases field <;> decide), h]

/-- Conditions are tried as long as those before them hold. -/
theorem allHold_append_of {xs : List Expr} {a : Bool} (h : Expr.allHold d xs = .ok a)
    (ys : List Expr) :
    Expr.allHold d (xs ++ ys) = if a then Expr.allHold d ys else .ok false := by
  induction xs generalizing a with
  | nil =>
    cases h
    rfl
  | cons e xs ih =>
    rw [List.cons_append, Expr.allHold]
    rw [Expr.allHold] at h
    cases he : e.holds d with
    | error fault =>
      rw [he] at h
      cases h
    | ok holds =>
      rw [he] at h
      cases holds with
      | false =>
        cases h
        rfl
      | true => exact ih h

theorem allHold_append {xs ys : List Expr} {a b : Bool} (hx : Expr.allHold d xs = .ok a)
    (hy : Expr.allHold d ys = .ok b) : Expr.allHold d (xs ++ ys) = .ok (a && b) := by
  rw [allHold_append_of hx, hy]
  cases a <;> rfl

theorem allHold_single (d : Json) (e : Expr) : Expr.allHold d [e] = e.holds d := by
  rw [Expr.allHold]
  rcases e.holds d with fault | _ | _ <;> rfl

theorem allHold_singleton {e : Expr} {a : Bool} (h : e.holds d = .ok a) :
    Expr.allHold d [e] = .ok a :=
  (allHold_single d e).trans h

theorem allHold_whenSome {α : Type} (part : Option α) {build : α → Expr} {test : α → Bool}
    (h : ∀ x, (build x).holds d = .ok (test x)) :
    Expr.allHold d (whenSome part build) = .ok (part.all test) := by
  cases part with
  | none => rfl
  | some x => exact allHold_singleton (h x)

theorem allHold_ite {xs : List Expr} {b : Bool} (asked : Option Bool)
    (h : Expr.allHold d xs = .ok b) :
    Expr.allHold d (if asked = some true then xs else []) = .ok (asked != some true || b) := by
  by_cases hasked : asked = some true
  · rw [if_pos hasked, h, hasked]
    rfl
  · rw [if_neg hasked, bne_iff_ne.mpr hasked]
    rfl

theorem holds_text (h : SyncedCase.StoredAs d c) (field : SyncedCaseField) {s : String}
    (hs : ((caseField field).name, Json.string s) ∈ c.texts) (kind : ConditionKind) (v : Json) :
    ((caseField field).condition kind (.literal v)).holds d =
      kind.holdsOfLiteral (some (.string s)) v := by
  rw [holds_literal, resolve_text h field hs]

theorem holds_equals (h : SyncedCase.StoredAs d c) (field : SyncedCaseField) {s : String}
    (hs : ((caseField field).name, Json.string s) ∈ c.texts) (t : String) :
    ((caseField field).equals (text t)).holds d = .ok (s == t) := by
  refine (holds_text h field hs .equals (.string t)).trans ?_
  rw [← equalTo_string]
  rfl

theorem holds_contains (h : SyncedCase.StoredAs d c) (field : SyncedCaseField) {s : String}
    (hs : ((caseField field).name, Json.string s) ∈ c.texts) (ts : List String) :
    ((caseField field).contains (texts ts)).holds d = .ok (ts.contains s) := by
  refine (holds_text h field hs .contains (.strings ts)).trans ?_
  rw [← items_any_equalTo]
  rfl

theorem holds_notContains (h : SyncedCase.StoredAs d c) (field : SyncedCaseField) {s : String}
    (hs : ((caseField field).name, Json.string s) ∈ c.texts) (ts : List String) :
    ((caseField field).notContains (texts ts)).holds d = .ok !(ts.contains s) := by
  refine (holds_text h field hs .notContains (.strings ts)).trans ?_
  rw [← items_any_equalTo]
  rfl

theorem holds_exists {field : SyncedCaseField} {part : Option String}
    (h : d.resolve (caseField field).name = part.map .string) (b : Bool) :
    ((caseField field).condition .exists (.literal (.bool b))).holds d =
      .ok (part.isSome == b) := by
  rw [holds_literal, h]
  cases part <;> rfl

theorem holds_openCases (h : SyncedCase.StoredAs d c) : openCases.holds d = .ok c.isOpen := by
  have hclosed : d.resolve (caseField .closedDate).name = c.closedDate.map .string :=
    (resolve_caseField h .closedDate).trans c.lookup_closedDate
  have hreopened : d.resolve (caseField .reopenedDate).name = c.reopenedDate.map .string :=
    (resolve_caseField h .reopenedDate).trans c.lookup_reopenedDate
  have habsent : (caseField .closedDate).absent.holds d = .ok (c.closedDate.isSome == false) :=
    holds_exists hclosed false
  have hwas : (caseField .closedDate).present.holds d = .ok (c.closedDate.isSome == true) :=
    holds_exists hclosed true
  have hagain : (caseField .reopenedDate).present.holds d = .ok (c.reopenedDate.isSome == true) :=
    holds_exists hreopened true
  have hlater : ∀ closed reopened, c.closedDate = some closed → c.reopenedDate = some reopened →
      ((caseField .reopenedDate).greaterThanOrEqual (.field (caseField .closedDate))).holds d =
        .ok (decide (closed ≤ reopened)) := by
    intro closed reopened hc hr
    rw [hc] at hclosed
    rw [hr] at hreopened
    rw [← compare_isGE, ← sortOrder_string]
    change ConditionKind.greaterThanOrEqual.holdsOfFields
      (Json.present (d.resolve (caseField .reopenedDate).name))
      (Json.present (d.resolve (caseField .closedDate).name)) = _
    rw [hclosed, hreopened]
    rfl
  simp only [openCases, Expr.or, Expr.and, Expr.holds, Expr.anyHolds, Expr.allHold, habsent, hwas,
    hagain, bind, Except.bind]
  cases hc : c.closedDate with
  | none => simp [SyncedCase.isOpen, hc, pure, Except.pure]
  | some closed =>
    cases hr : c.reopenedDate with
    | none => simp [SyncedCase.isOpen, hc, hr, pure, Except.pure]
    | some reopened =>
      have hopen : c.isOpen = decide (closed ≤ reopened) := by
        simp [SyncedCase.isOpen, hc, hr]
      rw [hlater closed reopened hc hr, hopen]
      cases decide (closed ≤ reopened) <;> rfl

/-- On a stored case the conditions of a search say what the predicate says. -/
theorem allHold_conditions (h : SyncedCase.StoredAs d c) (hcopy : c.documentType = syncedCaseType)
    (p : CasesSearchPredicate) : Expr.allHold d (conditions p) = .ok (p.selects c) := by
  have htype : ("documentType", Json.string c.documentType) ∈ c.texts := by
    simp [SyncedCase.texts]
  have hcaseNumber : ("caseNumber", Json.string c.caseNumber) ∈ c.texts := by
    simp [SyncedCase.texts]
  have hcaseId : ("caseId", Json.string c.caseId) ∈ c.texts := by simp [SyncedCase.texts]
  have hchapter : ("chapter", Json.string c.chapter) ∈ c.texts := by simp [SyncedCase.texts]
  have hdivision : ("courtDivisionCode", Json.string c.courtDivisionCode) ∈ c.texts := by
    simp [SyncedCase.texts]
  have hcopies := allHold_singleton (holds_equals h .documentType htype syncedCaseType)
  have hnumbers := allHold_whenSome (p.caseNumber.filter fun n => !n.isEmpty)
    (holds_equals h .caseNumber hcaseNumber)
  have hids := allHold_whenSome p.caseIds (holds_contains h .caseId hcaseId)
  have hchapters := allHold_whenSome (nonEmpty? p.chapters) (holds_contains h .chapter hchapter)
  have hdivisions := allHold_whenSome (nonEmpty? p.divisionCodes)
    (holds_contains h .courtDivisionCode hdivision)
  have hexcluded := allHold_ite p.excludeMemberConsolidations
    (allHold_whenSome (nonEmpty? p.excludedCaseIds) (holds_notContains h .caseId hcaseId))
  have hopen := allHold_ite p.excludeClosedCases (allHold_singleton (holds_openCases h))
  have hall := allHold_append (allHold_append (allHold_append (allHold_append (allHold_append
    (allHold_append hcopies hnumbers) hids) hchapters) hdivisions) hexcluded) hopen
  have hnumber : (p.caseNumber.filter fun n => !n.isEmpty).all (fun n => c.caseNumber == n) =
      p.caseNumber.all fun n => n.isEmpty || c.caseNumber == n := by
    cases p.caseNumber with
    | none => rfl
    | some n => cases hn : n.isEmpty <;> simp [Option.filter, hn]
  have hconsolidated : (p.excludedCaseIds.all fun ids => ids.isEmpty || !ids.contains c.caseId) =
      p.excludedCaseIds.all fun ids => !ids.contains c.caseId := by
    cases p.excludedCaseIds with
    | none => rfl
    | some ids => cases ids <;> simp
  have hconditions : Expr.allHold d (conditions p) = _ := hall
  rw [hconditions, all_nonEmpty, all_nonEmpty, all_nonEmpty, hnumber, hconsolidated, hcopy,
    beq_self_eq_true, Bool.true_and]
  rfl

/-- No search selects a document of another type. -/
theorem holds_conditions_other (hcopy : isCopy d = false) (p : CasesSearchPredicate) :
    (Expr.and (conditions p)).holds d = .ok false := by
  have htype : ((caseField .documentType).equals (text syncedCaseType)).holds d = .ok false := by
    rw [← hcopy]
    exact holds_literal d .documentType .equals (.string syncedCaseType)
  simp only [Expr.and, Expr.holds, conditions, List.cons_append,
    Expr.allHold, htype, bind, Except.bind]
  rfl

theorem holds_conditions_stored (h : SyncedCase.StoredAs d c) (hcopy : isCopy d = true)
    (p : CasesSearchPredicate) : (Expr.and (conditions p)).holds d = .ok (p.selects c) := by
  rw [Expr.and, Expr.holds]
  exact allHold_conditions h (documentType_of_isCopy h hcopy) p

end Search
end DocQuery
