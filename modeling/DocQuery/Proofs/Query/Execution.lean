import DocQuery.Proofs.Query.Compilation
import DocQuery.Proofs.Store.Paging
import DocQuery.Proofs.Store.Writing
import DocQuery.Regex.Engine

/-!
# What compiles can be run

The engine in memory rejects stages that it does not know and arguments that it cannot read. None of
this comes up with a compiled pipeline of the stages that it knows, whatever documents it is run on.
-/
namespace DocQuery

/-- A condition that no document makes fail: its pattern can be read, and no operand that has to be
a list or a pattern is taken from the document. -/
def Condition.Total [PatternEngine] (c : Condition) : Prop :=
  match c.right with
  | .literal v => c.kind = .regex → ∀ pattern, v = .string pattern → PatternEngine.Accepts pattern
  | .field _ => c.kind ≠ .contains ∧ c.kind ≠ .notContains ∧ c.kind ≠ .regex

theorem Eval.exists_matchesPattern [PatternEngine] {pattern : String}
    (h : PatternEngine.Accepts pattern) (text : String) :
    ∃ b, matchesPattern pattern text = .ok b := by
  obtain ⟨test, htest⟩ := h
  exact ⟨test text, by rw [matchesPattern, htest]⟩

theorem ConditionKind.exists_holdsOfLiteral [PatternEngine] {kind : ConditionKind} {v : Json}
    (h : kind = .regex → ∀ pattern, v = .string pattern → PatternEngine.Accepts pattern)
    (x : Option Json) : ∃ b, kind.holdsOfLiteral x v = .ok b := by
  cases kind with
  | regex =>
    simp only [holdsOfLiteral]
    split
    · next text pattern => exact Eval.exists_matchesPattern (h rfl pattern rfl) text
    · exact ⟨false, rfl⟩
  | «exists» => cases v <;> exact ⟨_, rfl⟩
  | _ => exact ⟨_, rfl⟩

theorem Condition.Total.exists_holds [PatternEngine] {c : Condition} (h : c.Total) (d : Json) :
    ∃ b, c.holds d = .ok b := by
  obtain ⟨kind, left, right⟩ := c
  cases right with
  | literal v =>
    refine ConditionKind.exists_holdsOfLiteral (fun hregex pattern hpattern => ?_) _
    have hkind : kind = .regex := hregex
    subst hkind
    have hreading : Condition.reading ⟨.regex, left, .literal v⟩ v = v := by
      simp [reading]
    exact h rfl pattern (hreading.symm.trans hpattern)
  | field g =>
    obtain ⟨hcontains, hnotContains, hregex⟩ := h
    cases kind with
    | contains => exact absurd rfl hcontains
    | notContains => exact absurd rfl hnotContains
    | regex => exact absurd rfl hregex
    | _ => exact ⟨_, rfl⟩

namespace Expr

variable [PatternEngine]

/-- An expression whose filter can be run on every document. -/
structure Executable (e : Expr) : Prop where
  names : ∀ name ∈ e.fieldNames, Native.startsWithDollar name = false
  total : ∀ c ∈ e.leaves, c.Total

mutual

theorem exists_holds (d : Json) : ∀ {e : Expr}, (∀ c ∈ e.leaves, c.Total) → ∃ b, e.holds d = .ok b
  | .condition c, h => by
    rw [holds]
    exact (h c (by simp [leaves])).exists_holds d
  | .conjunction kind es, h => by
    obtain ⟨⟨all, hall⟩, ⟨any, hany⟩⟩ := exists_holdsAll d h
    cases kind with
    | and => exact ⟨all, hall⟩
    | or => exact ⟨any, hany⟩
    | not => exact ⟨!any, by rw [holds, hany]; rfl⟩

theorem exists_holdsAll (d : Json) : ∀ {es : List Expr}, (∀ c ∈ leavesAll es, c.Total) →
    (∃ b, allHold d es = .ok b) ∧ ∃ b, anyHolds d es = .ok b
  | [], _ => ⟨⟨true, rfl⟩, ⟨false, rfl⟩⟩
  | e :: es, h => by
    simp only [leavesAll, List.mem_append] at h
    obtain ⟨b, hb⟩ := exists_holds d fun c hc => h c (.inl hc)
    obtain ⟨hall, hany⟩ := exists_holdsAll d fun c hc => h c (.inr hc)
    rw [allHold, anyHolds, hb]
    cases b with
    | true => exact ⟨hall, ⟨true, rfl⟩⟩
    | false => exact ⟨⟨false, rfl⟩, hany⟩

end

/-- The filter that such an expression compiles to faults on no document. -/
theorem Executable.exists_select {e : Expr} (h : e.Executable) {f : Json}
    (hf : Native.filter e = .ok f) (documents : List Json) :
    ∃ found, Documents.select f documents = .ok found := by
  obtain ⟨hvalid, hcompiled⟩ := filter_eq_ok_iff.mp hf
  have hplain : ∀ c ∈ e.leaves, c.Plain := fun c hc =>
    ⟨e.validate_eq_ok_iff.mp hvalid c hc, h.names _ (mem_fieldNames_left hc),
      fun g hg => h.names _ (mem_fieldNames_right hc hg)⟩
  have hsound : ∀ d ∈ documents, ∃ b, Eval.satisfies d f = .ok b := by
    intro d _
    rw [satisfies_filterOf d hplain hcompiled]
    exact exists_holds d h.total
  obtain ⟨holds, hholds⟩ := Documents.exists_holds hsound
  exact ⟨documents.filter holds, Documents.select_eq_filter hholds⟩

end Expr

namespace Steps

variable [PatternEngine]

def Runs (stage : Json) : Prop := ∀ documents, ∃ results, runStage stage documents = .ok results

theorem runs_step (step : Step) {spec : Json}
    (h : ∀ documents, ∃ results, runStep step spec documents = .ok results) :
    Runs (.single step.name spec) := by
  intro documents
  obtain ⟨results, hresults⟩ := h documents
  exact ⟨results, by rw [runStage_step, hresults]; rfl⟩

theorem runs_sort (spec : SortSpec) : Runs (.single "$sort" (Native.sort spec)) := by
  obtain ⟨keys, hkeys⟩ := Documents.exists_sortKeys spec
  refine runs_step .sort fun documents => ⟨Documents.sorted keys documents, ?_⟩
  rw [runStep, Documents.sort, hkeys]
  rfl

theorem runs_project (fields : List Field) (flag : Int) : Runs (Native.projectStage fields flag) :=
  runs_step .project fun _ => ⟨_, rfl⟩

theorem runs_facet (w : Paginate) (withCount : Bool) : Runs (Native.facetStage w withCount) := by
  intro documents
  exact ⟨_, (run_singleton _ _).symm.trans (run_facetStage w withCount documents)⟩

theorem exists_run {stages : List Json} (h : ∀ stage ∈ stages, Runs stage) (documents : List Json) :
    ∃ results, run stages documents = .ok results := by
  induction stages generalizing documents with
  | nil => exact ⟨documents, rfl⟩
  | cons stage rest ih =>
    obtain ⟨hfirst, hrest⟩ := List.forall_mem_cons.mp h
    obtain ⟨next, hnext⟩ := hfirst documents
    obtain ⟨results, hresults⟩ := ih hrest next
    exact ⟨results, by rw [run, hnext]; exact hresults⟩

end Steps

/-- The stages that the engine in memory knows. -/
def Stage.IsKnown : Stage → Prop
  | .filter _ | .sort _ | .paginate _ | .keep _ | .drop _ => True
  | _ => False

def Stage.Executable [PatternEngine] : Stage → Prop
  | .filter e => e.Executable
  | _ => True

namespace Native
open Steps

variable {r : Renderer} {p : Pipeline} {stages : List Json}

theorem exists_of_terminalWindow {w : Paginate} (hw : p.terminalWindow? = some w)
    (h : p.stages.mapM (stage r) = .ok stages) :
    ∃ before compiled, p.stages = before ++ [.paginate w] ∧
      before.mapM (stage r) = .ok compiled ∧ stages = compiled ++ [facetStage w (r != .base)] := by
  obtain ⟨last, hlast, hwindow⟩ := Option.bind_eq_some_iff.mp hw
  obtain ⟨before, hsplit⟩ := List.getLast?_eq_some_iff.mp hlast
  cases last with
  | paginate w' =>
    cases hwindow
    rw [hsplit, List.mapM_append] at h
    obtain ⟨compiled, hcompiled, hrest⟩ := Outcome.exists_of_bind_eq_ok h
    cases hrest
    exact ⟨before, compiled, hsplit, hcompiled, rfl⟩
  | _ => cases hwindow

section

variable [PatternEngine]

theorem runs_stage {r : Renderer} {s : Stage} {native : Json} (h : stage r s = .ok native)
    (hknown : r = .base ∨ s.IsKnown) (hs : s.Executable) : Runs native := by
  have hunknown : ¬ s.IsKnown → r = .base := fun hnot => hknown.resolve_right hnot
  cases s with
  | filter e =>
    obtain ⟨f, hf, rfl⟩ := Outcome.exists_of_map_eq_ok h
    exact runs_step .select fun documents => hs.exists_select hf documents
  | sort spec =>
    cases h
    exact runs_sort spec
  | paginate w =>
    cases h
    exact runs_facet w _
  | keep fields =>
    cases r with
    | base => cases h
    | _ =>
      cases h
      exact runs_project fields 1
  | drop fields =>
    cases r with
    | base => cases h
    | _ =>
      cases h
      exact runs_project fields 0
  | _ =>
    cases hunknown not_false
    cases h

theorem runs_stages {given : List Stage} (h : given.mapM (stage r) = .ok stages)
    (hknown : r = .base ∨ ∀ s ∈ given, s.IsKnown) (hgiven : ∀ s ∈ given, s.Executable) :
    ∀ native ∈ stages, Runs native := by
  intro native hnative
  obtain ⟨s, hs, hcompiled⟩ := Outcome.exists_of_mem_mapM h native hnative
  exact runs_stage hcompiled (hknown.imp_right fun hall => hall s hs) (hgiven s hs)

/-- A pipeline that compiles can be run on any documents, when the engine in memory knows its stages
and its filters are executable. A page at its end can be split. -/
theorem run_pipeline (hp : pipeline r p = .ok stages)
    (hknown : r = .base ∨ ∀ s ∈ p.stages, s.IsKnown) (hexecutable : ∀ s ∈ p.stages, s.Executable)
    (documents : List Json) :
    ∃ results, run stages documents = .ok results ∧
      ∀ w, p.terminalWindow? = some w → ∃ found, results = [page w (r != .base) found] ∧
        Adapter.splitFacet results = .ok (w.view found,
          if r != .base then PageMetadata.ofCount found.length else none) := by
  obtain ⟨-, -, hcompiled⟩ := Outcome.exists_of_bind_eq_ok hp
  obtain ⟨results, hresults⟩ := exists_run (runs_stages hcompiled hknown hexecutable) documents
  refine ⟨results, hresults, fun w hw => ?_⟩
  obtain ⟨before, compiled, hsplit, hbefore, rfl⟩ := exists_of_terminalWindow hw hcompiled
  have hsub : ∀ s ∈ before, s ∈ p.stages := by
    intro s hs
    rw [hsplit]
    exact List.mem_append_left _ hs
  have hruns := runs_stages hbefore (hknown.imp_right fun hall s hs => hall s (hsub s hs))
    fun s hs => hexecutable s (hsub s hs)
  obtain ⟨found, hfound⟩ := exists_run hruns documents
  rw [run_append, hfound] at hresults
  have hpage : results = [page w (r != .base) found] :=
    Except.ok.inj (hresults.symm.trans (run_facetStage w _ found))
  exact ⟨found, hpage, by rw [hpage]; exact Adapter.splitFacet_page w _ found⟩

end

/-- A pattern, a comparison of two fields, a projection, a sort and a page, on any documents. -/
theorem run_pipeline_projected :
    let name : Field := ⟨"name", none⟩
    let low : Field := ⟨"low", none⟩
    let p : Pipeline :=
      ⟨[.filter (.and [.condition ⟨.regex, name, .literal (.string "^a|b$")⟩,
          .condition ⟨.lessThan, low, .field ⟨"high", none⟩⟩]),
        .keep [name], .sort ⟨[⟨name, .descending⟩]⟩, .paginate ⟨1, 2⟩]⟩
    let stages : List Json :=
      [.single "$match" (.single "$and" (.array
          [.single "name" (.single "$regex" (.string "^a|b$")),
            .single "$expr" (.single "$lt" (Json.strings ["$low", "$high"]))])),
        .single "$project" (.single "name" (.int 1)), .single "$sort" (.single "name" (.int (-1))),
        facetStage ⟨1, 2⟩ true]
    (pipeline (.atlas none) p = .ok stages ∧ (∀ s ∈ p.stages, s.IsKnown) ∧
        ∀ s ∈ p.stages, s.Executable) ∧
      ∀ documents, ∃ found, run stages documents = .ok [page ⟨1, 2⟩ true found] := by
  intro name low p stages
  have hp : pipeline (.atlas none) p = .ok stages := rfl
  have hknown : ∀ s ∈ p.stages, s.IsKnown := by
    simp [p, Stage.IsKnown]
  have hexecutable : ∀ s ∈ p.stages, s.Executable := by
    simp only [p, List.forall_mem_cons, List.not_mem_nil, false_imp_iff, implies_true, and_true]
    refine ⟨⟨?_, ?_⟩, trivial, trivial, trivial⟩
    · decide
    · refine List.forall_mem_cons.mpr ⟨?_, List.forall_mem_singleton.mpr ?_⟩
      · rintro - pattern hpattern
        cases hpattern
        exact ⟨_, rfl⟩
      · exact ⟨nofun, nofun, nofun⟩
  refine ⟨⟨hp, hknown, hexecutable⟩, fun documents => ?_⟩
  obtain ⟨results, hresults, hpage⟩ := run_pipeline hp (.inr hknown) hexecutable documents
  obtain ⟨found, rfl, -⟩ := hpage ⟨1, 2⟩ rfl
  exact ⟨found, hresults⟩

end Native
end DocQuery
