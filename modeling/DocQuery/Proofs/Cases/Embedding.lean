import DocQuery.Proofs.Adapter.Asking
import DocQuery.Proofs.Cases.Pipelines
import DocQuery.Proofs.Cases.Search
import DocQuery.Proofs.Query.Execution
import DocQuery.Regex.Engine

/-!
# Searches and what embedders answer

A search goes on without a vector when its embedder fails or answers an empty one. A vector with a
component that is not finite is searched with, and the search is then refused as malformed. Nothing
else that an embedder answers makes a search a faulty request.
-/
namespace DocQuery
open Native Outcome DocQuery.Action

theorem Collection.exists_of_aggregate_ok [PatternEngine] {stages results : List Json}
    {s t : Session Collection}
    (h : (DocumentStore.aggregate stages : StoreAction Collection (List Json)) s =
      (.ok results, t)) : ∃ documents, Steps.run stages documents = .ok results := by
  obtain ⟨_, _, _, hbegun⟩ := exists_of_bind_ok h
  obtain ⟨u, _, _, hrun⟩ := exists_of_bind_ok hbegun
  exact ⟨u.state.documents, (Prod.mk.inj ((liftExcept_apply _ _).symm.trans hrun)).1⟩

namespace Adapter

variable {α : Type} [Document α] {A : Adapter} {p : Pipeline} {natives : List Json}

theorem withDefaults_of_page (A : Adapter) (h : p.terminalWindow?.isSome = true) :
    A.withDefaults p = p := by
  obtain ⟨w, hw⟩ := Option.isSome_iff_exists.mp h
  obtain ⟨last, hlast, hwindow⟩ := Option.bind_eq_some_iff.mp hw
  have hpaged : p.hasPaginate = true :=
    List.any_eq_true.mpr ⟨last, List.mem_of_getLast? hlast, by rw [hwindow]; rfl⟩
  rw [withDefaults]
  cases A.pageLimit with
  | none => rfl
  | some limit => exact if_pos hpaged

variable [PatternEngine]

/-- What the engine in memory makes of a pipeline that ends in a page is a page. -/
theorem not_requestFault_results (hp : Native.pipeline A.renderer p = .ok natives)
    (hpage : p.terminalWindow?.isSome = true) {documents results : List Json}
    (hrun : Steps.run natives documents = .ok results) : ¬ RequestFault (splitFacet results) := by
  obtain ⟨w, hw⟩ := Option.isSome_iff_exists.mp hpage
  obtain ⟨-, -, hcompiled⟩ := exists_of_bind_eq_ok hp
  obtain ⟨before, compiled, -, -, rfl⟩ := exists_of_terminalWindow hw hcompiled
  rw [Steps.run_append] at hrun
  obtain ⟨found, -, hfacet⟩ := exists_of_bind_eq_ok hrun
  rw [Steps.run_facetStage] at hfacet
  cases hfacet
  rw [splitFacet_page]
  exact not_requestFault_ok _

theorem faultless_paginate (hp : Native.pipeline A.renderer p = .ok natives)
    (hpage : p.terminalWindow?.isSome = true) :
    Faultless (A.paginate p : Action Collection (Page α)) := by
  obtain ⟨w, hw⟩ := Option.isSome_iff_exists.mp hpage
  have hread : ∀ split : List Json × Option PageMetadata, Faultless (do
      return ⟨split.2, ← liftExcept (split.1.mapM Document.read)⟩ :
        Action Collection (Page α)) :=
    fun split => (faultless_read split.1).bind fun _ => faultless_pure _
  have hask : (A.run p : Action Collection (List Json)) =
      A.ask (.array natives) (DocumentStore.aggregate natives) := by
    rw [run, hp]
    rfl
  intro s
  rw [paginate, A.withDefaults_of_page hpage, hw, hask]
  refine bind_elim (P := fun run : Except QueryError (Page α) × Session Collection =>
    ¬ RequestFault run.1) (fun e t hfailed hfault => ?_) fun results t hanswer => ?_
  · refine A.faultless_ask (.array natives) (DocumentStore.aggregate natives) s ?_
    rw [hfailed]
    exact requestFault_error.mpr (requestFault_error.mp hfault)
  · obtain ⟨documents, hrun⟩ := Collection.exists_of_aggregate_ok (eq_ok_of_ask hanswer)
    rw [requestFault_liftExcept_bind hread]
    exact not_requestFault_results hp hpage hrun

theorem paginate_refused {e : QueryError} (hp : Native.pipeline A.renderer p = .error e)
    (hpage : p.terminalWindow?.isSome = true) (s : Session Collection) :
    (A.paginate p : Action Collection (Page α)) s = (.error e, s) := by
  obtain ⟨w, hw⟩ := Option.isSome_iff_exists.mp hpage
  rw [paginate, A.withDefaults_of_page hpage, hw, run, hp]
  rfl

end Adapter

namespace Pipeline

variable {after : List Stage} {s : Stage} {fault : Malformation}

theorem validateFrom_of_fault {before : List Stage}
    (h : ∀ s ∈ before, s.window? = none ∧ s.validate = .ok ()) (hwindow : s.window? = none)
    (hs : s.validate = .error fault) (total n : Nat) :
    validateFrom total n (before ++ s :: after) = .error fault := by
  induction before generalizing n with
  | nil =>
    rw [List.nil_append, validateFrom, hwindow, hs]
    rfl
  | cons first before ih =>
    obtain ⟨⟨hfirst, hvalid⟩, hrest⟩ := List.forall_mem_cons.mp h
    rw [List.cons_append, validateFrom, hfirst, hvalid, ih hrest]
    rfl

theorem isSome_terminalWindow? (stages : List Stage) (w : Paginate) :
    (terminalWindow? ⟨stages ++ [.paginate w]⟩).isSome = true := by
  rw [terminalWindow?, List.getLast?_concat]
  rfl

theorem validate_of_fault (before : List Stage)
    (h : ∀ s ∈ before, s.window? = none ∧ s.validate = .ok ()) (hwindow : s.window? = none)
    (hs : s.validate = .error fault) :
    validate ⟨before ++ s :: after⟩ = .error fault := by
  have hnonEmpty : (before ++ s :: after).isEmpty = false := by simp
  rw [validate, hnonEmpty]
  exact validateFrom_of_fault h hwindow hs _ 1

end Pipeline

namespace Search

def finite (vector : Option (List Component)) : Bool :=
  vector.all fun v => v.all Component.isFinite

variable {p : CasesSearchPredicate} {vector : Option (List Component)} {config : StoreConfig}
  {offset limit : UInt64}

theorem finite_iff : finite vector = true ↔ ∀ v, vector = some v → ∀ x ∈ v, x.isFinite = true := by
  cases vector with
  | none => simp [finite]
  | some v => simp [finite]

theorem finite_eq_false_iff :
    finite vector = false ↔ ∃ v, vector = some v ∧ ∃ x ∈ v, x.isFinite = false := by
  cases vector with
  | none => simp [finite]
  | some v => simp [finite]

theorem validate_nearestTo {v : List Component} {k : UInt32} (similarity : Option Similarity)
    (hconfig : config.WellFormed) (hv : v ≠ []) (hk : 0 < k)
    (hfinite : v.all Component.isFinite = false) :
    (Stage.nearestTo v ⟨config.vectorPath, none⟩ k similarity).validate =
      .error .nonFiniteVector := by
  have hpath : (Field.unqualified ⟨config.vectorPath, none⟩).named "VECTOR_SEARCH" = .ok () :=
    (Stage.named_iff _ _).mpr hconfig.vectorPath
  have hk' : k ≠ 0 := UInt32.pos_iff_ne_zero.mp hk
  simp only [Stage.nearestTo, Stage.validate, Stage.validateSearch, hpath]
  simp [hv, hk', hfinite, bind, Except.bind]

/-- A search is refused for the vector that it is composed with, and for nothing else. -/
theorem validate_composed (h : p.page? = some (offset, limit)) (hconfig : config.WellFormed) :
    (composed p vector config offset limit).validate =
      if finite vector then .ok () else .error .nonFiniteVector := by
  cases hfinite : finite vector with
  | true =>
    exact (Pipeline.validate_iff _).mpr (wellFormed_composed h hconfig (finite_iff.mp hfinite)).1
  | false =>
    cases vector with
    | none => cases hfinite
    | some v =>
      have hv : v ≠ [] := by
        rintro rfl
        cases hfinite
      have hvector : nonEmpty? (some v) = some v := by simpa [nonEmpty?, Option.filter] using hv
      have hfilter : (Stage.filter (.and (conditions p))).validate = .ok () :=
        (Stage.validate_iff _).mpr (sound_conditions p).wellFormed.1
      have hnearest := validate_nearestTo config.vectorSimilarity hconfig hv
        (vectorCandidates_pos hconfig.candidates limit) hfinite
      rw [composed, nearest?, hvector]
      exact Pipeline.validate_of_fault [.filter (.and (conditions p))]
        (List.forall_mem_singleton.mpr ⟨rfl, hfilter⟩) rfl hnearest

theorem exists_composed_iff (h : p.page? = some (offset, limit)) (hconfig : config.WellFormed)
    {r : Renderer} (hr : r ≠ .base) :
    (∃ natives, Native.pipeline r (composed p vector config offset limit) = .ok natives) ↔
      finite vector = true := by
  constructor
  · rintro ⟨natives, hok⟩
    have hwell := Pipeline.wellFormed_of_pipeline_eq_ok hok
    have hvalid := (validate_composed h hconfig).symm.trans ((Pipeline.validate_iff _).mpr hwell)
    by_contra hfinite
    rw [if_neg hfinite] at hvalid
    cases hvalid
  · intro hfinite
    obtain ⟨hwell, hsupported⟩ := wellFormed_composed h hconfig (finite_iff.mp hfinite)
    exact (hwell.decides_pipeline hr).exists_iff.mpr hsupported

def assignee (p : CasesSearchPredicate) : Expr :=
  let assignment : FieldSource AssignmentField := ⟨some assignmentsCollection⟩
  match p.assignments.bind List.head? with
  | some user => .and [(assignment.field .name).equals (text user.name)]
  | none => .and []

theorem supported_literal (kind : ConditionKind) (f : Field) (v : Json) :
    (f.condition kind (.literal v)).Supported ∧
      (Expr.and [f.condition kind (.literal v)]).Supported := by
  have hleaf : ∀ c ∈ (f.condition kind (.literal v)).leaves, ¬ c.ExistsField :=
    List.forall_mem_singleton.mpr fun ⟨_, g, hg⟩ => nomatch hg
  exact ⟨(forall_leaves_supported _).mp hleaf, (forall_leaves_supported (.and _)).mp hleaf⟩

theorem assignee_accepted (p : CasesSearchPredicate) :
    (assignee p).WellFormed ∧ (assignee p).Supported := by
  rw [assignee]
  cases p.assignments.bind List.head? with
  | none => exact ⟨(Expr.validate_iff _).mp rfl, (forall_leaves_supported _).mp nofun⟩
  | some user => exact ⟨(Expr.validate_iff _).mp rfl, (supported_literal _ _ _).2⟩

def unassignedStages (p : CasesSearchPredicate) : List Stage :=
  let assignment : FieldSource AssignmentField := ⟨some assignmentsCollection⟩
  let case : FieldSource SyncedCaseField := ⟨some casesCollection⟩
  let scratch : FieldSource AssignmentScratchField := ⟨none⟩
  let all := scratch.field .allAssignments
  let matching := scratch.field .matchingAssignments
  let active := case.field .assignments
  [.filter (.and (conditions p)),
    .join ⟨case.field .caseId, assignment.field .caseId, all⟩,
    .addFields [⟨matching, all, assignee p⟩,
      ⟨active, all, (assignment.field .unassignedOn).absent⟩],
    .filter (active.equals (.literal (.array []))),
    .drop [all, matching],
    .sort newestFirst]

theorem unassignedPipeline_eq (h : p.page? = some (offset, limit)) :
    unassignedPipeline p = .ok ⟨unassignedStages p ++ [.paginate ⟨offset, limit⟩]⟩ := by
  rw [unassignedPipeline, requirePage_eq_ok h]
  rfl

theorem unassignedStages_accepted (p : CasesSearchPredicate) :
    ∀ s ∈ unassignedStages p, s.window? = none ∧ s.WellFormed ∧ s.Supported := by
  simp only [unassignedStages, List.forall_mem_cons]
  refine ⟨?_, ?_, ?_, ?_, ?_, ?_, List.forall_mem_nil _⟩
  · exact ⟨rfl, (sound_conditions p).wellFormed⟩
  · exact ⟨rfl, (Stage.validate_iff _).mp rfl, trivial⟩
  · obtain ⟨hassignee, hsupported⟩ := assignee_accepted p
    refine ⟨rfl, ⟨List.cons_ne_nil _ _, ?_⟩, ?_⟩
    · simp only [List.forall_mem_cons]
      exact ⟨⟨(Stage.named_iff _ "ADD_FIELDS").mp rfl, (Stage.named_iff _ "ADD_FIELDS").mp rfl,
          hassignee⟩,
        (Stage.validateAdditional_iff _).mp rfl, List.forall_mem_nil _⟩
    · exact List.forall_mem_cons.mpr
        ⟨hsupported, List.forall_mem_singleton.mpr (supported_literal _ _ _).1⟩
  · exact ⟨rfl, (Stage.validate_iff _).mp rfl, (supported_literal _ _ _).1⟩
  · exact ⟨rfl, (Stage.validate_iff _).mp rfl, trivial⟩
  · exact ⟨rfl, (Stage.validate_iff _).mp rfl, trivial⟩

theorem wellFormed_unassigned (h : p.page? = some (offset, limit)) :
    Pipeline.WellFormed ⟨unassignedStages p ++ [.paginate ⟨offset, limit⟩]⟩ ∧
      Pipeline.Supported ⟨unassignedStages p ++ [.paginate ⟨offset, limit⟩]⟩ :=
  Pipeline.wellFormed_page (unassignedStages_accepted p) (pos_of_page h)

end Search

namespace CasesRepository

variable {R : CasesRepository} {p : CasesSearchPredicate} {offset limit : UInt64}

/-- A search asks the embedder, and the answer is a vector with a component that is not finite. -/
def EmbedsNonFinite (R : CasesRepository) (p : CasesSearchPredicate) : Prop :=
  p.includeOnlyUnassigned ≠ some true ∧ ∃ name embed v, p.searchName? = some name ∧
    R.embedder = some embed ∧ embed name = .ok v ∧ ∃ x ∈ v, x.isFinite = false

theorem renderer_ofConfig (h : R.config.engine ≠ .base) :
    (Adapter.ofConfig module R.config).renderer = R.config.renderer ∧
      R.config.renderer ≠ .base := by
  cases hengine : R.config.engine with
  | base => exact absurd hengine h
  | _ => simp [Adapter.ofConfig, Adapter.paged, StoreConfig.renderer, hengine]

theorem finite_vectorFor_iff (hengine : R.config.engine ≠ .base) :
    Search.finite (R.vectorFor p) = false ↔ ∃ name embed v, p.searchName? = some name ∧
      R.embedder = some embed ∧ embed name = .ok v ∧ ∃ x ∈ v, x.isFinite = false := by
  have hsupports : R.config.engine.supportsVectorSearch = true := by
    cases h : R.config.engine with
    | base => exact absurd h hengine
    | _ => rfl
  simp only [Search.finite_eq_false_iff, vectorFor, hsupports, if_true]
  constructor
  · rintro ⟨v, hvector, hx⟩
    obtain ⟨name, hname, hasked⟩ := Option.bind_eq_some_iff.mp hvector
    obtain ⟨embed, hembedder, hanswer⟩ := Option.bind_eq_some_iff.mp hasked
    have hv := (Option.filter_eq_some_iff.mp hanswer).1
    exact ⟨name, embed, v, hname, hembedder, eq_ok_of_toOption hv, hx⟩
  · rintro ⟨name, embed, v, hname, hembedder, hanswer, x, hx, hinfinite⟩
    have hv : v.isEmpty = false := by
      rw [List.isEmpty_eq_false_iff]
      exact List.ne_nil_of_mem hx
    refine ⟨v, ?_, x, hx, hinfinite⟩
    rw [hname, Option.bind_some, hembedder, Option.bind_some, hanswer]
    exact Option.filter_eq_some_iff.mpr ⟨rfl, by rw [hv]; rfl⟩

def nonFiniteSample : CasesRepository :=
  ⟨{ StoreConfig.ofDatabase "cams" with engine := .atlas }, some fun _ => .ok [.notFinite]⟩

def nameSample : CasesSearchPredicate :=
  { name := some "smith", offset := some 0, limit := some 10 }

theorem wellFormed_nonFiniteSample : nonFiniteSample.config.WellFormed :=
  ⟨by decide +kernel, by decide, by decide, by decide, by decide⟩

section

variable [PatternEngine]

theorem faultless_onCases {α : Type} [Document α] (hengine : R.config.engine ≠ .base)
    {spec : Pipeline} {natives : List Json}
    (hspec : Native.pipeline R.config.renderer spec = .ok natives)
    (hpage : spec.terminalWindow?.isSome = true) :
    Faultless (R.onCases fun A => A.paginate spec : Action Services (Page α)) := by
  intro s
  rw [onCases_fst]
  rw [← (renderer_ofConfig hengine).1] at hspec
  exact Adapter.faultless_paginate hspec hpage _

theorem faultless_searchUnassignedCases (hengine : R.config.engine ≠ .base)
    (hpage : p.page? = some (offset, limit)) : Faultless (R.searchUnassignedCases p) := by
  obtain ⟨hwell, hsupported⟩ := Search.wellFormed_unassigned hpage
  obtain ⟨natives, hspec⟩ :=
    (hwell.decides_pipeline (renderer_ofConfig hengine).2).exists_iff.mpr hsupported
  rw [searchUnassignedCases, Search.unassignedPipeline_eq hpage]
  exact faultless_onCases hengine hspec (Pipeline.isSome_terminalWindow? _ _)

/-- A search for a page of cases is no faulty request, or is refused for its vector. -/
theorem searchCases_faultless_or_refused (hconfig : R.config.WellFormed)
    (hengine : R.config.engine ≠ .base) (hpage : p.page? = some (offset, limit))
    (hassigned : p.includeOnlyUnassigned ≠ some true) (s : Session Services) :
    if Search.finite (R.vectorFor p) then ¬ RequestFault (R.searchCases p s).1
    else (R.searchCases p s).1 = .error (.malformed .nonFiniteVector) := by
  obtain ⟨t, -, hsearch⟩ :=
    searchCases_composed (s := s) hassigned (Search.pipeline_eq_composed hpage)
  have hends : (Search.composed p (R.vectorFor p) R.config offset limit).terminalWindow?.isSome =
      true := Pipeline.isSome_terminalWindow? _ _
  rw [hsearch]
  cases hfinite : Search.finite (R.vectorFor p) with
  | true =>
    obtain ⟨hsame, hrenderer⟩ := renderer_ofConfig hengine
    rw [← hsame] at hrenderer
    obtain ⟨natives, hspec⟩ := (Search.exists_composed_iff hpage hconfig hrenderer).mpr hfinite
    exact Adapter.faultless_paginate hspec hends t
  | false =>
    have hrefused : (Search.composed p (R.vectorFor p) R.config offset limit).validate =
        .error .nonFiniteVector := by
      rw [Search.validate_composed hpage hconfig, hfinite]
      rfl
    have hrun := Adapter.paginate_refused (α := SyncedCase)
      (Pipeline.pipeline_malformed hrefused (Adapter.ofConfig module R.config).renderer) hends t
    exact congrArg Prod.fst hrun

/-- What a search with a page may meet on an engine with vector search. Its pipeline is accepted and
compiles unless its vector has a component that is not finite. So the search is a faulty request
just if it asks the embedder and is answered such a vector. A search for cases without an assignment
is always accepted and compiles. -/
theorem requestFault_searchCases_iff {page : UInt64 × UInt64}
    (hconfig : R.config.validate = .ok ()) (hengine : R.config.engine ≠ .base)
    (hpage : p.page? = some page) :
    (∀ vector, ∃ spec, Search.pipeline p vector R.config = .ok spec ∧
      spec.validate = (if Search.finite vector then .ok () else .error .nonFiniteVector) ∧
      ((∃ natives, Native.pipeline R.config.renderer spec = .ok natives) ↔
        Search.finite vector = true)) ∧
    (∃ spec, Search.unassignedPipeline p = .ok spec ∧ spec.validate = .ok () ∧
      ∀ r, r ≠ .base → ∃ natives, Native.pipeline r spec = .ok natives) ∧
    ∀ s, (RequestFault (R.searchCases p s).1 ↔ R.EmbedsNonFinite p) ∧
      (R.EmbedsNonFinite p → (R.searchCases p s).1 = .error (.malformed .nonFiniteVector)) := by
  obtain ⟨offset, limit⟩ := page
  have hwell := R.config.validate_iff.mp hconfig
  have hrenderer := (renderer_ofConfig hengine).2
  obtain ⟨hunassigned, hsupported⟩ := Search.wellFormed_unassigned hpage
  refine ⟨fun vector => ⟨_, Search.pipeline_eq_composed hpage, ?_, ?_⟩,
    ⟨_, Search.unassignedPipeline_eq hpage, ?_, fun r hr => ?_⟩, fun s => ?_⟩
  · exact Search.validate_composed hpage hwell
  · exact Search.exists_composed_iff hpage hwell hrenderer
  · exact (Pipeline.validate_iff _).mpr hunassigned
  · exact (hunassigned.decides_pipeline hr).exists_iff.mpr hsupported
  · by_cases hassigned : p.includeOnlyUnassigned = some true
    · have hnever : ¬ R.EmbedsNonFinite p := fun h => h.1 hassigned
      rw [searchCases, if_pos hassigned]
      exact ⟨iff_of_false (faultless_searchUnassignedCases hengine hpage s) hnever,
        fun h => absurd h hnever⟩
    · have hvector : R.EmbedsNonFinite p ↔ Search.finite (R.vectorFor p) = false :=
        (and_iff_right hassigned).trans (finite_vectorFor_iff hengine).symm
      have hsearch := searchCases_faultless_or_refused hwell hengine hpage hassigned s
      rw [hvector]
      cases hfinite : Search.finite (R.vectorFor p) with
      | true =>
        rw [hfinite] at hsearch
        exact ⟨iff_of_false hsearch Bool.noConfusion, fun h => Bool.noConfusion h⟩
      | false =>
        rw [hfinite] at hsearch
        exact ⟨iff_of_true ⟨_, hsearch, rfl⟩ rfl, fun _ => hsearch⟩

end

theorem requestFault_searchCases_iff_smith :
    nonFiniteSample.config.validate = .ok () ∧ nonFiniteSample.EmbedsNonFinite nameSample ∧
      (nonFiniteSample.searchCases nameSample ⟨⟨ObjectId.ofNat, Nat.repr, 0⟩, .empty⟩).1 =
        .error (.malformed .nonFiniteVector) := by
  have hvalid := (StoreConfig.validate_iff _).mpr wellFormed_nonFiniteSample
  have hembeds : nonFiniteSample.EmbedsNonFinite nameSample :=
    ⟨nofun, "smith", _, _, by decide +kernel, rfl, rfl, .notFinite, List.mem_singleton_self _, rfl⟩
  have hpage : nameSample.page? = some (0, 10) := rfl
  obtain ⟨-, -, hsearch⟩ := requestFault_searchCases_iff hvalid nofun hpage
  exact ⟨hvalid, hembeds, (hsearch _).2 hembeds⟩

/-- An embedder that answers a component that is not finite breaks a search. -/
theorem exists_search_refused :
    ¬ ∀ (R : CasesRepository) (p : CasesSearchPredicate) (s : Session Services),
      R.config.validate = .ok () → R.config.engine ≠ .base → p.page?.isSome = true →
        (∀ spec, Search.pipeline p (R.vectorFor p) R.config = .ok spec → spec.validate = .ok ()) ∧
          ¬ RequestFault (R.searchCases p s).1 := by
  intro h
  have hpage : nameSample.page? = some (0, 10) := rfl
  have hnever := (h nonFiniteSample nameSample ⟨⟨ObjectId.ofNat, Nat.repr, 0⟩, .empty⟩
    ((StoreConfig.validate_iff _).mpr wellFormed_nonFiniteSample) nofun rfl).2
  have hrefused := searchCases_faultless_or_refused wellFormed_nonFiniteSample nofun hpage nofun
    ⟨⟨ObjectId.ofNat, Nat.repr, 0⟩, .empty⟩
  have hfinite : Search.finite (nonFiniteSample.vectorFor nameSample) = false := by decide +kernel
  rw [hfinite] at hrefused
  exact hnever ⟨_, hrefused, rfl⟩

end CasesRepository
end DocQuery
