import DocQuery.Proofs.Pipeline.Acceptance
import DocQuery.Proofs.Query.Compilation
import DocQuery.Proofs.Store.Paging

/-!
# Reading through an adapter

What an adapter answers from a collection that is ready, as functions of the documents. A search
with a sort, the two stages of a query and the pages of its result all go back to one list.
-/
namespace DocQuery

/-- A sort that can be a stage: it has keys, and each of them has a name. -/
structure SortSpec.Named (spec : SortSpec) : Prop where
  nonEmpty : spec.isEmpty = false
  named : ∀ key ∈ spec.fields, key.field.name.isEmpty = false

namespace Pipeline

def query (e : Expr) (spec : SortSpec) : Pipeline := ⟨[.filter e, .sort spec]⟩

def page (e : Expr) (spec : SortSpec) (w : Paginate) : Pipeline :=
  ⟨[.filter e, .sort spec, .paginate w]⟩

end Pipeline

namespace Native

theorem validate_sort {spec : SortSpec} (h : spec.Named) :
    (Stage.sort spec).validate = .ok () := by
  have hkeys : spec.fields ≠ [] := by simpa [SortSpec.isEmpty] using h.nonEmpty
  have hnames : ∀ key ∈ spec.fields, key.field.Named := by simpa [Field.Named] using h.named
  exact (Stage.validate_iff (.sort spec)).mpr ⟨hkeys, hnames⟩

theorem validate_paginate {w : Paginate} (h : 0 < w.limit) :
    (Stage.paginate w).validate = .ok () :=
  (Stage.validate_iff (.paginate w)).mpr h

/-- A pipeline that starts with a filter compiles just if the expression of the filter does, when
nothing is wrong with the stages after it. -/
theorem pipeline_filter (r : Renderer) (e : Expr) {rest : List Stage} {compiled : List Json}
    (hvalid : (Pipeline.mk (.filter e :: rest)).validate = e.validate)
    (hrest : rest.mapM (stage r) = .ok compiled) :
    pipeline r ⟨.filter e :: rest⟩ = (filter e).map fun f => .single "$match" f :: compiled := by
  have hfilter : stage r (.filter e) = (filter e).map (.single "$match") := rfl
  rw [pipeline, hvalid, List.mapM_cons, hrest, hfilter]
  cases hv : e.validate with
  | error m =>
    have hf : filter e = .error (.malformed m) := by
      rw [filter, hv]
      rfl
    rw [hf]
    rfl
  | ok u => cases filter e <;> rfl

def queryStages (filter : Json) (spec : SortSpec) : List Json :=
  [.single "$match" filter, .single "$sort" (sort spec)]

def pageStages (r : Renderer) (filter : Json) (spec : SortSpec) (w : Paginate) : List Json :=
  queryStages filter spec ++ [facetStage w (r != .base)]

theorem pipeline_query (r : Renderer) (e : Expr) {spec : SortSpec} (h : spec.Named) :
    pipeline r (.query e spec) = (filter e).map fun f => queryStages f spec := by
  refine pipeline_filter r e ?_ rfl
  have hsort := validate_sort h
  simp only [Pipeline.validate, Pipeline.validateFrom, Stage.window?, hsort]
  cases hv : e.validate <;> simp [Stage.validate, hv, bind, Except.bind]

theorem pipeline_page (r : Renderer) (e : Expr) {spec : SortSpec} (h : spec.Named) {w : Paginate}
    (hw : 0 < w.limit) :
    pipeline r (.page e spec w) =
      (filter e).map fun f => pageStages r f spec w := by
  refine pipeline_filter r e ?_ rfl
  have hsort := validate_sort h
  have hpage := validate_paginate hw
  simp only [Pipeline.validate, Pipeline.validateFrom, Stage.window?, hsort, hpage]
  cases hv : e.validate <;> simp [Stage.validate, hv, bind, Except.bind]

end Native

namespace Adapter

variable {α : Type} {s : Session Collection}

theorem ask_apply (A : Adapter) (query : Json) (action : StoreAction Collection α) :
    A.ask query action s = ((action s).1.mapError (.store A.module query), (action s).2) := rfl

/-- The error of an adapter whose store rejects a native query. -/
def rejected (A : Adapter) (query : Json) (fault : CommandFault) : QueryError :=
  .store A.module query (.command fault)

theorem bind_ask {β : Type} {A : Adapter} {query : Json} {action : StoreAction Collection α}
    {next : α → Action Collection β} {read : α → Except QueryError β}
    {result : Except CommandFault α} {t : Session Collection}
    (haction : action s = (result.mapError .command, t)) (hnext : ∀ x, next x t = (read x, t)) :
    (A.ask query action >>= next) s = ((result.mapError (A.rejected query)).bind read, t) := by
  have hask := A.ask_apply query action (s := s)
  rw [haction] at hask
  cases result with
  | error fault => exact Outcome.bind_of_error hask
  | ok x => exact (Outcome.bind_of_ok hask).trans (hnext x)

variable [Document α]

def readFirst (A : Adapter) : Option Json → Except QueryError α
  | some d => Document.read d
  | none => .error (.notFound A.module .noMatch)

def totalOf (A : Adapter) (n : Nat) : Option PageMetadata :=
  if A.renderer = .base then none else PageMetadata.ofCount n

theorem splitFacet_totalOf (A : Adapter) (w : Paginate) (documents : List Json) :
    splitFacet [Steps.page w (A.renderer != .base) documents] =
      .ok (w.view documents, A.totalOf documents.length) := by
  rw [splitFacet_page, totalOf]
  by_cases h : A.renderer = .base
  · simp [h]
  · simp [h]

theorem withDefaults_page (A : Adapter) (e : Expr) (spec : SortSpec) (w : Paginate) :
    A.withDefaults (.page e spec w) = .page e spec w := by
  unfold withDefaults
  cases A.pageLimit <;> rfl

variable [PatternEngine]

theorem find_ready (A : Adapter) (hs : s.state.Ready) {e : Expr} {f : Json}
    (hf : Native.filter e = .ok f) (order : Option SortSpec) :
    (A.find e order : Action Collection (List α)) s =
      (((Documents.query f ((order.filter fun o => !o.isEmpty).map Native.sort)
          s.state.documents).mapError (A.rejected f)).bind (·.mapM Document.read),
        s.withState (s.state.asked f)) := by
  rw [find, hf]
  exact bind_ask (Collection.find_ready hs f _) fun found => Outcome.liftExcept_apply _ _

theorem find_sorted (A : Adapter) (hs : s.state.Ready) {e : Expr} {f : Json}
    (hf : Native.filter e = .ok f) {spec : SortSpec} (hspec : spec.Named) :
    (A.find e (some spec) : Action Collection (List α)) s =
      (((Documents.query f (some (Native.sort spec)) s.state.documents).mapError
          (A.rejected f)).bind (·.mapM Document.read),
        s.withState (s.state.asked f)) := by
  have horder : ((some spec).filter fun o => !o.isEmpty).map Native.sort =
      some (Native.sort spec) := by
    simp [hspec.nonEmpty]
  have hfind := A.find_ready (α := α) hs hf (some spec)
  rwa [horder] at hfind

theorem find_unsorted (A : Adapter) (hs : s.state.Ready) {e : Expr} {f : Json}
    (hf : Native.filter e = .ok f) :
    (A.find e none : Action Collection (List α)) s =
      (((Documents.select f s.state.documents).mapError (A.rejected f)).bind
          (·.mapM Document.read),
        s.withState (s.state.asked f)) := by
  have hfind := A.find_ready (α := α) hs hf none
  rwa [Option.filter_none, Option.map_none, Documents.query_none] at hfind

theorem findOne_ready (A : Adapter) (hs : s.state.Ready) {e : Expr} {f : Json}
    (hf : Native.filter e = .ok f) :
    (A.findOne e : Action Collection α) s =
      ((((Documents.select f s.state.documents).map List.head?).mapError (A.rejected f)).bind
          A.readFirst,
        s.withState (s.state.asked f)) := by
  rw [findOne, hf]
  refine bind_ask (Collection.findOne_ready hs f) fun first => ?_
  cases first with
  | none => rfl
  | some d => exact Outcome.liftExcept_apply _ _

theorem count_ready (A : Adapter) (hs : s.state.Ready) {e : Expr} {f : Json}
    (hf : Native.filter e = .ok f) :
    A.count e s =
      (((Documents.select f s.state.documents).map List.length).mapError (A.rejected f),
        s.withState (s.state.asked f)) := by
  have hcount := Collection.count_ready hs f
  rw [count, hf]
  refine (A.ask_apply f (DocumentStore.count f)).trans ?_
  rw [hcount]
  cases Documents.select f s.state.documents <;> rfl

theorem run_ready (A : Adapter) (hs : s.state.Ready) {p : Pipeline} {stages : List Json}
    (hp : Native.pipeline A.renderer p = .ok stages) :
    A.run p s =
      ((Steps.run stages s.state.documents).mapError (.store A.module (.array stages)),
        s.withState (s.state.ran stages)) := by
  have haggregate := Collection.aggregate_ready hs stages
  rw [run, hp]
  change ((Collection.aggregate stages s).1.mapError _, (Collection.aggregate stages s).2) = _
  rw [haggregate]

theorem run_queryStages (f : Json) (spec : SortSpec) (documents : List Json) :
    Steps.run (Native.queryStages f spec) documents =
      (Documents.query f (some (Native.sort spec)) documents).mapError .command :=
  Steps.run_query f (Native.sort spec) documents

theorem run_pageStages (r : Renderer) (f : Json) (spec : SortSpec) (w : Paginate)
    (documents : List Json) :
    Steps.run (Native.pageStages r f spec w) documents =
      ((Documents.query f (some (Native.sort spec)) documents).mapError .command).map fun found =>
        [Steps.page w (r != .base) found] := by
  rw [Native.pageStages, Steps.run_append, run_queryStages]
  cases Documents.query f (some (Native.sort spec)) documents with
  | error fault => rfl
  | ok found => exact Steps.run_facetStage w _ found

/-- A page is a window on what the query finds. -/
theorem paginate_ready (A : Adapter) (hs : s.state.Ready) {e : Expr} {f : Json}
    (hf : Native.filter e = .ok f) {spec : SortSpec} (hspec : spec.Named) {w : Paginate}
    (hw : 0 < w.limit) :
    (A.paginate (.page e spec w) : Action Collection (Page α)) s =
      (((Documents.query f (some (Native.sort spec)) s.state.documents).mapError
          (A.rejected (.array (Native.pageStages A.renderer f spec w)))).bind fun found =>
          ((w.view found).mapM Document.read).map (Page.mk (A.totalOf found.length)),
        s.withState (s.state.ran (Native.pageStages A.renderer f spec w))) := by
  have hp : Native.pipeline A.renderer (.page e spec w) =
      .ok (Native.pageStages A.renderer f spec w) := by
    rw [Native.pipeline_page A.renderer e hspec hw, hf]
    rfl
  have hrun := A.run_ready hs hp
  rw [run_pageStages] at hrun
  rw [paginate, withDefaults_page]
  cases hq : Documents.query f (some (Native.sort spec)) s.state.documents with
  | error fault =>
    rw [hq] at hrun
    exact Outcome.bind_of_error hrun
  | ok found =>
    rw [hq] at hrun
    refine (Outcome.bind_of_ok hrun).trans ?_
    rw [splitFacet_totalOf]
    change (liftExcept ((w.view found).mapM Document.read) >>= fun data => pure (Page.mk _ data) :
      Action Collection (Page α)) _ = _
    simp only [Outcome.mapError_ok, Except.bind]
    cases (w.view found).mapM (Document.read (α := α)) <;> rfl

theorem paginate_found (A : Adapter) (hs : s.state.Ready) {e : Expr} {f : Json}
    (hf : Native.filter e = .ok f) {spec : SortSpec} (hspec : spec.Named) {found : List Json}
    (hq : Documents.query f (some (Native.sort spec)) s.state.documents = .ok found)
    {value : Json → α} (hread : ∀ d ∈ found, Document.read d = .ok (value d))
    {w : Paginate} (hw : 0 < w.limit) :
    (A.paginate (.page e spec w) : Action Collection (Page α)) s =
      (.ok ⟨A.totalOf found.length, w.view (found.map value)⟩,
        s.withState (s.state.ran (Native.pageStages A.renderer f spec w))) := by
  have hview : (w.view found).mapM Document.read = .ok ((w.view found).map value) := by
    refine Outcome.mapM_eq_ok_map fun d hd => hread d ?_
    exact List.mem_of_mem_drop (List.mem_of_mem_take hd)
  rw [A.paginate_ready hs hf hspec hw, hq, ← Paginate.map_view]
  simp only [Outcome.mapError_ok, Except.bind, hview, Except.map]

theorem aggregate_ready (module : String) (hs : s.state.Ready) {e : Expr} {f : Json}
    (hf : Native.filter e = .ok f) {spec : SortSpec} (hspec : spec.Named) :
    ((plain module).aggregate (.query e spec) : Action Collection (List α)) s =
      (((Documents.query f (some (Native.sort spec)) s.state.documents).mapError
          ((plain module).rejected (.array (Native.queryStages f spec)))).bind
          (·.mapM Document.read),
        s.withState (s.state.ran (Native.queryStages f spec))) := by
  have hp : Native.pipeline (plain module).renderer (.query e spec) =
      .ok (Native.queryStages f spec) := by
    rw [Native.pipeline_query _ e hspec, hf]
    rfl
  have hrun := (plain module).run_ready hs hp
  rw [run_queryStages] at hrun
  cases hq : Documents.query f (some (Native.sort spec)) s.state.documents with
  | error fault =>
    rw [hq] at hrun
    exact Outcome.bind_of_error hrun
  | ok found =>
    rw [hq] at hrun
    exact (Outcome.bind_of_ok hrun).trans (Outcome.liftExcept_apply _ _)

section

variable {e : Expr} {err : QueryError} (hf : Native.filter e = .error err)
include hf

theorem find_uncompiled (A : Adapter) (order : Option SortSpec) :
    (A.find e order : Action Collection (List α)) s = (.error err, s) := by
  rw [find, hf]
  rfl

theorem findOne_uncompiled (A : Adapter) :
    (A.findOne e : Action Collection α) s = (.error err, s) := by
  rw [findOne, hf]
  rfl

theorem count_uncompiled (A : Adapter) : A.count e s = (.error err, s) := by
  rw [count, hf]
  rfl

theorem paginate_uncompiled (A : Adapter) {spec : SortSpec} (hspec : spec.Named) {w : Paginate}
    (hw : 0 < w.limit) :
    (A.paginate (.page e spec w) : Action Collection (Page α)) s = (.error err, s) := by
  rw [paginate, withDefaults_page, run, Native.pipeline_page A.renderer e hspec hw, hf]
  rfl

theorem aggregate_uncompiled (module : String) {spec : SortSpec} (hspec : spec.Named) :
    ((plain module).aggregate (.query e spec) : Action Collection (List α)) s =
      (.error err, s) := by
  change ((plain module).run (.query e spec) >>= _) s = _
  rw [run, Native.pipeline_query _ e hspec, hf]
  rfl

end

end Adapter
end DocQuery
