import DocQuery.Adapter.Basic
import DocQuery.Proofs.Members
import DocQuery.Proofs.Store.Reading

/-!
# Running a query and cutting out a page

Pipelines that select, sort and end in a page, run on a list of documents: the two stages of the
query give what a search with a sort gives, and the page is a window on that.
-/
namespace DocQuery

def Paginate.view {α : Type} (w : Paginate) (xs : List α) : List α :=
  (xs.drop w.skip.toNat).take w.limit.toNat

theorem Paginate.map_view {α β : Type} (w : Paginate) (f : α → β) (xs : List α) :
    (w.view xs).map f = w.view (xs.map f) := by
  rw [view, view, List.map_take, List.map_drop]

/-- Windows side by side show everything up to the end of the last. -/
theorem flatMap_windows {α : Type} (xs : List α) (limit n : Nat) :
    ((List.range n).flatMap fun i => (xs.drop (i * limit)).take limit) = xs.take (n * limit) := by
  induction n with
  | zero => simp
  | succ n ih =>
    rw [List.range_succ, List.flatMap_append, ih, List.flatMap_singleton, Nat.succ_mul,
      List.take_add]

/-- The total count of a page: absent if there is nothing to count, or more than 64 bits hold. -/
def PageMetadata.ofCount (n : Nat) : Option PageMetadata :=
  if 0 < n ∧ n < UInt64.size then some ⟨UInt64.ofNat n⟩ else none

theorem asUInt64?_nat {n : Nat} (h : n < UInt64.size) :
    (Json.nat n).asUInt64? = some (UInt64.ofNat n) := by
  have hmax : (n : Int) ≤ Number.maxInt := by
    have hvalue : Number.maxInt = UInt64.size - 1 := by decide
    omega
  simp [Json.nat, Json.asUInt64?, Number.toUInt64?, hmax]

theorem asUInt64?_nat_ge {n : Nat} (h : UInt64.size ≤ n) : (Json.nat n).asUInt64? = none := by
  have hmax : ¬ (n : Int) ≤ Number.maxInt := by
    have hvalue : Number.maxInt = UInt64.size - 1 := by decide
    omega
  simp [Json.nat, Json.asUInt64?, Number.toUInt64?, hmax]

theorem asUInt64?_count {n : Nat} (h : 0 < n) :
    (Json.nat n).asUInt64?.map PageMetadata.mk = PageMetadata.ofCount n := by
  unfold PageMetadata.ofCount
  by_cases hmax : n < UInt64.size
  · rw [asUInt64?_nat hmax, if_pos ⟨h, hmax⟩]
    rfl
  · rw [asUInt64?_nat_ge (by omega), if_neg (by omega)]
    rfl

theorem asUInt64?_uint64 (n : UInt64) : (Json.uint64 n).asUInt64? = some n := by
  rw [Json.uint64, asUInt64?_nat n.toNat_lt, UInt64.ofNat_toNat]

namespace Documents

def compiled (s : SortSpec) : Members :=
  Members.ofPairs (s.fields.map fun key => (key.field.name, .int key.direction.native))

theorem asInt?_compiled (s : SortSpec) :
    ∀ m ∈ compiled s, m.2.asInt? = some 1 ∨ m.2.asInt? = some (-1) := by
  have hpairs : ∀ m ∈ s.fields.map fun key => (key.field.name, Json.int key.direction.native),
      m.2.asInt? = some 1 ∨ m.2.asInt? = some (-1) := by
    intro m hm
    obtain ⟨key, -, rfl⟩ := List.mem_map.mp hm
    cases key.direction with
    | ascending => exact .inl rfl
    | descending => exact .inr rfl
  exact Members.forall_setAll (P := fun v => v.asInt? = some 1 ∨ v.asInt? = some (-1)) hpairs
    (List.forall_mem_nil _)

theorem sortKeyOfMember {m : String × Json}
    (h : m.2.asInt? = some 1 ∨ m.2.asInt? = some (-1)) :
    SortKey.ofMember m = .ok ⟨m.1, m.2.asInt? == some (-1)⟩ := by
  obtain ⟨path, direction⟩ := m
  rcases h with h | h
  · simp only at h
    simp [SortKey.ofMember, h]
  · simp only at h
    simp [SortKey.ofMember, h]

def sorted (keys : List SortKey) (documents : List Json) : List Json :=
  documents.mergeSort fun a b => SortKey.orderAll keys a b != .gt

theorem sorted_length (keys : List SortKey) (documents : List Json) :
    (sorted keys documents).length = documents.length :=
  List.length_mergeSort _

/-- The keys that an engine reads from the native document of a sort. -/
def compiledKeys (s : SortSpec) : List SortKey :=
  (compiled s).map fun m => ⟨m.1, m.2.asInt? == some (-1)⟩

theorem sortKeys_sort (s : SortSpec) : sortKeys (Native.sort s) = .ok (compiledKeys s) :=
  Outcome.mapM_eq_ok_map fun m hm => sortKeyOfMember (asInt?_compiled s m hm)

theorem exists_sortKeys (spec : SortSpec) : ∃ keys, sortKeys (Native.sort spec) = .ok keys :=
  ⟨compiledKeys spec, sortKeys_sort spec⟩

theorem query_sorted [PatternEngine] {spec : SortSpec} {keys : List SortKey}
    (hkeys : sortKeys (Native.sort spec) = .ok keys) (filter : Json) (documents : List Json) :
    query filter (some (Native.sort spec)) documents =
      (select filter documents).map (sorted keys) := by
  rw [query]
  cases select filter documents with
  | error fault => rfl
  | ok found =>
    have hsort : sort (Native.sort spec) found = .ok (sorted keys found) := by
      rw [sort, hkeys]
      rfl
    exact hsort

end Documents

namespace Steps

theorem amount_uint64 (step : Step) (n : UInt64) : amount step (.uint64 n) = .ok n.toNat := by
  rw [amount, asUInt64?_uint64]

variable [PatternEngine]

theorem run_append (first second documents : List Json) :
    run (first ++ second) documents = (run first documents).bind (run second) := by
  induction first generalizing documents with
  | nil => simp [run, Except.bind]
  | cons stage rest ih =>
    simp only [List.cons_append, run, bind]
    cases runStage stage documents with
    | error e => rfl
    | ok next => exact ih next

theorem run_singleton (stage : Json) (documents : List Json) :
    run [stage] documents = runStage stage documents := by
  simp only [run, bind]
  cases runStage stage documents <;> rfl

theorem runStage_step (step : Step) (spec : Json) (documents : List Json) :
    runStage (.single step.name spec) documents =
      (runStep step spec documents).mapError .command := by
  have hfacet : step.name ≠ "$facet" := by cases step <;> decide
  have hname : Step.ofName? step.name = some step := by cases step <;> rfl
  simp only [Json.single, runStage, hfacet, if_false, hname]

/-- The stages of a query are a search with a sort. -/
theorem run_query (filter order : Json) (documents : List Json) :
    run [.single "$match" filter, .single "$sort" order] documents =
      (Documents.query filter (some order) documents).mapError .command := by
  have hmatch := runStage_step .select filter documents
  have hsort := runStage_step .sort order
  change runStage (.single "$match" filter) documents = _ at hmatch
  change ∀ documents, runStage (.single "$sort" order) documents = _ at hsort
  simp only [run, hmatch, hsort, runStep, Documents.query, bind]
  cases Documents.select filter documents with
  | error fault => rfl
  | ok found =>
    simp only [Outcome.mapError_ok, Except.bind]
    cases Documents.sort order found <;> rfl

theorem run_window (w : Paginate) (documents : List Json) :
    run [.single "$skip" (.uint64 w.skip), .single "$limit" (.uint64 w.limit)] documents =
      .ok (w.view documents) := by
  have hskip := runStage_step .skip (.uint64 w.skip) documents
  have hlimit := runStage_step .limit (.uint64 w.limit) (documents.drop w.skip.toNat)
  simp only [runStep, amount_uint64] at hskip hlimit
  change runStage (.single "$skip" _) _ = .ok (documents.drop w.skip.toNat) at hskip
  change runStage (.single "$limit" _) _ = .ok (w.view documents) at hlimit
  simp only [run, hskip, bind, Except.bind, hlimit]

/-- The total count of documents, in the form of an engine: no document if there are none. -/
def totals (documents : List Json) : List Json :=
  if documents.isEmpty then [] else [.single "total" (.nat documents.length)]

theorem run_total (documents : List Json) :
    run [.single "$count" (.string "total")] documents = .ok (totals documents) := by
  rw [run_singleton]
  exact runStage_step .count (.string "total") documents

def page (w : Paginate) (withCount : Bool) (documents : List Json) : Json :=
  let metadata := if withCount then [("metadata", .array (totals documents))] else []
  .object (metadata ++ [("data", .array (w.view documents))])

theorem run_facetStage (w : Paginate) (withCount : Bool) (documents : List Json) :
    run [Native.facetStage w withCount] documents = .ok [page w withCount documents] := by
  rw [run_singleton, Native.facetStage, Json.single, runStage, if_pos rfl]
  cases withCount with
  | false =>
    simp only [Bool.false_eq_true, if_false, List.nil_append, runFacet, runBranches, runBranch,
      run_window]
    rfl
  | true =>
    simp only [if_true, List.singleton_append, runFacet, runBranches, runBranch, run_window,
      run_total]
    rfl

end Steps

namespace Adapter

/-- Splitting a facet with a total. The total is any value, so that it is not computed with. -/
theorem splitFacet_total {facet total : Json} {documents : List Json}
    (hdata : facet.get? "data" = some (.array documents))
    (hmetadata : facet.get? "metadata" = some (.array [.single "total" total])) :
    splitFacet [facet] = .ok (documents, total.asUInt64?.map PageMetadata.mk) := by
  have htotal : (Json.single "total" total).get? "total" = some total := rfl
  simp only [splitFacet, hdata, hmetadata, Json.asArray?, List.head?_cons, htotal, bind,
    Except.bind, Option.bind, pure, Except.pure]

theorem splitFacet_page (w : Paginate) (withCount : Bool) (documents : List Json) :
    splitFacet [Steps.page w withCount documents] =
      .ok (w.view documents,
        if withCount then PageMetadata.ofCount documents.length else none) := by
  cases withCount with
  | false => rfl
  | true =>
    cases documents with
    | nil => rfl
    | cons d documents =>
      have hpos : 0 < (d :: documents).length := by simp
      rw [if_pos rfl, ← asUInt64?_count hpos]
      exact splitFacet_total rfl rfl

end Adapter
end DocQuery
