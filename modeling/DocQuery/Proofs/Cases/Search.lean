import Mathlib.Data.List.Forall2
import DocQuery.Cases.Repository
import DocQuery.Proofs.Adapter.Reading
import DocQuery.Proofs.Cases.Conditions
import DocQuery.Regex.Engine

/-!
# Searching the stored cases

A search that uses no vector finds the stored cases that its predicate selects, newest first, and
gives the page that was asked for.
-/
namespace DocQuery

/-- The order of results: the case filed last comes first, and of those filed at one time the one
with the greatest number. -/
def SyncedCase.before (a b : SyncedCase) : Bool :=
  decide (b.dateFiled < a.dateFiled) ||
    (a.dateFiled == b.dateFiled && decide (b.caseNumber ≤ a.caseNumber))

/-- A search for which no vector is obtained that could be searched with. -/
def CasesRepository.LacksVector (R : CasesRepository) (p : CasesSearchPredicate) : Prop :=
  R.config.engine = .base ∨ ∀ name embed, p.searchName? = some name → R.embedder = some embed →
    nonEmpty? (embed name).toOption = none

namespace Search
open Documents

theorem compare_swap_then (a b c d : String) :
    ((compare a b).swap.then ((compare c d).swap.then .eq) != .gt) =
      (decide (b < a) || (a == b && decide (d ≤ c))) := by
  have hsecond : ((compare c d).swap.then .eq != .gt) = decide (d ≤ c) := by
    rw [← compare_isGE]
    cases compare c d <;> rfl
  have hlt : compare a b = .lt ↔ a < b := compareOfLessAndEq_eq_lt
  have heq : compare a b = .eq ↔ a = b := compareOfLessAndEq_eq_eq String.le_refl String.not_le
  have hgt : compare a b = .gt ↔ b < a :=
    compareOfLessAndEq_eq_gt String.le_antisymm String.le_total String.not_le a b
  cases h : compare a b with
  | lt =>
    have hne : a ≠ b := fun hab => by simp [heq.mpr hab] at h
    have hnot : ¬ b < a := fun hba => by simp [hgt.mpr hba] at h
    simp [hne, hnot, Ordering.then]
  | eq =>
    have hab := heq.mp h
    have hnot : ¬ b < a := fun hba => by simp [hgt.mpr hba] at h
    change ((compare c d).swap.then .eq != .gt) = _
    rw [hsecond]
    simp [hab]
  | gt => simp [hgt.mp h, Ordering.then]

def keys : List SortKey := [⟨"dateFiled", true⟩, ⟨"caseNumber", true⟩]

theorem sortKeys_newestFirst : sortKeys (Native.sort newestFirst) = .ok keys := rfl

theorem named_newestFirst : newestFirst.Named := ⟨rfl, by decide⟩

theorem orderAll_stored {d e : Json} {a b : SyncedCase} (hd : SyncedCase.StoredAs d a)
    (he : SyncedCase.StoredAs e b) : (SortKey.orderAll keys d e != .gt) = a.before b := by
  have hdates : ∀ c : SyncedCase, ("dateFiled", Json.string c.dateFiled) ∈ c.texts := by
    simp [SyncedCase.texts]
  have hnumbers : ∀ c : SyncedCase, ("caseNumber", Json.string c.caseNumber) ∈ c.texts := by
    simp [SyncedCase.texts]
  change ((Json.sortOrder (d.resolve (caseField .dateFiled).name)
      (e.resolve (caseField .dateFiled).name)).swap.then
    ((Json.sortOrder (d.resolve (caseField .caseNumber).name)
      (e.resolve (caseField .caseNumber).name)).swap.then .eq) != .gt) = _
  rw [resolve_text hd .dateFiled (hdates a), resolve_text he .dateFiled (hdates b),
    resolve_text hd .caseNumber (hnumbers a), resolve_text he .caseNumber (hnumbers b)]
  exact compare_swap_then _ _ _ _

/-- Which case a document stores is a function of the document. -/
theorem exists_value :
    ∃ value : Json → SyncedCase, ∀ d c, SyncedCase.StoredAs d c → value d = c := by
  refine ⟨fun d => match (Document.read d : Except QueryError SyncedCase) with
    | .ok c => c
    | .error _ => ⟨none, "", "", "", "", "", "", "", none, none, none⟩, fun d c h => ?_⟩
  simp only [h.read]

variable {documents : List Json} {value : Json → SyncedCase}

theorem map_value_sorted
    (hstored : ∀ d ∈ documents, isCopy d = true → SyncedCase.StoredAs d (value d))
    (p : CasesSearchPredicate) :
    (sorted keys ((documents.filter isCopy).filter fun d => p.selects (value d))).map value =
      (((documents.filter isCopy).map value).filter p.selects).mergeSort SyncedCase.before := by
  have hmap : ((documents.filter isCopy).filter fun d => p.selects (value d)).map value =
      ((documents.filter isCopy).map value).filter p.selects := by
    rw [List.filter_map]
    rfl
  rw [sorted, ← hmap]
  refine List.map_mergeSort fun d hd e he => ?_
  simp only [List.mem_filter] at hd he
  exact orderAll_stored (hstored d hd.1.1 hd.1.2) (hstored e he.1.1 he.1.2)

theorem pipeline_none (p : CasesSearchPredicate) (config : StoreConfig) {w : Paginate}
    (hpage : requirePage p = .ok (w.skip, w.limit)) :
    pipeline p none config = .ok (.page (.and (conditions p)) newestFirst w) := by
  rw [pipeline, hpage]
  rfl

/-- The filter of a search on a collection of which every copy is a stored case. -/
theorem select_conditions [PatternEngine]
    (hstored : ∀ d ∈ documents, isCopy d = true → SyncedCase.StoredAs d (value d))
    (p : CasesSearchPredicate) {f : Json} (hf : Native.filter (.and (conditions p)) = .ok f) :
    select f documents = .ok ((documents.filter isCopy).filter fun d => p.selects (value d)) := by
  rw [List.filter_filter]
  refine select_eq_filter fun d hd => ?_
  rw [(sound_conditions p).satisfies_eq hf]
  cases hcopy : isCopy d with
  | false =>
    rw [holds_conditions_other hcopy, Bool.and_false]
  | true =>
    rw [holds_conditions_stored (hstored d hd hcopy) hcopy, Bool.and_true]

end Search

namespace CasesRepository

variable {R : CasesRepository} {p : CasesSearchPredicate} {s : Session Services}

def cases (R : CasesRepository) (s : Session Services) : Collection :=
  s.state.client.collection R.config.database Search.casesCollection

theorem onCases_fst {α : Type} (R : CasesRepository) (action : Adapter → Action Collection α)
    (s : Session Services) :
    (R.onCases action s).1 =
      (action (.ofConfig module R.config) (s.withState (R.cases s))).1 := rfl

/-- The query vector of a search, if it asks for one and obtains it. -/
def vectorFor (R : CasesRepository) (p : CasesSearchPredicate) : Option (List Component) :=
  p.searchName?.bind fun name => R.embedder.bind fun embed =>
    if R.config.engine.supportsVectorSearch then nonEmpty? (embed name).toOption else none

/-- What a search asks the embedder for: its name, unless it composes its pipeline without one. -/
def asks (R : CasesRepository) (p : CasesSearchPredicate) : List String :=
  if p.includeOnlyUnassigned = some true ∨ p.page? = none then []
  else if R.config.engine.supportsVectorSearch && R.embedder.isSome then p.searchName?.toList
  else []

def composes (R : CasesRepository) (p : CasesSearchPredicate) : Except QueryError Pipeline :=
  if p.includeOnlyUnassigned = some true then Search.unassignedPipeline p
  else Search.pipeline p (R.vectorFor p) R.config

def asked (texts : List String) (s : Session Services) : Session Services :=
  s.withState { s.state with embedded := s.state.embedded ++ texts }

theorem asked_nil (s : Session Services) : asked [] s = s := by
  rw [asked, List.append_nil]
  rfl

theorem queryVector_vectorFor {name : String} (hname : p.searchName? = some name) :
    R.queryVector name s = (.ok (R.vectorFor p), asked
      (if R.config.engine.supportsVectorSearch && R.embedder.isSome then [name] else []) s) := by
  rw [vectorFor, hname, Option.bind_some, queryVector]
  cases hembedder : R.embedder with
  | none =>
    rw [Option.isSome_none, Bool.and_false, if_neg Bool.false_ne_true, asked_nil]
    cases R.config.engine.supportsVectorSearch <;> rfl
  | some embed =>
    cases R.config.engine.supportsVectorSearch with
    | false =>
      rw [Bool.false_and, if_neg Bool.false_ne_true, asked_nil]
      rfl
    | true => rfl

theorem LacksVector.vectorFor_eq_none (h : R.LacksVector p) : R.vectorFor p = none := by
  rw [vectorFor]
  refine Option.bind_eq_none_iff.mpr fun name hname => Option.bind_eq_none_iff.mpr ?_
  intro embed hembedder
  rcases h with hbase | hvectors
  · rw [hbase]
    rfl
  · rw [hvectors name embed hname hembedder, ite_self]

theorem totalOf_ofConfig (config : StoreConfig) (n : Nat) :
    (Adapter.ofConfig module config).totalOf n =
      if config.engine = .base then none else PageMetadata.ofCount n := by
  unfold Adapter.totalOf Adapter.ofConfig
  cases h : config.engine <;>
    simp [Adapter.plain, Adapter.paged, StoreConfig.renderer, h]

section

variable [PatternEngine]

def searchComposed (R : CasesRepository) (p : CasesSearchPredicate) :
    Action Services (Page SyncedCase) := do
  let spec ← liftExcept (R.composes p)
  R.onCases fun A => A.paginate spec

/-- A search asks the embedder first, and then the adapter for a page of what it composes. -/
theorem searchCases_eq (R : CasesRepository) (p : CasesSearchPredicate) (s : Session Services) :
    R.searchCases p s = R.searchComposed p (asked (R.asks p) s) := by
  rw [searchCases, searchComposed, composes, asks]
  by_cases hassigned : p.includeOnlyUnassigned = some true
  · rw [if_pos hassigned, if_pos hassigned, if_pos (.inl hassigned), asked_nil]
    rfl
  · rw [if_neg hassigned, if_neg hassigned]
    cases hpage : p.page? with
    | none =>
      rw [if_pos (.inr rfl), asked_nil, Search.pipeline, Search.requirePage_missing hpage]
      rfl
    | some page =>
      rw [if_neg (not_or.mpr ⟨hassigned, nofun⟩), Search.requirePage_eq_ok hpage]
      cases hname : p.searchName? with
      | none =>
        have hvector : R.vectorFor p = none := by
          rw [vectorFor, hname, Option.bind_none]
        rw [hvector, Option.toList_none, ite_self, asked_nil]
        rfl
      | some name => exact Outcome.bind_of_ok (queryVector_vectorFor hname)

/-- A search for cases asks the adapter for what it composes with the vector that it obtains. -/
theorem searchCases_composed {spec : Pipeline} (hassigned : p.includeOnlyUnassigned ≠ some true)
    (hspec : Search.pipeline p (R.vectorFor p) R.config = .ok spec) :
    ∃ t : Session Collection, t.state = R.cases s ∧
      (R.searchCases p s).1 =
        ((Adapter.ofConfig module R.config).paginate spec t : _ × _).1 := by
  refine ⟨s.withState (R.cases s), rfl, ?_⟩
  rw [searchCases_eq, searchComposed, composes, if_neg hassigned, hspec]
  exact R.onCases_fst (fun A => A.paginate spec) (asked (R.asks p) s)

theorem searchCases_fst {w : Paginate} (hpage : Search.requirePage p = .ok (w.skip, w.limit))
    (hassigned : p.includeOnlyUnassigned ≠ some true) (hvector : R.LacksVector p) :
    ∃ t : Session Collection, t.state = R.cases s ∧
      (R.searchCases p s).1 =
        ((Adapter.ofConfig module R.config).paginate
          (.page (.and (Search.conditions p)) Search.newestFirst w) t : _ × _).1 := by
  refine searchCases_composed hassigned ?_
  rw [hvector.vectorFor_eq_none]
  exact Search.pipeline_none p R.config hpage

/-- A search that uses no vector gives the page asked for of the stored cases selected. -/
theorem searchCases_stored (hready : (R.cases s).Ready)
    (hstored : ∀ d ∈ (R.cases s).documents, Search.isCopy d = true → ∃ c, SyncedCase.StoredAs d c)
    {offset limit : UInt64} (hoffset : p.offset = some offset) (hlimit : p.limit = some limit)
    (hpos : 0 < limit) (hassigned : p.includeOnlyUnassigned ≠ some true)
    (hvector : R.LacksVector p) :
    ∃ copies, List.Forall₂ SyncedCase.StoredAs ((R.cases s).documents.filter Search.isCopy) copies ∧
      let selected := (copies.filter p.selects).mergeSort SyncedCase.before
      (R.searchCases p s).1 =
        .ok ⟨if R.config.engine = .base then none else PageMetadata.ofCount selected.length,
          (selected.drop offset.toNat).take limit.toNat⟩ := by
  obtain ⟨value, hvalue⟩ := Search.exists_value
  have hcopies : ∀ d ∈ (R.cases s).documents, Search.isCopy d = true →
      SyncedCase.StoredAs d (value d) := by
    intro d hd hcopy
    obtain ⟨c, hc⟩ := hstored d hd hcopy
    rwa [hvalue d c hc]
  refine ⟨((R.cases s).documents.filter Search.isCopy).map value, ?_, ?_⟩
  · refine List.forall₂_map_right_iff.mpr (List.forall₂_same.mpr fun d hd => ?_)
    obtain ⟨hd, hcopy⟩ := List.mem_filter.mp hd
    exact hcopies d hd hcopy
  · intro selected
    have hpage : Search.requirePage p = .ok (offset, limit) := by
      simp [Search.requirePage, CasesSearchPredicate.page?, hoffset, hlimit, hpos]
    obtain ⟨f, hf⟩ := Search.exists_filter_conditions p
    obtain ⟨t, ht, hsearch⟩ :=
      searchCases_fst (s := s) (w := ⟨offset, limit⟩) hpage hassigned hvector
    have hselect := Search.select_conditions hcopies p hf
    have hq := Documents.query_sorted Search.sortKeys_newestFirst f (R.cases s).documents
    rw [hselect] at hq
    have hsorted := Search.map_value_sorted hcopies p
    have hread : ∀ d ∈ Documents.sorted Search.keys
        (((R.cases s).documents.filter Search.isCopy).filter fun d => p.selects (value d)),
        Document.read d = .ok (value d) := by
      intro d hd
      have hd' := (List.mergeSort_perm _ _).mem_iff.mp hd
      simp only [List.mem_filter] at hd'
      exact (hcopies d hd'.1.1 hd'.1.2).read
    rw [← ht] at hready
    have hpaginate := (Adapter.ofConfig module R.config).paginate_found hready hf
      Search.named_newestFirst (ht ▸ hq) hread (w := ⟨offset, limit⟩) hpos
    have hlength := congrArg List.length hsorted
    rw [List.length_map] at hlength
    rw [hsearch, hpaginate, hsorted, hlength, totalOf_ofConfig]
    rfl

end

/-- The second page of a search by chapter for open cases, each page with one case. -/
theorem searchCases_stored_reopened :
    let case (number chapter filed : String) : SyncedCase :=
      { id := some number, caseId := "081-" ++ number, caseNumber := number, chapter,
        courtDivisionCode := "081", dateFiled := filed, closedDate := some "2024-03-01",
        reopenedDate := some "2024-05-01" }
    let older := case "24-00001" "15" "2024-01-02"
    let newer := case "24-00002" "11" "2024-02-01"
    let other := case "24-00003" "7" "2024-02-02"
    let stored (c : SyncedCase) : Json := .object (c.members ++ [(internalId, .int 1)])
    let note : Json := .object
      [("documentType", .string "AUDIT_NOTE"), ("caseId", .string older.caseId)]
    let found : Collection := { Collection.empty "cases" false with
      documents := [stored older, note, stored newer, stored other] }
    let s : Session Services :=
      ⟨⟨ObjectId.ofNat, Nat.repr, 0⟩, ⟨⟨[("cams.cases", found)], false, 0⟩, []⟩⟩
    let R : CasesRepository := ⟨{ StoreConfig.ofDatabase "cams" with engine := .atlas }, none⟩
    let p : CasesSearchPredicate :=
      { chapters := some ["11", "15"], excludeClosedCases := some true, limit := some 1,
        offset := some 1 }
    [older, newer, other].filter p.selects = [older, newer] ∧
      (R.searchCases p s).1 = .ok ⟨PageMetadata.ofCount 2, [older]⟩ := by
  intro case older newer other stored note found s R p
  have hready : (R.cases s).Ready := ⟨rfl, rfl⟩
  have hstoredAs : ∀ c ∈ [older, newer, other], SyncedCase.StoredAs (stored c) c := by
    intro c hc
    refine ⟨⟨_, _, rfl, List.perm_append_singleton _ _⟩, fun vector hvector => ?_⟩
    have hnone : ∀ c ∈ [older, newer, other], c.keywordsVector = none := by decide
    cases (hnone c hc).symm.trans hvector
  have hcopies : (R.cases s).documents.filter Search.isCopy =
      [older, newer, other].map stored := rfl
  have hstored : ∀ d ∈ (R.cases s).documents, Search.isCopy d = true →
      ∃ c, SyncedCase.StoredAs d c := by
    intro d hd hcopy
    have hmem := List.mem_filter.mpr ⟨hd, hcopy⟩
    rw [hcopies] at hmem
    obtain ⟨c, hc, rfl⟩ := List.mem_map.mp hmem
    exact ⟨c, hstoredAs c hc⟩
  have hvector : R.LacksVector p := .inr fun _ _ _ hembedder => nomatch hembedder
  obtain ⟨copies, hread, hrun⟩ := @searchCases_stored R p s _ hready hstored 1 1 rfl rfl
    (by decide) (by decide) hvector
  have hunique : Relator.RightUnique SyncedCase.StoredAs := by
    obtain ⟨value, hvalue⟩ := Search.exists_value
    exact fun d c c' hc hc' => (hvalue d c hc).symm.trans (hvalue d c' hc')
  have hsame : copies = [older, newer, other] := by
    refine List.right_unique_forall₂' hunique hread ?_
    rw [hcopies]
    exact List.forall₂_map_left_iff.mpr (List.forall₂_same.mpr hstoredAs)
  have hselected : [older, newer, other].filter p.selects = [older, newer] := by decide
  have hsorted : [older, newer].mergeSort SyncedCase.before = [newer, older] := by
    have hbefore : SyncedCase.before older newer = false := by decide
    simp [List.mergeSort, hbefore]
  refine ⟨hselected, ?_⟩
  rw [hrun, hsame, hselected, hsorted]
  rfl

end CasesRepository
end DocQuery
