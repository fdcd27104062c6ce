import DocQuery.Proofs.Cases.Embedding
import DocQuery.Proofs.Cases.Writing
import DocQuery.Regex.Engine

/-!
# Searches that go on without a vector

A search composes its pipeline from its predicate and the vector that it obtains. Where it obtains
none, its name has no influence on anything but what the embedder is asked for: two searches that
differ in the name alone run as one.
-/
namespace DocQuery
open Native

def Json.IsVectorStage (d : Json) : Prop :=
  ∃ spec, d = .single "$vectorSearch" spec ∨ d = .single "$search" spec

theorem Stage.exists_nearest {r : Renderer} {s : Stage}
    (h : s.operator r = "$vectorSearch" ∨ s.operator r = "$search") :
    ∃ search, s = .nearest search := by
  cases s with
  | nearest search => exact ⟨search, rfl⟩
  | _ => simp [operator] at h

theorem Pipeline.not_isVectorStage {r : Renderer} {p : Pipeline} {natives : List Json}
    (h : pipeline r p = .ok natives) (hnone : ∀ search, Stage.nearest search ∉ p.stages) :
    ∀ d ∈ natives, ¬ d.IsVectorStage := by
  rintro d hd ⟨spec, hspec⟩
  obtain ⟨i, hi⟩ := List.mem_iff_getElem?.mp hd
  obtain ⟨s, spec', hs, rfl⟩ := exists_stage_of_pipeline_eq_ok h hi
  have hkey : ∀ {key key' : String} {v v' : Json},
      Json.single key v = .single key' v' → key = key' := by
    rintro key key' v v' ⟨⟩
    rfl
  obtain ⟨search, rfl⟩ := Stage.exists_nearest (hspec.imp hkey hkey)
  exact hnone search (List.mem_of_getElem? hs)

namespace Collection

def sent (s : Session Collection) : Option (List Json) := s.state.lastPipeline

/-- A pipeline is recorded even by a collection that refuses to run it. -/
theorem sent_aggregate [PatternEngine] (stages : List Json) (s : Session Collection) :
    sent (aggregate stages s).2 = some stages := by
  have hbegin : Outcome.Keeps sent (begin none) := by
    rintro ⟨ids, name, documents, failure, lastFilter, lastPipeline, closed⟩
    cases closed <;> cases failure <;> rfl
  have hrun : Outcome.Keeps sent (begin none >>= fun _ =>
      get >>= fun t => liftExcept (Steps.run stages t.state.documents) :
        StoreAction Collection (List Json)) :=
    hbegin.bind fun _ => Outcome.Keeps.bind (fun _ => rfl) fun _ => Outcome.keeps_liftExcept _ _
  exact hrun (s.withState { s.state with lastPipeline := some stages })

end Collection

theorem Adapter.sent_paginate [PatternEngine] {α : Type} [Document α] (A : Adapter) {p : Pipeline}
    (hpage : p.terminalWindow?.isSome = true) (s : Session Collection) :
    Collection.sent (A.paginate p s : Except QueryError (Page α) × _).2 =
      (pipeline A.renderer p).toOption.or (Collection.sent s) := by
  cases hp : pipeline A.renderer p with
  | error e =>
    rw [A.paginate_refused hp hpage]
    rfl
  | ok natives =>
    obtain ⟨w, hw⟩ := Option.isSome_iff_exists.mp hpage
    have hread : ∀ split : List Json × Option PageMetadata, Outcome.Keeps Collection.sent (do
        return ⟨split.2, ← liftExcept (split.1.mapM Document.read)⟩ :
          Action Collection (Page α)) :=
      fun split => (Outcome.keeps_liftExcept _ _).bind fun _ => Outcome.keeps_pure _ _
    have hrun : Collection.sent (A.run p s).2 = some natives := by
      rw [run, hp]
      exact Collection.sent_aggregate natives s
    rw [paginate, A.withDefaults_of_page hpage, hw]
    refine Outcome.bind_elim (P := fun run : Except QueryError (Page α) × Session Collection =>
      Collection.sent run.2 = some natives) (fun e t hfailed => ?_) fun results t hanswer => ?_
    · rwa [hfailed] at hrun
    · rw [hanswer] at hrun
      exact ((Outcome.keeps_liftExcept _ _).bind hread t).trans hrun

namespace Search

variable {p : CasesSearchPredicate} {config : StoreConfig} {offset limit : UInt64}

theorem nearest_not_mem_composed (search : VectorSearch) :
    Stage.nearest search ∉ (composed p none config offset limit).stages := by
  simp [composed, nearest?, nonEmpty?]

theorem nearest_not_mem_unassigned (search : VectorSearch) :
    Stage.nearest search ∉ unassignedStages p ++ [.paginate ⟨offset, limit⟩] := by
  simp [unassignedStages]

end Search

namespace CasesRepository

variable {R : CasesRepository} {p : CasesSearchPredicate} {spec : Pipeline} {s : Session Services}

theorem length_asks (R : CasesRepository) (p : CasesSearchPredicate) : (R.asks p).length ≤ 1 := by
  rw [asks]
  split
  · exact Nat.zero_le _
  · split
    · exact Option.length_toList_le
    · exact Nat.zero_le _

theorem asks_eq_nil (h : p.page? = none ∨ R.config.engine = .base ∨ p.searchName? = none ∨
    p.includeOnlyUnassigned = some true) : R.asks p = [] := by
  rw [asks]
  rcases h with hpage | hengine | hname | hassigned
  · exact if_pos (.inr hpage)
  · rw [hengine]
    exact ite_self _
  · rw [hname, Option.toList_none, ite_self, ite_self]
  · exact if_pos (.inl hassigned)

/-- The pipeline that a search sends to the store, if it sends one. -/
def sends (R : CasesRepository) (p : CasesSearchPredicate) : Option (List Json) :=
  (R.composes p).toOption.bind fun spec => (pipeline R.adapter.renderer spec).toOption

theorem composes_cases (h : R.composes p = .ok spec) : ∃ offset limit,
    spec = Search.composed p (R.vectorFor p) R.config offset limit ∨
      spec = ⟨Search.unassignedStages p ++ [.paginate ⟨offset, limit⟩]⟩ := by
  rw [composes] at h
  cases hpage : p.page? with
  | none =>
    rw [Search.unassignedPipeline, Search.pipeline, Search.requirePage_missing hpage] at h
    split at h <;> cases h
  | some page =>
    obtain ⟨offset, limit⟩ := page
    rw [Search.unassignedPipeline_eq hpage, Search.pipeline_eq_composed hpage] at h
    split at h
    · exact ⟨offset, limit, .inr (Except.ok.inj h).symm⟩
    · exact ⟨offset, limit, .inl (Except.ok.inj h).symm⟩

theorem isSome_terminalWindow?_of_composes (h : R.composes p = .ok spec) :
    spec.terminalWindow?.isSome = true := by
  obtain ⟨offset, limit, rfl | rfl⟩ := composes_cases h
  · exact Pipeline.isSome_terminalWindow? _ _
  · exact Pipeline.isSome_terminalWindow? _ _

theorem not_isVectorStage_of_sends (hlacks : R.LacksVector p) {natives : List Json}
    (h : R.sends p = some natives) : ∀ d ∈ natives, ¬ d.IsVectorStage := by
  obtain ⟨spec, hspec, hnatives⟩ := Option.bind_eq_some_iff.mp h
  refine Pipeline.not_isVectorStage (Outcome.eq_ok_of_toOption hnatives) fun search => ?_
  obtain ⟨offset, limit, rfl | rfl⟩ := composes_cases (Outcome.eq_ok_of_toOption hspec)
  · rw [hlacks.vectorFor_eq_none]
    exact Search.nearest_not_mem_composed search
  · exact Search.nearest_not_mem_unassigned search

theorem composes_nameless (hlacks : R.LacksVector p) :
    R.composes { p with name := none } = R.composes p := by
  have hvector : R.vectorFor { p with name := none } = none := rfl
  rw [composes, composes, hvector, hlacks.vectorFor_eq_none]
  rfl

section

variable [PatternEngine]

theorem sent_searchComposed (R : CasesRepository) (p : CasesSearchPredicate)
    (s : Session Services) : (R.cases (R.searchComposed p s).2).lastPipeline =
      (R.sends p).or (R.cases s).lastPipeline := by
  rw [searchComposed, sends]
  cases hspec : R.composes p with
  | error e => rfl
  | ok spec =>
    obtain ⟨u, hrun, hcases⟩ := onCases_of_eq (R := R) (s := s)
      (fun A => (A.paginate spec : Action Collection (Page SyncedCase))) rfl
    have hsent := R.adapter.sent_paginate (α := SyncedCase)
      (isSome_terminalWindow?_of_composes hspec) (s.withState (R.cases s))
    refine Eq.trans ?_ hsent
    refine Eq.trans (congrArg (fun t => (R.cases t).lastPipeline) (congrArg Prod.snd hrun)) ?_
    rw [hcases]
    rfl

/-- What the embedder was asked for before has no influence on a search. -/
theorem searchComposed_asked (R : CasesRepository) (p : CasesSearchPredicate)
    (texts : List String) (s : Session Services) :
    R.searchComposed p (asked texts s) =
      ((R.searchComposed p s).1, asked texts (R.searchComposed p s).2) := by
  rw [searchComposed]
  cases R.composes p <;> rfl

theorem embedded_searchComposed (R : CasesRepository) (p : CasesSearchPredicate)
    (s : Session Services) : (R.searchComposed p s).2.state.embedded = s.state.embedded := by
  rw [searchComposed]
  cases R.composes p <;> rfl

/-- A search that obtains no vector, whether it has no name, its engine has no vector search, or its
embedder is missing, fails or answers an empty vector, runs as the search without its name: it has
the same result, sends the store the same pipeline, in which there is no vector search, and leaves
the same client. The embedder is asked once at most, and not at all if there is no page, no name or
no vector search on the engine, or if cases without an assignment are searched for. -/
theorem searchCases_fallback (hlacks : R.LacksVector p) (s : Session Services) :
    let q : CasesSearchPredicate := { p with name := none }
    let after := (R.searchCases p s).2
    let after' := (R.searchCases q s).2
    (R.searchCases p s).1 = (R.searchCases q s).1 ∧
      (after.ids = after'.ids ∧ after.state.client = after'.state.client) ∧
      (R.sends p = R.sends q ∧
        (R.cases after).lastPipeline = (R.sends p).or (R.cases s).lastPipeline ∧
        ∀ natives, R.sends p = some natives → ∀ d ∈ natives, ¬ d.IsVectorStage) ∧
      after'.state.embedded = s.state.embedded ∧
      ∃ texts : List String, after.state.embedded = s.state.embedded ++ texts ∧
        texts.length ≤ 1 ∧
        (p.page? = none ∨ R.config.engine = .base ∨ p.searchName? = none ∨
          p.includeOnlyUnassigned = some true → texts = []) := by
  intro q after after'
  have hcomposes := composes_nameless hlacks
  have hnameless : R.searchCases q s = R.searchComposed p s := by
    have hasks : R.asks q = [] := asks_eq_nil (.inr (.inr (.inl rfl)))
    rw [searchCases_eq, hasks, asked_nil, searchComposed, hcomposes]
    rfl
  have hsearch : R.searchCases p s =
      ((R.searchComposed p s).1, asked (R.asks p) (R.searchComposed p s).2) := by
    rw [searchCases_eq, searchComposed_asked]
  have hafter : after = asked (R.asks p) (R.searchComposed p s).2 := congrArg Prod.snd hsearch
  have hafter' : after' = (R.searchComposed p s).2 := congrArg Prod.snd hnameless
  rw [hafter, hafter', hnameless, hsearch]
  refine ⟨rfl, ⟨rfl, rfl⟩, ⟨?_, ?_, fun natives => not_isVectorStage_of_sends hlacks⟩, ?_, ?_⟩
  · rw [sends, sends, hcomposes]
  · exact R.sent_searchComposed p s
  · exact R.embedded_searchComposed p s
  · refine ⟨R.asks p, ?_, R.length_asks p, asks_eq_nil⟩
    exact congrArg (· ++ R.asks p) (R.embedded_searchComposed p s)

end

/-- A search for a name on Atlas whose embedder cannot be reached. -/
theorem searchCases_fallback_unavailable :
    let R : CasesRepository :=
      ⟨{ StoreConfig.ofDatabase "cams" with engine := .atlas },
        some fun _ => .error (.unavailable "timeout")⟩
    let s : Session Services := ⟨⟨ObjectId.ofNat, Nat.repr, 0⟩, .empty⟩
    R.LacksVector nameSample ∧
      (R.searchCases nameSample s).1 = (R.searchCases { nameSample with name := none } s).1 ∧
      R.sends nameSample = R.sends { nameSample with name := none } := by
  intro R s
  have hlacks : R.LacksVector nameSample := by
    refine .inr fun name embed _ hembedder => ?_
    cases hembedder
    rfl
  obtain ⟨hresult, -, ⟨hsends, -⟩, -⟩ := searchCases_fallback hlacks s
  exact ⟨hlacks, hresult, hsends⟩

end CasesRepository
end DocQuery
