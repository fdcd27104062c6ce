import DocQuery.Eval.Path
import DocQuery.Proofs.Pipeline.Acceptance

/-!
# Engines agree on what they compile

Atlas and Cosmos turn down the same pipelines for the same reason, and their documents differ only
in the form of a vector search. The base engine compiles a pipeline of filters, sorts and pages as
Atlas does, without the total of a page, and turns down the first stage of any other kind.
-/
namespace DocQuery
open Native Outcome

namespace Stage

inductive IsBasic : Stage → Prop where
  | filter (query : Expr) : IsBasic (.filter query)
  | sort (spec : SortSpec) : IsBasic (.sort spec)
  | paginate (w : Paginate) : IsBasic (.paginate w)

end Stage

/-- A vector search as Atlas has it and as Cosmos has it: the same vector and path, and the number
of results of Cosmos both as the number of candidates and as the limit. -/
structure VectorSearch.Carried (s : VectorSearch) (atlas cosmos : Json) : Prop where
  atlasVector : atlas.resolve "$vectorSearch.queryVector" = some (Component.vectorToJson s.vector)
  cosmosVector : cosmos.resolve "$search.cosmosSearch.vector" =
    some (Component.vectorToJson s.vector)
  atlasPath : atlas.resolve "$vectorSearch.path" = some (.string s.path.name)
  cosmosPath : cosmos.resolve "$search.cosmosSearch.path" = some (.string s.path.name)
  atlasCandidates : atlas.resolve "$vectorSearch.numCandidates" = some (.nat s.k.toNat)
  atlasLimit : atlas.resolve "$vectorSearch.limit" = some (.nat s.k.toNat)
  cosmosK : cosmos.resolve "$search.cosmosSearch.k" = some (.nat s.k.toNat)

theorem VectorSearch.carried (s : VectorSearch) (index : Option String) :
    s.Carried (atlasSearch index s) (cosmosSearch s) := by
  cases index <;> exact ⟨rfl, rfl, rfl, rfl, rfl, rfl, rfl⟩

/-- How the Atlas and the Cosmos document of a stage go together. -/
def Stage.Counterparts (atlas cosmos : Json) : Stage → Prop
  | .nearest search => search.Carried atlas cosmos
  | _ => atlas = cosmos

/-- A compiled page without the branch that counts the total; any other document as it is. -/
def withoutTotal : Json → Json
  | .object [("$facet", .object branches)] =>
    .single "$facet" (.object (branches.filter fun branch => branch.1 != "metadata"))
  | v => v

namespace Native

variable (index : Option String) {s : Stage}

theorem stage_atlas_eq_error_iff (s : Stage) (err : QueryError) :
    stage (.atlas index) s = .error err ↔ stage .cosmos s = .error err := by
  cases s with
  | nearest search => exact ⟨nofun, nofun⟩
  | _ => rfl

theorem counterparts_of_stage {atlas cosmos : Json} (ha : stage (.atlas index) s = .ok atlas)
    (hc : stage .cosmos s = .ok cosmos) : s.Counterparts atlas cosmos := by
  cases s with
  | nearest search =>
    cases ha
    cases hc
    exact search.carried index
  | _ => exact Except.ok.inj (ha.symm.trans hc)

theorem withoutTotal_facetStage (w : Paginate) :
    withoutTotal (facetStage w true) = facetStage w false := rfl

theorem withoutTotal_of_ne {key : String} (h : key ≠ "$facet") (v : Json) :
    withoutTotal (.single key v) = .single key v := by
  unfold withoutTotal Json.single
  split
  · next heq =>
    cases heq
    exact absurd rfl h
  · rfl

theorem stage_base_of_isBasic (h : s.IsBasic) :
    stage .base s = (stage (.atlas index) s).map withoutTotal := by
  cases h with
  | filter query =>
    change (filter query).map _ = ((filter query).map _).map _
    cases filter query with
    | error err => rfl
    | ok f => exact congrArg Except.ok (withoutTotal_of_ne (by decide) f).symm
  | sort spec => exact congrArg Except.ok (withoutTotal_of_ne (by decide) (sort spec)).symm
  | paginate w => exact congrArg Except.ok (withoutTotal_facetStage w).symm

theorem stage_base_of_not_isBasic (h : ¬ s.IsBasic) :
    stage .base s = .error (.unsupportedStage "base" s.name) := by
  cases s with
  | filter query => exact absurd (.filter query) h
  | sort spec => exact absurd (.sort spec) h
  | paginate w => exact absurd (.paginate w) h
  | _ => rfl

theorem isBasic_of_stage_eq_ok {native : Json} (h : stage .base s = .ok native) : s.IsBasic := by
  cases s with
  | filter query => exact .filter query
  | sort spec => exact .sort spec
  | paginate w => exact .paginate w
  | _ => cases h

end Native

namespace Pipeline

variable (p : Pipeline) (index : Option String)

theorem atlas_eq_error_iff (err : QueryError) :
    pipeline (.atlas index) p = .error err ↔ pipeline .cosmos p = .error err := by
  cases hvalid : p.validate with
  | error fault => rw [pipeline_malformed hvalid, pipeline_malformed hvalid]
  | ok u =>
    have hwell := p.validate_iff.mp hvalid
    rw [hwell.pipeline_eq, hwell.pipeline_eq]
    exact mapM_eq_error_congr (stage_atlas_eq_error_iff index) p.stages

theorem counterparts_of_pipeline {atlas cosmos : List Json}
    (ha : pipeline (.atlas index) p = .ok atlas) (hc : pipeline .cosmos p = .ok cosmos) {i : Nat}
    {s : Stage} {a c : Json} (hs : p.stages[i]? = some s) (hai : atlas[i]? = some a)
    (hci : cosmos[i]? = some c) : s.Counterparts a c := by
  have hwell := wellFormed_of_pipeline_eq_ok ha
  rw [hwell.pipeline_eq] at ha hc
  obtain ⟨sa, hsa, hstage⟩ := exists_of_getElem?_mapM ha hai
  obtain ⟨sc, hsc, hstage'⟩ := exists_of_getElem?_mapM hc hci
  cases hs.symm.trans hsa
  cases hs.symm.trans hsc
  exact counterparts_of_stage index hstage hstage'

theorem base_of_isBasic {atlas : List Json} (ha : pipeline (.atlas index) p = .ok atlas)
    (h : ∀ s ∈ p.stages, s.IsBasic) : pipeline .base p = .ok (atlas.map withoutTotal) := by
  have hwell := wellFormed_of_pipeline_eq_ok ha
  rw [hwell.pipeline_eq, mapM_eq_ok_iff] at ha ⊢
  calc p.stages.map (stage .base)
      = p.stages.map fun s => (stage (.atlas index) s).map withoutTotal :=
        List.map_congr_left fun s hs => stage_base_of_isBasic index (h s hs)
    _ = (p.stages.map (stage (.atlas index))).map (Except.map withoutTotal) := by
        rw [List.map_map]; rfl
    _ = (atlas.map withoutTotal).map .ok := by
        rw [ha, List.map_map, List.map_map]; rfl

theorem isBasic_of_base {base : List Json} (h : pipeline .base p = .ok base) :
    ∀ s ∈ p.stages, s.IsBasic := by
  rw [(wellFormed_of_pipeline_eq_ok h).pipeline_eq] at h
  intro s hs
  obtain ⟨native, hnative⟩ := exists_of_mapM_eq_ok h s hs
  exact isBasic_of_stage_eq_ok hnative

/-- The base engine fails at the first stage that it lacks: all before it are compiled, and Atlas
would have failed at any other. -/
theorem base_of_not_isBasic {atlas : List Json} (ha : pipeline (.atlas index) p = .ok atlas)
    (h : ¬ ∀ s ∈ p.stages, s.IsBasic) :
    ∃ before s after, p.stages = before ++ s :: after ∧ (∀ b ∈ before, b.IsBasic) ∧
      ¬ s.IsBasic ∧ pipeline .base p = .error (.unsupportedStage "base" s.name) := by
  cases hbase : pipeline .base p with
  | ok base => exact absurd (p.isBasic_of_base hbase) h
  | error err =>
    have hwell := wellFormed_of_pipeline_eq_ok ha
    rw [hwell.pipeline_eq] at ha hbase
    obtain ⟨before, s, after, hstages, hbefore, hs⟩ := mapM_eq_error_iff.mp hbase
    have hmem : s ∈ p.stages := hstages ▸ List.mem_append_right before List.mem_cons_self
    obtain ⟨native, hnative⟩ := exists_of_mapM_eq_ok ha s hmem
    have hlacks : ¬ s.IsBasic := by
      intro hbasic
      rw [stage_base_of_isBasic index hbasic, hnative] at hs
      cases hs
    refine ⟨before, s, after, hstages, fun b hb => ?_, hlacks, ?_⟩
    · obtain ⟨native, hnative⟩ := hbefore b hb
      exact isBasic_of_stage_eq_ok hnative
    · have herr := hs.symm.trans (stage_base_of_not_isBasic hlacks)
      rw [Except.error.inj herr]

theorem exists_atlas_of_base {base : List Json} (h : pipeline .base p = .ok base) :
    ∃ atlas, pipeline (.atlas index) p = .ok atlas := by
  have hbasic := p.isBasic_of_base h
  have hwell := wellFormed_of_pipeline_eq_ok h
  rw [hwell.pipeline_eq] at h ⊢
  refine exists_mapM_eq_ok fun s hs => ?_
  obtain ⟨native, hnative⟩ := exists_of_mapM_eq_ok h s hs
  rw [stage_base_of_isBasic index (hbasic s hs)] at hnative
  obtain ⟨atlas, hatlas, -⟩ := exists_of_map_eq_ok hnative
  exact ⟨atlas, hatlas⟩

/-- Atlas and Cosmos fail alike or compile to counterparts. What Atlas compiles, the base engine
compiles just if it has every stage, and it names the first stage that it lacks. -/
theorem engines_agree :
    ((∃ err, pipeline (.atlas index) p = .error err ∧ pipeline .cosmos p = .error err) ∨
        ∃ atlas cosmos, pipeline (.atlas index) p = .ok atlas ∧ pipeline .cosmos p = .ok cosmos ∧
          atlas.length = p.stages.length ∧ cosmos.length = p.stages.length ∧
          ∀ (i : Nat) (s : Stage) (a c : Json), p.stages[i]? = some s → atlas[i]? = some a →
            cosmos[i]? = some c → s.Counterparts a c) ∧
      (∀ atlas, pipeline (.atlas index) p = .ok atlas →
        ((∃ base, pipeline .base p = .ok base) ↔ ∀ s ∈ p.stages, s.IsBasic) ∧
        ((∀ s ∈ p.stages, s.IsBasic) → pipeline .base p = .ok (atlas.map withoutTotal)) ∧
        (¬ (∀ s ∈ p.stages, s.IsBasic) →
          ∃ before s after, p.stages = before ++ s :: after ∧ (∀ b ∈ before, b.IsBasic) ∧
            ¬ s.IsBasic ∧ pipeline .base p = .error (.unsupportedStage "base" s.name))) ∧
      ∀ base, pipeline .base p = .ok base →
        (∃ atlas, pipeline (.atlas index) p = .ok atlas) ∧
          ∃ cosmos, pipeline .cosmos p = .ok cosmos := by
  have hcosmos : (∃ atlas, pipeline (.atlas index) p = .ok atlas) ↔
      ∃ cosmos, pipeline .cosmos p = .ok cosmos := by
    simp only [exists_ok_iff, ne_eq, p.atlas_eq_error_iff index]
  refine ⟨?_, fun atlas ha => ⟨?_, fun h => p.base_of_isBasic index ha h,
    fun h => p.base_of_not_isBasic index ha h⟩, ?_⟩
  · cases ha : pipeline (.atlas index) p with
    | error err => exact .inl ⟨err, rfl, (p.atlas_eq_error_iff index err).mp ha⟩
    | ok atlas =>
      obtain ⟨cosmos, hc⟩ := hcosmos.mp ⟨atlas, ha⟩
      exact .inr ⟨atlas, cosmos, rfl, hc, length_of_pipeline_eq_ok ha, length_of_pipeline_eq_ok hc,
        fun i s a c hs hai hci => p.counterparts_of_pipeline index ha hc hs hai hci⟩
  · exact ⟨fun ⟨base, hb⟩ => p.isBasic_of_base hb, fun h => ⟨_, p.base_of_isBasic index ha h⟩⟩
  · intro base hb
    have hatlas := p.exists_atlas_of_base index hb
    exact ⟨hatlas, hcosmos.mp hatlas⟩

/-- A page of filtered and sorted documents on all engines, and the same with a vector search and a
join, where the search is the first stage that the base engine lacks. -/
theorem engines_agree_search :
    let title : Field := ⟨"title", none⟩
    let query : Expr := .condition ⟨.equals, title, .literal (.string "a")⟩
    let window : Paginate := ⟨20, 10⟩
    let search : VectorSearch := ⟨[.finite ⟨false, 1⟩], ⟨"embedding", none⟩, 3, some .cosine⟩
    let p : Pipeline := ⟨[.filter query, .sort ⟨[⟨title, .descending⟩]⟩, .paginate window]⟩
    let q : Pipeline := ⟨[.filter query, .nearest search, .join ⟨title, ⟨"name", some "people"⟩,
      title⟩]⟩
    (∃ atlas, pipeline (.atlas none) p = .ok atlas ∧
        pipeline .base p = .ok (atlas.map withoutTotal)) ∧
      pipeline .base q = .error (.unsupportedStage "base" "VECTOR_SEARCH") ∧
      ∃ atlas cosmos, pipeline (.atlas (some "vectors")) q = .ok atlas ∧
        pipeline .cosmos q = .ok cosmos ∧ ∀ a c : Json, atlas[1]? = some a →
          cosmos[1]? = some c → search.Carried a c := by
  intro title query window search p q
  obtain ⟨-, hpage, -⟩ := engines_agree p none
  obtain ⟨hcounterparts, -, -⟩ := engines_agree q (some "vectors")
  have hbasic : ∀ s ∈ p.stages, s.IsBasic := by
    simp only [p, List.forall_mem_cons]
    exact ⟨.filter query, .sort _, .paginate window, List.forall_mem_nil _⟩
  obtain ⟨-, hwithout, -⟩ := hpage _ rfl
  obtain ⟨err, herr, -⟩ | ⟨atlas, cosmos, ha, hc, -, -, hall⟩ := hcounterparts
  · cases herr
  · exact ⟨⟨_, rfl, hwithout hbasic⟩, rfl, atlas, cosmos, ha, hc,
      fun a c hai hci => hall 1 (.nearest search) a c rfl hai hci⟩

end Pipeline
end DocQuery
