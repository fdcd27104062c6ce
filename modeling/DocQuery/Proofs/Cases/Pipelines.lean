import DocQuery.Proofs.Cases.Conditions
import DocQuery.Proofs.Pipeline.Acceptance

/-!
# Compiled pipelines of searches

What a search composes is well formed and compiles, whatever its predicate asks for. Compiled
documents stand at the positions of their stages, so the vector search of a search stands after the
document of its conditions.
-/
namespace DocQuery
open Native Outcome

def IsVectorSearch (natives : List Json) (i : Nat) : Prop :=
  ∃ spec, natives[i]? = some (.single "$vectorSearch" spec)

namespace Stage

variable {index : Option String} {s : Stage}

theorem operator_eq_vectorSearch (h : s.operator (.atlas index) = "$vectorSearch") :
    ∃ search, s = .nearest search := by
  cases s with
  | nearest search => exact ⟨search, rfl⟩
  | _ => simp [operator] at h

end Stage

namespace Pipeline

variable {p : Pipeline} {index : Option String} {natives : List Json}

theorem isVectorSearch_iff (h : pipeline (.atlas index) p = .ok natives) (i : Nat) :
    IsVectorSearch natives i ↔ ∃ search, p.stages[i]? = some (.nearest search) := by
  constructor
  · rintro ⟨spec, hi⟩
    obtain ⟨s, spec', hs, heq⟩ := exists_stage_of_pipeline_eq_ok h hi
    have hoperator : "$vectorSearch" = s.operator (.atlas index) ∧ spec = spec' := by
      simpa [Json.single] using heq
    obtain ⟨search, rfl⟩ := Stage.operator_eq_vectorSearch hoperator.1.symm
    exact ⟨search, hs⟩
  · rintro ⟨search, hi⟩
    have hlt : i < natives.length := by
      rw [length_of_pipeline_eq_ok h]
      exact (List.getElem?_eq_some_iff.mp hi).1
    obtain ⟨s, spec, hs, heq⟩ := exists_stage_of_pipeline_eq_ok h (List.getElem?_eq_getElem hlt)
    obtain rfl : Stage.nearest search = s := Option.some.inj (hi.symm.trans hs)
    exact ⟨spec, (List.getElem?_eq_getElem hlt).trans (congrArg some heq)⟩

theorem wellFormed_page {stages : List Stage} {w : Paginate}
    (h : ∀ s ∈ stages, s.window? = none ∧ s.WellFormed ∧ s.Supported) (hlimit : 0 < w.limit) :
    WellFormed ⟨stages ++ [.paginate w]⟩ ∧ Supported ⟨stages ++ [.paginate w]⟩ := by
  have hlast : PagesLast (stages ++ [.paginate w]) := by
    intro i w' hi
    rw [List.length_append, List.length_singleton]
    by_cases hlt : i < stages.length
    · rw [List.getElem?_append_left hlt] at hi
      obtain ⟨hnone, -⟩ := h _ (List.mem_of_getElem? hi)
      cases hnone
    · have hbound := (List.getElem?_eq_some_iff.mp hi).1
      rw [List.length_append, List.length_singleton] at hbound
      omega
  have hall : ∀ s ∈ stages ++ [.paginate w], s.WellFormed ∧ s.Supported :=
    List.forall_mem_append.mpr
      ⟨fun s hs => (h s hs).2, List.forall_mem_singleton.mpr ⟨hlimit, trivial⟩⟩
  exact ⟨⟨by simp, hlast, fun s hs => (hall s hs).1⟩, fun s hs => (hall s hs).2⟩

end Pipeline

structure StoreConfig.WellFormed (c : StoreConfig) : Prop where
  database : c.database.toList.all Unicode.isBlank = false
  pageLimit : 0 < c.defaultPageLimit
  candidates : 0 < c.minVectorCandidates
  vectorPath : c.vectorPath ≠ ""
  vectorIndex : c.vectorIndex ≠ some ""

theorem StoreConfig.validate_iff (c : StoreConfig) : c.validate = .ok () ↔ c.WellFormed := by
  have hfields : c.validate = .ok () ↔ c.database.toList.all Unicode.isBlank = false ∧
      c.defaultPageLimit ≠ 0 ∧ c.minVectorCandidates ≠ 0 ∧ c.vectorPath ≠ "" ∧
        c.vectorIndex ≠ some "" := by
    unfold validate
    split_ifs <;> simp_all
  rw [hfields, ← UInt64.pos_iff_ne_zero, ← UInt32.pos_iff_ne_zero]
  exact ⟨fun ⟨h₁, h₂, h₃, h₄, h₅⟩ => ⟨h₁, h₂, h₃, h₄, h₅⟩,
    fun ⟨h₁, h₂, h₃, h₄, h₅⟩ => ⟨h₁, h₂, h₃, h₄, h₅⟩⟩

namespace Search

theorem Sound.wellFormed {e : Expr} (h : Sound e) : e.WellFormed ∧ e.Supported := by
  obtain ⟨f, hf⟩ := h.exists_filter
  have hwell := (Expr.validate_iff e).mp (filter_eq_ok_iff.mp hf).1
  exact ⟨hwell, (decides_filter hwell).exists_iff.mp ⟨f, hf⟩⟩

theorem pos_of_page {p : CasesSearchPredicate} {offset limit : UInt64}
    (h : p.page? = some (offset, limit)) : 0 < limit := by
  unfold CasesSearchPredicate.page? at h
  split at h
  · split at h
    · next hpos =>
      cases h
      exact hpos
    · cases h
  · cases h

/-- The number of candidates is at least the one configured: it does not wrap around. -/
theorem vectorCandidates_pos {config : StoreConfig} (h : 0 < config.minVectorCandidates)
    (limit : UInt64) : 0 < vectorCandidates limit config := by
  have hmin := UInt32.lt_iff_toNat_lt.mp h
  have hlt := config.minVectorCandidates.toNat_lt
  have hcandidates : (vectorCandidates limit config).toNat =
      max (min (2 * limit.toNat) (UInt32.size - 1)) config.minVectorCandidates.toNat := by
    rw [vectorCandidates, UInt32.toNat_ofNat']
    exact Nat.mod_eq_of_lt (by simp only [UInt32.size]; omega)
  rw [UInt32.lt_iff_toNat_lt, hcandidates]
  exact Nat.lt_of_lt_of_le hmin (Nat.le_max_right _ _)

def nearest? (vector : Option (List Component)) (config : StoreConfig) (limit : UInt64) :
    Option Stage :=
  (nonEmpty? vector).map fun v =>
    .nearestTo v ⟨config.vectorPath, none⟩ (vectorCandidates limit config) config.vectorSimilarity

variable {p : CasesSearchPredicate} {vector : Option (List Component)} {config : StoreConfig}
  {offset limit : UInt64}

def composed (p : CasesSearchPredicate) (vector : Option (List Component)) (config : StoreConfig)
    (offset limit : UInt64) : Pipeline :=
  ⟨.filter (.and (conditions p)) :: ((nearest? vector config limit).toList ++
    [.sort newestFirst]) ++ [.paginate ⟨offset, limit⟩]⟩

theorem pipeline_eq_composed (h : p.page? = some (offset, limit)) :
    pipeline p vector config = .ok (composed p vector config offset limit) := by
  rw [pipeline, requirePage_eq_ok h, composed, List.cons_append, List.append_assoc]
  rfl

theorem wellFormed_nearest? (hconfig : config.WellFormed)
    (hfinite : ∀ v, vector = some v → ∀ x ∈ v, x.isFinite = true) :
    ∀ s ∈ nearest? vector config limit, s.window? = none ∧ s.WellFormed ∧ s.Supported := by
  intro s hs
  obtain ⟨v, hv, rfl⟩ := Option.map_eq_some_iff.mp hs
  obtain ⟨hvector, hne⟩ := Option.filter_eq_some_iff.mp hv
  have hnonEmpty : v ≠ [] := by simpa using hne
  exact ⟨rfl, ⟨hconfig.vectorPath, hnonEmpty, vectorCandidates_pos hconfig.candidates limit,
    hfinite v hvector⟩, trivial⟩

/-- The pipeline of a search is well formed and compiles, with a vector all of whose components are
finite or without one. -/
theorem wellFormed_composed (h : p.page? = some (offset, limit)) (hconfig : config.WellFormed)
    (hfinite : ∀ v, vector = some v → ∀ x ∈ v, x.isFinite = true) :
    (composed p vector config offset limit).WellFormed ∧
      (composed p vector config offset limit).Supported := by
  have hsort : (Stage.sort newestFirst).WellFormed := (Stage.validate_iff _).mp rfl
  refine Pipeline.wellFormed_page (List.forall_mem_cons.mpr ⟨⟨rfl, ?_⟩, ?_⟩) (pos_of_page h)
  · exact (sound_conditions p).wellFormed
  · refine List.forall_mem_append.mpr ⟨fun s hs => ?_, List.forall_mem_singleton.mpr ?_⟩
    · exact wellFormed_nearest? hconfig hfinite s (Option.mem_toList.mp hs)
    · exact ⟨rfl, hsort, trivial⟩

theorem getElem?_composed {v : List Component} (hne : v ≠ []) (i : Nat) :
    (∃ search, (composed p (some v) config offset limit).stages[i]? = some (.nearest search)) ↔
      i = 1 := by
  have hvector : nonEmpty? (some v) = some v := by simpa [nonEmpty?, Option.filter] using hne
  rw [composed, nearest?, hvector]
  rcases i with _ | _ | _ | _ | i <;> simp [Stage.nearestTo]

/-- A search with a vector compiles for Atlas to a pipeline in which the vector search comes
second. -/
theorem isVectorSearch_composed (h : p.page? = some (offset, limit)) (hconfig : config.WellFormed)
    {v : List Component} (hne : v ≠ []) (hfinite : ∀ x ∈ v, x.isFinite = true)
    (index : Option String) :
    ∃ natives, Native.pipeline (.atlas index) (composed p (some v) config offset limit) =
        .ok natives ∧ ∀ i, IsVectorSearch natives i ↔ i = 1 := by
  have hvector : ∀ w, some v = some w → ∀ x ∈ w, x.isFinite = true := by
    rintro w ⟨⟩
    exact hfinite
  obtain ⟨hwell, hsupported⟩ := wellFormed_composed h hconfig hvector
  have hatlas : Renderer.atlas index ≠ .base := nofun
  obtain ⟨natives, hok⟩ := (hwell.decides_pipeline hatlas).exists_iff.mpr hsupported
  exact ⟨natives, hok, fun i => (Pipeline.isVectorSearch_iff hok i).trans (getElem?_composed hne i)⟩

/-- The vector searches of a compiled pipeline stand where their stages do, so all come first just
if no stage after the first is one. The vector search of a search always comes second. -/
theorem vectorSearch_position (index : Option String) :
    (∀ (p : Pipeline) natives, Native.pipeline (.atlas index) p = .ok natives →
      ((∀ i, IsVectorSearch natives i → i = 0) ↔
        ∀ i search, p.stages[i]? = some (.nearest search) → i = 0)) ∧
    ∀ (p : CasesSearchPredicate) page (config : StoreConfig) (v : List Component),
      p.page? = some page → config.validate = .ok () → v ≠ [] → (∀ x ∈ v, x.isFinite = true) →
      ∃ spec natives, pipeline p (some v) config = .ok spec ∧ spec.validate = .ok () ∧
        Native.pipeline (.atlas index) spec = .ok natives ∧
        ∀ i, IsVectorSearch natives i ↔ i = 1 := by
  constructor
  · intro p natives hok
    refine forall_congr' fun i => ?_
    rw [Pipeline.isVectorSearch_iff hok, exists_imp]
  · rintro p ⟨offset, limit⟩ config v hpage hvalid hne hfinite
    have hconfig := config.validate_iff.mp hvalid
    obtain ⟨natives, hok, hposition⟩ := isVectorSearch_composed hpage hconfig hne hfinite index
    have hwell := Pipeline.wellFormed_of_pipeline_eq_ok hok
    exact ⟨_, natives, pipeline_eq_composed hpage, (Pipeline.validate_iff _).mpr hwell, hok,
      hposition⟩

/-- A search for a name, and a pipeline that begins with its vector search. -/
theorem vectorSearch_position_name :
    let p : CasesSearchPredicate := { name := some "smith", offset := some 0, limit := some 10 }
    let config : StoreConfig := { StoreConfig.ofDatabase "cams" with engine := .atlas }
    let v : List Component := [.finite ⟨false, Double.one⟩]
    let first : Pipeline :=
      ⟨[.nearestTo v ⟨config.vectorPath, none⟩ 50 none, .paginate ⟨0, 10⟩]⟩
    (∃ natives, Native.pipeline config.renderer first = .ok natives ∧
      ∀ i, IsVectorSearch natives i → i = 0) ∧
    ∃ spec natives, pipeline p (some v) config = .ok spec ∧ spec.validate = .ok () ∧
      Native.pipeline config.renderer spec = .ok natives ∧
      ∀ i, IsVectorSearch natives i ↔ i = 1 := by
  intro p config v first
  obtain ⟨hplaced, hsecond⟩ := vectorSearch_position (some "vector_index")
  constructor
  · refine ⟨_, rfl, (hplaced first _ rfl).mpr fun i search hi => ?_⟩
    rcases i with _ | _ | i
    · rfl
    · cases hi
    · cases hi
  · have hconfig : config.WellFormed :=
      ⟨by decide +kernel, by decide, by decide, by decide, by decide⟩
    exact hsecond p (0, 10) config v rfl (config.validate_iff.mpr hconfig) (by decide) (by decide)

/-- The vector search of a search for a name does not come first. -/
theorem exists_vectorSearch_second :
    ¬ ∀ (p : CasesSearchPredicate) (config : StoreConfig) (v : List Component),
      config.validate = .ok () → v ≠ [] → (∀ x ∈ v, x.isFinite = true) →
      ∀ spec natives, pipeline p (some v) config = .ok spec →
        Native.pipeline config.renderer spec = .ok natives →
        ∀ i, IsVectorSearch natives i → i = 0 := by
  intro h
  let p : CasesSearchPredicate := { name := some "smith", offset := some 0, limit := some 10 }
  let config : StoreConfig := { StoreConfig.ofDatabase "cams" with engine := .atlas }
  let v : List Component := [.finite ⟨false, Double.one⟩]
  have hpage : p.page? = some (0, 10) := rfl
  have hconfig : config.WellFormed :=
    ⟨by decide +kernel, by decide, by decide, by decide, by decide⟩
  have hne : v ≠ [] := List.cons_ne_nil _ _
  have hfinite : ∀ x ∈ v, x.isFinite = true := by decide
  obtain ⟨natives, hok, hposition⟩ :=
    isVectorSearch_composed hpage hconfig hne hfinite (some "vector_index")
  have hzero := h p config v (config.validate_iff.mpr hconfig) hne hfinite _ natives
    (pipeline_eq_composed hpage) hok 1 ((hposition 1).mpr rfl)
  cases hzero

end Search
end DocQuery
