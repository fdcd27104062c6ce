import DocQuery.Native.Stage
import DocQuery.Proofs.Query.Acceptance

/-!
# Which pipelines are accepted

Validation accepts just the well-formed pipelines. What is well formed can fail to compile in one
way only, by an EXISTS condition against a field, and what compiles has one document for each stage.
-/
namespace DocQuery
open Native Outcome

structure Join.WellFormed (j : Join) : Prop where
  localField : j.localField.Named
  foreignField : j.foreignField.Named
  output : j.output.Named
  collection : ∃ s, j.foreignField.source = some s ∧ s ≠ ""

structure AdditionalField.WellFormed (a : AdditionalField) : Prop where
  fieldToAdd : a.fieldToAdd.Named
  querySource : a.querySource.Named
  query : a.query.WellFormed

structure Accumulator.WellFormed (a : Accumulator) : Prop where
  output : a.output.Named
  input : ∀ field as, a = .first field as → field.Named

structure VectorSearch.WellFormed (s : VectorSearch) : Prop where
  path : s.path.Named
  nonEmpty : s.vector ≠ []
  candidates : 0 < s.k
  finite : ∀ x ∈ s.vector, x.isFinite = true

namespace Stage

def WellFormed : Stage → Prop
  | .filter query => query.WellFormed
  | .sort spec => spec.fields ≠ [] ∧ ∀ key ∈ spec.fields, key.field.Named
  | .paginate w => 0 < w.limit
  | .join spec => spec.WellFormed
  | .addFields fields => fields ≠ [] ∧ ∀ a ∈ fields, a.WellFormed
  | .keep fields | .drop fields => fields ≠ [] ∧ ∀ f ∈ fields, f.Named
  | .group spec =>
    (∀ f ∈ spec.groupBy, f.Named) ∧ ∀ a ∈ spec.accumulators, a.WellFormed
  | .nearest search => search.WellFormed

theorem named_iff (f : Field) (stage : String) : f.named stage = .ok () ↔ f.Named := by
  simp [Field.named, Field.Named]

theorem nonEmpty_forM_iff {α : Type} {check : α → Except Malformation Unit} {p : α → Prop}
    {xs : List α} {fault : Malformation} (h : ∀ x, check x = .ok () ↔ p x) :
    (if xs.isEmpty then .error fault else xs.forM check) = .ok () ↔ xs ≠ [] ∧ ∀ x ∈ xs, p x := by
  cases xs with
  | nil => simp
  | cons x xs =>
    rw [List.isEmpty_cons, if_neg Bool.false_ne_true, forM_eq_ok_iff]
    simp only [h, ne_eq, reduceCtorEq, not_false_eq_true, true_and]

theorem validateJoin_iff (j : Join) : validateJoin j = .ok () ↔ j.WellFormed := by
  simp only [validateJoin, bind_eq_ok_iff, named_iff]
  constructor
  · rintro ⟨hlocal, hforeign, houtput, hcollection⟩
    refine ⟨hlocal, hforeign, houtput, ?_⟩
    cases hsource : j.foreignField.source with
    | none => simp [hsource] at hcollection
    | some s =>
      rw [hsource] at hcollection
      refine ⟨s, rfl, ?_⟩
      rintro rfl
      cases hcollection
  · rintro ⟨hlocal, hforeign, houtput, s, hsource, hs⟩
    refine ⟨hlocal, hforeign, houtput, ?_⟩
    simp [hsource, hs]

theorem validateAdditional_iff (a : AdditionalField) :
    validateAdditional a = .ok () ↔ a.WellFormed := by
  simp only [validateAdditional, bind_eq_ok_iff, named_iff, Expr.validate_iff]
  exact ⟨fun ⟨h₁, h₂, h₃⟩ => ⟨h₁, h₂, h₃⟩, fun ⟨h₁, h₂, h₃⟩ => ⟨h₁, h₂, h₃⟩⟩

theorem validateAccumulator_iff (a : Accumulator) :
    validateAccumulator a = .ok () ↔ a.WellFormed := by
  simp only [validateAccumulator, bind_eq_ok_iff, named_iff]
  cases a with
  | first field as =>
    rw [named_iff]
    exact ⟨fun ⟨has, hfield⟩ => ⟨has, fun _ _ h => (Accumulator.first.inj h).1 ▸ hfield⟩,
      fun h => ⟨h.output, h.input field as rfl⟩⟩
  | count as => exact ⟨fun ⟨has, _⟩ => ⟨has, nofun⟩, fun h => ⟨h.output, rfl⟩⟩

theorem validateSearch_iff (s : VectorSearch) :
    validateSearch s = .ok () ↔ s.WellFormed := by
  simp only [validateSearch, bind_eq_ok_iff, named_iff]
  by_cases hvector : s.vector = []
  · simp only [hvector, List.isEmpty_nil, if_true, reduceCtorEq, and_false, false_iff]
    exact fun h => h.nonEmpty hvector
  by_cases hk : s.k = 0
  · simp only [hvector, List.isEmpty_iff, if_false, hk, if_true, reduceCtorEq, and_false, false_iff]
    exact fun h => UInt32.pos_iff_ne_zero.mp h.candidates hk
  have hfinite : (if s.vector.all Component.isFinite then Except.ok ()
      else .error Malformation.nonFiniteVector) = .ok () ↔ ∀ x ∈ s.vector, x.isFinite = true := by
    simp
  simp only [hvector, List.isEmpty_iff, if_false, hk, hfinite]
  exact ⟨fun ⟨hpath, hall⟩ => ⟨hpath, hvector, UInt32.pos_iff_ne_zero.mpr hk, hall⟩,
    fun h => ⟨h.path, h.finite⟩⟩

theorem validate_iff (s : Stage) : s.validate = .ok () ↔ s.WellFormed := by
  cases s with
  | filter query => exact query.validate_iff
  | sort spec => exact nonEmpty_forM_iff fun key => named_iff key.field "SORT"
  | paginate w =>
    have hlimit : validate (.paginate w) = .ok () ↔ w.limit ≠ 0 := by simp [validate]
    exact hlimit.trans UInt64.pos_iff_ne_zero.symm
  | join spec => exact validateJoin_iff spec
  | addFields fields => exact nonEmpty_forM_iff validateAdditional_iff
  | keep fields => exact nonEmpty_forM_iff fun f => named_iff f "INCLUDE"
  | drop fields => exact nonEmpty_forM_iff fun f => named_iff f "EXCLUDE"
  | group spec =>
    simp only [validate, bind_eq_ok_iff, forM_eq_ok_iff, named_iff, validateAccumulator_iff]
    rfl
  | nearest search => exact validateSearch_iff search

/-- Whether a stage compiles, once it is well formed. -/
def Supported : Stage → Prop
  | .filter query => query.Supported
  | .addFields fields => ∀ a ∈ fields, a.query.Supported
  | _ => True

def operator (r : Renderer) : Stage → String
  | .filter _ => "$match"
  | .sort _ => "$sort"
  | .paginate _ => "$facet"
  | .join _ => "$lookup"
  | .addFields _ => "$addFields"
  | .keep _ | .drop _ => "$project"
  | .group _ => "$group"
  | .nearest _ => if r = .cosmos then "$search" else "$vectorSearch"

theorem operator_eq_facet {r : Renderer} {s : Stage} (h : s.operator r = "$facet") :
    ∃ w, s = .paginate w := by
  cases s with
  | paginate w => exact ⟨w, rfl⟩
  | nearest search => cases r <;> simp [operator] at h
  | _ => simp [operator] at h

end Stage

namespace Native

theorem decides_addFieldsStage {fields : List AdditionalField}
    (h : ∀ a ∈ fields, a.query.WellFormed) :
    Decides (∀ a ∈ fields, a.query.Supported) IsUnsupported (addFieldsStage fields) := by
  refine Decides.map (Decides.mapM fun a ha => ?_)
  exact (decides_element (h a ha)).map

theorem decides_stage {r : Renderer} (hr : r ≠ .base) {s : Stage} (h : s.WellFormed) :
    Decides s.Supported IsUnsupported (stage r s) := by
  cases s with
  | filter query => exact (decides_filter h).map
  | addFields fields =>
    have hfields := decides_addFieldsStage fun a ha => (h.2 a ha).query
    cases r with
    | base => exact absurd rfl hr
    | _ => exact hfields
  | _ =>
    cases r with
    | base => exact absurd rfl hr
    | _ => exact trivial

theorem exists_of_stage_eq_ok {r : Renderer} {s : Stage} {native : Json}
    (h : stage r s = .ok native) : ∃ spec, native = .single (s.operator r) spec := by
  cases s with
  | filter query =>
    obtain ⟨f, -, rfl⟩ := exists_of_map_eq_ok h
    exact ⟨f, rfl⟩
  | addFields fields =>
    cases r with
    | base => cases h
    | _ =>
      obtain ⟨members, -, hpure⟩ := exists_of_bind_eq_ok h
      cases hpure
      exact ⟨_, rfl⟩
  | _ =>
    cases r <;> cases h <;> exact ⟨_, rfl⟩

end Native

namespace Pipeline

/-- Only the last stage is a page. -/
def PagesLast (stages : List Stage) : Prop :=
  ∀ i w, stages[i]? = some (.paginate w) → i + 1 = stages.length

structure WellFormed (p : Pipeline) : Prop where
  nonEmpty : p.stages ≠ []
  pagesLast : PagesLast p.stages
  stages : ∀ s ∈ p.stages, s.WellFormed

def Supported (p : Pipeline) : Prop := ∀ s ∈ p.stages, s.Supported

theorem pagesLast_cons {s : Stage} {rest : List Stage} :
    PagesLast (s :: rest) ↔ (s.window?.isSome → rest = []) ∧ PagesLast rest := by
  constructor
  · intro h
    refine ⟨fun hs => ?_, fun i w hi => Nat.succ.inj (h (i + 1) w hi)⟩
    cases s with
    | paginate w => exact List.length_eq_zero_iff.mp (Nat.succ.inj (h 0 w rfl)).symm
    | _ => cases hs
  · rintro ⟨hs, hrest⟩ i w hi
    cases i with
    | zero =>
      cases hi
      rw [hs rfl]
      rfl
    | succ i => exact congrArg Nat.succ (hrest i w hi)

/-- The positions counted on the way only matter to the fault that is reported. -/
theorem validateFrom_iff (total n : Nat) (stages : List Stage) :
    validateFrom total n stages = .ok () ↔ PagesLast stages ∧ ∀ s ∈ stages, s.WellFormed := by
  induction stages generalizing n with
  | nil => simp [validateFrom, PagesLast]
  | cons s rest ih =>
    rw [validateFrom, pagesLast_cons, List.forall_mem_cons]
    by_cases hpage : s.window?.isSome → rest = []
    · have hcond : ¬ (s.window?.isSome && !rest.isEmpty) = true := by simpa using hpage
      rw [if_neg hcond, bind_eq_ok_iff, ih, Stage.validate_iff]
      exact ⟨fun ⟨hs, hlast, hrest⟩ => ⟨⟨hpage, hlast⟩, hs, hrest⟩,
        fun ⟨⟨_, hlast⟩, hs, hrest⟩ => ⟨hs, hlast, hrest⟩⟩
    · have hcond : (s.window?.isSome && !rest.isEmpty) = true := by simpa using hpage
      rw [if_pos hcond]
      exact ⟨nofun, fun h => absurd h.1.1 hpage⟩

theorem validate_iff (p : Pipeline) : p.validate = .ok () ↔ p.WellFormed := by
  cases hstages : p.stages with
  | nil =>
    have hinvalid : p.validate = .error .noStages := by simp [validate, hstages]
    rw [hinvalid]
    exact ⟨nofun, fun h => absurd hstages h.nonEmpty⟩
  | cons s rest =>
    have hvalid : p.validate = validateFrom p.stages.length 1 p.stages := by
      simp [validate, hstages]
    have hne : p.stages ≠ [] := by simp [hstages]
    rw [hvalid, validateFrom_iff]
    exact ⟨fun ⟨hlast, hall⟩ => ⟨hne, hlast, hall⟩, fun h => ⟨h.pagesLast, h.stages⟩⟩

theorem WellFormed.pipeline_eq {p : Pipeline} (h : p.WellFormed) (r : Renderer) :
    pipeline r p = p.stages.mapM (stage r) := by
  rw [pipeline, p.validate_iff.mpr h]
  rfl

theorem pipeline_malformed {p : Pipeline} {fault : Malformation} (h : p.validate = .error fault)
    (r : Renderer) : pipeline r p = .error (.malformed fault) := by
  rw [pipeline, h]
  rfl

theorem WellFormed.decides_pipeline {p : Pipeline} (h : p.WellFormed) {r : Renderer}
    (hr : r ≠ .base) : Decides p.Supported IsUnsupported (pipeline r p) := by
  rw [h.pipeline_eq r]
  exact .mapM fun s hs => decides_stage hr (h.stages s hs)

theorem exists_fault {p : Pipeline} (h : ¬ p.WellFormed) : ∃ fault, p.validate = .error fault := by
  cases hvalid : p.validate with
  | error fault => exact ⟨fault, rfl⟩
  | ok u => exact absurd (p.validate_iff.mp hvalid) h

theorem wellFormed_of_pipeline_eq_ok {p : Pipeline} {r : Renderer} {natives : List Json}
    (h : pipeline r p = .ok natives) : p.WellFormed := by
  cases hvalid : p.validate with
  | ok u => exact p.validate_iff.mp hvalid
  | error fault => cases (pipeline_malformed hvalid r).symm.trans h

theorem exists_stage_of_pipeline_eq_ok {p : Pipeline} {r : Renderer} {natives : List Json}
    (h : pipeline r p = .ok natives) {i : Nat} {native : Json} (hi : natives[i]? = some native) :
    ∃ s spec, p.stages[i]? = some s ∧ native = .single (s.operator r) spec := by
  rw [(wellFormed_of_pipeline_eq_ok h).pipeline_eq] at h
  obtain ⟨s, hs, hstage⟩ := exists_of_getElem?_mapM h hi
  obtain ⟨spec, hspec⟩ := exists_of_stage_eq_ok hstage
  exact ⟨s, spec, hs, hspec⟩

theorem length_of_pipeline_eq_ok {p : Pipeline} {r : Renderer} {natives : List Json}
    (h : pipeline r p = .ok natives) : natives.length = p.stages.length := by
  rw [(wellFormed_of_pipeline_eq_ok h).pipeline_eq] at h
  exact length_of_mapM_eq_ok h

/-- Validation accepts just the well-formed pipelines. The engines with all stages compile those of
them that have no EXISTS condition against a field, to one document for each stage, and only the
last document may be a page. -/
theorem acceptance (p : Pipeline) :
    (p.validate = .ok () ↔ p.WellFormed) ∧
      ∀ r : Renderer, r ≠ .base →
        ((∃ natives, pipeline r p = .ok natives) ↔ p.WellFormed ∧ p.Supported) ∧
        (¬ p.WellFormed →
          ∃ fault, p.validate = .error fault ∧ pipeline r p = .error (.malformed fault)) ∧
        (p.WellFormed → ¬ p.Supported →
          ∃ context, pipeline r p = .error (.unsupportedCondition .exists context)) ∧
        ∀ natives, pipeline r p = .ok natives →
          natives.length = p.stages.length ∧
          (∀ (i : Nat) (native : Json), natives[i]? = some native →
            ∃ s spec, p.stages[i]? = some s ∧ native = .single (s.operator r) spec) ∧
          ∀ (i : Nat) (page : Json), natives[i]? = some (.single "$facet" page) →
            i + 1 = natives.length := by
  refine ⟨p.validate_iff, fun r hr => ⟨?_, ?_, ?_, ?_⟩⟩
  · constructor
    · rintro ⟨natives, hok⟩
      have hwell := wellFormed_of_pipeline_eq_ok hok
      exact ⟨hwell, (hwell.decides_pipeline hr).exists_iff.mp ⟨natives, hok⟩⟩
    · rintro ⟨hwell, hsupported⟩
      exact (hwell.decides_pipeline hr).exists_iff.mpr hsupported
  · intro hp
    obtain ⟨fault, hfault⟩ := exists_fault hp
    exact ⟨fault, hfault, pipeline_malformed hfault r⟩
  · intro hwell hsupported
    obtain ⟨err, herr, context, rfl⟩ := (hwell.decides_pipeline hr).exists_error hsupported
    exact ⟨context, herr⟩
  · intro natives hok
    have hlength := length_of_pipeline_eq_ok hok
    refine ⟨hlength, fun i native hi => exists_stage_of_pipeline_eq_ok hok hi, fun i page hi => ?_⟩
    obtain ⟨s, spec, hs, hspec⟩ := exists_stage_of_pipeline_eq_ok hok hi
    have hoperator : "$facet" = s.operator r ∧ page = spec := by simpa [Json.single] using hspec
    obtain ⟨w, rfl⟩ := Stage.operator_eq_facet hoperator.1.symm
    rw [hlength]
    exact (wellFormed_of_pipeline_eq_ok hok).pagesLast i w hs

/-- An EXISTS condition against a field, deep in the query of a computed field, is all that keeps
the pipeline from being compiled. -/
theorem acceptance_exists_field :
    let flag : Condition := ⟨.exists, ⟨"archived", none⟩, .literal (.bool true)⟩
    let compared : Condition := ⟨.exists, ⟨"archived", none⟩, .field ⟨"closed", none⟩⟩
    let events (c : Condition) : AdditionalField :=
      ⟨⟨"open", none⟩, ⟨"events", none⟩, .or [.not [], .and [.condition c]]⟩
    let p (c : Condition) : Pipeline :=
      ⟨[.filter (.not [.condition flag]), .addFields [events c], .paginate ⟨0, 5⟩]⟩
    ((p compared).WellFormed ∧ ¬ (p compared).Supported ∧ ∃ context,
        pipeline .cosmos (p compared) = .error (.unsupportedCondition .exists context)) ∧
      (p flag).Supported ∧ ∃ natives, pipeline .cosmos (p flag) = .ok natives ∧
        natives.length = 3 := by
  intro flag compared events p
  have hcosmos : Renderer.cosmos ≠ .base := nofun
  obtain ⟨hvalid, hengines⟩ := acceptance (p compared)
  obtain ⟨hiff, -, -, hlength⟩ := (acceptance (p flag)).2 .cosmos hcosmos
  have hwell : (p compared).WellFormed := hvalid.mp rfl
  have hunsupported : ¬ (p compared).Supported := fun h =>
    h (.addFields [events compared]) (by simp [p]) (events compared) (by simp) compared
      (.inside (List.mem_of_getElem? (i := 1) rfl) (.inside List.mem_cons_self .here))
      ⟨rfl, _, rfl⟩
  obtain ⟨-, -, hfails, -⟩ := hengines .cosmos hcosmos
  exact ⟨⟨hwell, hunsupported, hfails hwell hunsupported⟩, (hiff.mp ⟨_, rfl⟩).2, _, rfl,
    (hlength _ rfl).1⟩

end Pipeline
end DocQuery
