import DocQuery.Pipeline.StageJson
import DocQuery.Pipeline.WellFormed
import DocQuery.Proofs.Query.RoundTrip

/-!
# Pipelines are read back from their documents

Every stage is read back as it was written, so two requests that differ have different documents. A
vector is the one part for which something has to be asked: JSON has no number for a component that
is not finite.
-/
namespace DocQuery

variable (source : Source)

theorem Paginate.decode_members (w : Paginate) :
    Paginate.decode source (.object w.members) = .ok w := by
  have hskip := Decode.uint64_uint64 w.skip
  have hlimit := Decode.uint64_uint64 w.limit
  refine Record.decode_of_passes ?_ ?_
  · simp only [Paginate.members, List.forall_mem_cons]
    exact ⟨.of_eq_ok rfl hskip, .of_eq_ok rfl hlimit, List.forall_mem_nil _⟩
  · rw [Record.required_eq_ok rfl hskip, Record.required_eq_ok rfl hlimit]
    rfl

theorem Join.decode_members (j : Join) : Join.decode source (.object j.members) = .ok j := by
  have hlocal := Field.decode_toJson source j.localField
  have hforeign := Field.decode_toJson source j.foreignField
  have houtput := Field.decode_toJson source j.output
  refine Record.decode_of_passes ?_ ?_
  · simp only [Join.members, List.forall_mem_cons]
    exact ⟨.of_eq_ok rfl hlocal, .of_eq_ok rfl hforeign, .of_eq_ok rfl houtput,
      List.forall_mem_nil _⟩
  · rw [Record.required_eq_ok rfl hlocal, Record.required_eq_ok rfl hforeign,
      Record.required_eq_ok rfl houtput]
    rfl

theorem AdditionalField.decode_toJson (a : AdditionalField) :
    AdditionalField.decode source a.toJson = .ok a := by
  have hadded := Field.decode_toJson source a.fieldToAdd
  have hsource := Field.decode_toJson source a.querySource
  have hquery := a.query.decode_toJson
  refine Record.decode_of_passes ?_ ?_
  · simp only [List.forall_mem_cons]
    exact ⟨.of_eq_ok rfl hadded, .of_eq_ok rfl hsource, .of_eq_ok rfl hquery,
      List.forall_mem_nil _⟩
  · rw [Record.required_eq_ok rfl hadded, Record.required_eq_ok rfl hsource,
      Record.required_eq_ok rfl hquery]
    rfl

namespace Accumulator

theorem decodeFirst_members (field as : Field) :
    decodeFirst source (.object [("field", field.toJson), ("as", as.toJson)]) =
      .ok (.first field as) := by
  have hfield := Field.decode_toJson source field
  have has := Field.decode_toJson source as
  refine Record.decode_of_passes ?_ ?_
  · simp only [List.forall_mem_cons]
    exact ⟨.of_eq_ok rfl hfield, .of_eq_ok rfl has, List.forall_mem_nil _⟩
  · rw [Record.required_eq_ok rfl hfield, Record.required_eq_ok rfl has]
    rfl

theorem decodeCount_members (as : Field) :
    decodeCount source (.object [("as", as.toJson)]) = .ok (.count as) := by
  have has := Field.decode_toJson source as
  refine Record.decode_of_passes ?_ ?_
  · exact List.forall_mem_singleton.mpr (.of_eq_ok rfl has)
  · rw [Record.required_eq_ok rfl has]
    rfl

theorem decode_toJson (a : Accumulator) : decode source a.toJson = .ok a := by
  have htag : ∀ name members, name ∈ names → (∀ m ∈ members, m.1 ≠ "accumulator") →
      Decode.tagged source "accumulator" "internally tagged enum Accumulator" names
        (.object (("accumulator", .string name) :: members)) = .ok (name, .object members) :=
    fun name members hname hmembers => Decode.tagged_object hname hmembers
  cases a with
  | first field as =>
    rw [decode, toJson, htag _ _ (by decide) (by simp)]
    exact decodeFirst_members .setAside field as
  | count as =>
    rw [decode, toJson, htag _ _ (by decide) (by simp)]
    exact decodeCount_members .setAside as

end Accumulator

theorem Group.decode_members (g : Group) : Group.decode source (.object g.members) = .ok g := by
  have hkeys := Decode.list_map fun f (_ : f ∈ g.groupBy) => Field.decode_toJson source f
  have haccumulators := Decode.list_map fun a (_ : a ∈ g.accumulators) =>
    Accumulator.decode_toJson source a
  refine Record.decode_of_passes ?_ ?_
  · simp only [Group.members, List.forall_mem_cons]
    exact ⟨.of_eq_ok rfl hkeys, .of_eq_ok rfl haccumulators, List.forall_mem_nil _⟩
  · rw [Record.required_eq_ok rfl hkeys, Record.withDefault_eq_ok rfl haccumulators]
    rfl

theorem Similarity.decode_name (s : Similarity) :
    Similarity.decode source (.string s.name) = .ok s := by
  cases s <;> rfl

namespace VectorSearch

def Finite (s : VectorSearch) : Prop := ∀ x ∈ s.vector, x.isFinite = true

theorem decode_members {s : VectorSearch} (h : s.Finite) :
    decode source (.object s.members) = .ok s := by
  obtain ⟨vector, path, k, similarity⟩ := s
  have hvector := list_component_vectorToJson h
  have hpath := Field.decode_toJson source path
  have hk := Decode.uint32_nat k
  cases similarity with
  | none =>
    refine Record.decode_of_passes ?_ ?_
    · simp only [members, List.append_nil, List.forall_mem_cons]
      exact ⟨.of_eq_ok rfl hvector, .of_eq_ok rfl hpath, .of_eq_ok rfl hk, List.forall_mem_nil _⟩
    · rw [Record.required_eq_ok rfl hvector, Record.required_eq_ok rfl hpath,
        Record.required_eq_ok rfl hk]
      rfl
  | some metric =>
    have hmetric := congrArg (Except.map some) (Similarity.decode_name source metric)
    refine Record.decode_of_passes ?_ ?_
    · simp only [members, List.cons_append, List.nil_append, List.forall_mem_cons]
      exact ⟨.of_eq_ok rfl hvector, .of_eq_ok rfl hpath, .of_eq_ok rfl hk,
        .of_eq_ok rfl hmetric, List.forall_mem_nil _⟩
    · rw [Record.required_eq_ok rfl hvector, Record.required_eq_ok rfl hpath,
        Record.required_eq_ok rfl hk, Record.optional, Record.withDefault_eq_ok rfl hmetric]
      rfl

end VectorSearch

namespace Stage

def Finite : Stage → Prop
  | .nearest search => search.Finite
  | _ => True

theorem decodeOne_eq_ok {α : Type} {type member : String} {value : Json → Decoded α}
    (build : α → Stage) {v : Json} {a : α} (h : value v = .ok a) :
    decodeOne type member value build (.object [(member, v)]) = .ok (build a) := by
  have hlookup : List.lookup member [(member, Record.check value)] = some (Record.check value) :=
    List.lookup_cons_self
  refine Record.decode_of_passes ?_ ?_
  · exact List.forall_mem_singleton.mpr (.of_eq_ok hlookup h)
  · rw [Record.required_eq_ok List.lookup_cons_self h]
    rfl

theorem decodeContent_members {s : Stage} (h : s.Finite) :
    decodeContent s.name (.object s.members) = .ok s := by
  have hfields : ∀ fields : List Field,
      Decode.list (Field.decode .setAside) (.array (fields.map Field.toJson)) = .ok fields :=
    fun fields => Decode.list_map fun f _ => Field.decode_toJson .setAside f
  cases s with
  | filter query => exact decodeOne_eq_ok .filter query.decode_toJson
  | sort spec => exact congrArg (Except.map Stage.sort) (SortSpec.decode_toJson .setAside spec)
  | paginate w =>
    have hread := w.decode_members .setAside
    change (Paginate.decode .setAside (.object w.members)).map Stage.paginate = _
    rw [hread]
    rfl
  | join spec => exact congrArg (Except.map Stage.join) (spec.decode_members .setAside)
  | addFields fields =>
    exact decodeOne_eq_ok .addFields (Decode.list_map fun a _ => a.decode_toJson .setAside)
  | keep fields => exact decodeOne_eq_ok .keep (hfields fields)
  | drop fields => exact decodeOne_eq_ok .drop (hfields fields)
  | group spec => exact congrArg (Except.map Stage.group) (spec.decode_members .setAside)
  | nearest search =>
    exact congrArg (Except.map Stage.nearest) (VectorSearch.decode_members .setAside h)

theorem name_mem_names (s : Stage) : s.name ∈ names := by
  cases s <;> simp [name, names]

/-- No stage has a member of its own that could be taken for its tag. -/
theorem members_ne_tag (s : Stage) : ∀ m ∈ s.members, m.1 ≠ "stage" := by
  cases s with
  | nearest search =>
    obtain ⟨vector, path, k, similarity⟩ := search
    cases similarity <;> simp [members, VectorSearch.members]
  | _ => simp [members, SortSpec.members, Paginate.members, Join.members, Group.members]

theorem decode_toJson {s : Stage} (h : s.Finite) : decode s.toJson = .ok s := by
  have htag : Decode.tagged .direct "stage" "internally tagged enum Stage" names s.toJson =
      .ok (s.name, .object s.members) := Decode.tagged_object s.name_mem_names s.members_ne_tag
  rw [decode, htag]
  exact decodeContent_members h

end Stage

namespace Pipeline

def Finite (p : Pipeline) : Prop := ∀ s ∈ p.stages, s.Finite

theorem decode_toJson {p : Pipeline} (h : p.Finite) : decode p.toJson = .ok p := by
  have hstages := Decode.list_map fun s hs => Stage.decode_toJson (h s hs)
  refine Record.decode_of_passes ?_ ?_
  · exact List.forall_mem_singleton.mpr (.of_eq_ok rfl hstages)
  · rw [Record.required_eq_ok rfl hstages]
    rfl

/-- Expressions, sorts, stages and pipelines are read back from their documents, so that different
ones have different documents. -/
theorem read_back :
    ((∀ e : Expr, Expr.decode e.toJson = .ok e) ∧
        ∀ e e' : Expr, e.toJson = e'.toJson → e = e') ∧
      ((∀ s : SortSpec, SortSpec.decode .direct s.toJson = .ok s) ∧
        ∀ s s' : SortSpec, s.toJson = s'.toJson → s = s') ∧
      ((∀ s : Stage, s.Finite → Stage.decode s.toJson = .ok s) ∧
        ∀ s s' : Stage, s.Finite → s'.Finite → s.toJson = s'.toJson → s = s') ∧
      (∀ p : Pipeline, p.Finite → Pipeline.decode p.toJson = .ok p) ∧
        ∀ p p' : Pipeline, p.Finite → p'.Finite → p.toJson = p'.toJson → p = p' := by
  have hexpr := Expr.decode_toJson
  have hsort := SortSpec.decode_toJson .direct
  refine ⟨⟨hexpr, fun e e' h => ?_⟩, ⟨hsort, fun s s' h => ?_⟩,
    ⟨fun s => Stage.decode_toJson, fun s s' hs hs' h => ?_⟩, fun p => decode_toJson,
    fun p p' hp hp' h => ?_⟩
  · exact Except.ok.inj ((hexpr e).symm.trans (h ▸ hexpr e'))
  · exact Except.ok.inj ((hsort s).symm.trans (h ▸ hsort s'))
  · exact Except.ok.inj ((Stage.decode_toJson hs).symm.trans (h ▸ Stage.decode_toJson hs'))
  · exact Except.ok.inj ((decode_toJson hp).symm.trans (h ▸ decode_toJson hp'))

/-- A pipeline of all nine kinds of stages that validation rejects: nested and empty conjunctions, a
literal that looks like a conjunction, fields with and without a source, an unnamed one, and a
window before the end. -/
theorem read_back_nine_stages :
    let name : Field := ⟨"name", none⟩
    let owner : Field := ⟨"owner", some "people"⟩
    let query : Expr := .and [.not [], .condition ⟨.equals, owner, .literal .null⟩,
      .or [.condition ⟨.exists, name, .field owner⟩, .and [.condition ⟨.contains, ⟨"", none⟩,
        .literal (.object [("conjunction", .string "AND"), ("values", .array []),
          ("$eq", .object [])])⟩]]]
    let p : Pipeline := ⟨[.filter query, .sort ⟨[⟨owner, .descending⟩, ⟨owner, .ascending⟩]⟩,
      .paginate ⟨5, 0⟩, .join ⟨name, owner, name⟩, .addFields [⟨name, owner, query⟩],
      .keep [], .drop [name, owner], .group ⟨[], [.first owner name, .count name]⟩,
      .nearest ⟨[.finite ⟨true, 3⟩], name, 0, some .euclidean⟩]⟩
    p.Finite ∧ p.validate = .error (.missingLeft .contains) ∧ Pipeline.decode p.toJson = .ok p ∧
      ∀ p' : Pipeline, p'.Finite → p.toJson = p'.toJson → p = p' := by
  intro name owner query p
  obtain ⟨-, -, -, hread, hinj⟩ := read_back
  have hfinite : p.Finite := by simp [p, Finite, Stage.Finite, VectorSearch.Finite,
    Component.isFinite]
  exact ⟨hfinite, rfl, hread p hfinite, fun p' => hinj p p' hfinite⟩

end Pipeline
end DocQuery
