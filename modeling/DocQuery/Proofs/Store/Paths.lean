import DocQuery.Native.Stage
import DocQuery.Proofs.Path
import DocQuery.Proofs.Store.Paging
import DocQuery.Proofs.Store.Writing
import DocQuery.Regex.Engine

/-!
# Writing at a path

Filters and sorts read a name with dots as a path into nested documents. Updates and projections
take it for the name of one member. So what they write at a name without a dot is what is read
there, and at a name with a dot they leave what is read as it is, apart from a projection that keeps
the name and thereby drops the member that the path leads into.
-/
namespace DocQuery
open Collection

namespace Json

theorem resolve_set (path : String) (value : Json) (members : Members) :
    (object (members.set path value)).resolve path =
      if Path.Dotted path then (object members).resolve path else some value := by
  split
  · next h =>
    exact resolve_congr_of_dotted h fun key hkey => Members.lookup_set_of_ne hkey value members
  · next h =>
    rw [resolve_key (Path.keys_of_not_dotted h)]
    exact Members.lookup_set_self path value members

theorem resolve_swapRemove {members : Members} (hdistinct : members.Distinct) (path : String) :
    (object (members.swapRemove path)).resolve path =
      if Path.Dotted path then (object members).resolve path else none := by
  split
  · next h =>
    exact resolve_congr_of_dotted h fun key hkey => Members.lookup_swapRemove_of_ne hdistinct hkey
  · next h =>
    rw [resolve_key (Path.keys_of_not_dotted h)]
    exact Members.lookup_swapRemove_self hdistinct path

end Json

namespace Steps

def projected (fields : Members) : Json → Json
  | .object members => .object (members.filter fun m => keeps fields m.1)
  | document => document

theorem project_object (fields : Members) (documents : List Json) :
    project (.object fields) documents = .ok (documents.map (projected fields)) := rfl

theorem get?_projected (fields : Members) (d : Json) (key : String) :
    (projected fields d).get? key = if keeps fields key then d.get? key else none := by
  cases d with
  | object members => exact Members.lookup_filter (keeps fields) members key
  | _ => exact (ite_self _).symm

theorem keeps_excluded (path key : String) : keeps [(path, .int 0)] key = !(path == key) := by
  simp [keeps, Members.contains, Json.asInt?, Json.int]

theorem keeps_included (path key : String) :
    keeps [(path, .int 1)] key = (key == internalId || path == key) := by
  simp [keeps, Members.contains, Json.asInt?, Json.int]

theorem resolve_excluded (path : String) (d : Json) :
    (projected [(path, .int 0)] d).resolve path =
      if Path.Dotted path then d.resolve path else none := by
  split
  · next h =>
    refine Json.resolve_congr_of_dotted h fun key hkey => ?_
    rw [get?_projected, keeps_excluded, beq_eq_false_iff_ne.mpr hkey.symm]
    rfl
  · next h =>
    rw [Json.resolve_key (Path.keys_of_not_dotted h), get?_projected, keeps_excluded,
      beq_self_eq_true]
    rfl

theorem resolve_included {path : String} (hid : (Path.keys path).head? ≠ some internalId)
    (d : Json) :
    (projected [(path, .int 1)] d).resolve path =
      if Path.Dotted path then none else d.resolve path := by
  split
  · next h =>
    obtain ⟨key, rest, hkeys, hkey⟩ := Path.exists_keys path
    have hne : path ≠ key := by
      rintro rfl
      exact hkey h
    have hnotId : key ≠ internalId := by
      rintro rfl
      exact hid (congrArg List.head? hkeys)
    have hkeeps : keeps [(path, .int 1)] key = false := by
      rw [keeps_included, beq_eq_false_iff_ne.mpr hnotId, beq_eq_false_iff_ne.mpr hne]
      rfl
    rw [Json.resolve_eq_follow, hkeys, Json.follow_cons, get?_projected, hkeeps]
    rfl
  · next h =>
    have hkeys := Path.keys_of_not_dotted h
    rw [Json.resolve_key hkeys, Json.resolve_key hkeys, get?_projected, keeps_included,
      beq_self_eq_true, Bool.or_true, if_pos rfl]

end Steps

namespace Collection

section

variable [PatternEngine]

/-- An update finds a document, the first one of which the filter holds, and puts another in its
place. -/
def Rewrites (s : Session Collection) (filter update old new : Json) : Prop :=
  ∃ before after modified t, s.state.documents = before ++ old :: after ∧
    (∀ d ∈ before, Eval.satisfies d filter = .ok false) ∧
    updateOne filter update s = (.ok ⟨true, 1, modified, false⟩, t) ∧
    t.state.documents = before ++ new :: after

variable {s : Session Collection}

theorem rewrites_updated (hs : s.state.Ready) {filter : Json} {holds : Json → Bool}
    (hfilter : ∀ d ∈ s.state.documents, Eval.satisfies d filter = .ok (holds d))
    {operators : Members} {old new : Json}
    (hfirst : (s.state.documents.filter holds).head? = some old)
    (hnew : Documents.updated operators old = (new, .ok ())) :
    Rewrites s filter (.object operators) old new := by
  obtain ⟨-, before, after, hdocuments, hbefore, hchange⟩ := Documents.exists_first hfirst
  have hrun := updateOne_marked hs operators (Documents.marked_eq_map hfilter)
  rw [Documents.chosen_map, hfirst] at hrun
  simp only [hnew] at hrun
  refine ⟨before, after, changed old new, _, hdocuments, fun d hd => ?_, hrun, hchange new⟩
  rw [hfilter d (hdocuments ▸ List.mem_append_left _ hd), hbefore d hd]

theorem aggregate_project (hs : s.state.Ready) (path : String) (source : Option String)
    (flag : Int) :
    (aggregate [Native.projectStage [⟨path, source⟩] flag] s).1 =
      .ok (s.state.documents.map (Steps.projected [(path, .int flag)])) := by
  have hstage := Steps.runStage_step .project (.object [(path, .int flag)]) s.state.documents
  rw [Steps.runStep, Steps.project_object, Outcome.mapError_ok] at hstage
  rw [aggregate_ready hs, Steps.run_singleton]
  exact hstage

/-- What is read at a name after each of the four ways to write it. An update sets and unsets a name
without a dot, a projection drops or keeps one; at a name with a dot an update and a projection that
drops leave what was read there, and after a projection that keeps the name nothing is read. -/
theorem resolve_written (hs : s.state.Ready) {filter : Json} {holds : Json → Bool}
    (hfilter : ∀ d ∈ s.state.documents, Eval.satisfies d filter = .ok (holds d))
    {members : Members} (hdistinct : members.Distinct)
    (hfirst : (s.state.documents.filter holds).head? = some (.object members))
    {path : String} (hid : (Path.keys path).head? ≠ some internalId) (value argument : Json)
    {r : Renderer} (hr : r ≠ .base) (source : Option String) :
    (∃ new, Rewrites s filter (.single "$set" (.single path value)) (.object members) new ∧
      new.resolve path =
        if Path.Dotted path then (Json.object members).resolve path else some value) ∧
    (∃ new, Rewrites s filter (.single "$unset" (.single path argument)) (.object members) new ∧
      new.resolve path =
        if Path.Dotted path then (Json.object members).resolve path else none) ∧
    (∃ stage results, Native.stage r (.drop [⟨path, source⟩]) = .ok stage ∧
      (aggregate [stage] s).1 = .ok results ∧
      results.map (Json.resolve · path) =
        s.state.documents.map fun d => if Path.Dotted path then d.resolve path else none) ∧
    (∃ stage results, Native.stage r (.keep [⟨path, source⟩]) = .ok stage ∧
      (aggregate [stage] s).1 = .ok results ∧
      results.map (Json.resolve · path) =
        s.state.documents.map fun d => if Path.Dotted path then none else d.resolve path) := by
  refine ⟨⟨.object (members.set path value), ?_, Json.resolve_set path value members⟩,
    ⟨.object (members.swapRemove path), ?_, Json.resolve_swapRemove hdistinct path⟩,
    ⟨Native.projectStage [⟨path, source⟩] 0, _, ?_, aggregate_project hs path source 0, ?_⟩,
    ⟨Native.projectStage [⟨path, source⟩] 1, _, ?_, aggregate_project hs path source 1, ?_⟩⟩
  · exact rewrites_updated hs hfilter hfirst rfl
  · exact rewrites_updated hs hfilter hfirst rfl
  · cases r with
    | base => exact absurd rfl hr
    | _ => rfl
  · rw [List.map_map]
    exact List.map_congr_left fun d _ => Steps.resolve_excluded path d
  · cases r with
    | base => exact absurd rfl hr
    | _ => rfl
  · rw [List.map_map]
    exact List.map_congr_left fun d _ => Steps.resolve_included hid d

end

/-- The status of the second of two documents, the first one that has a status. -/
theorem resolve_written_status :
    let members : Members := [("_id", .int 2), ("status", .string "open")]
    let s := holding [.object [("_id", .int 1)], .object members]
    let filter := Json.single "status" (.single "$exists" (.bool true))
    members.Distinct ∧ (Path.keys "status").head? ≠ some internalId ∧
      ∃ new, Rewrites s filter (.single "$set" (.single "status" (.string "closed")))
        (.object members) new ∧ new.resolve "status" = some (.string "closed") := by
  intro members s filter
  let holds : Json → Bool := fun d => (d.get? "status").isSome
  have hfilter : ∀ d ∈ s.state.documents, Eval.satisfies d filter = .ok (holds d) :=
    List.forall_mem_cons.mpr ⟨rfl, List.forall_mem_cons.mpr ⟨rfl, List.forall_mem_nil _⟩⟩
  have hdistinct : members.Distinct := by
    unfold Members.Distinct
    decide
  have hid : (Path.keys "status").head? ≠ some internalId := by decide
  have hwritten := resolve_written (ready_holding _) hfilter hdistinct rfl hid (.string "closed")
    .null (show Renderer.cosmos ≠ .base by decide) none
  exact ⟨hdistinct, hid, hwritten.1⟩

/-- What is set at a name with a dot is not what is read there. -/
theorem exists_set_missed : ¬ ∀ (s : Session Collection) (filter old new value : Json)
    (path : String), (Path.keys path).head? ≠ some internalId →
    Rewrites s filter (.single "$set" (.single path value)) old new →
    new.resolve path = some value := by
  intro h
  let old : Json := .single "a" (.single "b" (.int 1))
  let new : Json := .object [("a", .single "b" (.int 1)), ("a.b", .int 2)]
  have hrewrites : Rewrites (holding [old]) (.object [])
      (.single "$set" (.single "a.b" (.int 2))) old new :=
    ⟨[], [], 1, _, rfl, List.forall_mem_nil _, rfl, rfl⟩
  have hread := congrArg (Option.map Json.asInt?) (h _ _ _ _ _ "a.b" (by decide) hrewrites)
  revert hread
  decide

end Collection
end DocQuery
