import DocQuery.Proofs.Adapter.Reading
import DocQuery.Proofs.Members
import DocQuery.Proofs.Store.Writing

/-!
# Writing through an adapter

What an adapter answers to a write on a collection that is ready, as functions of the documents that
the compiled query chooses. Nothing was found just if none is chosen.
-/
namespace DocQuery

namespace Document

variable {σ : Type}

theorem identified_of_text {members : Members} {id : String}
    (h : members.lookup publicId = some (.string id)) (s : Session σ) :
    identified (.object members) s = (.ok (.object members, id), s) := by
  simp only [identified, h]
  rfl

theorem identified_lacking {members : Members}
    (h : ∀ id, members.lookup publicId ≠ some (.string id)) (s : Session σ) :
    identified (.object members) s =
      (.ok (.object (Members.set publicId (.string (s.ids.publicId s.ids.drawn)) members),
        s.ids.publicId s.ids.drawn), s.advance) := by
  simp only [identified]
  rfl

theorem identified_not_object {document : Json} (h : document.isObject = false) (s : Session σ) :
    identified document s = (.error (.malformed .documentNotObject), s) := by
  cases document with
  | object members => cases h
  | _ => rfl

theorem exists_identified {document : Json} (h : document.isObject = true) (s : Session σ) :
    ∃ document' id t, identified document s = (.ok (document', id), t) ∧ t.state = s.state := by
  cases document with
  | object members =>
    by_cases hid : ∃ id, members.lookup publicId = some (.string id)
    · obtain ⟨id, hid⟩ := hid
      exact ⟨_, id, s, identified_of_text hid s, rfl⟩
    · exact ⟨_, _, s.advance, identified_lacking (not_exists.mp hid) s, rfl⟩
  | _ => cases h

theorem keeps_identified (document : Json) :
    Outcome.Keeps (fun s : Session σ => s.state) (identified document) := by
  intro s
  cases h : document.isObject with
  | true =>
    obtain ⟨document', id, t, hrun, hstate⟩ := exists_identified h s
    rw [hrun]
    exact hstate
  | false => rw [identified_not_object h]

theorem state_of_identified {document : Json} {result : Except QueryError (Json × String)}
    {s t : Session σ} (h : identified document s = (result, t)) : t.state = s.state := by
  have hstate : (identified document s).2.state = s.state := keeps_identified document s
  rwa [h] at hstate

theorem isObject_bare (document : Json) : (bare document).isObject = document.isObject := by
  cases document <;> rfl

section

variable {α : Type} [Document α] {items : List α}

theorem keeps_prepare (items : List α) :
    Outcome.Keeps (fun s : Session σ => s.state)
      (items.mapM fun item => identified (bare (encode item))) :=
  Outcome.keeps_mapM fun _ => keeps_identified _

theorem exists_prepared (h : ∀ item ∈ items, (encode item : Json).isObject = true)
    (s : Session σ) :
    ∃ prepared t, items.mapM (fun item => identified (bare (encode item))) s = (.ok prepared, t) ∧
      prepared.length = items.length ∧ t.state = s.state := by
  have hfirst : ∀ item ∈ items, ∀ s : Session σ,
      ∃ p t, identified (bare (encode item)) s = (.ok p, t) := by
    intro item hitem s
    obtain ⟨d, id, t, hid, -⟩ := exists_identified ((isObject_bare _).trans (h item hitem)) s
    exact ⟨(d, id), t, hid⟩
  obtain ⟨prepared, t, hprepared⟩ := Outcome.exists_mapM_ok hfirst s
  have hstate := keeps_prepare items s
  obtain ⟨-, hlength, -⟩ := Outcome.of_mapM_ok (R := fun _ _ => True) (P := fun _ => True)
    (fun _ => trivial) (fun _ _ _ _ _ => trivial) (fun _ _ _ _ _ _ => ⟨trivial, trivial⟩) hprepared
  rw [hprepared] at hstate
  exact ⟨prepared, t, hprepared, hlength, hstate⟩

theorem failsAt_prepare {item : α} (hitem : item ∈ items)
    (h : (encode item : Json).isObject = false) (s : Session σ) :
    Outcome.FailsAt (items.mapM fun item => identified (bare (encode item))) s := by
  refine .mapM hitem (fun t => ⟨.malformed .documentNotObject, ?_⟩) s
  rw [identified_not_object ((isObject_bare _).trans h)]

end

end Document

namespace Adapter

variable {α : Type} {s t : Session Collection} {e : Expr} {f : Json}

theorem ask_of_ok (A : Adapter) (query : Json) {action : StoreAction Collection α} {x : α}
    (h : action s = (.ok x, t)) : A.ask query action s = (.ok x, t) := by
  rw [ask_apply, h]
  rfl

theorem ask_of_error (A : Adapter) (query : Json) {action : StoreAction Collection α}
    {failure : StoreFailure} (h : action s = (.error failure, t)) :
    A.ask query action s = (.error (.store A.module query failure), t) := by
  rw [ask_apply, h]
  rfl

theorem eq_ok_of_ask {A : Adapter} {query : Json} {action : StoreAction Collection α} {x : α}
    (h : A.ask query action s = (.ok x, t)) : action s = (.ok x, t) := by
  rw [ask_apply] at h
  cases hrun : action s with
  | mk result t' =>
    rw [hrun] at h
    cases result with
    | error failure => cases h
    | ok y =>
      cases h
      rfl

theorem keeps_ask (A : Adapter) (query : Json) {action : StoreAction Collection α}
    (h : Collection.Keeps action) : Outcome.Keeps Collection.stored (A.ask query action) :=
  fun s => h s

theorem atomic_ask (A : Adapter) (query : Json) {action : StoreAction Collection α}
    (h : Collection.Atomic action) : Outcome.Atomic Collection.stored (A.ask query action) := by
  intro s err herr
  rw [ask_apply] at herr ⊢
  cases hresult : (action s).1 with
  | error failure => exact h s failure hresult
  | ok x =>
    rw [hresult] at herr
    cases herr

theorem ask_refused (A : Adapter) (query : Json) (hs : ¬ s.state.Ready) (filter : Option Json) :
    ∃ failure t, t.state.documents = s.state.documents ∧
      ∀ {α : Type} (next : Unit → StoreAction Collection α),
        A.ask query (Collection.begin filter >>= next) s =
          (.error (.store A.module query failure), t) := by
  obtain ⟨failure, t, hbegin⟩ := Collection.begin_not_ready hs filter
  have hkept := Collection.keeps_begin filter s
  rw [hbegin] at hkept
  exact ⟨failure, t, hkept, fun _ => A.ask_of_error query (Outcome.bind_of_error hbegin)⟩

theorem ask_not_ready (A : Adapter) (query : Json) (hs : ¬ s.state.Ready) (filter : Option Json)
    (next : Unit → StoreAction Collection α) :
    Outcome.FailsAt (A.ask query (Collection.begin filter >>= next)) s := by
  obtain ⟨failure, t, -, hask⟩ := A.ask_refused query hs filter
  exact ⟨_, congrArg Prod.fst (hask next)⟩

theorem not_ready_of_identified {document : Json} {result : Except QueryError (Json × String)}
    (hs : ¬ s.state.Ready) (h : Document.identified document s = (result, t)) :
    ¬ t.state.Ready := by
  rwa [Document.state_of_identified h]

variable [PatternEngine]

theorem replaceOne_not_ready [Document α] (A : Adapter) (hs : ¬ s.state.Ready) (query : Expr)
    (item : α) (upsert : Bool) : Outcome.FailsAt (A.replaceOne query item upsert) s := by
  refine .bind fun f r hf => ?_
  obtain ⟨-, rfl⟩ := Prod.mk.inj ((Outcome.liftExcept_apply _ s).symm.trans hf)
  refine .bind fun ⟨document, id⟩ t hid => ?_
  exact .bind_left (A.ask_not_ready f (not_ready_of_identified hs hid) (some f) _)

theorem insertOne_not_ready [Document α] (A : Adapter) (hs : ¬ s.state.Ready) (item : α) :
    Outcome.FailsAt (A.insertOne item) s := by
  refine .bind fun ⟨document, id⟩ t hid => ?_
  exact .bind_left (A.ask_not_ready document (not_ready_of_identified hs hid) none _)

section

variable (A : Adapter) (hs : s.state.Ready) (hf : Native.filter e = .ok f)
  {marks : List (Json × Bool)} (hm : Documents.marked f s.state.documents = .ok marks)
include hs hf hm

theorem deleteOne_marked :
    A.deleteOne e s =
      (if (Documents.chosen marks).isEmpty then .error (.notFound A.module .noneDeleted) else .ok 1,
        s.withState { s.state.asked f with documents := Documents.remaining false marks }) := by
  have hask := A.ask_of_ok f (Collection.delete_marked hs hm false)
  rw [deleteOne, hf]
  refine (Outcome.bind_of_ok hask).trans ?_
  cases Documents.chosen marks with
  | nil => rfl
  | cons d rest => simp; rfl

theorem deleteMany_marked :
    A.deleteMany e s =
      (if (Documents.chosen marks).isEmpty then .error (.notFound A.module .noneDeleted)
        else .ok (Documents.chosen marks).length,
        s.withState { s.state.asked f with documents := Documents.remaining true marks }) := by
  have hask := A.ask_of_ok f (Collection.delete_marked hs hm true)
  rw [deleteMany, hf]
  refine (Outcome.bind_of_ok hask).trans ?_
  cases Documents.chosen marks <;> rfl

theorem updateOne_marked (patch : Json) :
    A.updateOne e patch s =
      match (Documents.chosen marks).head? with
      | none => (.error (.notFound A.module .noMatch), s.withState (s.state.asked f))
      | some old =>
        let (new, result) := Documents.updated [("$set", Document.without internalId patch)] old
        ((result.mapError (A.rejected f)).map fun _ => Collection.changed old new,
          s.withState { s.state.asked f with
            documents := Documents.changeFirst (fun _ => new) marks }) := by
  have hrun := Collection.updateOne_marked hs [("$set", Document.without internalId patch)] hm
  rw [updateOne, hf]
  cases hold : (Documents.chosen marks).head? with
  | none =>
    rw [hold] at hrun
    exact Outcome.bind_of_ok (A.ask_of_ok f hrun)
  | some old =>
    rw [hold] at hrun
    cases hnew : Documents.updated [("$set", Document.without internalId patch)] old with
    | mk new result =>
      simp only [hnew] at hrun ⊢
      cases result with
      | error fault =>
        change (A.ask f _ >>= _) s = _
        exact Outcome.bind_of_error (A.ask_of_error f hrun)
      | ok u => exact Outcome.bind_of_ok (A.ask_of_ok f hrun)

/-- An item that was identified replaces the first document chosen; with `upsert` it is inserted
where there is none. -/
theorem replaceOne_marked [Document α] {item : α} {document : Json} {id : String}
    {r : Session Collection}
    (hid : Document.identified (Document.encode item) r = (.ok (document, id), s))
    (upsert : Bool) :
    A.replaceOne e item upsert r =
      match (Documents.chosen marks).head? with
      | some old => (.ok id, s.withState { s.state.asked f with
          documents := Documents.changeFirst (fun _ => Documents.takeId document old) marks })
      | none =>
        if upsert then (.ok id, (Collection.append [document] (s.withState (s.state.asked f))).2)
        else (.error (.notFound A.module .noMatch), s.withState (s.state.asked f)) := by
  have hrun := Collection.replaceOne_marked hs hm document upsert
  rw [replaceOne, hf]
  refine (Outcome.bind_of_ok hid).trans ?_
  cases hold : (Documents.chosen marks).head? with
  | some old =>
    rw [hold] at hrun
    exact Outcome.bind_of_ok (A.ask_of_ok f hrun)
  | none =>
    rw [hold] at hrun
    cases upsert <;> exact Outcome.bind_of_ok (A.ask_of_ok f hrun)

end

end Adapter
end DocQuery
