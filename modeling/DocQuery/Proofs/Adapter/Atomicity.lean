import DocQuery.Proofs.Adapter.Writing
import DocQuery.Regex.Engine

/-!
# What a failed operation leaves behind

An operation of an adapter that fails leaves the stored documents as they were, wherever it failed:
before the store was asked, in the store, or when the answer of the store was looked at. That
nothing was found is told just if the query holds of no document.
-/
namespace DocQuery

/-- An operation of an adapter on values of one type, with the type of its answer. -/
inductive AdapterCall (α : Type) : Type → Type where
  | find (query : Expr) (sort : Option SortSpec) : AdapterCall α (List α)
  | getAll (sort : Option SortSpec) : AdapterCall α (List α)
  | findOne (query : Expr) : AdapterCall α α
  | insertOne (item : α) : AdapterCall α String
  | insertMany (items : List α) : AdapterCall α (List String)
  | replaceOne (query : Expr) (item : α) (upsert : Bool) : AdapterCall α String
  | updateOne (query : Expr) (patch : Json) : AdapterCall α Nat
  | deleteOne (query : Expr) : AdapterCall α Nat
  | deleteMany (query : Expr) : AdapterCall α Nat
  | count (query : Expr) : AdapterCall α Nat
  | countAll : AdapterCall α Nat
  | aggregate (p : Pipeline) : AdapterCall α (List α)
  | paginate (p : Pipeline) : AdapterCall α (Page α)

namespace Adapter
open Collection (stored)

variable {α : Type} [Document α] (A : Adapter)

theorem keeps_identified (document : Json) :
    Outcome.Keeps stored (Document.identified document : Action Collection (Json × String)) :=
  fun s => congrArg Collection.documents (Document.keeps_identified document s)

variable [PatternEngine]

theorem keeps_findBy (filter : Json) (sort : Option SortSpec) :
    Outcome.Keeps stored (A.findBy filter sort : Action Collection (List α)) :=
  (A.keeps_ask filter (Collection.keeps_find filter _)).bind fun _ =>
    Outcome.keeps_liftExcept _ _

theorem keeps_find (query : Expr) (sort : Option SortSpec) :
    Outcome.Keeps stored (A.find query sort : Action Collection (List α)) :=
  (Outcome.keeps_liftExcept _ _).bind fun filter => A.keeps_findBy filter sort

theorem keeps_findOne (query : Expr) :
    Outcome.Keeps stored (A.findOne query : Action Collection α) := by
  refine (Outcome.keeps_liftExcept _ _).bind fun filter => ?_
  have hfind := (Collection.keeps_find filter none).bind fun found =>
    Collection.keeps_pure found.head?
  refine (A.keeps_ask filter hfind).bind fun first => ?_
  cases first with
  | none => exact Outcome.keeps_throw _ _
  | some document => exact Outcome.keeps_liftExcept _ _

theorem keeps_countBy (filter : Json) :
    Outcome.Keeps stored (A.countBy filter : Action Collection Nat) :=
  A.keeps_ask filter ((Collection.keeps_find filter none).bind fun found =>
    Collection.keeps_pure found.length)

theorem keeps_count (query : Expr) :
    Outcome.Keeps stored (A.count query : Action Collection Nat) :=
  (Outcome.keeps_liftExcept _ _).bind fun filter => A.keeps_countBy filter

theorem keeps_run (p : Pipeline) :
    Outcome.Keeps stored (A.run p : Action Collection (List Json)) :=
  (Outcome.keeps_liftExcept _ _).bind fun stages =>
    A.keeps_ask _ (Collection.keeps_aggregate stages)

theorem keeps_aggregate (p : Pipeline) :
    Outcome.Keeps stored (A.aggregate p : Action Collection (List α)) :=
  (A.keeps_run _).bind fun _ => (Outcome.keeps_liftExcept _ _).bind fun _ =>
    Outcome.keeps_liftExcept _ _

theorem keeps_paginate (p : Pipeline) :
    Outcome.Keeps stored (A.paginate p : Action Collection (Page α)) := by
  have hpage : Outcome.Keeps stored (do
      let split ← liftExcept (splitFacet (← A.run (A.withDefaults p)))
      return ⟨split.2, ← liftExcept (split.1.mapM Document.read)⟩ :
        Action Collection (Page α)) :=
    (A.keeps_run _).bind fun results => (Outcome.keeps_liftExcept _ _).bind fun _ =>
      (Outcome.keeps_liftExcept _ _).bind fun _ => Outcome.keeps_pure _ _
  rw [paginate]
  dsimp only
  split
  · exact (Outcome.keeps_throw _ _).bind fun _ => hpage
  · exact hpage

theorem atomic_insertOne (item : α) :
    Outcome.Atomic stored (A.insertOne item : Action Collection String) := by
  refine (keeps_identified _).atomic_bind fun ⟨document, id⟩ => ?_
  refine (A.atomic_ask document (Collection.atomic_insertOne document)).bind fun s x t h => .inr ?_
  rw [(Collection.insertOne_ok (eq_ok_of_ask h)).1]
  exact Outcome.succeeds_pure id

theorem atomic_insertMany (items : List α) :
    Outcome.Atomic stored (A.insertMany items : Action Collection (List String)) := by
  have hprepare : Outcome.Keeps stored (items.mapM fun item =>
      (Document.identified (Document.bare (Document.encode item)) :
        Action Collection (Json × String))) :=
    Outcome.keeps_mapM fun item => keeps_identified _
  refine hprepare.atomic_bind fun prepared => ?_
  refine (A.atomic_ask _ (Collection.atomic_insertMany _)).bind fun s x t h => .inr ?_
  rw [(Collection.insertMany_ok (eq_ok_of_ask h)).1, List.length_map, List.length_map, if_pos rfl]
  exact Outcome.succeeds_pure _

theorem atomic_replaceOne (query : Expr) (item : α) (upsert : Bool) :
    Outcome.Atomic stored (A.replaceOne query item upsert : Action Collection String) := by
  refine (Outcome.keeps_liftExcept _ _).atomic_bind fun filter => ?_
  refine (keeps_identified _).atomic_bind fun ⟨document, id⟩ => ?_
  refine (A.atomic_ask _ (Collection.atomic_replaceOne filter document upsert)).bind
    fun s outcome t h => ?_
  obtain ⟨hacknowledged, hnone⟩ := Collection.replaceOne_answer (eq_ok_of_ask h)
  rw [hacknowledged]
  by_cases hmissing : outcome.matched = 0 ∧ outcome.upserted = false
  · refine .inl ⟨hnone hmissing, ?_⟩
    simp only [hmissing]
    exact (Outcome.keeps_throw _ _).atomic
  · refine .inr ?_
    simp only [Bool.not_true, Bool.false_eq_true, if_false, Bool.not_eq_true', hmissing]
    exact Outcome.succeeds_pure id

theorem atomic_updateOne (query : Expr) (patch : Json) :
    Outcome.Atomic stored (A.updateOne query patch : Action Collection Nat) := by
  refine (Outcome.keeps_liftExcept _ _).atomic_bind fun filter => ?_
  refine (A.atomic_ask _ (Collection.atomic_updateOne_single filter _ _)).bind
    fun s outcome t h => ?_
  by_cases hmissing : outcome.matched = 0
  · refine .inl ⟨Collection.updateOne_answer (eq_ok_of_ask h) hmissing, ?_⟩
    rw [if_pos hmissing]
    exact (Outcome.keeps_throw _ _).atomic
  · refine .inr ?_
    rw [if_neg hmissing]
    exact Outcome.succeeds_pure _

theorem atomic_deleteOne (query : Expr) :
    Outcome.Atomic stored (A.deleteOne query : Action Collection Nat) := by
  refine (Outcome.keeps_liftExcept _ _).atomic_bind fun filter => ?_
  refine (A.atomic_ask _ (Collection.atomic_delete false filter)).bind fun s outcome t h => ?_
  obtain ⟨hone, hzero⟩ := Collection.delete_answer (eq_ok_of_ask h)
  by_cases hdeleted : outcome.deleted = 1
  · refine .inr ?_
    rw [if_pos hdeleted]
    exact Outcome.succeeds_pure _
  · have hle := hone rfl
    refine .inl ⟨hzero (by omega), ?_⟩
    rw [if_neg hdeleted]
    exact (Outcome.keeps_throw _ _).atomic

theorem atomic_deleteMany (query : Expr) :
    Outcome.Atomic stored (A.deleteMany query : Action Collection Nat) := by
  refine (Outcome.keeps_liftExcept _ _).atomic_bind fun filter => ?_
  refine (A.atomic_ask _ (Collection.atomic_delete true filter)).bind fun s outcome t h => ?_
  obtain ⟨-, hzero⟩ := Collection.delete_answer (eq_ok_of_ask h)
  by_cases hdeleted : 0 < outcome.deleted
  · refine .inr ?_
    rw [if_pos hdeleted]
    exact Outcome.succeeds_pure _
  · refine .inl ⟨hzero (by omega), ?_⟩
    rw [if_neg hdeleted]
    exact (Outcome.keeps_throw _ _).atomic

end Adapter

def Outcome.NotFound {β : Type} (result : Except QueryError β) : Prop :=
  ∃ e, result = .error e ∧ e.isNotFound = true

namespace AdapterCall
open Outcome

variable {α β : Type} [Document α]

def perform {σ : Type} [DocumentStore σ] (A : Adapter) : AdapterCall α β → Action σ β
  | .find query sort => A.find query sort
  | .getAll sort => A.getAll sort
  | .findOne query => A.findOne query
  | .insertOne item => A.insertOne item
  | .insertMany items => A.insertMany items
  | .replaceOne query item upsert => A.replaceOne query item upsert
  | .updateOne query patch => A.updateOne query patch
  | .deleteOne query => A.deleteOne query
  | .deleteMany query => A.deleteMany query
  | .count query => A.count query
  | .countAll => A.countAll
  | .aggregate p => A.aggregate p
  | .paginate p => A.paginate p

inductive NeedsMatch (query : Expr) : {β : Type} → AdapterCall α β → Prop where
  | findOne : NeedsMatch query (.findOne query)
  | replaceOne {item : α} (h : (Document.encode item).isObject = true) :
    NeedsMatch query (.replaceOne query item false)
  | updateOne (patch : Json) : NeedsMatch query (.updateOne query patch)
  | deleteOne : NeedsMatch query (.deleteOne query)
  | deleteMany : NeedsMatch query (.deleteMany query)

theorem notFound_error {e : QueryError} :
    NotFound (.error e : Except QueryError β) ↔ e.isNotFound = true := by
  simp [NotFound]

theorem not_notFound_ok (x : β) : ¬ NotFound (.ok x) := by
  rintro ⟨e, he, -⟩
  cases he

theorem not_notFound_read (d : Json) : ¬ NotFound (Document.read d : Except QueryError α) := by
  rintro ⟨e, he, hmissing⟩
  obtain ⟨err, -, rfl⟩ := exists_of_mapError_eq_error he
  exact Bool.false_ne_true hmissing

section

variable [PatternEngine]

def run (A : Adapter) (call : AdapterCall α β) : Action Collection β := call.perform A

theorem atomic_run (A : Adapter) (call : AdapterCall α β) :
    Outcome.Atomic Collection.stored (call.run A) := by
  cases call with
  | find query sort => exact (A.keeps_find query sort).atomic
  | getAll sort => exact (A.keeps_findBy _ sort).atomic
  | findOne query => exact (A.keeps_findOne query).atomic
  | insertOne item => exact A.atomic_insertOne item
  | insertMany items => exact A.atomic_insertMany items
  | replaceOne query item upsert => exact A.atomic_replaceOne query item upsert
  | updateOne query patch => exact A.atomic_updateOne query patch
  | deleteOne query => exact A.atomic_deleteOne query
  | deleteMany query => exact A.atomic_deleteMany query
  | count query => exact (A.keeps_count query).atomic
  | countAll => exact (A.keeps_countBy _).atomic
  | aggregate p => exact (A.keeps_aggregate p).atomic
  | paginate p => exact (A.keeps_paginate p).atomic

section

variable (A : Adapter) {s : Session Collection} {query : Expr} {f : Json}
  (hs : s.state.Ready) (hf : Native.filter query = .ok f)
  {marks : List (Json × Bool)} (hm : Documents.marked f s.state.documents = .ok marks)
include hs hf hm

/-- An operation that needs a match tells that there is none just if no document is chosen. -/
theorem notFound_iff_chosen {call : AdapterCall α β} (hcall : call.NeedsMatch query) :
    NotFound (call.run A s).1 ↔ Documents.chosen marks = [] := by
  cases hcall with
  | findOne =>
    have hselect : Documents.select f s.state.documents = .ok (Documents.chosen marks) := by
      rw [Documents.select, hm]
      rfl
    rw [run, perform, A.findOne_ready hs hf, hselect]
    cases Documents.chosen marks with
    | nil => exact iff_of_true ⟨_, rfl, rfl⟩ rfl
    | cons d rest => exact iff_of_false (not_notFound_read d) (List.cons_ne_nil _ _)
  | replaceOne h =>
    obtain ⟨document, id, t, hid, hstate⟩ := Document.exists_identified h s
    rw [← hstate] at hs hm
    rw [run, perform, A.replaceOne_marked hs hf hm hid]
    cases Documents.chosen marks with
    | nil => exact iff_of_true ⟨_, rfl, rfl⟩ rfl
    | cons d rest => exact iff_of_false (not_notFound_ok id) (List.cons_ne_nil _ _)
  | updateOne patch =>
    rw [run, perform, A.updateOne_marked hs hf hm]
    cases Documents.chosen marks with
    | nil => exact iff_of_true ⟨_, rfl, rfl⟩ rfl
    | cons d rest =>
      refine iff_of_false ?_ (List.cons_ne_nil _ _)
      simp only [List.head?_cons]
      cases (Documents.updated [("$set", Document.without internalId patch)] d).2 with
      | error fault => exact fun h => Bool.false_ne_true (notFound_error.mp h)
      | ok u => exact not_notFound_ok _
  | deleteOne =>
    rw [run, perform, A.deleteOne_marked hs hf hm]
    cases Documents.chosen marks with
    | nil => exact iff_of_true ⟨_, rfl, rfl⟩ rfl
    | cons d rest => exact iff_of_false (not_notFound_ok 1) (List.cons_ne_nil _ _)
  | deleteMany =>
    rw [run, perform, A.deleteMany_marked hs hf hm]
    cases Documents.chosen marks with
    | nil => exact iff_of_true ⟨_, rfl, rfl⟩ rfl
    | cons d rest => exact iff_of_false (not_notFound_ok _) (List.cons_ne_nil _ _)

theorem replaceOne_upsert {item : α} (h : (Document.encode item).isObject = true) :
    ∃ id t, (AdapterCall.replaceOne query item true).run A s = (.ok id, t) := by
  obtain ⟨document, id, t, hid, hstate⟩ := Document.exists_identified h s
  rw [← hstate] at hs hm
  rw [run, perform, A.replaceOne_marked hs hf hm hid]
  cases (Documents.chosen marks).head? with
  | none => exact ⟨_, _, rfl⟩
  | some old => exact ⟨_, _, rfl⟩

end

/-- An operation that fails leaves the stored documents as they were. On a collection that is ready,
and with a query that compiles and faults on no document, an operation that needs a match tells
that there is none just if the query holds of no document, and a replacement that may insert
succeeds. -/
theorem failed_keeps_notFound_iff (A : Adapter) (s : Session Collection) :
    (∀ {β : Type} (call : AdapterCall α β) (e : QueryError), (call.run A s).1 = .error e →
      (call.run A s).2.state.documents = s.state.documents) ∧
    ∀ {query : Expr} {f : Json}, s.state.Ready → Native.filter query = .ok f →
      (∀ d ∈ s.state.documents, ∃ b, Eval.satisfies d f = .ok b) →
      (∀ {β : Type} (call : AdapterCall α β), call.NeedsMatch query →
        (NotFound (call.run A s).1 ↔ ∀ d ∈ s.state.documents, Eval.satisfies d f = .ok false)) ∧
      ∀ item : α, (Document.encode item).isObject = true →
        ∃ id t, (AdapterCall.replaceOne query item true).run A s = (.ok id, t) := by
  refine ⟨fun call e he => call.atomic_run A s e he, fun {query f} hs hf hsound => ?_⟩
  obtain ⟨holds, hholds⟩ := Documents.exists_holds hsound
  have hm := Documents.marked_eq_map hholds
  refine ⟨fun call hcall => ?_, fun item hitem => replaceOne_upsert A hs hf hm hitem⟩
  rw [notFound_iff_chosen A hs hf hm hcall, Documents.chosen_map, List.filter_eq_nil_iff]
  refine forall₂_congr fun d hd => ?_
  rw [hholds d hd, Bool.not_eq_true, Except.ok.injEq]

end

/-- A collection in which the second document matches, by an item of a list: an update of it by a
text fails and changes nothing, and for a deletion nothing is missing. -/
theorem failed_keeps_notFound_iff_listed :
    let s := Collection.holding [.object [("_id", .int 1), ("k", .string "a")],
      .object [("_id", .int 2), ("k", .array [.null, .string "b"])]]
    let query : Expr := .condition ⟨.equals, ⟨"k", none⟩, .literal (.string "b")⟩
    let f : Json := .single "k" (.single "$eq" (.string "b"))
    let patched : AdapterCall Json Nat := .updateOne query (.string "c")
    let deleted : AdapterCall Json Nat := .deleteOne query
    let A := Adapter.plain "CASES"
    (s.state.Ready ∧ Native.filter query = .ok f ∧
        ∀ d ∈ s.state.documents, ∃ b, Eval.satisfies d f = .ok b) ∧
      (∃ e, (patched.run A s).1 = .error e) ∧
      (patched.run A s).2.state.documents = s.state.documents ∧
      ¬ NotFound (deleted.run A s).1 := by
  intro s query f patched deleted A
  have hs : s.state.Ready := Collection.ready_holding _
  have hf : Native.filter query = .ok f := rfl
  have hsound : ∀ d ∈ s.state.documents, ∃ b, Eval.satisfies d f = .ok b := by
    intro d hd
    rcases List.mem_pair.mp hd with rfl | rfl
    · exact ⟨false, rfl⟩
    · exact ⟨true, rfl⟩
  have hfail : (patched.run A s).1 = .error (A.rejected f (.updateArgument "$set")) := rfl
  obtain ⟨hkept, hmissing⟩ := failed_keeps_notFound_iff (α := Json) A s
  refine ⟨⟨hs, hf, hsound⟩, ⟨_, hfail⟩, hkept patched _ hfail, fun h => ?_⟩
  have hnone := ((hmissing hs hf hsound).1 deleted .deleteOne).mp h
  cases hnone _ (List.mem_cons_of_mem _ (List.mem_singleton_self _))

end AdapterCall
end DocQuery
