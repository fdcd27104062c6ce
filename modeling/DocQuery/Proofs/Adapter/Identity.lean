import DocQuery.Proofs.Adapter.Atomicity
import DocQuery.Proofs.Store.Identifiers
import DocQuery.Regex.Engine

/-!
# What operations do to internal identifiers

Each operation of an adapter leaves the identifiers of the stored documents as they are, adds some
at the end, or takes away those of the documents that it deletes. `effect_run` says which, operation
by operation, and everything about a run of operations is derived from that.
-/
namespace DocQuery

namespace Document

variable {σ : Type} {d : Json}

/-- An object in which no key occurs twice, or no object at all. Nothing else can be written as a
document, so this is asked of the documents that callers pass in, and of nothing else. -/
def Proper : Json → Prop
  | .object members => Members.Distinct members
  | _ => True

theorem Proper.without (h : Proper d) (key : String) : Proper (without key d) := by
  cases d with
  | object members => exact Members.Distinct.swapRemove h key
  | _ => trivial

theorem get?_without_self (h : Proper d) (key : String) : (without key d).get? key = none := by
  cases d with
  | object members => exact Members.lookup_swapRemove_self h key
  | _ => rfl

theorem get?_without_of_ne (h : Proper d) {key other : String} (hne : other ≠ key) :
    (without key d).get? other = d.get? other := by
  cases d with
  | object members => exact Members.lookup_swapRemove_of_ne h hne
  | _ => rfl

theorem get?_bare (h : Proper d) : (bare d).get? internalId = none := by
  rw [bare, get?_without_of_ne (h.without internalId) (by decide)]
  exact get?_without_self h internalId

theorem of_identified {d' : Json} {id : String} {s t : Session σ}
    (h : identified d s = (.ok (d', id), t)) :
    (∃ members, d' = .object members) ∧ d'.get? internalId = d.get? internalId ∧
      t.state = s.state ∧ Session.Later s t := by
  cases d with
  | object members =>
    by_cases hid : ∃ id, members.lookup publicId = some (.string id)
    · obtain ⟨id', hid'⟩ := hid
      cases (identified_of_text hid' s).symm.trans h
      exact ⟨⟨members, rfl⟩, rfl, rfl, .refl s⟩
    · cases (identified_lacking (not_exists.mp hid) s).symm.trans h
      exact ⟨⟨_, rfl⟩, Members.lookup_set_of_ne (by decide) _ members, rfl, s.later_advance⟩
  | _ => cases h

theorem lacking_of_identified_bare {d' : Json} {id : String} {s t : Session σ} (hproper : Proper d)
    (h : identified (bare d) s = (.ok (d', id), t)) :
    (t.state = s.state ∧ Session.Later s t) ∧ Lacking d' := by
  obtain ⟨⟨members, rfl⟩, hget, hstate, hlater⟩ := of_identified h
  exact ⟨⟨hstate, hlater⟩, members, rfl, hget.trans (get?_bare hproper)⟩

end Document

/-- Whether a query, compiled, holds of a document. -/
def Expr.selects [PatternEngine] (query : Expr) (d : Json) : Bool :=
  match Native.filter query with
  | .ok f => (Eval.satisfies d f).toOption.getD false
  | .error _ => false

theorem Documents.marks_eq_map [PatternEngine] {query : Expr} {f : Json}
    (hf : Native.filter query = .ok f) {documents : List Json} {marks : List (Json × Bool)}
    (hm : marked f documents = .ok marks) :
    marks = documents.map fun d => (d, query.selects d) := by
  have hselects : ∀ d ∈ documents, Eval.satisfies d f = .ok (query.selects d) := by
    intro d hd
    obtain ⟨b, hb⟩ := exists_of_marked hm d hd
    simp only [Expr.selects, hf, hb]
    rfl
  exact Except.ok.inj (hm.symm.trans (marked_eq_map hselects))

namespace Adapter
open Documents (ids)
open Collection (Adds)

variable {α β : Type} {A : Adapter} {query : Expr} {s t : Session Collection}

theorem of_chosen {documents : List Json} {holds : Json → Bool} {err : QueryError} {x y : α}
    {r : Session Collection}
    (h : ((if (documents.filter holds).isEmpty then .error err else .ok x :
      Except QueryError α), r) = (.ok y, t)) : documents.any holds = true ∧ t = r := by
  cases hempty : (documents.filter holds).isEmpty with
  | true =>
    rw [hempty] at h
    cases h
  | false =>
    rw [hempty] at h
    refine ⟨List.any_eq_true.mpr ?_, (Prod.mk.inj h).2.symm⟩
    simpa using List.isEmpty_eq_false_iff.mp hempty

variable [PatternEngine]

/-- An operation that looks for documents first and is answered has found the collection ready and
tried its filter on every document. -/
theorem marked_of_ask {f : Json} {next : List (Json × Bool) → StoreAction Collection α}
    {after : α → Action Collection β} {y : β}
    (h : (A.ask f (Collection.onMarked f next) >>= after) s = (.ok y, t)) :
    s.state.Ready ∧ ∃ marks, Documents.marked f s.state.documents = .ok marks := by
  obtain ⟨x, r, hask, -⟩ := Outcome.exists_of_bind_ok h
  rcases Collection.onMarked_cases f next s with ⟨failure, t', hfail, -⟩ | ⟨hs, marks, hm, -⟩
  · cases hfail.symm.trans (eq_ok_of_ask hask)
  · exact ⟨hs, marks, hm⟩

theorem deleteOne_ok {n : Nat} (h : A.deleteOne query s = (.ok n, t)) :
    s.state.documents.any query.selects = true ∧
      t.state.documents = s.state.documents.eraseP query.selects := by
  obtain ⟨f, hf, hask⟩ := Outcome.exists_of_liftExcept_ok h
  obtain ⟨hs, marks, hm⟩ := marked_of_ask hask
  rw [A.deleteOne_marked hs hf hm, Documents.marks_eq_map hf hm, Documents.chosen_map,
    Documents.remaining_one] at h
  obtain ⟨hany, rfl⟩ := of_chosen h
  exact ⟨hany, rfl⟩

theorem deleteMany_ok {n : Nat} (h : A.deleteMany query s = (.ok n, t)) :
    s.state.documents.any query.selects = true ∧
      t.state.documents = s.state.documents.filter fun d => !query.selects d := by
  obtain ⟨f, hf, hask⟩ := Outcome.exists_of_liftExcept_ok h
  obtain ⟨hs, marks, hm⟩ := marked_of_ask hask
  rw [A.deleteMany_marked hs hf hm, Documents.marks_eq_map hf hm, Documents.chosen_map,
    Documents.remaining_many] at h
  obtain ⟨hany, rfl⟩ := of_chosen h
  exact ⟨hany, rfl⟩

theorem updateOne_ok {patch : Json} (hpatch : Document.Proper patch) {n : Nat}
    (h : A.updateOne query patch s = (.ok n, t)) :
    ids t.state.documents = ids s.state.documents := by
  obtain ⟨f, hf, hask⟩ := Outcome.exists_of_liftExcept_ok h
  obtain ⟨hs, marks, hm⟩ := marked_of_ask hask
  rw [A.updateOne_marked hs hf hm, Documents.marks_eq_map hf hm, Documents.chosen_map] at h
  cases hold : (s.state.documents.filter query.selects).head? with
  | none =>
    rw [hold] at h
    cases h
  | some old =>
    rw [hold] at h
    have hid := Documents.get?_updated_set (Document.get?_without_self hpatch internalId) old
    rw [← (Prod.mk.inj h).2]
    exact Documents.ids_changeFirst hold hid

/-- What a replacement that is answered does to the identifiers: nothing if it has replaced a
document, and otherwise it has added one, under the item's own identifier if that has one. -/
def Replaces (query : Expr) (item : Json) (upsert : Bool) (s t : Session Collection) : Prop :=
  if s.state.documents.any query.selects then ids t.state.documents = ids s.state.documents
  else upsert = true ∧
    match item.get? internalId with
    | none => Adds 1 s t
    | some own => ids t.state.documents = ids s.state.documents ++ [some own]

theorem replaceOne_ok [Document α] {item : α} {upsert : Bool} {id : String}
    (hidentified : Documents.Identified s.state.documents)
    (h : A.replaceOne query item upsert s = (.ok id, t)) :
    Replaces query (Document.encode item) upsert s t := by
  obtain ⟨f, hf, hrest⟩ := Outcome.exists_of_liftExcept_ok h
  obtain ⟨⟨document, id'⟩, r, hid, hask⟩ := Outcome.exists_of_bind_ok hrest
  obtain ⟨hs, marks, hm⟩ := marked_of_ask hask
  obtain ⟨⟨members, rfl⟩, hget, hstate, hlater⟩ := Document.of_identified hid
  rw [A.replaceOne_marked hs hf hm hid, Documents.marks_eq_map hf hm, Documents.chosen_map,
    hstate] at h
  rw [Replaces]
  cases hold : (s.state.documents.filter query.selects).head? with
  | some old =>
    obtain ⟨hselects, before, after, hsplit, -⟩ := Documents.exists_first hold
    have hmem : old ∈ s.state.documents := by
      rw [hsplit]
      exact List.mem_append_right _ List.mem_cons_self
    rw [hold] at h
    rw [if_pos (List.any_eq_true.mpr ⟨old, hmem, hselects⟩), ← (Prod.mk.inj h).2]
    exact Documents.ids_changeFirst hold (Documents.get?_takeId (hidentified old hmem))
  | none =>
    have hnone : s.state.documents.any query.selects = false := by
      rw [List.any_eq_false]
      simpa using List.head?_eq_none_iff.mp hold
    rw [hold] at h
    rw [hnone, if_neg Bool.false_ne_true]
    cases upsert with
    | false => cases h
    | true =>
      obtain ⟨-, rfl⟩ := Prod.mk.inj h
      refine ⟨rfl, ?_⟩
      rw [← hget]
      exact Collection.append_object (hlater.withState { s.state with lastFilter := some f }) rfl

theorem insertOne_ok [Document α] {item : α} (hproper : Document.Proper (Document.encode item))
    {id : String} (h : A.insertOne item s = (.ok id, t)) : Adds 1 s t := by
  obtain ⟨⟨document, id'⟩, r, hid, hrest⟩ := Outcome.exists_of_bind_ok h
  obtain ⟨⟨hstate, hlater⟩, hlacking⟩ := Document.lacking_of_identified_bare hproper hid
  obtain ⟨acknowledged, u, hask, hend⟩ := Outcome.exists_of_bind_ok hrest
  obtain ⟨rfl, rfl⟩ := Collection.insertOne_ok (eq_ok_of_ask hask)
  cases hend
  obtain ⟨hlater', hadds⟩ := Collection.append_lacking (List.forall_mem_singleton.mpr hlacking) r
  exact hadds.of_later hlater hlater' (congrArg Collection.documents hstate)

theorem insertMany_ok [Document α] {items : List α}
    (hproper : ∀ item ∈ items, Document.Proper (Document.encode item)) {given : List String}
    (h : A.insertMany items s = (.ok given, t)) : Adds items.length s t := by
  obtain ⟨prepared, r, hprepare, hrest⟩ := Outcome.exists_of_bind_ok h
  obtain ⟨⟨hstate, hlater⟩, hlength, hlacking⟩ := Outcome.of_mapM_ok
    (R := fun s t : Session Collection => t.state = s.state ∧ Session.Later s t)
    (P := fun p : Json × String => Document.Lacking p.1)
    (fun s => ⟨rfl, .refl s⟩) (fun s t u h h' => ⟨h'.1.trans h.1, h.2.trans h'.2⟩)
    (fun item hitem s p t => Document.lacking_of_identified_bare (hproper item hitem)) hprepare
  obtain ⟨outcome, u, hask, hend⟩ := Outcome.exists_of_bind_ok hrest
  obtain ⟨hinserted, rfl⟩ := Collection.insertMany_ok (eq_ok_of_ask hask)
  rw [hinserted, List.length_map, List.length_map, if_pos rfl] at hend
  cases hend
  obtain ⟨hlater', hadds⟩ := Collection.append_lacking (List.forall_mem_map.mpr hlacking) r
  rw [List.length_map, hlength] at hadds
  exact hadds.of_later hlater hlater' (congrArg Collection.documents hstate)

end Adapter

namespace AdapterCall
open Documents (ids Identified)
open Collection (Adds)

variable {α β : Type} [Document α] {A : Adapter} {s t : Session Collection}

/-- The documents that an operation is given are proper. A replacement may be anything. -/
def Proper : AdapterCall α β → Prop
  | .insertOne item => Document.Proper (Document.encode item)
  | .insertMany items => ∀ item ∈ items, Document.Proper (Document.encode item)
  | .updateOne _ patch => Document.Proper patch
  | _ => True

variable [PatternEngine]

/-- What an operation with its answer does to the identifiers of the stored documents. -/
def Effect (s t : Session Collection) : AdapterCall α β → Except QueryError β → Prop
  | .insertOne _, .ok _ => Adds 1 s t
  | .insertMany items, .ok _ => Adds items.length s t
  | .replaceOne query item upsert, .ok _ =>
    Adapter.Replaces query (Document.encode item) upsert s t
  | .updateOne _ _, .ok _ => ids t.state.documents = ids s.state.documents
  | .deleteOne query, .ok _ =>
    s.state.documents.any query.selects = true ∧
      t.state.documents = s.state.documents.eraseP query.selects
  | .deleteMany query, .ok _ =>
    s.state.documents.any query.selects = true ∧
      t.state.documents = s.state.documents.filter fun d => !query.selects d
  | _, _ => t.state.documents = s.state.documents

theorem effect_run (call : AdapterCall α β) (hproper : call.Proper)
    (hs : Identified s.state.documents) : call.Effect s (call.run A s).2 (call.run A s).1 := by
  cases hrun : call.run A s with
  | mk result t =>
    cases result with
    | error e =>
      have hkept := call.atomic_run A s e (congrArg Prod.fst hrun)
      rw [hrun] at hkept
      cases call <;> exact hkept
    | ok x =>
      have hkeeps : Outcome.Keeps Collection.stored (call.run A) →
          t.state.documents = s.state.documents := by
        intro h
        have hkept := h s
        rwa [hrun] at hkept
      cases call with
      | insertOne item => exact Adapter.insertOne_ok hproper hrun
      | insertMany items => exact Adapter.insertMany_ok hproper hrun
      | replaceOne query item upsert => exact Adapter.replaceOne_ok hs hrun
      | updateOne query patch => exact Adapter.updateOne_ok hproper hrun
      | deleteOne query => exact Adapter.deleteOne_ok hrun
      | deleteMany query => exact Adapter.deleteMany_ok hrun
      | find query sort => exact hkeeps (A.keeps_find query sort)
      | getAll sort => exact hkeeps (A.keeps_findBy _ sort)
      | findOne query => exact hkeeps (A.keeps_findOne query)
      | count query => exact hkeeps (A.keeps_count query)
      | countAll => exact hkeeps (A.keeps_countBy _)
      | aggregate p => exact hkeeps (A.keeps_aggregate p)
      | paginate p => exact hkeeps (A.keeps_paginate p)

/-- The identifier of its own under which an answered replacement has inserted its item. -/
def suppliedId (s : Session Collection) :
    AdapterCall α β → Except QueryError β → Option Json
  | .replaceOne query item _, .ok _ =>
    if s.state.documents.any query.selects then none
    else (Document.encode item).get? internalId
  | _, _ => none

/-- In the end an operation adds an item's own identifier, takes away some, or adds new ones. -/
theorem Effect.cases {call : AdapterCall α β} {result : Except QueryError β}
    (h : call.Effect s t result) :
    (∃ own, call.suppliedId s result = some own ∧
        ids t.state.documents = ids s.state.documents ++ [some own]) ∨
      call.suppliedId s result = none ∧
        ((ids t.state.documents).Sublist (ids s.state.documents) ∨ ∃ n, Adds n s t) := by
  have hsame : ids t.state.documents = ids s.state.documents →
      (ids t.state.documents).Sublist (ids s.state.documents) := by
    intro hkept
    rw [hkept]
  cases result with
  | error e => cases call <;> exact .inr ⟨rfl, .inl (hsame (congrArg ids h))⟩
  | ok x =>
    cases call with
    | insertOne item => exact .inr ⟨rfl, .inr ⟨_, h⟩⟩
    | insertMany items => exact .inr ⟨rfl, .inr ⟨_, h⟩⟩
    | updateOne query patch => exact .inr ⟨rfl, .inl (hsame h)⟩
    | deleteOne query =>
      refine .inr ⟨rfl, .inl ?_⟩
      rw [h.2]
      exact List.eraseP_sublist.map _
    | deleteMany query =>
      refine .inr ⟨rfl, .inl ?_⟩
      rw [h.2]
      exact List.filter_sublist.map _
    | replaceOne query item upsert =>
      simp only [Effect, Adapter.Replaces] at h
      rw [suppliedId]
      split at h
      · next hany =>
        rw [if_pos hany]
        exact .inr ⟨rfl, .inl (hsame h)⟩
      · next hnone =>
        rw [if_neg hnone]
        obtain ⟨-, hadded⟩ := h
        cases hown : (Document.encode item).get? internalId with
        | none =>
          rw [hown] at hadded
          exact .inr ⟨rfl, .inr ⟨1, hadded⟩⟩
        | some own =>
          rw [hown] at hadded
          exact .inl ⟨own, rfl, hadded⟩
    | _ => exact .inr ⟨rfl, .inl (hsame (congrArg ids h))⟩

theorem Effect.identified {call : AdapterCall α β} {result : Except QueryError β}
    (h : call.Effect s t result) (hs : Identified s.state.documents) :
    Identified t.state.documents := by
  rw [Documents.identified_iff] at hs ⊢
  rcases h.cases with ⟨own, -, hids⟩ | ⟨-, hsub | ⟨n, new, -, -, hids⟩⟩
  · rw [hids]
    simpa using hs
  · exact fun hmem => hs (hsub.mem hmem)
  · rw [hids]
    simpa using hs

end AdapterCall

structure Request (α : Type) where
  adapter : Adapter
  {answer : Type}
  call : AdapterCall α answer

namespace Request
open Documents (Identified)

variable {α : Type} [Document α]

section

variable [PatternEngine]

def result (r : Request α) (s : Session Collection) : Except QueryError r.answer :=
  (r.call.run r.adapter s).1

def after (r : Request α) (s : Session Collection) : Session Collection :=
  (r.call.run r.adapter s).2

def Effect (r : Request α) (s : Session Collection) : Prop :=
  r.call.Effect s (r.after s) (r.result s)

/-- The requests of a run, each with the session that it meets. -/
def steps : List (Request α) → Session Collection → List (Session Collection × Request α)
  | [], _ => []
  | r :: rest, s => (s, r) :: steps rest (r.after s)

/-- What every request of a run preserves holds wherever one of them is made. -/
theorem forall_steps {P : Session Collection → Prop} {requests : List (Request α)}
    (hafter : ∀ r ∈ requests, ∀ s, P s → P (r.after s)) {s : Session Collection} (hs : P s) :
    ∀ step ∈ steps requests s, step.2 ∈ requests ∧ P step.1 := by
  induction requests generalizing s with
  | nil => exact List.forall_mem_nil _
  | cons r rest ih =>
    obtain ⟨hfirst, hrest⟩ := List.forall_mem_cons.mp hafter
    refine List.forall_mem_cons.mpr ⟨⟨List.mem_cons_self, hs⟩, fun step hstep => ?_⟩
    obtain ⟨hmem, hstate⟩ := ih hrest (hfirst s hs) step hstep
    exact ⟨List.mem_cons_of_mem r hmem, hstate⟩

theorem effect_and_identified {r : Request α} (hproper : r.call.Proper) {s : Session Collection}
    (hs : Identified s.state.documents) :
    r.Effect s ∧ Identified (r.after s).state.documents := by
  have heffect : r.Effect s := r.call.effect_run hproper hs
  exact ⟨heffect, heffect.identified hs⟩

theorem identified_steps {requests : List (Request α)} (hproper : ∀ r ∈ requests, r.call.Proper)
    {s : Session Collection} (hs : Identified s.state.documents) :
    ∀ step ∈ steps requests s, step.2.call.Proper ∧ Identified step.1.state.documents := by
  intro step hstep
  have hkept : ∀ r ∈ requests, ∀ s : Session Collection, Identified s.state.documents →
      Identified (r.after s).state.documents :=
    fun r hr s hs => (effect_and_identified (hproper r hr) hs).2
  obtain ⟨hmem, hbefore⟩ := forall_steps hkept hs step hstep
  exact ⟨hproper _ hmem, hbefore⟩

/-- Where every document has an identifier, each operation of a run has its effect on them and no
other, whatever items and patches it is given; and every document still has one after it. -/
theorem effect_steps {requests : List (Request α)} (hproper : ∀ r ∈ requests, r.call.Proper)
    {s : Session Collection} (hs : Identified s.state.documents) :
    ∀ step ∈ steps requests s,
      step.2.Effect step.1 ∧ Identified (step.2.after step.1).state.documents := by
  intro step hstep
  obtain ⟨hcall, hbefore⟩ := identified_steps hproper hs step hstep
  exact effect_and_identified hcall hbefore

end

/-- Items and a patch with identifiers of their own: the document that is replaced and updated keeps
its identifier, and the items inserted get new ones. -/
theorem effect_steps_kept :
    let query (n : Int) : Expr := .condition ⟨.equals, ⟨"n", none⟩, .literal (.int n)⟩
    let item (id n : Int) : Json := .object [("_id", .int id), ("n", .int n)]
    let A := Adapter.plain "NOTES"
    let requests : List (Request Json) :=
      [⟨A, .insertMany [item 5 1, item 5 2]⟩, ⟨A, .replaceOne (query 0) (item 6 3) true⟩,
        ⟨A, .updateOne (query 3) (item 7 4)⟩, ⟨A, .deleteOne (query 1)⟩, ⟨A, .find (query 4) none⟩]
    let s := Collection.holding [item 1 0]
    ((∀ r ∈ requests, r.call.Proper) ∧ Identified s.state.documents) ∧
      (∀ step ∈ steps requests s, Identified (step.2.after step.1).state.documents) ∧
      (Documents.ids (requests.foldl (fun s r => r.after s) s).state.documents ==
        [some (.int 1), some (ObjectId.ofNat 3).toWire]) = true := by
  intro query item A requests s
  have hitem : ∀ id n, Document.Proper (item id n) := by
    intro id n
    change List.Nodup ["_id", "n"]
    decide
  have hproper : ∀ r ∈ requests, r.call.Proper := by
    simp only [requests, List.forall_mem_cons, List.not_mem_nil, false_imp_iff, implies_true,
      and_true]
    refine ⟨fun item hitem' => ?_, trivial, hitem 7 4, trivial, trivial⟩
    rcases List.mem_pair.mp hitem' with rfl | rfl <;> exact hitem 5 _
  have hs : Identified s.state.documents := List.forall_mem_singleton.mpr ⟨.int 1, rfl⟩
  refine ⟨⟨hproper, hs⟩, fun step hstep => (effect_steps hproper hs step hstep).2, ?_⟩
  decide +kernel

end Request
end DocQuery
